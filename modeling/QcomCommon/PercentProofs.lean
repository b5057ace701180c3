import Mathlib.Data.List.Basic

/-! # Encoding character by character, and percent-encoding

    A text is encoded by the codes of its characters one after the other.  Of
    a text that does not fit, `fit` is what is encoded when the room ends with
    the first code that does not fit any more: the longest prefix whose
    encoding fits (`length_le_fit`).

    Percent-encoding gives the reserved characters a code of `%` and two
    digits.  `%` itself is reserved and the digits are not, so that it can be
    decoded (`decode_encode`), holds no reserved character but `%`
    (`eq_percent_of_mem`) and no `%` without its digits (`escape_whole`). -/

namespace QcomPercent

/-! ## What fits -/

section Fit

variable {A B : Type} (code : A → List B)

/-- The characters whose codes fit into `n` places, up to the first whose code
    does not. -/
def fit : Nat → List A → List A
  | _, [] => []
  | n, a :: s =>
      if (code a).length ≤ n then a :: fit (n - (code a).length) s else []

theorem fit_initial (n : Nat) (s : List A) : fit code n s <+: s := by
  induction s generalizing n with
  | nil => exact List.prefix_rfl
  | cons a s ih =>
      rw [fit]
      by_cases ha : (code a).length ≤ n
      · rw [if_pos ha, List.prefix_cons_inj]
        exact ih _
      · rw [if_neg ha]
        exact List.nil_prefix

/-- It does fit. -/
theorem length_flatMap_fit (n : Nat) (s : List A) :
    ((fit code n s).flatMap code).length ≤ n := by
  induction s generalizing n with
  | nil => exact Nat.zero_le n
  | cons a s ih =>
      rw [fit]
      by_cases ha : (code a).length ≤ n
      · have hrest := ih (n - (code a).length)
        rw [if_pos ha, List.flatMap_cons, List.length_append]
        omega
      · rw [if_neg ha]
        exact Nat.zero_le n

/-- No longer prefix fits. -/
theorem length_le_fit {n : Nat} {s q : List A} (hq : q <+: s)
    (hfits : (q.flatMap code).length ≤ n) :
    q.length ≤ (fit code n s).length := by
  induction s generalizing n q with
  | nil =>
      rw [List.prefix_nil.mp hq]
      exact Nat.zero_le _
  | cons a s ih =>
      cases q with
      | nil => exact Nat.zero_le _
      | cons b q =>
          obtain ⟨rfl, hrest⟩ := List.cons_prefix_cons.mp hq
          rw [List.flatMap_cons, List.length_append] at hfits
          have hroom : (q.flatMap code).length ≤ n - (code b).length := by omega
          rw [fit, if_pos (by omega)]
          exact Nat.succ_le_succ (ih hrest hroom)

/-- A text that fits is encoded as a whole. -/
theorem fit_eq_self {n : Nat} {s : List A}
    (hfits : (s.flatMap code).length ≤ n) : fit code n s = s :=
  (fit_initial code n s).eq_of_length_le
    (length_le_fit code List.prefix_rfl hfits)

end Fit

/-! ## Percent-encoding -/

/-- The character in front of a code. -/
def PERCENT : UInt8 := 37

/-- The digits of the codes, in upper case. -/
def hexDigit (n : Nat) : UInt8 := UInt8.ofNat (if n < 10 then 48 + n else 55 + n)

/-- The value of a digit in either case. -/
def hexValue (c : UInt8) : Option Nat :=
  if 48 ≤ c && c ≤ 57 then some (c.toNat - 48)
  else if 65 ≤ c && c ≤ 70 then some (c.toNat - 55)
  else if 97 ≤ c && c ≤ 102 then some (c.toNat - 87)
  else none

theorem hexValue_hexDigit : ∀ n < 16, hexValue (hexDigit n) = some n := by
  decide

/-- `%` and the two digits of a character. -/
def escape (c : UInt8) : List UInt8 :=
  [PERCENT, hexDigit (c.toNat / 16), hexDigit (c.toNat % 16)]

/-- What two digits stand for, if they are digits. -/
def digitsValue (a b : UInt8) : Option UInt8 :=
  (hexValue a).bind fun x => (hexValue b).map fun y => UInt8.ofNat (16 * x + y)

theorem digitsValue_escape (c : UInt8) :
    digitsValue (hexDigit (c.toNat / 16)) (hexDigit (c.toNat % 16)) = some c := by
  have hlt : c.toNat < 256 := c.toNat_lt
  have hsum : 16 * (c.toNat / 16) + c.toNat % 16 = c.toNat := Nat.div_add_mod ..
  rw [digitsValue, hexValue_hexDigit _ (by omega), hexValue_hexDigit _ (by omega)]
  show some (UInt8.ofNat (16 * (c.toNat / 16) + c.toNat % 16)) = some c
  rw [hsum, UInt8.ofNat_toNat]

/-- Decoding; a `%` without two digits stands for itself. -/
def decode : List UInt8 → List UInt8
  | [] => []
  | [a] => [a]
  | [a, b] => [a, b]
  | c :: a :: b :: s =>
      if c = PERCENT then
        match digitsValue a b with
        | some v => v :: decode s
        | none => c :: decode (a :: b :: s)
      else c :: decode (a :: b :: s)

theorem decode_cons_ne {c : UInt8} (h : c ≠ PERCENT) (s : List UInt8) :
    decode (c :: s) = c :: decode s := by
  cases s with
  | nil => rfl
  | cons a s =>
      cases s with
      | nil => rfl
      | cons b s => rw [decode, if_neg h]

theorem decode_escape (c : UInt8) (s : List UInt8) :
    decode (escape c ++ s) = c :: decode s := by
  show decode (PERCENT :: hexDigit (c.toNat / 16)
    :: hexDigit (c.toNat % 16) :: s) = c :: decode s
  rw [decode, if_pos rfl, digitsValue_escape]

variable (reserved : UInt8 → Bool)

/-- The code of a character. -/
def code (c : UInt8) : List UInt8 := if reserved c then escape c else [c]

/-- The text with the codes of what is reserved. -/
def encode (s : List UInt8) : List UInt8 := s.flatMap (code reserved)

/-- What decoding needs: `%` is reserved, and no digit is. -/
structure Decodable : Prop where
  percent : reserved PERCENT = true
  digits : ∀ n < 16, reserved (hexDigit n) = false

variable {reserved}

theorem encode_cons (c : UInt8) (s : List UInt8) :
    encode reserved (c :: s) = code reserved c ++ encode reserved s :=
  List.flatMap_cons

/-- **ROUND TRIP**: decoding gives back what was encoded. -/
theorem decode_encode (h : Decodable reserved) (s : List UInt8) :
    decode (encode reserved s) = s := by
  induction s with
  | nil => rfl
  | cons c s ih =>
      rw [encode_cons, code]
      by_cases hc : reserved c = true
      · rw [if_pos hc, decode_escape, ih]
      · have hne : c ≠ PERCENT := fun he => hc (he ▸ h.percent)
        rw [if_neg hc, List.singleton_append, decode_cons_ne hne, ih]

theorem reserved_of_mem_escape (h : Decodable reserved) {b c : UInt8}
    (hb : b ∈ escape c) : b = PERCENT ∨ reserved b = false := by
  have hlt : c.toNat < 256 := c.toNat_lt
  rcases List.mem_cons.mp hb with rfl | hb
  · exact Or.inl rfl
  · rcases List.mem_cons.mp hb with rfl | hb
    · exact Or.inr (h.digits _ (by omega))
    · rw [List.mem_singleton.mp hb]
      exact Or.inr (h.digits _ (by omega))

/-- No reserved character is left but `%`. -/
theorem eq_percent_of_mem (h : Decodable reserved) {s : List UInt8} {b : UInt8}
    (hb : b ∈ encode reserved s) (hres : reserved b = true) : b = PERCENT := by
  obtain ⟨c, -, hb⟩ := List.mem_flatMap.mp hb
  rw [code] at hb
  by_cases hc : reserved c = true
  · rw [if_pos hc] at hb
    rcases reserved_of_mem_escape h hb with hp | hno
    · exact hp
    · rw [hres] at hno
      cases hno
  · rw [if_neg hc, List.mem_singleton] at hb
    exact absurd (hb ▸ hres) hc

/-- A text without NUL is encoded without NUL. -/
theorem nul_notMem_encode {s : List UInt8} (hs : 0 ∉ s) :
    0 ∉ encode reserved s := by
  intro hmem
  obtain ⟨c, hc, hmem⟩ := List.mem_flatMap.mp hmem
  rw [code] at hmem
  by_cases hres : reserved c = true
  · have hdigit : ∀ n < 16, hexDigit n ≠ 0 := by decide
    have hlt : c.toNat < 256 := c.toNat_lt
    rw [if_pos hres, escape, List.mem_cons, List.mem_cons,
      List.mem_singleton] at hmem
    rcases hmem with h | h | h
    · cases h
    · exact hdigit _ (by omega) h.symm
    · exact hdigit _ (by omega) h.symm
  · rw [if_neg hres, List.mem_singleton] at hmem
    exact hs (hmem ▸ hc)

/-- Every `%` has its digits behind it. -/
theorem escape_whole (h : Decodable reserved) {s u v : List UInt8}
    (hs : encode reserved s = u ++ PERCENT :: v) :
    ∃ c, reserved c = true ∧ escape c <+: PERCENT :: v := by
  induction s generalizing u with
  | nil =>
      cases u <;> cases hs
  | cons c s ih =>
      rw [encode_cons, code] at hs
      by_cases hc : reserved c = true
      · rw [if_pos hc] at hs
        have hdigit : ∀ n < 16, hexDigit n ≠ PERCENT := by
          intro n hn he
          have hno := h.digits n hn
          rw [he, h.percent] at hno
          cases hno
        have hlt : c.toNat < 256 := c.toNat_lt
        -- the `%` is that of the code, or comes behind its digits
        rcases u with _ | ⟨b₁, _ | ⟨b₂, _ | ⟨b₃, u⟩⟩⟩
        · exact ⟨c, hc, ⟨encode reserved s, hs⟩⟩
        · exact absurd (List.cons.inj (List.cons.inj hs).2).1
            (hdigit _ (by omega))
        · exact absurd
            (List.cons.inj (List.cons.inj (List.cons.inj hs).2).2).1
            (hdigit _ (by omega))
        · exact ih (List.cons.inj (List.cons.inj (List.cons.inj hs).2).2).2
      · rw [if_neg hc, List.singleton_append] at hs
        cases u with
        | nil =>
            obtain ⟨rfl, -⟩ := List.cons.inj hs
            exact absurd h.percent hc
        | cons b u => exact ih (List.cons.inj hs).2

end QcomPercent
