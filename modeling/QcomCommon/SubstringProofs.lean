import Mathlib.Data.List.Basic

/-! # Occurrences of a pattern in a text

    Where a pattern occurs in a text, what a search for the first
    occurrence is to answer, and which shifts of the pattern a comparison
    from its end leaves: after a mismatch the pattern can only occur further
    on by a shift that puts another letter on the mismatched place and the
    same ones behind it, or by a border that passes it
    (`shift_of_occurs`).  Each border is needed: some text has the mismatch
    and the occurrence (`mismatch_borderText`, `occurs_borderText`). -/

namespace QcomSubstring

variable {α : Type}

/-! ## Occurrences -/

/-- `pat` occurs in `str` at `o`. -/
def Occurs (pat str : List α) (o : Nat) : Prop := pat <+: str.drop o

instance [DecidableEq α] (pat str : List α) (o : Nat) :
    Decidable (Occurs pat str o) :=
  inferInstanceAs (Decidable (pat <+: str.drop o))

/-- The answer of a search: the first occurrence, or that there is none. -/
def Finds (pat str : List α) : Option Nat → Prop
  | some o => Occurs pat str o ∧ ∀ o', Occurs pat str o' → o ≤ o'
  | none => ∀ o, ¬ Occurs pat str o

/-- An occurrence, character by character. -/
theorem occurs_iff {pat str : List α} {o : Nat} :
    Occurs pat str o ↔ ∀ k, k < pat.length → str[o + k]? = pat[k]? := by
  rw [Occurs, List.prefix_iff_getElem?]
  constructor
  · intro h k hk
    rw [← List.getElem?_drop, h k hk, List.getElem?_eq_getElem hk]
  · intro h k hk
    rw [List.getElem?_drop, h k hk, List.getElem?_eq_getElem hk]

/-- A pattern that occurs is inside the text. -/
theorem Occurs.add_length_le {pat str : List α} {o : Nat}
    (h : Occurs pat str o) (hpat : pat ≠ []) :
    o + pat.length ≤ str.length := by
  have hlen := List.IsPrefix.length_le h
  rw [List.length_drop] at hlen
  have hpos := List.length_pos_iff.mpr hpat
  omega

/-- There is one answer. -/
theorem Finds.unique {pat str : List α} {r r' : Option Nat}
    (h : Finds pat str r) (h' : Finds pat str r') : r = r' := by
  cases r with
  | none =>
      cases r' with
      | none => rfl
      | some o' => exact absurd h'.1 (h o')
  | some o =>
      cases r' with
      | none => exact absurd h.1 (h' o)
      | some o' =>
          exact congrArg some (Nat.le_antisymm (h.2 o' h'.1) (h'.2 o h.1))

/-! ## Shifts after a mismatch -/

/-- At alignment `a` the text and the pattern agree behind `p` and differ
    at `p`. -/
structure Mismatch (pat str : List α) (a p : Nat) : Prop where
  lt_length : p < pat.length
  fits : a + pat.length ≤ str.length
  agree : ∀ k, p < k → k < pat.length → str[a + k]? = pat[k]?
  differ : str[a + p]? ≠ pat[p]?

/-- The suffix of the pattern at `q` is a prefix of it. -/
def Border (pat : List α) (q : Nat) : Prop := pat.drop q <+: pat

instance [DecidableEq α] (pat : List α) (q : Nat) : Decidable (Border pat q) :=
  inferInstanceAs (Decidable (pat.drop q <+: pat))

/-- Shifted by `s`, within itself, the pattern has another letter at `p` and
    the same ones behind it. -/
structure GoodShift (pat : List α) (p s : Nat) : Prop where
  pos : 1 ≤ s
  le : s ≤ p
  agree : ∀ k, p < k → k < pat.length → pat[k - s]? = pat[k]?
  differ : pat[p - s]? ≠ pat[p]?

/-- A border, character by character. -/
theorem border_iff {pat : List α} {q : Nat} :
    Border pat q ↔ ∀ k, q + k < pat.length → pat[q + k]? = pat[k]? := by
  rw [Border, List.prefix_iff_getElem?]
  constructor
  · intro h k hk
    have hk' : k < (pat.drop q).length := by
      rw [List.length_drop]
      omega
    rw [h k hk', ← List.getElem?_drop, List.getElem?_eq_getElem hk']
  · intro h k hk
    have hk' : q + k < pat.length := by
      rw [List.length_drop] at hk
      omega
    rw [← h k hk', ← List.getElem?_drop, List.getElem?_eq_getElem hk]

/-- Where a character differs the pattern does not occur. -/
theorem Mismatch.not_occurs {pat str : List α} {a p : Nat}
    (h : Mismatch pat str a p) : ¬ Occurs pat str a :=
  fun ho => h.differ (occurs_iff.mp ho p h.lt_length)

/-- The last mismatch is one place. -/
theorem mismatch_unique {pat str : List α} {a p p' : Nat}
    (h : Mismatch pat str a p) (h' : Mismatch pat str a p') : p = p' := by
  rcases Nat.lt_trichotomy p p' with hlt | heq | hgt
  · exact absurd (h.agree p' hlt h'.lt_length) h'.differ
  · exact heq
  · exact absurd (h'.agree p hgt h.lt_length) h.differ

/-- **SHIFTS**: after a mismatch at `p` the pattern occurs further on by a
    good shift up to `p`, or by a border behind it. -/
theorem shift_of_occurs {pat str : List α} {a p s : Nat}
    (h : Mismatch pat str a p) (hpos : 1 ≤ s) (ho : Occurs pat str (a + s)) :
    (s ≤ p → GoodShift pat p s) ∧ (p < s → Border pat s) := by
  have hp := h.lt_length
  -- the letter of the occurrence at the place of the k-th
  have hover : ∀ k, s ≤ k → k < pat.length →
      str[a + k]? = pat[k - s]? := by
    intro k hle hk
    have hat := occurs_iff.mp ho (k - s) (by omega)
    rwa [show a + s + (k - s) = a + k by omega] at hat
  constructor
  · intro hle
    refine ⟨hpos, hle, ?_, ?_⟩
    · intro k hpk hk
      rw [← hover k (by omega) hk, h.agree k hpk hk]
    · rw [← hover p hle hp]
      exact h.differ
  · intro hlt
    refine border_iff.mpr ?_
    intro k hk
    rw [← h.agree (s + k) (by omega) hk, hover (s + k) (by omega) hk,
      Nat.add_sub_cancel_left]

/-- The letter of a later occurrence at the mismatched place. -/
theorem letter_of_occurs {pat str : List α} {a p s : Nat}
    (h : Mismatch pat str a p) (hle : s ≤ p) (ho : Occurs pat str (a + s)) :
    str[a + p]? = pat[p - s]? := by
  have hlt := h.lt_length
  have hat := occurs_iff.mp ho (p - s) (by omega)
  rwa [show a + s + (p - s) = a + p by omega] at hat

/-! ## A text for each border -/

/-- The pattern after its first `q` letters, with another letter at `p`. -/
def borderText (pat : List α) (p q : Nat) (c : α) : List α :=
  (pat.take q).set p c ++ pat

theorem length_borderText {pat : List α} {p q : Nat} {c : α}
    (hq : q ≤ pat.length) :
    (borderText pat p q c).length = q + pat.length := by
  rw [borderText, List.length_append, List.length_set, List.length_take,
    Nat.min_eq_left hq]

/-- A text made of a border and the pattern has it there. -/
theorem occurs_borderText {pat : List α} {p q : Nat} {c : α}
    (hq : q ≤ pat.length) : Occurs pat (borderText pat p q c) q := by
  have hlen : ((pat.take q).set p c).length = q := by
    rw [List.length_set, List.length_take, Nat.min_eq_left hq]
  have hdrop : (borderText pat p q c).drop q = pat :=
    List.drop_left' hlen
  exact ⟨[], by rw [List.append_nil, hdrop]⟩

/-- And a character that differs at the front. -/
theorem mismatch_borderText {pat : List α} {p q : Nat} {c : α}
    (hpq : p < q) (hq : q < pat.length) (hb : Border pat q)
    (hc : some c ≠ pat[p]?) : Mismatch pat (borderText pat p q c) 0 p := by
  have hlen : ((pat.take q).set p c).length = q := by
    rw [List.length_set, List.length_take, Nat.min_eq_left (by omega)]
  refine ⟨by omega, ?_, ?_, ?_⟩
  · rw [length_borderText (by omega)]
    omega
  · intro k hpk hk
    rw [Nat.zero_add, borderText]
    by_cases hkq : k < q
    · rw [List.getElem?_append_left (by omega),
        List.getElem?_set_ne (by omega), List.getElem?_take_of_lt hkq]
    · rw [List.getElem?_append_right (by omega), hlen]
      have hat := border_iff.mp hb (k - q) (by omega)
      rw [show q + (k - q) = k by omega] at hat
      exact hat.symm
  · rw [Nat.zero_add, borderText, List.getElem?_append_left (by omega),
      List.getElem?_set_self (by rw [List.length_take]; omega)]
    exact hc

end QcomSubstring
