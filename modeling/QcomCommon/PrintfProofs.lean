import Mathlib.Data.Rat.Floor
import Mathlib.Tactic.Linarith
import Mathlib.Tactic.NormNum
import Mathlib.Tactic.Ring

/-! # Numbers in texts

    The conversions of `printf` that write a number: `%d` with a width of
    zeros, and `%f` of an exact value, with a precision.  A text of either is
    made of digits, a sign and a point (`numeric_dec`, `numeric_fixed`), is
    not long (`length_dec_le`), and reads back: as the number
    (`value_dec`), or as the number rounded to even (`decimal_fixed`).

    `CFloat` is what a program does with a `double`, for any values; the
    exact numbers are one (`exact`). -/

namespace QcomPrintf

/-! ## Digits -/

/-- `%u`. -/
def digits (n : Nat) : List UInt8 :=
  (Nat.toDigits 10 n).map (fun c => .ofNat c.toNat)

/-- The number that digits are. -/
def value (s : List UInt8) : Nat :=
  s.foldl (fun n b => 10 * n + (b.toNat - 48)) 0

/-- A digit. -/
def IsDigit (b : UInt8) : Prop := 48 ≤ b ∧ b ≤ 57

/-- A byte of a number. -/
def Numeric (b : UInt8) : Prop := IsDigit b ∨ b = 45 ∨ b = 46

/-- What is printed of a number is no other character. -/
theorem Numeric.ne {b c : UInt8} (hb : Numeric b) (hc : c < 45 ∨ 57 < c) :
    b ≠ c := by
  rintro rfl
  rcases hb with ⟨hlo, hhi⟩ | rfl | rfl
  · rw [UInt8.le_iff_toNat_le] at hlo hhi
    rw [UInt8.lt_iff_toNat_lt, UInt8.lt_iff_toNat_lt] at hc
    have h45 : (45 : UInt8).toNat = 45 := rfl
    have h48 : (48 : UInt8).toNat = 48 := rfl
    have h57 : (57 : UInt8).toNat = 57 := rfl
    omega
  · exact absurd hc (by decide)
  · exact absurd hc (by decide)

/-- A digit is one byte. -/
theorem digit_toNat {c : Char} (hc : c.isDigit) :
    (UInt8.ofNat c.toNat).toNat = c.toNat ∧ 48 ≤ c.toNat ∧ c.toNat ≤ 57 := by
  have hrange : 48 ≤ c.toNat ∧ c.toNat ≤ 57 := by
    rw [Char.isDigit, Bool.and_eq_true, decide_eq_true_eq, decide_eq_true_eq]
      at hc
    exact ⟨UInt32.le_iff_toNat_le.mp hc.1, UInt32.le_iff_toNat_le.mp hc.2⟩
  refine ⟨?_, hrange⟩
  rw [UInt8.toNat_ofNat']
  exact Nat.mod_eq_of_lt (by omega)

/-- The digits of a number are digits. -/
theorem isDigit_digits {n : Nat} {b : UInt8} (hb : b ∈ digits n) :
    IsDigit b := by
  obtain ⟨c, hc, rfl⟩ := List.mem_map.mp hb
  have hspec := digit_toNat (Nat.isDigit_of_mem_toDigits (by decide)
    (Nat.le_refl 10) hc)
  constructor
  · rw [UInt8.le_iff_toNat_le, hspec.1]
    exact hspec.2.1
  · rw [UInt8.le_iff_toNat_le, hspec.1]
    exact hspec.2.2

/-- A number below a power of ten has no more digits than that. -/
theorem length_digits_le {n k : Nat} (hk : 0 < k) (hn : n < 10 ^ k) :
    (digits n).length ≤ k := by
  rw [digits, List.length_map]
  exact (Nat.length_toDigits_le_iff (by decide) hk).mpr hn

/-- **READING BACK** the digits of a number. -/
theorem value_digits (n : Nat) : value (digits n) = n := by
  have hfold : ∀ (s : List Char) (m : Nat), (∀ c ∈ s, c.isDigit) →
      (s.map (fun c => UInt8.ofNat c.toNat)).foldl
        (fun n b => 10 * n + (b.toNat - 48)) m = Nat.ofDigitChars 10 s m := by
    intro s
    induction s with
    | nil => exact fun m _ => Nat.ofDigitChars_nil.symm
    | cons c s ih =>
        intro m hs
        rw [List.map_cons, List.foldl_cons, Nat.ofDigitChars_cons,
          (digit_toNat (hs c List.mem_cons_self)).1]
        exact ih _ (fun d hd => hs d (List.mem_cons_of_mem c hd))
  rw [value, digits, hfold _ 0
    (fun c hc => Nat.isDigit_of_mem_toDigits (by decide) (Nat.le_refl 10) hc)]
  exact Nat.ofDigitChars_ten_toDigits

/-- Zeros in front leave the value. -/
theorem value_zeros (k : Nat) (s : List UInt8) :
    value (List.replicate k 48 ++ s) = value s := by
  have hzero : (List.replicate k (48 : UInt8)).foldl
      (fun n b => 10 * n + (b.toNat - 48)) 0 = 0 := by
    induction k with
    | zero => rfl
    | succ k ih => rwa [List.replicate_succ, List.foldl_cons]
  rw [value, List.foldl_append, hzero, value]

/-- So does a field that is filled with zeros. -/
theorem value_leftpad (w : Nat) (s : List UInt8) :
    value (s.leftpad w 48) = value s := value_zeros _ s

/-- A field has what it is filled with, and the text. -/
theorem mem_leftpad {w : Nat} {a b : UInt8} {s : List UInt8}
    (hb : b ∈ s.leftpad w a) : b = a ∨ b ∈ s := by
  rcases List.mem_append.mp hb with hb | hb
  · exact Or.inl (List.eq_of_mem_replicate hb)
  · exact Or.inr hb

/-- Digits, filled with zeros, are digits. -/
theorem isDigit_leftpad {w n : Nat} {b : UInt8}
    (hb : b ∈ (digits n).leftpad w 48) : IsDigit b := by
  rcases mem_leftpad hb with rfl | hb
  · exact ⟨by decide, by decide⟩
  · exact isDigit_digits hb

/-- A number that fits its field has the width of the field. -/
theorem length_leftpad_digits {w n : Nat} (hw : 0 < w) (hn : n < 10 ^ w) :
    ((digits n).leftpad w 48).length = w := by
  rw [List.length_leftpad]
  exact Nat.max_eq_left (length_digits_le hw hn)

/-! ## Integers -/

/-- A sign, and zeros up to a width. -/
def signed (negative : Bool) (w : Nat) (text : List UInt8) : List UInt8 :=
  if negative then 45 :: text.leftpad (w - 1) 48 else text.leftpad w 48

/-- `%0wd`. -/
def dec (w : Nat) (n : Int) : List UInt8 :=
  signed (n < 0) w (digits n.natAbs)

/-- `%p.pd`: at least `p` digits. -/
def decPrecision (p : Nat) (n : Int) : List UInt8 :=
  signed (n < 0) 0 ((digits n.natAbs).leftpad p 48)

/-- A sign in front leaves a text that is a number. -/
theorem numeric_signed {negative : Bool} {w : Nat} {text : List UInt8}
    (htext : ∀ b ∈ text, Numeric b) :
    ∀ b ∈ signed negative w text, Numeric b := by
  have hpad : ∀ k, ∀ b ∈ text.leftpad k 48, Numeric b := by
    intro k b hb
    rcases mem_leftpad hb with rfl | hb
    · exact Or.inl ⟨by decide, by decide⟩
    · exact htext b hb
  intro b hb
  rw [signed] at hb
  split at hb
  · rcases List.mem_cons.mp hb with rfl | hb
    · exact Or.inr (Or.inl rfl)
    · exact hpad _ b hb
  · exact hpad _ b hb

/-- `%0wd` prints a number. -/
theorem numeric_dec {w : Nat} {n : Int} : ∀ b ∈ dec w n, Numeric b :=
  numeric_signed (fun _ hb => Or.inl (isDigit_digits hb))

theorem numeric_decPrecision {p : Nat} {n : Int} :
    ∀ b ∈ decPrecision p n, Numeric b :=
  numeric_signed (fun _ hb => Or.inl (isDigit_leftpad hb))

/-- Of a number that is not negative `%0wd` prints the digits. -/
theorem dec_natCast (w n : Nat) : dec w n = (digits n).leftpad w 48 := by
  rw [dec, signed, if_neg (by simp), Int.natAbs_natCast]

/-- What `%0wd` prints has the value of the number. -/
theorem value_dec (w n : Nat) : value (dec w n) = n := by
  rw [dec_natCast, value_leftpad, value_digits]

/-- It is as wide as the field, or as the number with its sign. -/
theorem length_dec_le {w k : Nat} {n : Int} (hk : 0 < k)
    (hn : n.natAbs < 10 ^ k) : (dec w n).length ≤ max w (k + 1) := by
  have hdigits := length_digits_le hk hn
  rw [dec, signed]
  split
  · rw [List.length_cons, List.length_leftpad]
    omega
  · rw [List.length_leftpad]
    omega

theorem length_dec_natCast_le {w k n : Nat} (hk : 0 < k) (hn : n < 10 ^ k) :
    (dec w n).length ≤ max w k := by
  have hdigits := length_digits_le hk hn
  rw [dec_natCast, List.length_leftpad]
  omega

/-! ## Decimal fractions -/

/-- The nearest whole number, the even one of two. -/
def roundEven (x : ℚ) : Int :=
  if x - ⌊x⌋ < 1 / 2 then ⌊x⌋
  else if 1 / 2 < x - ⌊x⌋ then ⌊x⌋ + 1
  else if ⌊x⌋ % 2 = 0 then ⌊x⌋ else ⌊x⌋ + 1

/-- `%0w.pf` of an exact value, with a precision `p`. -/
def fixed (w p : Nat) (x : ℚ) : List UInt8 :=
  let n := (roundEven (|x| * 10 ^ p)).toNat
  signed (x < 0) w
    (digits (n / 10 ^ p) ++ 46 :: (digits (n % 10 ^ p)).leftpad p 48)

/-- The number that a decimal fraction is. -/
def decimal (s : List UInt8) : ℚ :=
  let whole := s.takeWhile (· != 46)
  let fraction := s.drop (whole.length + 1)
  value whole + value fraction / 10 ^ fraction.length

/-- A number is rounded by half at most. -/
theorem abs_roundEven_sub_le (x : ℚ) : |(roundEven x : ℚ) - x| ≤ 1 / 2 := by
  have hlo := Int.floor_le x
  have hhi := Int.lt_floor_add_one x
  rw [abs_le, roundEven]
  split_ifs with hdown hup heven
  · constructor <;> linarith
  · push_cast
    constructor <;> linarith
  · constructor <;> linarith
  · push_cast
    constructor <;> linarith

/-- A number that is not negative is not rounded below zero. -/
theorem roundEven_nonneg {x : ℚ} (hx : 0 ≤ x) : 0 ≤ roundEven x := by
  have hfloor : 0 ≤ ⌊x⌋ := Int.floor_nonneg.mpr hx
  rw [roundEven]
  split_ifs <;> omega

/-- A value rounds to less than an even number exactly where it is more than
    a half below. -/
theorem roundEven_lt_iff {x : ℚ} {n : Int} (hn : n % 2 = 0) :
    roundEven x < n ↔ x < n - 1 / 2 := by
  have hlo := Int.floor_le x
  have hhi := Int.lt_floor_add_one x
  constructor
  · intro hlt
    by_contra hge
    have hfloor : n - 1 ≤ ⌊x⌋ := by
      rw [Int.le_floor]
      push_cast
      linarith
    rw [roundEven] at hlt
    split_ifs at hlt with hdown hup heven
    · have heq : ⌊x⌋ = n - 1 := by omega
      rw [heq] at hdown
      push_cast at hdown
      linarith
    · omega
    · omega
    · omega
  · intro hlt
    have hfloor : ⌊x⌋ < n := by
      rw [Int.floor_lt]
      linarith
    rw [roundEven]
    split_ifs with hdown hup heven
    · exact hfloor
    · rcases Int.lt_or_le (⌊x⌋ + 1) n with h | h
      · exact h
      · have heq : ⌊x⌋ = n - 1 := by omega
        rw [heq] at hup
        push_cast at hup
        linarith
    · exact hfloor
    · rcases Int.lt_or_le (⌊x⌋ + 1) n with h | h
      · exact h
      · have heq : ⌊x⌋ = n - 1 := by omega
        rw [heq] at hdown
        push_cast at hdown
        linarith

/-- `%0w.pf` prints a number. -/
theorem numeric_fixed {w p : Nat} {x : ℚ} : ∀ b ∈ fixed w p x, Numeric b := by
  refine numeric_signed (fun b hb => ?_)
  rcases List.mem_append.mp hb with hb | hb
  · exact Or.inl (isDigit_digits hb)
  · rcases List.mem_cons.mp hb with rfl | hb
    · exact Or.inr (Or.inr rfl)
    · exact Or.inl (isDigit_leftpad hb)

/-- A text with a point has the value of its digits, those behind it by their
    places. -/
theorem decimal_point {whole fraction : List UInt8}
    (hwhole : ∀ b ∈ whole, IsDigit b) :
    decimal (whole ++ 46 :: fraction)
      = value whole + value fraction / 10 ^ fraction.length := by
  have htake : (whole ++ 46 :: fraction).takeWhile (· != 46) = whole := by
    have hall : ∀ b ∈ whole, (b != 46) = true := by
      intro b hb
      refine bne_iff_ne.mpr (fun h => ?_)
      rw [h] at hb
      exact absurd (hwhole 46 hb).1 (by decide)
    rw [List.takeWhile_append_of_pos hall]
    exact List.append_nil whole
  have hdrop : (whole ++ 46 :: fraction).drop (whole.length + 1) = fraction
      := by
    rw [List.drop_append, List.drop_of_length_le (Nat.le_succ _),
      Nat.add_sub_cancel_left]
    rfl
  rw [decimal, htake, hdrop]

/-- **READING BACK** a decimal fraction: the value, rounded to its digits. -/
theorem decimal_fixed {w p : Nat} {x : ℚ} (hp : 0 < p) (hx : 0 ≤ x) :
    decimal (fixed w p x) = roundEven (x * 10 ^ p) / 10 ^ p := by
  have hscaled : 0 ≤ x * 10 ^ p := mul_nonneg hx (by positivity)
  obtain ⟨n, hn⟩ := Int.eq_ofNat_of_zero_le (roundEven_nonneg hscaled)
  have htext : fixed w p x
      = List.replicate (w - (digits (n / 10 ^ p)
            ++ 46 :: (digits (n % 10 ^ p)).leftpad p 48).length) 48
          ++ digits (n / 10 ^ p)
        ++ 46 :: (digits (n % 10 ^ p)).leftpad p 48 := by
    rw [fixed, abs_of_nonneg hx, hn, signed, if_neg (by simpa using hx)]
    exact (List.append_assoc _ _ _).symm
  have hpow : 0 < 10 ^ p := Nat.pow_pos (by decide)
  have hlen := length_leftpad_digits hp (Nat.mod_lt n hpow)
  have hsplit : (n / 10 ^ p : Nat) * (10 : ℚ) ^ p + (n % 10 ^ p : Nat) = n := by
    have hdiv := Nat.div_add_mod n (10 ^ p)
    have hcast := congrArg (Nat.cast (R := ℚ)) hdiv
    push_cast at hcast ⊢
    linarith
  rw [htext, decimal_point]
  · rw [value_zeros, value_digits, hlen, value_leftpad, value_digits, hn]
    have hne : (10 : ℚ) ^ p ≠ 0 := by positivity
    rw [eq_div_iff hne, add_mul, div_mul_cancel₀ _ hne, hsplit]
    rfl
  · intro b hb
    rcases List.mem_append.mp hb with hb | hb
    · rw [List.eq_of_mem_replicate hb]
      exact ⟨by decide, by decide⟩
    · exact isDigit_digits hb

/-! ## Floating point -/

/-- The operations on the values of a `double`; those of a `float` are among
    them, and `toFloat` rounds to one.  A printed number has no comma. -/
structure CFloat (Double : Type) where
  lit : ℚ → Double
  add : Double → Double → Double
  sub : Double → Double → Double
  mul : Double → Double → Double
  div : Double → Double → Double
  fmod : Double → Double → Double
  floor : Double → Double
  lt : Double → Double → Bool
  toFloat : Double → Double
  toInt : Double → Int
  toUInt8 : Double → UInt8
  print : Nat → Nat → Double → List UInt8
  print_plain : ∀ w p x, ∀ b ∈ print w p x, b ≠ 0 ∧ b ≠ 44

/-- The whole part of a value. -/
def trunc (x : ℚ) : Int := if 0 ≤ x then ⌊x⌋ else ⌈x⌉

/-- The exact numbers. -/
def exact : CFloat ℚ where
  lit := id
  add := (· + ·)
  sub := (· - ·)
  mul := (· * ·)
  div := (· / ·)
  fmod := fun x y => x - y * trunc (x / y)
  floor := fun x => ⌊x⌋
  lt := fun x y => decide (x < y)
  toFloat := id
  toInt := trunc
  toUInt8 := fun x => .ofNat (trunc x).toNat
  print := fixed
  print_plain := fun _ _ _ b hb =>
    ⟨(numeric_fixed b hb).ne (by decide), (numeric_fixed b hb).ne (by decide)⟩

end QcomPrintf
