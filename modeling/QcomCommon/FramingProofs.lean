import Mathlib.Algebra.Group.Nat.Defs

/-! # Length-prefixed byte streams

    A number in a fixed count of bytes, least significant first, and reads of
    a byte stream that take what was written in order.  A number that fits
    the width is read back (`leVal_leBytes`), and a read of as many bytes as
    were written first returns them and leaves the rest (`readN_append`). -/

namespace QcomFraming

/-- `n` in `w` bytes, least significant first. -/
def leBytes : Nat → Nat → List UInt8
  | 0, _ => []
  | w + 1, n => UInt8.ofNat n :: leBytes w (n / 256)

/-- The number the bytes stand for. -/
def leVal : List UInt8 → Nat
  | [] => 0
  | b :: l => b.toNat + 256 * leVal l

/-- A number takes the bytes it is given. -/
theorem length_leBytes (w n : Nat) : (leBytes w n).length = w := by
  induction w generalizing n with
  | zero => rfl
  | succ w ih => rw [leBytes, List.length_cons, ih]

/-- **ROUND TRIP**, up to what the width holds. -/
theorem leVal_leBytes_mod (w n : Nat) :
    leVal (leBytes w n) = n % 256 ^ w := by
  induction w generalizing n with
  | zero => rw [leBytes, leVal, Nat.pow_zero, Nat.mod_one]
  | succ w ih =>
      rw [leBytes, leVal, ih, Nat.pow_succ']
      have hbyte : (UInt8.ofNat n).toNat = n % 256 := UInt8.toNat_ofNat
      rw [hbyte, Nat.mod_mul]

/-- A number that fits is read as it was written. -/
theorem leVal_leBytes {w n : Nat} (h : n < 256 ^ w) :
    leVal (leBytes w n) = n := by
  rw [leVal_leBytes_mod, Nat.mod_eq_of_lt h]

/-- What comes later counts for more. -/
theorem leVal_append (l l' : List UInt8) :
    leVal (l ++ l') = leVal l + 256 ^ l.length * leVal l' := by
  induction l with
  | nil => rw [List.nil_append, leVal, List.length_nil, Nat.pow_zero,
      Nat.one_mul, Nat.zero_add]
  | cons b l ih =>
      rw [List.cons_append, leVal, ih, leVal, List.length_cons, Nat.pow_succ',
        Nat.mul_add, Nat.mul_assoc, Nat.add_assoc]

theorem leVal_replicate_zero (n : Nat) : leVal (List.replicate n 0) = 0 := by
  induction n with
  | zero => rfl
  | succ n ih =>
      rw [List.replicate_succ, leVal, ih]
      rfl

/-- The value of bytes is below the power of their number. -/
theorem leVal_lt (l : List UInt8) : leVal l < 256 ^ l.length := by
  induction l with
  | nil => exact Nat.one_pos
  | cons b l ih =>
      have hb : b.toNat < 256 := b.toNat_lt
      rw [leVal, List.length_cons, Nat.pow_succ']
      omega

variable {α : Type}

/-- A read of `n` elements, once they are there. -/
def readN (n : Nat) (s : List α) : Option (List α × List α) :=
  if n ≤ s.length then some (s.take n, s.drop n) else none

/-- What was written first is read first. -/
theorem readN_append {n : Nat} {l : List α} (h : l.length = n)
    (s : List α) : readN n (l ++ s) = some (l, s) := by
  subst h
  rw [readN, if_pos (by simp), List.take_left, List.drop_left]

/-- A read that succeeds splits the bytes. -/
theorem readN_some {n : Nat} {s : List α} {r : List α × List α}
    (h : readN n s = some r) : n ≤ s.length ∧ r = (s.take n, s.drop n) := by
  rw [readN] at h
  by_cases hle : n ≤ s.length
  · rw [if_pos hle] at h
    exact ⟨hle, (Option.some.inj h).symm⟩
  · rw [if_neg hle] at h
    cases h

end QcomFraming
