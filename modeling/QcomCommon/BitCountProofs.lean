import Mathlib.Algebra.Group.Nat.Defs
import QcomCommon.WhileLoopProofs

/-! # The bits of a mask

    The number of bits set in a mask, and the loop that counts them by
    clearing the lowest one in each pass: `x &= x - 1` takes one bit away
    (`bitCount_clear`), and the passes are as many as the bits
    (`countLoop_spec`). -/

namespace QcomBits

open QcomWhile

/-- The bits of `n` below the width `w`. -/
def bitCount (w n : Nat) : Nat := (List.range w).countP (n.testBit ·)

theorem bitCount_zero (w : Nat) : bitCount w 0 = 0 := by
  rw [bitCount, List.countP_eq_zero]
  intro i _
  rw [Nat.zero_testBit]
  exact Bool.false_ne_true

/-- The lowest bit and the others. -/
theorem bitCount_succ (w n : Nat) :
    bitCount (w + 1) n = n % 2 + bitCount w (n / 2) := by
  have hlow : (if n.testBit 0 = true then 1 else 0) = n % 2 := by
    simp only [Nat.testBit_zero, decide_eq_true_eq]
    split <;> omega
  rw [bitCount, List.range_succ_eq_map, List.countP_cons, List.countP_map, hlow,
    Nat.add_comm]
  congr 2
  funext i
  exact Nat.testBit_succ n i

theorem bitCount_le (w n : Nat) : bitCount w n ≤ w := by
  have hle := List.countP_le_length (p := (n.testBit ·)) (l := List.range w)
  rwa [List.length_range] at hle

/-- **CLEARING** the lowest bit that is set takes one away. -/
theorem bitCount_clear {w n : Nat} (hne : n ≠ 0) (hn : n < 2 ^ w) :
    bitCount w (n &&& (n - 1)) + 1 = bitCount w n := by
  induction w generalizing n with
  | zero =>
      rw [Nat.pow_zero] at hn
      omega
  | succ w ih =>
      have hhalf : (n &&& (n - 1)) / 2 = n / 2 &&& (n - 1) / 2 := Nat.and_div_two
      have heven : (n &&& (n - 1)) % 2 = 0 := by
        by_contra hodd
        have hboth := Nat.and_mod_two_eq_one.mp (Nat.mod_two_ne_zero.mp hodd)
        omega
      rw [bitCount_succ, bitCount_succ, heven, hhalf, Nat.zero_add]
      by_cases hodd : n % 2 = 1
      · rw [show (n - 1) / 2 = n / 2 by omega, Nat.and_self, hodd, Nat.add_comm]
      · rw [show (n - 1) / 2 = n / 2 - 1 by omega, ih (by omega) (by
          rw [Nat.pow_succ] at hn
          omega)]
        omega

/-- A pass of `for (x = …; x; count++) x &= x - 1`. -/
def countPass {w : Nat} (s : BitVec w × Nat) : Option (Pass (BitVec w × Nat)) :=
  if s.1 ≠ 0 then some (.again (s.1 &&& (s.1 - 1), s.2 + 1))
  else some (.leave s)

theorem toNat_clear {w : Nat} {x : BitVec w} (hx : x ≠ 0) :
    (x &&& (x - 1)).toNat = x.toNat &&& (x.toNat - 1) := by
  have hpos : x.toNat ≠ 0 := fun h => hx (BitVec.eq_of_toNat_eq h)
  have hlt := x.isLt
  have hone : (1 : BitVec w).toNat = 1 :=
    Nat.mod_eq_of_lt (show 1 < 2 ^ w by omega)
  rw [BitVec.toNat_and, BitVec.toNat_sub_of_le, hone]
  rw [BitVec.le_def, hone]
  omega

/-- **COUNTING**: the loop ends after as many passes as there are bits. -/
theorem countLoop_spec {w : Nat} (x : BitVec w) {fuel : Nat} (hfuel : w < fuel) :
    loop countPass fuel (x, 0) = some (0, bitCount w x.toNat) := by
  have hclear : ∀ {y : BitVec w}, y ≠ 0 →
      bitCount w (y &&& (y - 1)).toNat + 1 = bitCount w y.toNat := by
    intro y hy
    rw [toNat_clear hy]
    exact bitCount_clear (fun h => hy (BitVec.eq_of_toNat_eq h)) y.isLt
  obtain ⟨t, hloop, rfl⟩ : ∃ t, loop countPass fuel (x, 0) = some t ∧
      t = (0, bitCount w x.toNat) := by
    refine loop_rule (I := fun k (s : BitVec w × Nat) =>
        bitCount w s.1.toNat = k ∧ s.2 + k = bitCount w x.toNat)
      ?_ ?_ ⟨rfl, Nat.zero_add _⟩ (Nat.lt_of_le_of_lt (bitCount_le w _) hfuel)
    · rintro ⟨y, n⟩ ⟨hy, hn⟩
      dsimp only at hy hn
      obtain rfl : y = 0 := by
        by_contra hne
        have := hclear hne
        omega
      exact ⟨(0, n), if_neg (fun h => h rfl), Prod.ext rfl hn⟩
    · rintro k ⟨y, n⟩ ⟨hy, hn⟩
      dsimp only at hy hn
      have hne : y ≠ 0 := by
        rintro rfl
        rw [show (0 : BitVec w).toNat = 0 from BitVec.toNat_zero, bitCount_zero]
          at hy
        omega
      have := hclear hne
      refine Or.inr ⟨(y &&& (y - 1), n + 1), if_pos hne, ?_, ?_⟩
      · show bitCount w (y &&& (y - 1)).toNat = k
        omega
      · show n + 1 + k = bitCount w x.toNat
        omega
  exact hloop

end QcomBits
