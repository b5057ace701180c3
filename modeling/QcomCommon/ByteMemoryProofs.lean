import QcomCommon.FramingProofs
import Mathlib.Data.List.TakeWhile

/-! # Memory that may be written anywhere

    A memory has a byte at every address; an access that runs over the end of
    what it is meant for reads or writes what lies behind.  A write leaves
    what is outside of it alone (`store_outside`), and is read back
    (`load_store`).

    What is read of a memory after a write is the same whatever was in it
    before, for bytes if and only if they were all written
    (`determined_load_iff`), and for a string also when it ends in what was
    written (`determined_text_iff`). -/

namespace QcomByteMemory

open QcomFraming

/-- A byte at every address. -/
abbrev Memory := Nat → UInt8

/-- The `n` bytes from `a` on. -/
def load (mem : Memory) (a n : Nat) : List UInt8 :=
  (List.range n).map (fun i => mem (a + i))

/-- The bytes written from `a` on. -/
def store (mem : Memory) (a : Nat) (bytes : List UInt8) : Memory := fun i =>
  if a ≤ i then (bytes[i - a]?).getD (mem i) else mem i

theorem length_load (mem : Memory) (a n : Nat) : (load mem a n).length = n := by
  rw [load, List.length_map, List.length_range]

theorem load_eq_of {mem mem' : Memory} {a n : Nat}
    (h : ∀ i, a ≤ i → i < a + n → mem i = mem' i) :
    load mem a n = load mem' a n := by
  refine List.map_congr_left fun i hi => ?_
  exact h (a + i) (Nat.le_add_right a i)
    (Nat.add_lt_add_left (List.mem_range.mp hi) a)

/-- What lies outside of a write stays. -/
theorem store_outside (mem : Memory) {a i : Nat} {bytes : List UInt8}
    (h : i < a ∨ a + bytes.length ≤ i) : store mem a bytes i = mem i := by
  rw [store]
  by_cases ha : a ≤ i
  · have hend : bytes.length ≤ i - a := by omega
    rw [if_pos ha, List.getElem?_eq_none hend]
    rfl
  · rw [if_neg ha]

theorem store_inside (mem : Memory) {a i : Nat} {bytes : List UInt8}
    {b : UInt8} (h : bytes[i]? = some b) : store mem a bytes (a + i) = b := by
  rw [store, if_pos (Nat.le_add_right a i), Nat.add_sub_cancel_left, h]
  rfl

/-- **ROUND TRIP**: what is written is read. -/
theorem load_store (mem : Memory) (a : Nat) (bytes : List UInt8) :
    load (store mem a bytes) a bytes.length = bytes := by
  refine List.ext_getElem? fun i => ?_
  by_cases hi : i < bytes.length
  · obtain ⟨b, hb⟩ : ∃ b, bytes[i]? = some b :=
      ⟨bytes.get ⟨i, hi⟩, List.getElem?_eq_getElem hi⟩
    rw [load, List.getElem?_map, List.getElem?_range hi, Option.map_some,
      store_inside mem hb, hb]
  · have hle : bytes.length ≤ i := Nat.le_of_not_lt hi
    rw [List.getElem?_eq_none hle,
      List.getElem?_eq_none (by rw [length_load]; exact hle)]

/-- A write behind what is read does not matter to it. -/
theorem load_store_behind (mem : Memory) {a n a' : Nat} (bytes : List UInt8)
    (h : a + n ≤ a') : load (store mem a' bytes) a n = load mem a n :=
  load_eq_of fun _ _ hi => store_outside mem (Or.inl (by omega))

theorem load_append (mem : Memory) (a m n : Nat) :
    load mem a (m + n) = load mem a m ++ load mem (a + m) n := by
  rw [load, List.range_add, List.map_append, List.map_map]
  refine congrArg (load mem a m ++ ·) (List.map_congr_left fun i _ => ?_)
  exact congrArg mem (Nat.add_assoc a m i).symm

/-- A write next to what has been written is read together with it. -/
theorem load_store_next (mem : Memory) {a : Nat} {bytes : List UInt8}
    (h : load mem a bytes.length = bytes) (bytes' : List UInt8) :
    load (store mem (a + bytes.length) bytes') a (bytes ++ bytes').length
      = bytes ++ bytes' := by
  rw [List.length_append, load_append, load_store,
    load_store_behind mem bytes' (Nat.le_refl _), h]

theorem store_append (mem : Memory) (a : Nat) (bytes bytes' : List UInt8) :
    store mem a (bytes ++ bytes')
      = store (store mem a bytes) (a + bytes.length) bytes' := by
  funext i
  by_cases hin : a ≤ i ∧ i < a + bytes.length
  · rw [store_outside _ (Or.inl hin.2), store, store, if_pos hin.1,
      if_pos hin.1, List.getElem?_append_left (by omega)]
  · rw [not_and_or] at hin
    by_cases ha : a ≤ i
    · have hend : a + bytes.length ≤ i := by omega
      have hsub : i - a - bytes.length = i - (a + bytes.length) := by omega
      rw [store, if_pos ha, List.getElem?_append_right (by omega), hsub, store,
        if_pos hend, store_outside mem (Or.inr hend)]
    · rw [store_outside mem (Or.inl (by omega)), store_outside _
        (Or.inl (by omega)), store_outside mem (Or.inl (by omega))]

/-- A part of what is read. -/
theorem take_drop_load (mem : Memory) {n a m : Nat} (h : a + m ≤ n) :
    ((load mem 0 n).drop a).take m = load mem a m := by
  obtain ⟨k, rfl⟩ : ∃ k, n = a + (m + k) := ⟨n - a - m, by omega⟩
  rw [load_append, List.drop_left' (length_load mem 0 a), Nat.zero_add,
    load_append, List.take_left' (length_load mem a m)]

/-! ## What does not depend on what was there -/

/-- The bytes written from 0 on that lie among the `n` from `a` on. -/
def part (bytes : List UInt8) (a n : Nat) : List UInt8 :=
  (bytes.drop a).take n

/-- They are read, and behind them what was there. -/
theorem load_store_part (mem : Memory) (bytes : List UInt8) (a n : Nat) :
    load (store mem 0 bytes) a n = part bytes a n ++
      load mem (a + (part bytes a n).length)
        (n - (part bytes a n).length) := by
  refine List.ext_getElem? fun i => ?_
  by_cases hi : i < n
  · rw [load, List.getElem?_map, List.getElem?_range hi, Option.map_some, store,
      if_pos (Nat.zero_le _), Nat.sub_zero]
    by_cases hb : a + i < bytes.length
    · have hlen : i < (part bytes a n).length := by
        rw [part, List.length_take, List.length_drop]
        omega
      rw [List.getElem?_append_left hlen, part, List.getElem?_take_of_lt hi,
        List.getElem?_drop, List.getElem?_eq_getElem hb]
      rfl
    · have hlen : (part bytes a n).length ≤ i := by
        rw [part, List.length_take, List.length_drop]
        omega
      have hadd : a + (part bytes a n).length
          + (i - (part bytes a n).length) = a + i := by omega
      rw [List.getElem?_append_right hlen, load, List.getElem?_map,
        List.getElem?_range (by omega), Option.map_some, hadd,
        List.getElem?_eq_none (by omega)]
      rfl
  · have hlen : (part bytes a n).length ≤ n := List.length_take_le _ _
    rw [List.getElem?_eq_none (by rw [length_load]; omega),
      List.getElem?_eq_none
        (by rw [List.length_append, length_load]; omega)]

theorem part_length_lt_iff {bytes : List UInt8} {a n : Nat} (hn : 0 < n) :
    (part bytes a n).length < n ↔ bytes.length < a + n := by
  rw [part, List.length_take, List.length_drop]
  omega

/-- What was written whole. -/
theorem load_store_covered (mem : Memory) {bytes : List UInt8} {a n : Nat}
    (h : a + n ≤ bytes.length) :
    load (store mem 0 bytes) a n = part bytes a n := by
  have hlen : (part bytes a n).length = n := by
    rw [part, List.length_take, List.length_drop]
    omega
  rw [load_store_part, hlen, Nat.sub_self]
  exact List.append_nil _

theorem load_const (b : UInt8) (a n : Nat) :
    load (fun _ => b) a n = List.replicate n b := by
  rw [load, List.map_const', List.length_range]

/-- What is read is the same whatever was there. -/
def Determined {α : Type} (bytes : List UInt8) (f : Memory → α) : Prop :=
  ∀ mem mem', f (store mem 0 bytes) = f (store mem' 0 bytes)

theorem determined_load {bytes : List UInt8} {a n : Nat}
    (h : a + n ≤ bytes.length) : Determined bytes (fun mem => load mem a n) :=
  fun mem mem' =>
    (load_store_covered mem h).trans (load_store_covered mem' h).symm

/-- Bytes are, if and only if all of them were written. -/
theorem determined_load_iff {bytes : List UInt8} {a n : Nat} (hn : 0 < n) :
    Determined bytes (fun mem => load mem a n) ↔ a + n ≤ bytes.length := by
  refine ⟨fun h => ?_, determined_load⟩
  by_contra hshort
  have hlt := (part_length_lt_iff hn).mpr (Nat.lt_of_not_le hshort)
  have heq := h (fun _ => 0) (fun _ => 1)
  dsimp only at heq
  rw [load_store_part, load_store_part, List.append_cancel_left_eq, load_const,
    load_const, List.replicate_inj] at heq
  rcases heq.2 with hzero | hval
  · omega
  · cases hval

theorem leVal_part_le (mem : Memory) (bytes : List UInt8) (a n : Nat) :
    leVal (part bytes a n) ≤ leVal (load (store mem 0 bytes) a n) := by
  rw [load_store_part, leVal_append]
  exact Nat.le_add_right _ _

/-- Bytes not written may be zeros. -/
theorem leVal_load_zero (bytes : List UInt8) (a n : Nat) :
    leVal (load (store (fun _ => 0) 0 bytes) a n) = leVal (part bytes a n) := by
  rw [load_store_part, leVal_append, load_const, leVal_replicate_zero,
    Nat.mul_zero, Nat.add_zero]

/-- They may make the number large. -/
theorem le_leVal_load_max {bytes : List UInt8} {a n : Nat} (hn : 0 < n)
    (h : bytes.length < a + n) :
    255 ≤ leVal (load (store (fun _ => 255) 0 bytes) a n) := by
  have hlt := (part_length_lt_iff hn).mpr h
  obtain ⟨k, hk⟩ : ∃ k, n - (part bytes a n).length = k + 1 :=
    ⟨n - (part bytes a n).length - 1, by omega⟩
  rw [load_store_part, leVal_append, load_const, hk, List.replicate_succ, leVal]
  have hbyte : (255 : UInt8).toNat = 255 := rfl
  have hpow : 0 < 256 ^ (part bytes a n).length := Nat.pow_pos (by decide)
  have hmul := Nat.le_mul_of_pos_left
    ((255 : UInt8).toNat + 256 * leVal (List.replicate k 255)) hpow
  omega

/-- The string that begins at `a`, of at most `n` characters. -/
def text (mem : Memory) (a n : Nat) : List UInt8 :=
  (load mem a n).takeWhile (· != 0)

theorem takeWhile_append_of_end {p : UInt8 → Bool} {l : List UInt8}
    (h : ∃ b ∈ l, p b = false) (l' : List UInt8) :
    (l ++ l').takeWhile p = l.takeWhile p := by
  induction l with
  | nil => exact absurd h (by simp)
  | cons b l ih =>
      rw [List.cons_append, List.takeWhile_cons, List.takeWhile_cons]
      cases hb : p b with
      | false => rfl
      | true =>
          obtain ⟨c, hc, hp⟩ := h
          rcases List.mem_cons.mp hc with rfl | hmem
          · rw [hb] at hp
            cases hp
          · rw [ih ⟨c, hmem, hp⟩]

/-- A string is, if and only if all that may be read of it was written, or
    an end of it. -/
theorem determined_text_iff {bytes : List UInt8} {a n : Nat} (hn : 0 < n) :
    Determined bytes (fun mem => text mem a n) ↔
      a + n ≤ bytes.length ∨ 0 ∈ part bytes a n := by
  constructor
  · intro h
    by_contra hnot
    rw [not_or] at hnot
    have hlt := (part_length_lt_iff hn).mpr (Nat.lt_of_not_le hnot.1)
    have hall : ∀ b ∈ part bytes a n, (b != 0) = true := fun b hb =>
      bne_iff_ne.mpr fun hz => hnot.2 (hz ▸ hb)
    have heq := h (fun _ => 0) (fun _ => 1)
    dsimp only at heq
    obtain ⟨k, hk⟩ : ∃ k, n - (part bytes a n).length = k + 1 :=
      ⟨n - (part bytes a n).length - 1, by omega⟩
    rw [text, text, load_store_part, load_store_part,
      List.takeWhile_append_of_pos hall, List.takeWhile_append_of_pos hall,
      List.append_cancel_left_eq, load_const, load_const, hk,
      List.replicate_succ, List.replicate_succ] at heq
    cases heq
  · rintro (hcov | hend) mem mem' <;> dsimp only
    · rw [text, text, load_store_covered mem hcov, load_store_covered mem' hcov]
    · have hfalse : ∃ b ∈ part bytes a n, (b != 0) = false :=
        ⟨0, hend, rfl⟩
      rw [text, text, load_store_part, load_store_part,
        takeWhile_append_of_end hfalse, takeWhile_append_of_end hfalse]

end QcomByteMemory
