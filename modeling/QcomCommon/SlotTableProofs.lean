import Mathlib.Data.List.Nodup
import Mathlib.Data.List.Perm.Basic

/-! # Tables of slots filled from the front

    A table of `n` slots `Holds` a list when its first slots are the elements
    of the list, in order, and every other slot is empty.  An element is put
    into the first empty slot (`Holds.push`); one is taken out by moving the
    last one into its place and emptying the last slot (`Holds.takeOut`),
    which reorders the list but leaves no hole.

    A loop that stops at the first empty slot then sees the list and nothing
    else (`Holds.eq_none_iff`). -/

namespace QcomSlots

variable {α : Type} {n : Nat}

/-- The slots in front are the list, the others are empty. -/
structure Holds (v : Vector (Option α) n) (l : List α) : Prop where
  fits : l.length ≤ n
  get : ∀ i (h : i < n), v[i] = l[i]?

/-- The list that is left when its last element takes the place of the one
    at `i`. -/
def swapOut (l : List α) (i : Nat) : List α :=
  match l.getLast? with
  | none => []
  | some a => l.dropLast.set i a

@[simp] theorem swapOut_concat (l : List α) (a : α) (i : Nat) :
    swapOut (l ++ [a]) i = l.set i a := by
  simp [swapOut]

/-- What is left is the list without the element at `i`, in another order. -/
theorem swapOut_perm {l : List α} {i : Nat} (hi : i < l.length) :
    (swapOut l i).Perm (l.eraseIdx i) := by
  obtain ⟨k, a, rfl⟩ := List.eq_nil_or_concat' l |>.resolve_left
    (List.ne_nil_of_length_pos (Nat.zero_lt_of_lt hi))
  rw [swapOut_concat]
  by_cases hk : i < k.length
  · rw [List.set_eq_take_append_cons_drop, if_pos hk,
      List.eraseIdx_append_of_lt_length hk, List.eraseIdx_eq_take_drop_succ,
      List.append_assoc]
    have hswap : ([a] ++ k.drop (i + 1)).Perm (k.drop (i + 1) ++ [a]) :=
      List.perm_append_comm
    exact hswap.append_left (k.take i)
  · have hlast : i = k.length := by
      rw [List.length_append, List.length_singleton] at hi
      omega
    rw [List.set_eq_of_length_le (Nat.le_of_not_lt hk), hlast,
      List.eraseIdx_append_of_length_le (Nat.le_refl _), Nat.sub_self]
    simp

theorem length_swapOut {l : List α} {i : Nat} (hi : i < l.length) :
    (swapOut l i).length = l.length - 1 := by
  rw [(swapOut_perm hi).length_eq, List.length_eraseIdx_of_lt hi]

/-- No element is lost but the one taken out, and none comes twice. -/
theorem nodup_swapOut {l : List α} {i : Nat} (hl : l.Nodup)
    (hi : i < l.length) : (swapOut l i).Nodup :=
  (swapOut_perm hi).nodup_iff.mpr (hl.sublist (List.eraseIdx_sublist l i))

theorem mem_swapOut {l : List α} {i : Nat} (hl : l.Nodup) (hi : i < l.length)
    {a : α} : a ∈ swapOut l i ↔ a ∈ l ∧ a ≠ l[i] := by
  rw [(swapOut_perm hi).mem_iff, List.mem_eraseIdx_iff_getElem]
  constructor
  · rintro ⟨j, hj, hne, rfl⟩
    refine ⟨List.getElem_mem hj, fun he => hne ?_⟩
    exact (hl.getElem_inj_iff).mp he
  · rintro ⟨hmem, hne⟩
    obtain ⟨j, hj, rfl⟩ := List.getElem_of_mem hmem
    refine ⟨j, hj, fun he => hne ?_, rfl⟩
    subst he
    rfl

namespace Holds

variable {v : Vector (Option α) n} {l : List α}

theorem empty : Holds (Vector.replicate n (none : Option α)) [] where
  fits := Nat.zero_le n
  get i h := by simp

/-- The first empty slot is where the list ends. -/
theorem eq_none_iff (hv : Holds v l) {i : Nat} (h : i < n) :
    v[i] = none ↔ l.length ≤ i := by
  rw [hv.get i h]
  exact List.getElem?_eq_none_iff

theorem eq_some (hv : Holds v l) {i : Nat} (hi : i < l.length) (h : i < n) :
    v[i] = some l[i] := by
  rw [hv.get]
  exact List.getElem?_eq_getElem hi

/-- Filling the first empty slot adds to the end of the list. -/
theorem push (hv : Holds v l) (h : l.length < n) (a : α) :
    Holds (v.set l.length (some a)) (l ++ [a]) where
  fits := by rw [List.length_append]; exact h
  get i hi := by
    rw [Vector.getElem_set, List.getElem?_append]
    by_cases he : l.length = i
    · simp [he]
    · rw [if_neg he, hv.get i hi]
      by_cases hlt : i < l.length
      · rw [if_pos hlt]
      · rw [if_neg hlt, List.getElem?_eq_none (Nat.le_of_not_lt hlt),
          List.getElem?_eq_none]
        simp only [List.length_cons, List.length_nil]
        omega

/-- Moving the last element into a slot and emptying the last slot takes the
    slot's element out; a slot that is itself the last may get anything
    first. -/
theorem takeOut (hv : Holds v l) {i k : Nat} (hi : i ≤ k)
    (hk : l.length = k + 1) (hin : i < n) (hkn : k < n) {x : Option α}
    (hx : i < k → x = v[k]) :
    Holds ((v.set i x hin).set k none hkn) (swapOut l i) where
  fits := by
    rw [length_swapOut (by omega)]
    omega
  get j hj := by
    obtain ⟨q, a, rfl⟩ := List.eq_nil_or_concat' l |>.resolve_left
      (List.ne_nil_of_length_eq_add_one hk)
    have hq : q.length = k := by simpa using hk
    have hlast : v[k] = some a := by
      rw [hv.get k hkn, ← hq]
      simp
    rw [swapOut_concat, Vector.getElem_set, Vector.getElem_set,
      List.getElem?_set, hv.get j hj, List.getElem?_append]
    by_cases hjk : k = j
    · subst hjk
      by_cases hij : i = k
      · simp [hij, hq]
      · simp [hij, hq]
    · by_cases hij : i = j
      · have hlt : i < k := by omega
        simp [hjk, hij, hq ▸ hij ▸ hlt, hx hlt, hlast]
      · by_cases hlt : j < q.length
        · simp [hjk, hij, hlt]
        · have hout : [a][j - q.length]? = none :=
            List.getElem?_eq_none (by simp only [List.length_singleton]; omega)
          simp [hjk, hij, hlt, hout]

end Holds
end QcomSlots
