import Mathlib.Data.List.Basic
import Mathlib.Data.List.Nodup

/-! # Lists whose elements have a key

    The first element with a key is found and erased.  Where the keys are
    distinct, erasing and appending act on the finding as on a function
    (`find_erase`, `find_replace`), and where the list is also in an order,
    the places of two keys are (`findIdx_lt_iff`). -/

namespace QcomKeyedList

variable {E K : Type} [DecidableEq K] (key : E → K)

/-- The first element with the key. -/
def find (l : List E) (k : K) : Option E := l.find? fun e => key e = k

/-- The place of the first element with the key. -/
def findIdx (l : List E) (k : K) : Option Nat := l.findIdx? fun e => key e = k

/-- Without the first element with the key. -/
def erase (l : List E) (k : K) : List E := l.eraseP fun e => key e = k

/-- No two elements have one key. -/
def Distinct (l : List E) : Prop := (l.map key).Nodup

variable {key} {l : List E} {k : K}

theorem find_eq_none : find key l k = none ↔ k ∉ l.map key := by
  rw [find, List.find?_eq_none, List.mem_map]
  constructor
  · rintro h ⟨e, he, hk⟩
    exact h e he (decide_eq_true hk)
  · intro h e he hk
    exact h ⟨e, he, of_decide_eq_true hk⟩

theorem find_cons (e : E) (l : List E) (k : K) :
    find key (e :: l) k = if key e = k then some e else find key l k := by
  rw [find, List.find?_cons]
  by_cases h : key e = k
  · rw [if_pos h, decide_eq_true h]
  · rw [if_neg h, decide_eq_false h]
    rfl

theorem erase_cons (e : E) (l : List E) (k : K) :
    erase key (e :: l) k = if key e = k then l else e :: erase key l k := by
  rw [erase, List.eraseP_cons]
  by_cases h : key e = k
  · rw [if_pos h, decide_eq_true h]
    rfl
  · rw [if_neg h, decide_eq_false h]
    rfl

theorem find_append (l l' : List E) (k : K) :
    find key (l ++ l') k = (find key l k).or (find key l' k) :=
  List.find?_append

/-- The erased list has what the list has. -/
theorem mem_erase {e : E} (h : e ∈ erase key l k) : e ∈ l :=
  List.mem_of_mem_eraseP h

theorem distinct_erase (h : Distinct key l) (k : K) :
    Distinct key (erase key l k) :=
  h.sublist ((List.eraseP_sublist).map key)

/-- **ERASING** from distinct keys. -/
theorem find_erase (h : Distinct key l) (k k' : K) :
    find key (erase key l k) k'
      = if k' = k then none else find key l k' := by
  induction l with
  | nil => exact (ite_self none).symm
  | cons e l ih =>
      have hnodup := List.nodup_cons.mp h
      rw [erase_cons, find_cons]
      by_cases he : key e = k
      · rw [if_pos he]
        by_cases hk : k' = k
        · rw [if_pos hk]
          exact find_eq_none.mpr (hk ▸ he ▸ hnodup.1)
        · rw [if_neg hk, if_neg fun h => hk (h.symm.trans he)]
      · rw [if_neg he, find_cons, ih hnodup.2]
        by_cases hk : k' = k
        · rw [if_pos hk, if_neg fun h => he (h.trans hk), if_pos hk]
        · rw [if_neg hk, if_neg hk]

/-- The key is not in the erased list. -/
theorem notMem_erase (h : Distinct key l) (k : K) :
    k ∉ (erase key l k).map key := by
  rw [← find_eq_none, find_erase h, if_pos rfl]

theorem distinct_replace (h : Distinct key l) (e : E) :
    Distinct key (erase key l (key e) ++ [e]) := by
  rw [Distinct, List.map_append, List.nodup_append]
  refine ⟨distinct_erase h _, List.nodup_singleton _, ?_⟩
  rintro k hk _ hk' rfl
  rw [List.mem_singleton.mp hk'] at hk
  exact notMem_erase h _ hk

/-- **REPLACING**: the element comes to the end. -/
theorem find_replace (h : Distinct key l) (e : E) (k : K) :
    find key (erase key l (key e) ++ [e]) k
      = if k = key e then some e else find key l k := by
  rw [find_append, find_erase h, find_cons]
  by_cases hk : k = key e
  · rw [if_pos hk, if_pos hk, if_pos hk.symm]
    rfl
  · rw [if_neg hk, if_neg hk, if_neg fun h => hk h.symm]
    cases find key l k <;> rfl

/-- What is found is at its place. -/
theorem findIdx_eq (l : List E) (k : K) :
    (findIdx key l k).bind (l[·]?) = find key l k := by
  cases hi : findIdx key l k with
  | none =>
      rw [findIdx, List.findIdx?_eq_none_iff] at hi
      refine (List.find?_eq_none.mpr fun e he hk => ?_).symm
      rw [hi e he] at hk
      exact Bool.false_ne_true hk
  | some i =>
      rw [findIdx, List.findIdx?_eq_some_iff_getElem] at hi
      obtain ⟨hlt, hkey, hbefore⟩ := hi
      have hfound : find key l k = some l[i] := by
        refine List.find?_eq_some_iff_getElem.mpr
          ⟨hkey, i, hlt, rfl, fun j hj => ?_⟩
        rw [Bool.not_eq_true']
        exact Bool.eq_false_iff.mpr (hbefore j hj)
      rw [hfound]
      exact List.getElem?_eq_getElem hlt

/-- **THE PLACES** of two keys in a list in an order. -/
theorem findIdx_lt_iff {r : E → E → Prop} (hr : ∀ e e', r e e' → ¬ r e' e)
    (hirr : ∀ e, ¬ r e e) (hl : l.Pairwise r) {k k' : K} {i i' : Nat} {e e' : E}
    (hi : findIdx key l k = some i) (hi' : findIdx key l k' = some i')
    (he : find key l k = some e) (he' : find key l k' = some e') :
    i < i' ↔ r e e' := by
  have hplace : l[i]? = some e := by
    rw [← he, ← findIdx_eq, hi]
    rfl
  have hplace' : l[i']? = some e' := by
    rw [← he', ← findIdx_eq, hi']
    rfl
  obtain ⟨hlt, rfl⟩ := List.getElem?_eq_some_iff.mp hplace
  obtain ⟨hlt', rfl⟩ := List.getElem?_eq_some_iff.mp hplace'
  constructor
  · exact fun h => List.pairwise_iff_getElem.mp hl i i' hlt hlt' h
  · intro h
    by_contra hnot
    rcases Nat.lt_or_eq_of_le (Nat.not_lt.mp hnot) with hgt | rfl
    · exact hr _ _ h (List.pairwise_iff_getElem.mp hl i' i hlt' hlt hgt)
    · exact hirr _ h

end QcomKeyedList
