import Mathlib.Order.Lattice
import Mathlib.Data.List.Pairwise
import Mathlib.Data.List.Sort
import Mathlib.Data.List.Dedup

/-! # Sorted maps

    A map as the list of its items in the order of their keys, each key once;
    adding an item replaces the one of its key.  A map is what adding its items
    one after the other makes of the empty map (`foldl_add_items`). -/

namespace QcomSortedMap

/-- The items, by their keys. -/
@[ext] structure SortedMap (K V : Type) [LinearOrder K] where
  items : List (K × V)
  sorted : items.Pairwise (fun a b => a.1 < b.1)

namespace SortedMap

variable {K V : Type} [LinearOrder K]

/-- The map without keys. -/
def empty : SortedMap K V := ⟨[], .nil⟩

/-- The value of a key. -/
def find (m : SortedMap K V) (k : K) : Option V :=
  (m.items.find? (·.1 = k)).map Prod.snd

/-- The item takes its place, or that of the item with its key. -/
def add (m : SortedMap K V) (k : K) (v : V) : SortedMap K V where
  items := m.items.filter (·.1 < k) ++ (k, v) :: m.items.filter (k < ·.1)
  sorted := by
    refine List.pairwise_append.mpr ⟨m.sorted.filter _, ?_, ?_⟩
    · refine List.pairwise_cons.mpr ⟨fun e he => ?_, m.sorted.filter _⟩
      exact of_decide_eq_true (List.mem_filter.mp he).2
    · intro a ha b hb
      have hlt : a.1 < k := of_decide_eq_true (List.mem_filter.mp ha).2
      rcases List.mem_cons.mp hb with rfl | hb
      · exact hlt
      · exact lt_trans hlt (of_decide_eq_true (List.mem_filter.mp hb).2)

/-- The map without the key. -/
def remove (m : SortedMap K V) (k : K) : SortedMap K V :=
  ⟨m.items.filter (·.1 ≠ k), m.sorted.filter _⟩

variable {m : SortedMap K V} {k : K} {v : V}

/-- Items with the same key are the same. -/
theorem eq_of_key {a b : K × V} (ha : a ∈ m.items) (hb : b ∈ m.items)
    (h : a.1 = b.1) : a = b := by
  by_contra hne
  have hkeys : m.items.Pairwise (fun a b => a.1 ≠ b.1) :=
    m.sorted.imp fun hlt => ne_of_lt hlt
  have : Std.Symm (fun a b : K × V => a.1 ≠ b.1) := ⟨fun _ _ hab => hab.symm⟩
  exact hkeys.forall ha hb hne h

theorem find_eq_some_iff : m.find k = some v ↔ (k, v) ∈ m.items := by
  constructor
  · intro h
    obtain ⟨e, he, rfl⟩ := Option.map_eq_some_iff.mp h
    obtain rfl : e.1 = k := by simpa using List.find?_some he
    exact List.mem_of_find?_eq_some he
  · intro h
    have hsome : (m.items.find? (·.1 = k)).isSome :=
      List.find?_isSome.mpr ⟨(k, v), h, by simp⟩
    obtain ⟨e, he⟩ := Option.isSome_iff_exists.mp hsome
    have hkey : e.1 = k := by simpa using List.find?_some he
    have heq := eq_of_key (List.mem_of_find?_eq_some he) h hkey
    rw [find, he, heq]
    rfl

theorem mem_add {e : K × V} :
    e ∈ (m.add k v).items ↔ e = (k, v) ∨ e ∈ m.items ∧ e.1 ≠ k := by
  have hne : e.1 ≠ k ↔ e.1 < k ∨ k < e.1 := ne_iff_lt_or_gt
  rw [add, List.mem_append, List.mem_cons, List.mem_filter, List.mem_filter,
    decide_eq_true_iff, decide_eq_true_iff, hne]
  constructor
  · rintro (⟨he, hlt⟩ | rfl | ⟨he, hgt⟩)
    · exact Or.inr ⟨he, Or.inl hlt⟩
    · exact Or.inl rfl
    · exact Or.inr ⟨he, Or.inr hgt⟩
  · rintro (rfl | ⟨he, hlt | hgt⟩)
    · exact Or.inr (Or.inl rfl)
    · exact Or.inl ⟨he, hlt⟩
    · exact Or.inr (Or.inr ⟨he, hgt⟩)

theorem mem_remove {e : K × V} :
    e ∈ (m.remove k).items ↔ e ∈ m.items ∧ e.1 ≠ k := by
  rw [remove, List.mem_filter, decide_eq_true_iff]

/-- **ADDING** sets the value of one key. -/
theorem find_add (m : SortedMap K V) (k : K) (v : V) (k' : K) :
    (m.add k v).find k' = if k' = k then some v else m.find k' := by
  refine Option.ext fun w => ?_
  rw [find_eq_some_iff, mem_add]
  split
  · next h => simp [h, eq_comm]
  · next h => simp [h, find_eq_some_iff]

/-- **REMOVING** takes the value of one key away. -/
theorem find_remove (m : SortedMap K V) (k k' : K) :
    (m.remove k).find k' = if k' = k then none else m.find k' := by
  refine Option.ext fun w => ?_
  rw [find_eq_some_iff, mem_remove]
  split
  · next h => simp [h]
  · next h => simp [h, find_eq_some_iff]

/-- An item behind all others comes at the end. -/
theorem items_add_last (h : ∀ e ∈ m.items, e.1 < k) :
    (m.add k v).items = m.items ++ [(k, v)] := by
  have hfront : m.items.filter (·.1 < k) = m.items :=
    List.filter_eq_self.mpr fun e he => decide_eq_true (h e he)
  have hback : m.items.filter (k < ·.1) = [] :=
    List.filter_eq_nil_iff.mpr fun e he hlt =>
      lt_asymm (h e he) (of_decide_eq_true hlt)
  show m.items.filter (·.1 < k) ++ (k, v) :: m.items.filter (k < ·.1) = _
  rw [hfront, hback]

/-- **REBUILDING**: the items added in their order. -/
theorem foldl_add_items (m : SortedMap K V) :
    m.items.foldl (fun m e => m.add e.1 e.2) empty = m := by
  have hbehind : ∀ (l : List (K × V)) (n : SortedMap K V),
      (n.items ++ l).Pairwise (fun a b => a.1 < b.1) →
        (l.foldl (fun m e => m.add e.1 e.2) n).items = n.items ++ l := by
    intro l
    induction l with
    | nil => exact fun n _ => (List.append_nil _).symm
    | cons e l ih =>
        intro n hsorted
        have hlast : ∀ a ∈ n.items, a.1 < e.1 := fun a ha =>
          (List.pairwise_append.mp hsorted).2.2 a ha e List.mem_cons_self
        have hadd := items_add_last (v := e.2) hlast
        rw [List.foldl_cons, ih, hadd, List.append_assoc]
        · rfl
        · rw [hadd, List.append_assoc]
          exact hsorted
  exact SortedMap.ext (hbehind m.items empty m.sorted)

/-- **MAPS ARE EQUAL** where the same is found at each key. -/
theorem eq_of_find {m m' : SortedMap K V}
    (h : ∀ k, m.find k = m'.find k) : m = m' := by
  refine SortedMap.ext ?_
  have : Std.Irrefl (fun a b : K × V => a.1 < b.1) := ⟨fun a => lt_irrefl a.1⟩
  have : Std.Antisymm (fun a b : K × V => a.1 < b.1) :=
    ⟨fun _ _ hab hba => absurd hab (lt_asymm hba)⟩
  refine List.Pairwise.eq_of_mem_iff m.sorted m'.sorted fun e => ?_
  rw [← find_eq_some_iff (k := e.1), h, find_eq_some_iff]

/-- The last element with a key gives its value. -/
theorem find_foldl_add {A : Type} (key : A → K) (val : A → V) (l : List A)
    (m : SortedMap K V) (k : K) :
    (l.foldl (fun m a => m.add (key a) (val a)) m).find k
      = ((l.reverse.find? (key · = k)).map val).or (m.find k) := by
  induction l generalizing m with
  | nil => rfl
  | cons a l ih =>
      rw [List.foldl_cons, ih, find_add, List.reverse_cons, List.find?_append]
      by_cases ha : key a = k
      · have hhead : [a].find? (key · = k) = some a :=
          List.find?_cons_of_pos (decide_eq_true ha)
        rw [if_pos ha.symm, hhead]
        cases l.reverse.find? (key · = k) <;> rfl
      · have hhead : [a].find? (key · = k) = none :=
          List.find?_cons_of_neg (by simpa using ha)
        rw [if_neg (Ne.symm ha), hhead, Option.or_none]

/-- Keys that are added with a value of their own. -/
theorem find_foldl_add_keys (ks : List K) (f : K → V) (m : SortedMap K V)
    (k : K) :
    (ks.foldl (fun m k => m.add k (f k)) m).find k
      = if k ∈ ks then some (f k) else m.find k := by
  rw [find_foldl_add (fun k => k) f]
  by_cases hmem : k ∈ ks
  · have hfind : ks.reverse.find? (· = k) = some k := by
      have hsome : (ks.reverse.find? (· = k)).isSome :=
        List.find?_isSome.mpr ⟨k, List.mem_reverse.mpr hmem, by simp⟩
      obtain ⟨a, ha⟩ := Option.isSome_iff_exists.mp hsome
      have heq : a = k := by simpa using List.find?_some ha
      rw [ha, heq]
    rw [if_pos hmem, hfind]
    rfl
  · have hfind : ks.reverse.find? (· = k) = none := by
      refine List.find?_eq_none.mpr fun a ha heq => hmem ?_
      rw [← of_decide_eq_true heq]
      exact List.mem_reverse.mp ha
    rw [if_neg hmem, hfind]
    rfl

/-- Adding makes a map longer by one item, or not at all. -/
theorem length_add_le (m : SortedMap K V) (k : K) (v : V) :
    (m.add k v).items.length ≤ m.items.length + 1 := by
  have hback : (m.items.filter (k < ·.1)).length
      ≤ (m.items.filter (fun e => !decide (e.1 < k))).length := by
    refine (List.monotone_filter_right m.items fun e he => ?_).length_le
    rw [Bool.not_eq_true', decide_eq_false_iff_not]
    exact lt_asymm (of_decide_eq_true he)
  have hsplit := List.length_eq_length_filter_add (l := m.items)
    (fun e => decide (e.1 < k))
  rw [add, List.length_append, List.length_cons]
  omega

theorem length_foldl_add_le {A : Type} (key : A → K) (val : A → V)
    (l : List A) (m : SortedMap K V) :
    (l.foldl (fun m a => m.add (key a) (val a)) m).items.length
      ≤ m.items.length + l.length := by
  induction l generalizing m with
  | nil => exact Nat.le_refl _
  | cons a l ih =>
      have hadd := length_add_le m (key a) (val a)
      have htail := ih (m.add (key a) (val a))
      rw [List.foldl_cons, List.length_cons]
      omega

/-- The keys, each once. -/
def keys (m : SortedMap K V) : List K := m.items.map Prod.fst

theorem keys_sorted (m : SortedMap K V) : m.keys.Pairwise (· < ·) :=
  List.pairwise_map.mpr m.sorted

theorem mem_keys {m : SortedMap K V} {k : K} :
    k ∈ m.keys ↔ m.find k ≠ none := by
  rw [keys, List.mem_map, Option.ne_none_iff_exists']
  constructor
  · rintro ⟨e, he, rfl⟩
    exact ⟨e.2, find_eq_some_iff.mpr he⟩
  · rintro ⟨v, hv⟩
    exact ⟨(k, v), find_eq_some_iff.mp hv, rfl⟩

/-- **HOW MANY ITEMS** a map has: as many as different keys were added. -/
theorem length_foldl_add {A : Type} (key : A → K) (val : A → V) (l : List A) :
    (l.foldl (fun m a => m.add (key a) (val a)) empty).items.length
      = (l.map key).dedup.length := by
  have hnodup := (keys_sorted
    (l.foldl (fun m a => m.add (key a) (val a)) empty)).imp fun h => ne_of_lt h
  have hmem : ∀ k, k ∈ (l.foldl (fun m a => m.add (key a) (val a)) empty).keys
      ↔ k ∈ (l.map key).dedup := by
    intro k
    rw [mem_keys, find_foldl_add, List.mem_dedup, List.mem_map]
    constructor
    · intro h
      cases hfind : l.reverse.find? (key · = k) with
      | none =>
          rw [hfind] at h
          exact absurd rfl h
      | some a =>
          have hkey : key a = k := by simpa using List.find?_some hfind
          exact ⟨a, List.mem_reverse.mp (List.mem_of_find?_eq_some hfind), hkey⟩
    · rintro ⟨a, ha, rfl⟩ hnone
      have hfind := List.find?_isSome (p := (decide <| key · = key a)).mpr
        ⟨a, List.mem_reverse.mpr ha, decide_eq_true rfl⟩
      obtain ⟨b, hb⟩ := Option.isSome_iff_exists.mp hfind
      rw [hb] at hnone
      cases hnone
  have hperm := (List.perm_ext_iff_of_nodup hnodup
    (List.nodup_dedup (l.map key))).mpr hmem
  rw [← hperm.length_eq, keys, List.length_map]

end SortedMap

end QcomSortedMap
