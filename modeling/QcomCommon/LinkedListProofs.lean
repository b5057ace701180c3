import Mathlib.Data.List.AList
import Mathlib.Data.List.Perm.Subperm

/-! # The linked list

    `linked_list.c`: elements on a heap, each with a pointer to the next and
    to the previous one; an element is added at the head and removed from
    the tail.  An operation that follows a pointer to an element that is not
    live has no result (`none`).

    `Represents l q` says that the elements of `l` hold the queue `q`, the
    oldest first, and that the list owns no other element.  On such a list
    every operation has a result, `add` puts at the end of the queue, `remove`
    takes its front, and `flush` frees every element. -/

namespace QcomLinkedList

/-- An address of an element. -/
abbrev Addr := Nat

/-- What the functions of the list answer. -/
inductive LinkedListErr
  | success | failureGeneral | invalidParameter | invalidHandle
  | unavailableResource | insufficientBuffer
deriving DecidableEq, Repr

/-- `deallocFunc`: a function to free the data with was given. -/
structure ListElement (α : Type) where
  next : Option Addr
  prev : Option Addr
  dataPtr : α
  deallocFunc : Bool

/-- The live elements. -/
abbrev Heap (α : Type) := AList (fun _ : Addr => ListElement α)

/-- The list, and the elements in memory. -/
structure ListState (α : Type) where
  pHead : Option Addr
  pTail : Option Addr
  heap : Heap α

variable {α : Type}

/-- The empty list. -/
def linkedListInit : ListState α := ⟨none, none, ∅⟩

/-- Write to the element `a`. -/
def update (h : Heap α) (a : Addr) (f : ListElement α → ListElement α) :
    Option (Heap α) :=
  (h.lookup a).map (fun e => h.insert a (f e))

/-- `linked_list_add`; `elem` is what `malloc` returns. -/
def linkedListAdd (l : ListState α) (dataObj : Option α) (dealloc : Bool)
    (elem : Option Addr) : Option (LinkedListErr × ListState α) :=
  match dataObj, elem with
  | none, _ => some (.invalidParameter, l)
  | some _, none => some (.failureGeneral, l)
  | some d, some a =>
      let h := l.heap.insert a ⟨l.pHead, none, d, dealloc⟩
      match l.pHead with
      | some t =>
          (update h t (fun e => { e with prev := some a })).map (fun h' =>
            (.success, { l with pHead := some a, heap := h' }))
      | none => some (.success, ⟨some a, some a, h⟩)

/-- `linked_list_remove`, with the data it stores through `data_obj`. -/
def linkedListRemove (l : ListState α) :
    Option (LinkedListErr × Option α × ListState α) :=
  match l.pTail with
  | none => some (.unavailableResource, none, l)
  | some t =>
      (l.heap.lookup t).bind (fun tmp =>
        match tmp.prev with
        | some p =>
            (update l.heap p (fun e => { e with next := none })).map (fun h =>
              (.success, some tmp.dataPtr, ⟨l.pHead, some p, h.erase t⟩))
        | none =>
            some (.success, some tmp.dataPtr, ⟨none, none, l.heap.erase t⟩))

/-- `linked_list_empty`. -/
def linkedListEmpty (l : ListState α) : Bool := l.pHead.isNone

/-- The loop of `linked_list_flush`: each turn frees an element, so there are
    no more turns than live elements.  With the data that was freed. -/
def flushLoop : Nat → Heap α → Option Addr → Option (Heap α × List α)
  | _, h, none => some (h, [])
  | 0, _, some _ => none
  | n + 1, h, some a =>
      (h.lookup a).bind (fun e =>
        (flushLoop n (h.erase a) e.next).map (fun (h', out) =>
          (h', if e.deallocFunc then e.dataPtr :: out else out)))

/-- `linked_list_flush`. -/
def linkedListFlush (l : ListState α) :
    Option (LinkedListErr × List α × ListState α) :=
  (flushLoop l.heap.entries.length l.heap l.pHead).map (fun (h, out) =>
    (.success, out, ⟨none, none, h⟩))

/-! ## Chained elements -/

/-- The elements `xs` are chained from `first`, after the element `prev` and
    before the element `next`. -/
def Seg (h : Heap α) : Option Addr → Option Addr →
    List (Addr × α × Bool) → Option Addr → Prop
  | _, first, [], next => first = next
  | prev, first, (a, d) :: xs, next =>
      first = some a ∧
      ∃ n, h.lookup a = some ⟨n, prev, d.1, d.2⟩ ∧ Seg h (some a) n xs next

/-- The address of the last element, `prev` where there is none. -/
def lastAddr (prev : Option Addr) : List (Addr × α × Bool) → Option Addr
  | [] => prev
  | (a, _) :: xs => lastAddr (some a) xs

@[simp] theorem lastAddr_concat (prev : Option Addr)
    (xs : List (Addr × α × Bool)) (a : Addr) (d : α × Bool) :
    lastAddr prev (xs ++ [(a, d)]) = some a := by
  induction xs generalizing prev with
  | nil => rfl
  | cons x xs ih => exact ih (some x.1)

/-- A chain in two parts. -/
theorem seg_append {h : Heap α} {prev first next : Option Addr}
    {xs ys : List (Addr × α × Bool)} :
    Seg h prev first (xs ++ ys) next ↔
      ∃ m, Seg h prev first xs m ∧ Seg h (lastAddr prev xs) m ys next := by
  induction xs generalizing prev first with
  | nil =>
      constructor
      · intro hs
        exact ⟨first, rfl, hs⟩
      · rintro ⟨m, rfl, hs⟩
        exact hs
  | cons x xs ih =>
      constructor
      · rintro ⟨hf, n, hx, hs⟩
        obtain ⟨m, hxs, hys⟩ := ih.mp hs
        exact ⟨m, ⟨hf, n, hx, hxs⟩, hys⟩
      · rintro ⟨m, ⟨hf, n, hx, hxs⟩, hys⟩
        exact ⟨hf, n, hx, ih.mpr ⟨m, hxs, hys⟩⟩

/-- A chain reads its own elements only. -/
theorem Seg.frame {h h' : Heap α} {next : Option Addr} :
    ∀ {xs : List (Addr × α × Bool)} {prev first : Option Addr},
      Seg h prev first xs next →
      (∀ a ∈ xs.map Prod.fst, h'.lookup a = h.lookup a) →
      Seg h' prev first xs next := by
  intro xs
  induction xs with
  | nil =>
      intro prev first hs _
      exact hs
  | cons x xs ih =>
      rintro prev first ⟨hf, n, hx, hs⟩ hagree
      refine ⟨hf, n, ?_, ih hs ?_⟩
      · rw [hagree x.1 List.mem_cons_self]
        exact hx
      · intro a ha
        exact hagree a (List.mem_cons_of_mem _ ha)

/-- The elements of a chain are live. -/
theorem Seg.live {h : Heap α} {next : Option Addr} :
    ∀ {xs : List (Addr × α × Bool)} {prev first : Option Addr},
      Seg h prev first xs next → ∀ a ∈ xs.map Prod.fst, a ∈ h := by
  intro xs
  induction xs with
  | nil =>
      intro prev first _ a ha
      cases ha
  | cons x xs ih =>
      rintro prev first ⟨_, n, hx, hs⟩ a ha
      rcases List.mem_cons.mp ha with rfl | ha
      · exact AList.lookup_isSome.mp (by rw [hx]; rfl)
      · exact ih hs a ha

/-- The elements `xs`, from the head to the tail, are the list and all it
    owns. -/
structure Laid (l : ListState α) (xs : List (Addr × α × Bool)) : Prop where
  chain : Seg l.heap none l.pHead xs none
  tail : l.pTail = lastAddr none xs
  nodup : (xs.map Prod.fst).Nodup
  owned : ∀ a, a ∈ l.heap → a ∈ xs.map Prod.fst

/-- **WHAT THE LIST IS FOR**: the queue it holds, the oldest first. -/
def Represents (l : ListState α) (q : List (α × Bool)) : Prop :=
  ∃ xs, Laid l xs ∧ q = (xs.map Prod.snd).reverse

theorem represents_init : Represents (linkedListInit : ListState α) [] := by
  refine ⟨[], ⟨rfl, rfl, List.nodup_nil, ?_⟩, rfl⟩
  intro a ha
  exact absurd ha (AList.notMem_empty a)

/-! ## The operations on a queue -/

theorem linkedListEmpty_iff {l : ListState α} {q : List (α × Bool)}
    (h : Represents l q) : linkedListEmpty l = true ↔ q = [] := by
  obtain ⟨xs, hl, rfl⟩ := h
  unfold linkedListEmpty
  cases xs with
  | nil =>
      have hhead : l.pHead = none := hl.chain
      simp [hhead]
  | cons x xs =>
      have hhead : l.pHead = some x.1 := hl.chain.1
      simp [hhead]

private theorem laid_add {l : ListState α} {xs : List (Addr × α × Bool)}
    {a : Addr} (d : α) (f : Bool) (hl : Laid l xs) (ha : a ∉ l.heap) :
    ∃ l', linkedListAdd l (some d) f (some a) = some (.success, l') ∧
      Laid l' ((a, d, f) :: xs) := by
  have hnew : a ∉ xs.map Prod.fst := fun hm => ha (hl.chain.live a hm)
  cases xs with
  | nil =>
      have hhead : l.pHead = none := hl.chain
      refine ⟨⟨some a, some a, l.heap.insert a ⟨l.pHead, none, d, f⟩⟩,
        by simp [linkedListAdd, hhead], ⟨⟨rfl, none, ?_, rfl⟩, rfl,
          List.nodup_singleton a, ?_⟩⟩
      · rw [AList.lookup_insert, hhead]
      · intro b hb
        rcases (AList.mem_insert _).mp hb with rfl | hb
        · exact List.mem_cons_self
        · exact absurd (hl.owned b hb) List.not_mem_nil
  | cons x xs =>
      obtain ⟨t, d₀⟩ := x
      obtain ⟨hhead, n, ht, hs⟩ := hl.chain
      have hat : t ≠ a := fun h => hnew (h ▸ List.mem_cons_self)
      obtain ⟨htnew, hnodup⟩ := List.nodup_cons.mp hl.nodup
      have hlook : (l.heap.insert a ⟨l.pHead, none, d, f⟩).lookup t
          = some ⟨n, none, d₀.1, d₀.2⟩ := by
        rw [AList.lookup_insert_ne hat]
        exact ht
      refine ⟨{ l with pHead := some a, heap := (l.heap.insert a
          ⟨l.pHead, none, d, f⟩).insert t ⟨n, some a, d₀.1, d₀.2⟩ },
        ?_, ⟨⟨rfl, some t, ?_, rfl, n, ?_, hs.frame ?_⟩, hl.tail, ?_, ?_⟩⟩
      · rw [hhead] at hlook
        simp [linkedListAdd, update, hhead, hlook]
      · rw [AList.lookup_insert_ne hat.symm, AList.lookup_insert, hhead]
      · exact AList.lookup_insert _
      · intro b hb
        have hbt : b ≠ t := fun h => htnew (h ▸ hb)
        have hba : b ≠ a := fun h => hnew (h ▸ List.mem_cons_of_mem _ hb)
        rw [AList.lookup_insert_ne hbt, AList.lookup_insert_ne hba]
      · exact List.nodup_cons.mpr ⟨hnew, hl.nodup⟩
      · intro b hb
        rcases (AList.mem_insert _).mp hb with rfl | hb
        · exact List.mem_cons_of_mem _ List.mem_cons_self
        · rcases (AList.mem_insert _).mp hb with rfl | hb
          · exact List.mem_cons_self
          · exact List.mem_cons_of_mem _ (hl.owned b hb)

/-- **ADD**: the data goes to the end of the queue. -/
theorem linkedListAdd_represents {l : ListState α} {q : List (α × Bool)}
    {a : Addr} (d : α) (f : Bool) (h : Represents l q) (ha : a ∉ l.heap) :
    ∃ l', linkedListAdd l (some d) f (some a) = some (.success, l') ∧
      Represents l' (q ++ [(d, f)]) := by
  obtain ⟨xs, hl, rfl⟩ := h
  obtain ⟨l', hadd, hl'⟩ := laid_add d f hl ha
  refine ⟨l', hadd, (a, d, f) :: xs, hl', ?_⟩
  simp

/-- An empty list gives nothing. -/
theorem linkedListRemove_nil {l : ListState α} (h : Represents l []) :
    linkedListRemove l = some (.unavailableResource, none, l) := by
  obtain ⟨xs, hl, hq⟩ := h
  have hnil : xs = [] := by simpa using hq.symm
  have htail : l.pTail = none := by
    rw [hl.tail, hnil]
    rfl
  simp [linkedListRemove, htail]

private theorem laid_remove {l : ListState α} {ys : List (Addr × α × Bool)}
    {t : Addr} {d : α × Bool} (hl : Laid l (ys ++ [(t, d)])) :
    ∃ l', linkedListRemove l = some (.success, some d.1, l') ∧ Laid l' ys := by
  have htail : l.pTail = some t := by rw [hl.tail, lastAddr_concat]
  obtain ⟨m, hys, rfl, n, ht, rfl⟩ := seg_append.mp hl.chain
  have hnodup := hl.nodup
  rw [List.map_append, List.map_singleton] at hnodup
  obtain ⟨hnd, -, hdisj⟩ := List.nodup_append.mp hnodup
  have howned : ∀ a, a ∈ l.heap → a ≠ t → a ∈ ys.map Prod.fst := by
    intro a ha hat
    have hm := hl.owned a ha
    rw [List.map_append, List.mem_append] at hm
    rcases hm with hm | hm
    · exact hm
    · exact absurd (List.mem_singleton.mp hm) hat
  rcases List.eq_nil_or_concat ys with rfl | ⟨zs, ⟨u, e⟩, rfl⟩
  · refine ⟨⟨none, none, l.heap.erase t⟩, ?_, ⟨rfl, rfl, List.nodup_nil, ?_⟩⟩
    · simp only [linkedListRemove, htail, ht]
      rfl
    · intro a ha
      obtain ⟨hat, ha⟩ := AList.mem_erase.mp ha
      exact howned a ha hat
  · rw [List.concat_eq_append] at hys hnd hdisj howned ht ⊢
    rw [lastAddr_concat] at ht
    obtain ⟨m, hzs, rfl, n, hu, rfl⟩ := seg_append.mp hys
    have hut : u ≠ t := by
      refine hdisj u ?_ t List.mem_cons_self
      simp
    refine ⟨⟨l.pHead, some u, (l.heap.insert u
        ⟨none, lastAddr none zs, e.1, e.2⟩).erase t⟩, ?_,
      ⟨seg_append.mpr ⟨some u, hzs.frame ?_, rfl, none, ?_, rfl⟩,
        (lastAddr_concat _ _ _ _).symm, hnd, ?_⟩⟩
    · simp [linkedListRemove, htail, ht, update, hu]
    · intro b hb
      have hbt : b ≠ t := by
        refine hdisj b ?_ t List.mem_cons_self
        rw [List.map_append]
        exact List.mem_append_left _ hb
      have hbu : b ≠ u := by
        rw [List.map_append] at hnd
        exact (List.nodup_append.mp hnd).2.2 b hb u List.mem_cons_self
      rw [AList.lookup_erase_ne hbt, AList.lookup_insert_ne hbu]
    · rw [AList.lookup_erase_ne hut, AList.lookup_insert]
    · intro a ha
      obtain ⟨hat, ha⟩ := AList.mem_erase.mp ha
      rcases (AList.mem_insert _).mp ha with rfl | ha
      · simp
      · exact howned a ha hat

/-- **REMOVE**: the front of the queue, the data that was added first. -/
theorem linkedListRemove_represents {l : ListState α} {d : α × Bool}
    {q : List (α × Bool)} (h : Represents l (d :: q)) :
    ∃ l', linkedListRemove l = some (.success, some d.1, l') ∧
      Represents l' q := by
  obtain ⟨xs, hl, hq⟩ := h
  rcases List.eq_nil_or_concat xs with rfl | ⟨ys, ⟨t, e⟩, rfl⟩
  · cases hq
  · rw [List.concat_eq_append] at hl hq
    simp only [List.map_append, List.map_singleton, List.reverse_append,
      List.reverse_singleton, List.singleton_append] at hq
    obtain ⟨rfl, rfl⟩ := List.cons_eq_cons.mp hq
    obtain ⟨l', hrem, hl'⟩ := laid_remove hl
    exact ⟨l', hrem, ys, hl', rfl⟩

/-- What `flush` frees of the data. -/
def freedData (q : List (α × Bool)) : List α :=
  (q.filter Prod.snd).map Prod.fst

private theorem flushLoop_laid :
    ∀ {xs : List (Addr × α × Bool)} {n : Nat} {h : Heap α}
      {prev first : Option Addr},
      Seg h prev first xs none → (xs.map Prod.fst).Nodup →
      (∀ a, a ∈ h → a ∈ xs.map Prod.fst) → xs.length ≤ n →
      ∃ h', flushLoop n h first = some (h', freedData (xs.map Prod.snd)) ∧
        ∀ a, a ∉ h' := by
  intro xs
  induction xs with
  | nil =>
      intro n h prev first hs _ howned _
      obtain rfl : first = none := hs
      refine ⟨h, ?_, fun a ha => absurd (howned a ha) List.not_mem_nil⟩
      cases n <;> rfl
  | cons x xs ih =>
      rintro n h prev first ⟨rfl, nx, hx, hs⟩ hnodup howned hn
      obtain ⟨a, d⟩ := x
      obtain ⟨hnew, hnodup⟩ := List.nodup_cons.mp hnodup
      obtain ⟨n, rfl⟩ : ∃ k, n = k + 1 :=
        ⟨n - 1, by rw [List.length_cons] at hn; omega⟩
      have hs' : Seg (h.erase a) (some a) nx xs none := by
        refine hs.frame (fun b hb => ?_)
        have hba : b ≠ a := fun hba => hnew (hba ▸ hb)
        exact AList.lookup_erase_ne hba
      have howned' : ∀ b, b ∈ h.erase a → b ∈ xs.map Prod.fst := by
        intro b hb
        obtain ⟨hba, hb⟩ := AList.mem_erase.mp hb
        exact (List.mem_cons.mp (howned b hb)).resolve_left hba
      obtain ⟨h', hflush, hdead⟩ := ih hs' hnodup howned'
        (Nat.le_of_succ_le_succ hn)
      refine ⟨h', ?_, hdead⟩
      simp only [flushLoop, hx, Option.bind_some, hflush, Option.map_some]
      cases hd : d.2 <;> simp [freedData, hd]

/-- No list has more elements than are live. -/
theorem Laid.length_le {l : ListState α} {xs : List (Addr × α × Bool)}
    (hl : Laid l xs) : xs.length ≤ l.heap.entries.length := by
  have hsub : xs.map Prod.fst ⊆ l.heap.keys :=
    fun a ha => AList.mem_keys.mp (hl.chain.live a ha)
  have hle := (hl.nodup.subperm hsub).length_le
  simpa [AList.keys, List.keys] using hle

/-- **FLUSH**: every element is freed, and the data with a function to free
    it is freed once. -/
theorem linkedListFlush_represents {l : ListState α} {q : List (α × Bool)}
    (h : Represents l q) :
    ∃ l', linkedListFlush l = some (.success, freedData q.reverse, l') ∧
      Represents l' [] ∧ ∀ a, a ∉ l'.heap := by
  obtain ⟨xs, hl, rfl⟩ := h
  -- as many turns as elements, and these are live and distinct
  obtain ⟨h', hflush, hdead⟩ :=
    flushLoop_laid hl.chain hl.nodup hl.owned hl.length_le
  refine ⟨⟨none, none, h'⟩, ?_, ⟨[], ⟨rfl, rfl, List.nodup_nil, ?_⟩, rfl⟩,
    hdead⟩
  · rw [List.reverse_reverse]
    simp only [linkedListFlush, hflush, Option.map_some]
  · intro a ha
    exact absurd ha (hdead a)

end QcomLinkedList
