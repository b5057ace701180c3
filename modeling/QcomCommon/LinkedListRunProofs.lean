import Mathlib.Data.List.Induction
import QcomCommon.LinkedListSearchProofs

/-! # Runs of the linked list

    Any calls of `linked_list.c`, one after the other: the list behaves as a
    sequence of the elements, the newest first, whose elements remember how
    they left it.

    An element is known by the number of the call that added it, which its
    data carries and the code does not look at.  The function to free the
    data is called once for each element that is flushed, or found without a
    pointer to store its data, and for no other (`linkedList_refines`). -/

namespace QcomLinkedList

open QcomSweep

variable {α : Type}

/-! ## Calls -/

/-- The data of an element, and the number of the call that added it. -/
structure Added (α : Type) where
  serial : Nat
  data : α

/-- A call; `true` for `data_obj` and `data_p` is a pointer that is not
    `NULL`. -/
inductive ListOp (α : Type) where
  | add (data_obj : Option α) (dealloc : Bool)
  | remove (data_obj : Bool)
  | search (equal : α → Bool) (data_p rm_if_found : Bool)
  | flush

/-- `malloc`, for each call: an element that is not live, or none. -/
structure Malloc (α : Type) where
  alloc : Nat → Heap (Added α) → Option Addr
  fresh : ∀ n h a, alloc n h = some a → a ∉ h

/-- The list after some calls: what each answered, and the data that the
    functions to free it were called with. -/
structure ListRun (α : Type) where
  list : ListState (Added α)
  calls : Nat
  answers : List (LinkedListErr × Option (Added α))
  deallocs : List (Added α)

/-- No call was made. -/
def ListRun.start : ListRun α := ⟨linkedListInit, 0, [], []⟩

/-- After a call. -/
def ListRun.answered (r : ListRun α) (err : LinkedListErr)
    (data : Option (Added α)) (freed : List (Added α))
    (list : ListState (Added α)) : ListRun α :=
  ⟨list, r.calls + 1, r.answers ++ [(err, data)], r.deallocs ++ freed⟩

/-- One call. -/
def runOp (malloc : Malloc α) (r : ListRun α) :
    ListOp α → Option (ListRun α)
  | .add data_obj dealloc =>
      (linkedListAdd r.list (data_obj.map (⟨r.calls, ·⟩)) dealloc
        (malloc.alloc r.calls r.list.heap)).map
          (fun p => r.answered p.1 none [] p.2)
  | .remove true =>
      (linkedListRemove r.list).map
        (fun p => r.answered p.1 p.2.1 [] p.2.2)
  | .remove false => some (r.answered .invalidParameter none [] r.list)
  | .search equal data_p rm_if_found =>
      (linkedListSearch r.list data_p (fun e w => (equal e.data, w))
        rm_if_found ()).map
          (fun p => r.answered p.err p.data p.freed p.list)
  | .flush =>
      (linkedListFlush r.list).map
        (fun p => r.answered p.1 none p.2.1 p.2.2)

/-- Any calls. -/
def runOps (malloc : Malloc α) : ListRun α → List (ListOp α) →
    Option (ListRun α)
  | r, [] => some r
  | r, op :: ops => (runOp malloc r op).bind (fun r' => runOps malloc r' ops)

/-- For each call, whether `malloc` finds an element in it. -/
def memoryOf (malloc : Malloc α) : ListRun α → List (ListOp α) → List Bool
  | _, [] => []
  | r, op :: ops =>
      (malloc.alloc r.calls r.list.heap).isSome ::
        (runOp malloc r op).elim [] (fun r' => memoryOf malloc r' ops)

/-! ## The sequence -/

/-- How an element leaves. -/
inductive Departure where
  | removed
  | searched (data_p : Bool)
  | flushed
deriving DecidableEq, Repr

/-- The elements in the list, the newest first, with whether they have a
    function to free their data; and those that left, how. -/
structure Sequence (α : Type) where
  elements : List (Added α × Bool)
  calls : Nat
  answers : List (LinkedListErr × Option (Added α))
  departed : List (Departure × Added α × Bool)

/-- Nothing was added. -/
def Sequence.start : Sequence α := ⟨[], 0, [], []⟩

/-- After a call, with the elements that left in it. -/
def Sequence.answered (s : Sequence α) (err : LinkedListErr)
    (data : Option (Added α)) (how : Departure)
    (leaving elements : List (Added α × Bool)) : Sequence α :=
  ⟨elements, s.calls + 1, s.answers ++ [(err, data)],
    s.departed ++ leaving.map (fun x => (how, x))⟩

/-- One call, on the sequence; `memory` says that there was some. -/
def Sequence.op (s : Sequence α) (memory : Bool) : ListOp α → Sequence α
  | .add none _ => s.answered .invalidParameter none .removed [] s.elements
  | .add (some d) dealloc =>
      if memory then
        s.answered .success none .removed []
          ((⟨s.calls, d⟩, dealloc) :: s.elements)
      else s.answered .failureGeneral none .removed [] s.elements
  | .remove false => s.answered .invalidParameter none .removed [] s.elements
  | .remove true =>
      if s.elements = [] then
        s.answered .unavailableResource none .removed [] s.elements
      else
        s.answered .success (s.elements.getLast?.map Prod.fst) .removed
          s.elements.getLast?.toList s.elements.dropLast
  | .search equal data_p rm_if_found =>
      let found := s.elements.find? (fun x => equal x.1.data)
      s.answered
        (if s.elements = [] then .unavailableResource else .success)
        (if data_p then found.map Prod.fst else none) (.searched data_p)
        (if rm_if_found then found.toList else [])
        (if rm_if_found then s.elements.eraseP (fun x => equal x.1.data)
          else s.elements)
  | .flush => s.answered .success none .flushed s.elements []

/-- Calls, each with whether there was memory. -/
def Sequence.ops (s : Sequence α) (calls : List (ListOp α × Bool)) :
    Sequence α :=
  calls.foldl (fun s c => s.op c.2 c.1) s

/-- The function to free its data is called for an element that left so. -/
def Departure.deallocates : Departure → Bool
  | .removed => false
  | .searched data_p => !data_p
  | .flushed => true

/-- The elements whose data is freed, in order. -/
def Sequence.freed (s : Sequence α) : List (Added α) :=
  (s.departed.filter (fun d => d.1.deallocates && d.2.2)).map (fun d => d.2.1)

/-! ## Simulation -/

/-- The calls on the code are those on the sequence. -/
structure Simulates (r : ListRun α) (s : Sequence α) : Prop where
  list : Represents r.list s.elements.reverse
  calls : r.calls = s.calls
  answers : r.answers = s.answers
  deallocs : r.deallocs = s.freed

/-- The list and the sequence are alike before any call. -/
theorem simulates_start : Simulates (ListRun.start : ListRun α) .start :=
  ⟨represents_init, rfl, rfl, rfl⟩

/-- What a call frees is the data that leaves in it, where it is deallocated. -/
theorem freed_answered (s : Sequence α) (err : LinkedListErr)
    (data : Option (Added α)) (how : Departure)
    (leaving elements : List (Added α × Bool)) :
    (s.answered err data how leaving elements).freed
      = s.freed ++ if how.deallocates then freedData leaving else [] := by
  rw [Sequence.freed, Sequence.answered, List.filter_append, List.map_append,
    List.filter_map, List.map_map]
  congr 1
  cases hdealloc : how.deallocates with
  | true =>
      have hpred : (fun d : Departure × Added α × Bool =>
          d.1.deallocates && d.2.2) ∘ (fun x => (how, x)) = Prod.snd := by
        funext x
        show (how.deallocates && x.2) = x.2
        rw [hdealloc, Bool.true_and]
      rw [hpred]
      rfl
  | false =>
      have hpred : (fun d : Departure × Added α × Bool =>
          d.1.deallocates && d.2.2) ∘ (fun x => (how, x)) = fun _ => false := by
        funext x
        show (how.deallocates && x.2) = false
        rw [hdealloc, Bool.false_and]
      rw [hpred, List.filter_false]
      rfl

/-- List and sequence stay alike behind a call with the same answer, if the
    list stands for the elements that stay. -/
theorem Simulates.answered {r : ListRun α} {s : Sequence α}
    (h : Simulates r s) (err : LinkedListErr) (data : Option (Added α))
    (how : Departure) (leaving : List (Added α × Bool))
    {elements : List (Added α × Bool)} {freed : List (Added α)}
    {list : ListState (Added α)} (hlist : Represents list elements.reverse)
    (hfreed : freed = if how.deallocates then freedData leaving else []) :
    Simulates (r.answered err data freed list)
      (s.answered err data how leaving elements) := by
  refine ⟨hlist, congrArg (· + 1) h.calls, ?_, ?_⟩
  · show r.answers ++ _ = s.answers ++ _
    rw [h.answers]
  · rw [freed_answered, ← hfreed, ← h.deallocs]
    rfl

/-- A search is the search of the sequence. -/
theorem runOp_search {malloc : Malloc α} {r : ListRun α} {s : Sequence α}
    (h : Simulates r s) (equal : α → Bool) (data_p rm_if_found memory : Bool) :
    ∃ r', runOp malloc r (.search equal data_p rm_if_found) = some r' ∧
      Simulates r' (s.op memory (.search equal data_p rm_if_found)) := by
  obtain ⟨xs, hl, hxs⟩ := h.list
  have helements : s.elements = xs.map Prod.snd := List.reverse_injective hxs
  obtain ⟨p, hp, herr, hv⟩ := linkedListSearch_laid hl
    (fun e (w : Unit) => (equal e.data, w)) data_p rm_if_found ()
  have hanswers : ∀ (x : Addr × Added α × Bool) (w : Unit),
      ((fun x (w : Unit) => (equal x.2.1.data, w)) x w).1
        = equal x.2.1.data := fun _ _ => rfl
  have hfind := visit_find hanswers rm_if_found xs ()
  have herase := visit_eraseP hanswers rm_if_found xs ()
  have hfound : s.elements.find? (fun x => equal x.1.data)
      = (xs.find? (fun x => equal x.2.1.data)).map Prod.snd := by
    rw [helements, List.find?_map]
    rfl
  refine ⟨r.answered p.err p.data p.freed p.list, by rw [runOp, hp]; rfl, ?_⟩
  have herr' : p.err = if s.elements = [] then .unavailableResource
      else .success := by
    rw [herr, helements]
    simp only [List.map_eq_nil_iff]
  have hdata : p.data = if data_p then (s.elements.find?
      (fun x => equal x.1.data)).map Prod.fst else none := by
    rw [hv.data, hfind, hfound, Option.map_map]
    rfl
  rw [herr', hdata]
  refine h.answered _ _ _ _ ⟨_, hv.list, ?_⟩ ?_
  · rw [List.nil_append, herase]
    cases rm_if_found with
    | false => exact hxs
    | true =>
        show (s.elements.eraseP _).reverse = _
        rw [helements, List.eraseP_map]
        rfl
  · rw [hv.freed, hfind, hfound]
    cases rm_if_found with
    | false => cases data_p <;> rfl
    | true => cases data_p <;> rfl

/-- **ONE CALL** has a result, and does to the list what it does to the
    sequence when `malloc` answers as it does in the call. -/
theorem runOp_simulates (malloc : Malloc α) {r : ListRun α} {s : Sequence α}
    (h : Simulates r s) (op : ListOp α) :
    ∃ r', runOp malloc r op = some r' ∧
      Simulates r' (s.op (malloc.alloc r.calls r.list.heap).isSome op) := by
  cases op with
  | add data_obj dealloc =>
      cases data_obj with
      | none => exact ⟨_, rfl, h.answered _ _ .removed [] h.list rfl⟩
      | some d =>
          cases halloc : malloc.alloc r.calls r.list.heap with
          | none =>
              refine ⟨r.answered .failureGeneral none [] r.list, ?_,
                h.answered _ _ .removed [] h.list rfl⟩
              rw [runOp, halloc]
              rfl
          | some a =>
              obtain ⟨l', hadd, hl'⟩ := linkedListAdd_represents ⟨r.calls, d⟩
                dealloc h.list (malloc.fresh _ _ _ halloc)
              refine ⟨r.answered .success none [] l', ?_, ?_⟩
              · rw [runOp, halloc, Option.map_some, hadd]
                rfl
              · refine h.answered .success none .removed []
                  ?_ rfl
                rw [List.reverse_cons, ← h.calls]
                exact hl'
  | remove data_obj =>
      cases data_obj with
      | false => exact ⟨_, rfl, h.answered _ _ .removed [] h.list rfl⟩
      | true =>
          rcases List.eq_nil_or_concat s.elements with hnil | ⟨q, d, hcons⟩
          · have hlist := h.list
            rw [hnil] at hlist
            refine ⟨r.answered .unavailableResource none [] r.list, ?_, ?_⟩
            · rw [runOp, linkedListRemove_nil hlist]
              rfl
            · rw [Sequence.op, if_pos hnil]
              exact h.answered _ _ .removed [] h.list rfl
          · rw [List.concat_eq_append] at hcons
            have hlist := h.list
            rw [hcons, List.reverse_append, List.reverse_singleton] at hlist
            obtain ⟨l', hremove, hl'⟩ := linkedListRemove_represents hlist
            refine ⟨r.answered .success (some d.1) [] l',
              by rw [runOp, hremove]; rfl, ?_⟩
            have hne : s.elements ≠ [] := by
              rw [hcons]
              exact List.append_ne_nil_of_right_ne_nil _ (List.cons_ne_nil d [])
            rw [Sequence.op, if_neg hne, hcons, List.getLast?_concat,
              List.dropLast_concat]
            exact h.answered _ _ .removed _ hl' rfl
  | search equal data_p rm_if_found =>
      exact runOp_search h equal data_p rm_if_found _
  | flush =>
      obtain ⟨l', hflush, hl', -⟩ := linkedListFlush_represents h.list
      rw [List.reverse_reverse] at hflush
      refine ⟨r.answered .success none (freedData s.elements) l',
        by rw [runOp, hflush]; rfl, ?_⟩
      exact h.answered _ _ .flushed s.elements hl' rfl

/-- **ANY CALLS**. -/
theorem runOps_simulates (malloc : Malloc α) (ops : List (ListOp α))
    {r : ListRun α} {s : Sequence α} (h : Simulates r s) :
    ∃ r', runOps malloc r ops = some r' ∧
      (memoryOf malloc r ops).length = ops.length ∧
      Simulates r' (s.ops (ops.zip (memoryOf malloc r ops))) := by
  induction ops generalizing r s with
  | nil => exact ⟨r, rfl, rfl, h⟩
  | cons op ops ih =>
      obtain ⟨r₁, hone, h₁⟩ := runOp_simulates malloc h op
      obtain ⟨r', hrest, hlen, h'⟩ := ih h₁
      have hmemory : memoryOf malloc r (op :: ops)
          = (malloc.alloc r.calls r.list.heap).isSome ::
            memoryOf malloc r₁ ops := by
        rw [memoryOf, hone]
        rfl
      refine ⟨r', ?_, ?_, ?_⟩
      · rw [runOps, hone, Option.bind_some, hrest]
      · rw [hmemory, List.length_cons, hlen, List.length_cons]
      · rw [hmemory]
        exact h'

/-! ## The two directions -/

/-- Follow a pointer of the elements, for as many as are live. -/
def walk (along : ListElement α → Option Addr) (h : Heap α) :
    Nat → Option Addr → Option (List (Addr × α × Bool))
  | _, none => some []
  | 0, some _ => none
  | n + 1, some a =>
      (h.lookup a).bind (fun e => (walk along h n (along e)).map
        (fun xs => (a, e.dataPtr, e.deallocFunc) :: xs))

/-- From the head by `next`. -/
def forward (l : ListState α) : Option (List (Addr × α × Bool)) :=
  walk ListElement.next l.heap l.heap.entries.length l.pHead

/-- From the tail by `prev`. -/
def backward (l : ListState α) : Option (List (Addr × α × Bool)) :=
  walk ListElement.prev l.heap l.heap.entries.length l.pTail

/-- The elements are met in their order from the head on. -/
theorem walk_forward {h : Heap α} {xs : List (Addr × α × Bool)} {n : Nat}
    {prev first : Option Addr} (hs : Seg h prev first xs none)
    (hn : xs.length ≤ n) : walk ListElement.next h n first = some xs := by
  induction xs generalizing n prev first with
  | nil =>
      obtain rfl : first = none := hs
      cases n <;> rfl
  | cons x xs ih =>
      obtain ⟨rfl, nx, hx, hs⟩ := hs
      obtain ⟨n, rfl⟩ : ∃ k, n = k + 1 :=
        ⟨n - 1, by rw [List.length_cons] at hn; omega⟩
      rw [walk, hx, Option.bind_some, ih hs (Nat.le_of_succ_le_succ hn)]
      rfl

/-- They are met in the reverse order from the tail on. -/
theorem walk_backward {h : Heap α} {xs : List (Addr × α × Bool)} {n : Nat}
    {first next : Option Addr} (hs : Seg h none first xs next)
    (hn : xs.length ≤ n) :
    walk ListElement.prev h n (lastAddr none xs) = some xs.reverse := by
  induction xs using List.reverseRecOn generalizing n next with
  | nil => cases n <;> rfl
  | append_singleton xs x ih =>
      rw [List.length_append, List.length_singleton] at hn
      obtain ⟨m, hxs, rfl, nx, hx, -⟩ := seg_append.mp hs
      obtain ⟨n, rfl⟩ : ∃ k, n = k + 1 := ⟨n - 1, by omega⟩
      rw [lastAddr_concat, walk, hx, Option.bind_some,
        ih hxs (Nat.le_of_succ_le_succ hn), List.reverse_append]
      rfl

/-- The two directions agree, and give these elements. -/
structure WellFormed (l : ListState α) (elements : List (α × Bool)) : Prop where
  traversals : ∃ xs, forward l = some xs ∧ backward l = some xs.reverse ∧
    xs.map Prod.snd = elements
  ends : l.pHead = none ↔ l.pTail = none

/-- A list that is laid out can be walked both ways. -/
theorem Laid.wellFormed {l : ListState α} {xs : List (Addr × α × Bool)}
    (hl : Laid l xs) : WellFormed l (xs.map Prod.snd) := by
  refine ⟨⟨xs, walk_forward hl.chain hl.length_le, ?_, rfl⟩, ?_⟩
  · rw [backward, hl.tail]
    exact walk_backward hl.chain hl.length_le
  · rcases List.eq_nil_or_concat xs with rfl | ⟨ys, y, rfl⟩
    · have hhead : l.pHead = none := hl.chain
      have htail : l.pTail = none := hl.tail
      rw [hhead, htail]
    · have hchain := hl.chain
      rw [List.concat_eq_append] at hchain
      have htail : l.pTail = some y.1 := by
        rw [hl.tail, List.concat_eq_append]
        exact lastAddr_concat none ys y.1 y.2
      have hhead : ∃ a, l.pHead = some a := by
        cases ys with
        | nil => exact ⟨_, hchain.1⟩
        | cons z ys => exact ⟨_, hchain.1⟩
      obtain ⟨a, hhead⟩ := hhead
      rw [hhead, htail]
      exact ⟨fun h => (by cases h), fun h => (by cases h)⟩

/-! ## Every element once -/

/-- The elements that were added. -/
def Sequence.all (s : Sequence α) : List (Added α) :=
  s.elements.map Prod.fst ++ s.departed.map (fun d => d.2.1)

/-- No two elements have the same number, and all are of calls before. -/
structure Sequence.Numbered (s : Sequence α) : Prop where
  nodup : (s.all.map Added.serial).Nodup
  before : ∀ e ∈ s.all, e.serial < s.calls

/-- A call that only moves elements keeps them numbered. -/
theorem Sequence.Numbered.of_perm {s s' : Sequence α} (h : s.Numbered)
    (hperm : s'.all.Perm s.all) (hcalls : s'.calls = s.calls + 1) :
    s'.Numbered := by
  refine ⟨(hperm.map Added.serial).nodup_iff.mpr h.nodup, fun e he => ?_⟩
  have hlt := h.before e (hperm.mem_iff.mp he)
  omega

/-- So does one in which some of them leave. -/
theorem Sequence.Numbered.answered {s : Sequence α} (h : s.Numbered)
    (err : LinkedListErr) (data : Option (Added α)) (how : Departure)
    {leaving elements : List (Added α × Bool)}
    (hperm : (leaving ++ elements).Perm s.elements) :
    (s.answered err data how leaving elements).Numbered := by
  refine h.of_perm ?_ rfl
  have hleft : (leaving.map (fun x => (how, x))).map
      (fun d : Departure × Added α × Bool => d.2.1) = leaving.map Prod.fst := by
    rw [List.map_map]
    rfl
  have hswap : (elements.map Prod.fst
      ++ (s.departed.map (fun d => d.2.1) ++ leaving.map Prod.fst)).Perm
      ((leaving ++ elements).map Prod.fst
        ++ s.departed.map (fun d => d.2.1)) := by
    rw [List.map_append, ← List.append_assoc]
    exact List.perm_append_comm.trans (List.append_assoc _ _ _ ▸ List.Perm.refl _)
  show (elements.map Prod.fst ++ (s.departed
    ++ leaving.map (fun x => (how, x))).map (fun d => d.2.1)).Perm _
  rw [List.map_append, hleft]
  exact hswap.trans ((hperm.map Prod.fst).append_right _)

/-- What is found, with what is left, is the list. -/
theorem find_eraseP_perm (p : α → Bool) (l : List α) :
    ((l.find? p).toList ++ l.eraseP p).Perm l := by
  induction l with
  | nil => exact List.Perm.refl _
  | cons a l ih =>
      rw [List.find?_cons, List.eraseP_cons]
      cases p a with
      | true => exact List.Perm.refl _
      | false => exact List.perm_middle.trans (ih.cons a)

/-- Every call keeps the elements numbered. -/
theorem Sequence.Numbered.op {s : Sequence α} (h : s.Numbered) (memory : Bool)
    (call : ListOp α) : (s.op memory call).Numbered := by
  cases call with
  | add data_obj dealloc =>
      cases data_obj with
      | none => exact h.answered _ _ _ (List.Perm.refl _)
      | some d =>
          cases memory with
          | false => exact h.answered _ _ _ (List.Perm.refl _)
          | true =>
              have hall : (s.op true (.add (some d) dealloc)).all
                  = ⟨s.calls, d⟩ :: s.all := by
                show _ :: s.elements.map Prod.fst
                  ++ (s.departed ++ []).map _ = _
                rw [List.append_nil]
                rfl
              refine ⟨?_, fun e he => ?_⟩
              · rw [hall, List.map_cons]
                refine List.nodup_cons.mpr ⟨fun hmem => ?_, h.nodup⟩
                obtain ⟨e, he, heq⟩ := List.mem_map.mp hmem
                exact absurd (h.before e he) (by rw [heq]; exact Nat.lt_irrefl _)
              · rw [hall] at he
                show e.serial < s.calls + 1
                rcases List.mem_cons.mp he with rfl | he
                · exact Nat.lt_succ_self s.calls
                · exact Nat.lt_succ_of_lt (h.before e he)
  | remove data_obj =>
      cases data_obj with
      | false => exact h.answered _ _ _ (List.Perm.refl _)
      | true =>
          rw [Sequence.op]
          split
          · exact h.answered _ _ _ (List.Perm.refl _)
          · rename_i hne
            refine h.answered _ _ _ ?_
            rcases List.eq_nil_or_concat s.elements with hnil | ⟨q, d, hcons⟩
            · exact absurd hnil hne
            · rw [List.concat_eq_append] at hcons
              rw [hcons, List.getLast?_concat, List.dropLast_concat]
              exact List.perm_append_comm
  | search equal data_p rm_if_found =>
      refine h.answered _ _ _ ?_
      cases rm_if_found with
      | false => exact List.Perm.refl _
      | true => exact find_eraseP_perm _ s.elements
  | flush => exact h.answered _ _ _ (by rw [List.append_nil])

/-- So does every list of calls. -/
theorem Sequence.Numbered.ops {s : Sequence α} (h : s.Numbered)
    (calls : List (ListOp α × Bool)) : (s.ops calls).Numbered := by
  induction calls generalizing s with
  | nil => exact h
  | cons c calls ih => exact ih (h.op c.2 c.1)

theorem Sequence.Numbered.start : (Sequence.start : Sequence α).Numbered :=
  ⟨List.nodup_nil, fun _ h => absurd h List.not_mem_nil⟩

/-- The data of an element is freed once if it left in a way that frees it, and
    not at all otherwise. -/
theorem Sequence.Numbered.count_freed {s : Sequence α} (h : s.Numbered)
    (n : Nat) :
    (s.freed.map Added.serial).count n
      = if ∃ d ∈ s.departed, d.2.1.serial = n ∧ d.2.2 = true ∧
          (d.1 = .flushed ∨ d.1 = .searched false) then 1 else 0 := by
  have hsub : (s.freed.map Added.serial).Sublist
      (s.all.map Added.serial) := by
    refine List.Sublist.map _ ?_
    refine List.Sublist.trans ?_ (List.sublist_append_right _ _)
    exact List.Sublist.map _ List.filter_sublist
  have hhow : ∀ how : Departure, how.deallocates = true ↔
      how = .flushed ∨ how = .searched false := by
    intro how
    cases how with
    | removed => simp [Departure.deallocates]
    | searched data_p => cases data_p <;> simp [Departure.deallocates]
    | flushed => simp [Departure.deallocates]
  have hmem : n ∈ s.freed.map Added.serial ↔
      ∃ d ∈ s.departed, d.2.1.serial = n ∧ d.2.2 = true ∧
        (d.1 = .flushed ∨ d.1 = .searched false) := by
    rw [Sequence.freed, List.map_map, List.mem_map]
    refine exists_congr (fun d => ?_)
    rw [List.mem_filter, Bool.and_eq_true, hhow]
    constructor
    · rintro ⟨⟨hd, hleft, hdealloc⟩, hn⟩
      exact ⟨hd, hn, hdealloc, hleft⟩
    · rintro ⟨hd, hn, hdealloc, hleft⟩
      exact ⟨⟨hd, hleft, hdealloc⟩, hn⟩
  rw [(h.nodup.sublist hsub).count]
  exact if_congr hmem rfl rfl

/-- **THE LINKED LIST IS A SEQUENCE**: any calls have results, which are those
    of the sequence, where an element is added just if `malloc` finds one; the
    list is well formed and has the sequence's elements in both directions;
    and the function to free its data is called once for an element with one
    that was flushed, or found without a pointer to store its data, and for no
    other. -/
theorem linkedList_refines (malloc : Malloc α) (ops : List (ListOp α)) :
    ∃ r, runOps malloc .start ops = some r ∧
      (memoryOf malloc .start ops).length = ops.length ∧
      let s := Sequence.start.ops (ops.zip (memoryOf malloc .start ops))
      WellFormed r.list s.elements ∧ r.answers = s.answers ∧
      r.deallocs = s.freed ∧
      ∀ n, (r.deallocs.map Added.serial).count n
        = if ∃ d ∈ s.departed, d.2.1.serial = n ∧ d.2.2 = true ∧
            (d.1 = .flushed ∨ d.1 = .searched false) then 1 else 0 := by
  obtain ⟨r, hrun, hlen, hsim⟩ := runOps_simulates malloc ops simulates_start
  have hnumbered := Sequence.Numbered.start.ops
    (ops.zip (memoryOf malloc .start ops))
  obtain ⟨xs, hl, hxs⟩ := hsim.list
  refine ⟨r, hrun, hlen, ?_, hsim.answers, hsim.deallocs, fun n => ?_⟩
  · rw [List.reverse_injective hxs]
    exact hl.wellFormed
  · rw [hsim.deallocs]
    exact hnumbered.count_freed n

/-- An element for every call, under its number. -/
def mallocNext : Malloc α where
  alloc n h := if (h.lookup n).isSome then none else some n
  fresh n h a ha := by
    by_cases hn : (h.lookup n).isSome
    · rw [if_pos hn] at ha
      cases ha
    · rw [if_neg hn] at ha
      obtain rfl := Option.some.inj ha
      exact fun hmem => hn (AList.lookup_isSome.mpr hmem)

/-- Three elements are added; the second is found and removed without a
    pointer, the oldest is taken, and the newest, which has no function to
    free it, is flushed after one more. -/
theorem linkedList_refines_three :
    ∃ r, runOps mallocNext .start
        [.add (some 10) true, .add (some 20) true, .add (some 30) false,
          .search (· == 20) false true, .remove true, .add (some 40) true,
          .flush, .remove true] = some r ∧
      r.answers = [(.success, none), (.success, none), (.success, none),
        (.success, none), (.success, some ⟨0, 10⟩), (.success, none),
        (.success, none), (.unavailableResource, none)] ∧
      r.deallocs = [⟨1, 20⟩, ⟨5, 40⟩] := by
  obtain ⟨r, hrun, -, -, hanswers, hdeallocs, -⟩ :=
    linkedList_refines mallocNext
      [.add (some 10) true, .add (some 20) true, .add (some 30) false,
        .search (· == 20) false true, .remove true, .add (some 40) true,
        .flush, .remove true]
  exact ⟨r, hrun, hanswers.trans (by rfl), hdeallocs.trans (by rfl)⟩

end QcomLinkedList
