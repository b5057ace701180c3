import QcomCommon.LinkedListProofs
import QcomCommon.SweepProofs
import Mathlib.Data.Fintype.EquivFin

/-! # Searching the linked list

    `linked_list_search` of `linked_list.c` hands the data of one element
    after the other to a callback, which may act while it looks, and stops at
    the first one it accepts; that element is unlinked and freed if the caller
    says so.

    On a list that is laid out in the heap the search has a result, and it is
    the visit of its elements (`linkedListSearch_laid`): what is left is laid
    out again. -/

namespace QcomLinkedList

open QcomSweep

variable {α W : Type}

/-! ## The code -/

/-- The element before `e`, or the head, passes it. -/
def passNext (l : ListState α) (e : ListElement α) : Option (ListState α) :=
  match e.prev with
  | none => some { l with pHead := e.next }
  | some p =>
      (update l.heap p (fun x => { x with next := e.next })).map
        (fun h => { l with heap := h })

/-- The element behind `e`, or the tail, passes it. -/
def passPrev (l : ListState α) (e : ListElement α) : Option (ListState α) :=
  match e.next with
  | none => some { l with pTail := e.prev }
  | some n =>
      (update l.heap n (fun x => { x with prev := e.prev })).map
        (fun h => { l with heap := h })

/-- The element `tmp`, with the contents `e`, is taken out and freed. -/
def unlink (l : ListState α) (tmp : Addr) (e : ListElement α) :
    Option (ListState α) :=
  (passNext l e).bind (fun l =>
    (passPrev l e).map (fun l => { l with heap := l.heap.erase tmp }))

/-- What a search gives: what it returns, the data it stores through `data_p`
    (`none` is `NULL`, or that nothing is stored), the data it frees, the list
    and the world of the callback. -/
structure SearchResult (α W : Type) where
  err : LinkedListErr
  data : Option α
  freed : List α
  list : ListState α
  world : W

/-- The loop of `linked_list_search` at `tmp`, for at most `n` turns.
    `data_p` says that the caller wants the data. -/
def searchLoop (equal : α → W → Bool × W) (data_p rm_if_found : Bool) :
    Nat → ListState α → Option Addr → W → Option (SearchResult α W)
  | _, l, none, w => some ⟨.success, none, [], l, w⟩
  | 0, _, some _, _ => none
  | n + 1, l, some tmp, w =>
      (l.heap.lookup tmp).bind (fun e =>
        match equal e.dataPtr w with
        | (true, w') =>
            if rm_if_found then
              (unlink l tmp e).map (fun l' =>
                ⟨.success, if data_p then some e.dataPtr else none,
                  if !data_p && e.deallocFunc then [e.dataPtr] else [],
                  l', w'⟩)
            else
              some ⟨.success, if data_p then some e.dataPtr else none, [], l,
                w'⟩
        | (false, w') => searchLoop equal data_p rm_if_found n l e.next w')

/-- `linked_list_search`; no list has more elements than are live. -/
def linkedListSearch (l : ListState α) (data_p : Bool)
    (equal : α → W → Bool × W) (rm_if_found : Bool) (w : W) :
    Option (SearchResult α W) :=
  match l.pTail with
  | none => some ⟨.unavailableResource, none, [], l, w⟩
  | some _ =>
      searchLoop equal data_p rm_if_found l.heap.entries.length l l.pHead w

/-! ## Unlinking -/

theorem lastAddr_append_cons (prev : Option Addr)
    (xs ys : List (Addr × α × Bool)) (x : Addr × α × Bool) :
    lastAddr prev (xs ++ x :: ys) = lastAddr (some x.1) ys := by
  induction xs generalizing prev with
  | nil => rfl
  | cons y xs ih => exact ih (some y.1)

/-- The last element of a chain gets another one behind it. -/
theorem Seg.set_next {h : Heap α} {prev first m n : Option Addr}
    {xs : List (Addr × α × Bool)} {p : Addr} {d : α × Bool}
    (hs : Seg h prev first (xs ++ [(p, d)]) m)
    (hp : p ∉ xs.map Prod.fst) :
    Seg (h.insert p ⟨n, lastAddr prev xs, d.1, d.2⟩) prev first
      (xs ++ [(p, d)]) n := by
  obtain ⟨m', hxs, rfl, -⟩ := seg_append.mp hs
  refine seg_append.mpr ⟨some p, hxs.frame ?_, rfl, n, ?_, rfl⟩
  · intro a ha
    exact AList.lookup_insert_ne (fun hap => hp (hap ▸ ha))
  · exact AList.lookup_insert h

/-- The first element of a chain gets another one before it. -/
theorem Seg.set_prev {h : Heap α} {prev first m : Option Addr}
    {xs : List (Addr × α × Bool)} {b : Addr} {d : α × Bool}
    (prev' : Option Addr) (hs : Seg h prev first ((b, d) :: xs) m) (hb : b ∉ xs.map Prod.fst) :
    ∃ n, h.lookup b = some ⟨n, prev, d.1, d.2⟩ ∧
      Seg (h.insert b ⟨n, prev', d.1, d.2⟩) prev' first ((b, d) :: xs) m := by
  obtain ⟨hf, n, hlook, hxs⟩ := hs
  refine ⟨n, hlook, hf, n, AList.lookup_insert h, hxs.frame ?_⟩
  intro a ha
  exact AList.lookup_insert_ne (fun hab => hb (hab ▸ ha))

/-- The chains before and behind an element `a`, which is passed on the way
    forward. -/
theorem passNext_laid {l : ListState α} {ys zs : List (Addr × α × Bool)}
    {a : Addr} {e : ListElement α}
    (hys : Seg l.heap none l.pHead ys (some a))
    (hzs : Seg l.heap (some a) e.next zs none)
    (hprev : e.prev = lastAddr none ys)
    (hnodup : (ys.map Prod.fst).Nodup)
    (hdisj : ∀ b ∈ ys.map Prod.fst, b ∉ zs.map Prod.fst) :
    ∃ l', passNext l e = some l' ∧ Seg l'.heap none l'.pHead ys e.next ∧
      Seg l'.heap (some a) e.next zs none ∧ l'.pTail = l.pTail ∧
      ∀ b, b ∈ l'.heap → b ∈ l.heap := by
  rcases List.eq_nil_or_concat ys with rfl | ⟨xs, ⟨p, d⟩, rfl⟩
  · exact ⟨{ l with pHead := e.next }, by rw [passNext, hprev]; rfl, rfl, hzs,
      rfl, fun b hb => hb⟩
  · rw [List.concat_eq_append] at hys hprev hnodup hdisj ⊢
    rw [lastAddr_concat] at hprev
    rw [List.map_append, List.map_singleton] at hnodup hdisj
    have hp : p ∉ xs.map Prod.fst := fun hmem =>
      (List.nodup_append.mp hnodup).2.2 p hmem p List.mem_cons_self rfl
    obtain ⟨m, -, -, n, hlook, -⟩ := seg_append.mp hys
    have hlive : p ∈ l.heap := AList.lookup_isSome.mp (by rw [hlook]; rfl)
    refine ⟨⟨l.pHead, l.pTail,
        l.heap.insert p ⟨e.next, lastAddr none xs, d.1, d.2⟩⟩, ?_,
      hys.set_next hp, hzs.frame ?_, rfl, ?_⟩
    · rw [passNext, hprev]
      simp only [update, hlook, Option.map_some]
    · intro b hb
      refine AList.lookup_insert_ne ?_
      rintro rfl
      exact hdisj b (List.mem_append_right _ List.mem_cons_self) hb
    · intro b hb
      rcases (AList.mem_insert _).mp hb with rfl | hb
      · exact hlive
      · exact hb

/-- And on the way back. -/
theorem passPrev_laid {l : ListState α} {ys zs : List (Addr × α × Bool)}
    {a : Addr} {d : α × Bool} {e : ListElement α}
    (hys : Seg l.heap none l.pHead ys e.next)
    (hzs : Seg l.heap (some a) e.next zs none)
    (hprev : e.prev = lastAddr none ys)
    (htail : l.pTail = lastAddr none (ys ++ (a, d) :: zs))
    (hnodup : (zs.map Prod.fst).Nodup)
    (hdisj : ∀ b ∈ ys.map Prod.fst, b ∉ zs.map Prod.fst) :
    ∃ l', passPrev l e = some l' ∧ Seg l'.heap none l'.pHead ys e.next ∧
      Seg l'.heap (lastAddr none ys) e.next zs none ∧
      l'.pTail = lastAddr none (ys ++ zs) ∧
      ∀ b, b ∈ l'.heap → b ∈ l.heap := by
  cases zs with
  | nil =>
      have hnext : e.next = none := hzs
      refine ⟨{ l with pTail := e.prev }, by rw [passPrev, hnext], hys, hnext,
        ?_, fun b hb => hb⟩
      rw [List.append_nil]
      exact hprev
  | cons z zs =>
      obtain ⟨b, db⟩ := z
      have hnext : e.next = some b := hzs.1
      obtain ⟨hb, -⟩ := List.nodup_cons.mp hnodup
      obtain ⟨n, hlook, hzs'⟩ := hzs.set_prev e.prev hb
      have hlive : b ∈ l.heap := AList.lookup_isSome.mp (by rw [hlook]; rfl)
      refine ⟨{ l with heap := l.heap.insert b ⟨n, e.prev, db.1, db.2⟩ }, ?_,
        hys.frame ?_, hprev ▸ hzs', ?_, ?_⟩
      · rw [passPrev, hnext]
        simp only [update, hlook, Option.map_some]
      · intro c hc
        refine AList.lookup_insert_ne ?_
        rintro rfl
        exact hdisj c hc List.mem_cons_self
      · show l.pTail = _
        rw [htail, lastAddr_append_cons, lastAddr_append_cons]
        rfl
      · intro c hc
        rcases (AList.mem_insert _).mp hc with rfl | hc
        · exact hlive
        · exact hc

/-- **UNLINK**: what is before and behind the element is the list. -/
theorem unlink_laid {l : ListState α} {ys zs : List (Addr × α × Bool)}
    {a : Addr} {d : α × Bool} (hl : Laid l (ys ++ (a, d) :: zs)) :
    ∃ e l', l.heap.lookup a = some e ∧ e.dataPtr = d.1 ∧ e.deallocFunc = d.2 ∧
      unlink l a e = some l' ∧ Laid l' (ys ++ zs) := by
  obtain ⟨m, hys, rfl, n, hlook, hzs⟩ := seg_append.mp hl.chain
  have hnodup := hl.nodup
  rw [List.map_append, List.map_cons] at hnodup
  obtain ⟨hndys, hndzs, hdisj⟩ := List.nodup_append.mp hnodup
  obtain ⟨hazs, hndzs⟩ := List.nodup_cons.mp hndzs
  have hays : a ∉ ys.map Prod.fst := fun ha =>
    hdisj a ha a List.mem_cons_self rfl
  have hdisj' : ∀ b ∈ ys.map Prod.fst, b ∉ zs.map Prod.fst := fun b hb hb' =>
    hdisj b hb b (List.mem_cons_of_mem _ hb') rfl
  obtain ⟨l₁, h₁, hys₁, hzs₁, htail₁, hlive₁⟩ := passNext_laid
    (e := ⟨n, lastAddr none ys, d.1, d.2⟩) hys hzs rfl hndys hdisj'
  obtain ⟨l₂, h₂, hys₂, hzs₂, htail₂, hlive₂⟩ := passPrev_laid (d := d) hys₁
    hzs₁ rfl (htail₁.trans hl.tail) hndzs hdisj'
  refine ⟨⟨n, lastAddr none ys, d.1, d.2⟩,
    { l₂ with heap := l₂.heap.erase a }, hlook, rfl, rfl, ?_, ?_⟩
  · rw [unlink, h₁, Option.bind_some, h₂, Option.map_some]
  · refine ⟨seg_append.mpr ⟨n, hys₂.frame ?_, hzs₂.frame ?_⟩, htail₂, ?_, ?_⟩
    · intro b hb
      exact AList.lookup_erase_ne (fun hba => hays (hba ▸ hb))
    · intro b hb
      exact AList.lookup_erase_ne (fun hba => hazs (hba ▸ hb))
    · rw [List.map_append]
      exact List.nodup_append.mpr ⟨hndys, hndzs,
        fun b hb c hc hbc => hdisj' b hb (hbc ▸ hc)⟩
    · intro b hb
      obtain ⟨hba, hb⟩ := AList.mem_erase.mp hb
      have hmem := hl.owned b (hlive₁ b (hlive₂ b hb))
      rw [List.map_append, List.mem_append, List.map_cons] at hmem
      rw [List.map_append, List.mem_append]
      rcases hmem with hmem | hmem
      · exact Or.inl hmem
      · exact Or.inr ((List.mem_cons.mp hmem).resolve_left hba)

/-! ## Searching -/

/-- The result of a search of the elements behind `ys` is that of the visit
    `v` of them. -/
structure Visited (data_p rm_if_found : Bool) (ys : List (Addr × α × Bool))
    (v : Option (Addr × α × Bool) × List (Addr × α × Bool) × W)
    (r : SearchResult α W) : Prop where
  data : r.data = if data_p then v.1.map (fun x => x.2.1) else none
  freed : r.freed = if rm_if_found && !data_p then
    freedData (v.1.map Prod.snd).toList else []
  list : Laid r.list (ys ++ v.2.1)
  world : r.world = v.2.2

/-- **THE LOOP** from an element on visits it and those behind it. -/
theorem searchLoop_visited (equal : α → W → Bool × W)
    (data_p rm_if_found : Bool) :
    ∀ (zs ys : List (Addr × α × Bool)) (n : Nat) (l : ListState α)
      (first : Option Addr) (w : W),
      Laid l (ys ++ zs) → Seg l.heap (lastAddr none ys) first zs none →
      zs.length ≤ n →
      ∃ r, searchLoop equal data_p rm_if_found n l first w = some r ∧
        Visited data_p rm_if_found ys
          (visit (fun x => equal x.2.1) rm_if_found zs w) r := by
  intro zs
  induction zs with
  | nil =>
      intro ys n l first w hl hs _
      obtain rfl : first = none := hs
      refine ⟨⟨.success, none, [], l, w⟩, by cases n <;> rfl, ?_, ?_, hl, rfl⟩
      · cases data_p <;> rfl
      · cases data_p <;> cases rm_if_found <;> rfl
  | cons z zs ih =>
      rintro ys n l first w hl ⟨rfl, nx, hlook, hs⟩ hn
      obtain ⟨a, d⟩ := z
      obtain ⟨n, rfl⟩ : ∃ k, n = k + 1 :=
        ⟨n - 1, by rw [List.length_cons] at hn; omega⟩
      rw [searchLoop, hlook, Option.bind_some, visit]
      rcases equal d.1 w with ⟨_ | _, w'⟩
      · -- refused: on to the next element
        have hl' : Laid l ((ys ++ [(a, d)]) ++ zs) := by
          rw [List.append_assoc]
          exact hl
        obtain ⟨r, hr, hv⟩ := ih (ys ++ [(a, d)]) n l nx w' hl'
          (by rw [lastAddr_concat]; exact hs) (Nat.le_of_succ_le_succ hn)
        refine ⟨r, hr, hv.data, hv.freed, ?_, hv.world⟩
        have hlist := hv.list
        rwa [List.append_assoc] at hlist
      · dsimp only
        cases rm_if_found with
        | false =>
            refine ⟨⟨.success, if data_p then some d.1 else none, [], l, w'⟩,
              rfl, ?_, rfl, hl, rfl⟩
            cases data_p <;> rfl
        | true =>
            obtain ⟨e, l', he, -, -, hunlink, hl'⟩ := unlink_laid hl
            obtain rfl := Option.some.inj (hlook.symm.trans he)
            rw [hunlink, Option.map_some]
            refine ⟨_, rfl, ?_, ?_, hl', rfl⟩
            · cases data_p <;> rfl
            · cases data_p <;> cases hd : d.2 <;> simp [freedData, hd]

/-- The loop answers success whatever it finds. -/
theorem searchLoop_err {equal : α → W → Bool × W} {data_p rm_if_found : Bool}
    {n : Nat} {l : ListState α} {first : Option Addr} {w : W}
    {r : SearchResult α W}
    (h : searchLoop equal data_p rm_if_found n l first w = some r) :
    r.err = .success := by
  induction n generalizing first w with
  | zero =>
      cases first with
      | none => exact Option.some.inj h ▸ rfl
      | some tmp => cases h
  | succ n ih =>
      cases first with
      | none => exact Option.some.inj h ▸ rfl
      | some tmp =>
          obtain ⟨e, -, h⟩ := Option.bind_eq_some_iff.mp h
          rcases heq : equal e.dataPtr w with ⟨_ | _, w'⟩
          · rw [heq] at h
            exact ih h
          · rw [heq] at h
            dsimp only at h
            split at h
            · obtain ⟨l', -, rfl⟩ := Option.map_eq_some_iff.mp h
              rfl
            · exact Option.some.inj h ▸ rfl

/-- **SEARCH**: on a list that is laid out it has a result, and this is the
    visit of its elements. -/
theorem linkedListSearch_laid {l : ListState α}
    {xs : List (Addr × α × Bool)} (hl : Laid l xs)
    (equal : α → W → Bool × W) (data_p rm_if_found : Bool) (w : W) :
    ∃ r, linkedListSearch l data_p equal rm_if_found w = some r ∧
      r.err = (if xs = [] then .unavailableResource else .success) ∧
      Visited data_p rm_if_found []
        (visit (fun x => equal x.2.1) rm_if_found xs w) r := by
  cases xs with
  | nil =>
      have htail : l.pTail = none := hl.tail
      refine ⟨⟨.unavailableResource, none, [], l, w⟩, ?_, rfl, ?_, ?_, hl, rfl⟩
      · rw [linkedListSearch, htail]
      · cases data_p <;> rfl
      · cases data_p <;> cases rm_if_found <;> rfl
  | cons x xs =>
      obtain ⟨r, hr, hv⟩ := searchLoop_visited equal data_p rm_if_found
        (x :: xs) [] l.heap.entries.length l l.pHead w hl hl.chain hl.length_le
      have htail : ∃ t, l.pTail = some t := by
        rw [hl.tail]
        rcases List.eq_nil_or_concat (x :: xs) with hnil | ⟨ys, ⟨t, d⟩, heq⟩
        · cases hnil
        · rw [heq, List.concat_eq_append, lastAddr_concat]
          exact ⟨t, rfl⟩
      obtain ⟨t, htail⟩ := htail
      refine ⟨r, ?_, searchLoop_err hr, hv⟩
      rw [linkedListSearch, htail]
      exact hr

/-- The list holds the data `q`, from the head to the tail. -/
def Holds (l : ListState α) (q : List α) : Prop :=
  ∃ xs, Laid l xs ∧ q = xs.map (fun x => x.2.1)

/-- What the list holds is the queue, the newest first. -/
theorem Represents.holds {l : ListState α} {q : List (α × Bool)}
    (h : Represents l q) : Holds l (q.reverse.map Prod.fst) := by
  obtain ⟨xs, hl, rfl⟩ := h
  refine ⟨xs, hl, ?_⟩
  rw [List.reverse_reverse, List.map_map]
  rfl

/-- Every queue is held by some list. -/
theorem exists_holds (q : List α) : ∃ l : ListState α, Holds l q := by
  suffices h : ∃ l : ListState α, Represents l (q.map (·, true)).reverse by
    obtain ⟨l, hl⟩ := h
    refine ⟨l, ?_⟩
    have hq := hl.holds
    rwa [List.reverse_reverse, List.map_map,
      show Prod.fst ∘ (fun d : α => (d, true)) = id from rfl,
      List.map_id] at hq
  induction q with
  | nil => exact ⟨_, represents_init⟩
  | cons d q ih =>
      obtain ⟨l, hl⟩ := ih
      obtain ⟨a, ha⟩ := Infinite.exists_notMem_finset l.heap.keys.toFinset
      obtain ⟨l', -, hl'⟩ := linkedListAdd_represents d true hl
        (fun hmem => ha (List.mem_toFinset.mpr hmem))
      rw [← List.reverse_cons] at hl'
      exact ⟨l', hl'⟩

/-- It is the visit of the data the list holds. -/
theorem linkedListSearch_holds {l : ListState α} {q : List α}
    (h : Holds l q) (equal : α → W → Bool × W) (data_p rm_if_found : Bool)
    (w : W) :
    ∃ r, linkedListSearch l data_p equal rm_if_found w = some r ∧
      r.data = (if data_p then (visit equal rm_if_found q w).1 else none) ∧
      Holds r.list (visit equal rm_if_found q w).2.1 ∧
      r.world = (visit equal rm_if_found q w).2.2 ∧
      (rm_if_found = false ∨ data_p = true → r.freed = []) := by
  obtain ⟨xs, hl, rfl⟩ := h
  rw [visit_map]
  obtain ⟨r, hr, -, hv⟩ := linkedListSearch_laid hl equal data_p rm_if_found w
  refine ⟨r, hr, hv.data, ⟨_, hv.list, rfl⟩, hv.world, ?_⟩
  intro hkeep
  rw [hv.freed]
  rcases hkeep with rfl | rfl
  · rfl
  · rw [Bool.not_true, Bool.and_false]
    rfl

end QcomLinkedList
