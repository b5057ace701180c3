import QcomCommon.LinkedListProofs

/-! # The message queue

    `msg_q.c`: a linked list under a mutex, with a flag that ends its use.
    Every definition here is a section that runs with `list_mutex` held.
    `msg_q_rcv` gives the mutex back while it waits, so it is two sections:
    the entry, and the test of the loop with what follows it.

    A handle that is NULL is `none`.  As for the list, a section that would
    follow a pointer to what is not live has no result. -/

namespace QcomMsgTask

open QcomLinkedList

/-- What the functions of the queue answer. -/
inductive MsgQErr
  | success | failureGeneral | invalidParameter | invalidHandle
  | unavailableResource | insufficientBuffer
deriving DecidableEq, Repr

/-- The answer of the list as the queue gives it. -/
def convertLinkedListErrType : LinkedListErr → MsgQErr
  | .success => .success
  | .invalidParameter => .invalidParameter
  | .invalidHandle => .invalidHandle
  | .unavailableResource => .unavailableResource
  | .insufficientBuffer => .insufficientBuffer
  | .failureGeneral => .failureGeneral

/-- A message queue; its lock is held in every call. -/
structure MsgQ (α : Type) where
  msgList : ListState α
  unblocked : Bool

variable {α : Type}

/-- `msg_q_init`, where memory for it is found. -/
def msgQInit : MsgQ α := ⟨linkedListInit, false⟩

/-- `msg_q_snd`. -/
def msgQSnd (msgQ : Option (MsgQ α)) (msg : Option α) (dealloc : Bool)
    (elem : Option Addr) : Option (MsgQErr × Option (MsgQ α)) :=
  match msgQ, msg with
  | none, _ => some (.invalidHandle, none)
  | some q, none => some (.invalidParameter, some q)
  | some q, some m =>
      if q.unblocked then some (.unavailableResource, some q)
      else
        (linkedListAdd q.msgList (some m) dealloc elem).map (fun (r, l) =>
          (convertLinkedListErrType r, some { q with msgList := l }))

/-- How a section of `msg_q_rcv` ends: in the wait, or with its result. -/
inductive Rcv (α : Type)
  | wait
  | done (rv : MsgQErr) (msg : Option α) (q : Option (MsgQ α))

/-- The loop of `msg_q_rcv`, from a test of its condition. -/
def rcvLoop (q : MsgQ α) : Option (Rcv α) :=
  if linkedListEmpty q.msgList && !q.unblocked then some .wait
  else
    (linkedListRemove q.msgList).map (fun (r, d, l) =>
      .done (convertLinkedListErrType r) d (some { q with msgList := l }))

/-- `msg_q_rcv` from its entry. -/
def msgQRcv : Option (MsgQ α) → Option (Rcv α)
  | none => some (.done .invalidHandle none none)
  | some q =>
      if q.unblocked then some (.done .unavailableResource none (some q))
      else rcvLoop q

/-- `msg_q_flush`, with the messages it frees. -/
def msgQFlush : Option (MsgQ α) →
    Option (MsgQErr × List α × Option (MsgQ α))
  | none => some (.invalidHandle, [], none)
  | some q =>
      (linkedListFlush q.msgList).map (fun (r, out, l) =>
        (convertLinkedListErrType r, out, some { q with msgList := l }))

/-- `msg_q_unblock`. -/
def msgQUnblock : Option (MsgQ α) → MsgQErr × Option (MsgQ α)
  | none => (.invalidHandle, none)
  | some q =>
      if q.unblocked then (.unavailableResource, some q)
      else (.success, some { q with unblocked := true })

/-- `msg_q_destroy`, with the messages that the list still frees; the handle
    is NULL after it.  Its mutex is used without a test of the handle. -/
def msgQDestroy : Option (MsgQ α) → Option (MsgQErr × List α)
  | none => none
  | some q =>
      (linkedListFlush q.msgList).map (fun (_, out, _) => (.success, out))

/-! ## The queue of messages -/

/-- The messages of the queue, the oldest first; each was sent with a
    function to free it. -/
def MsgQ.Holds (q : MsgQ α) (xs : List α) : Prop :=
  Represents q.msgList (xs.map (fun m => (m, true)))

theorem msgQInit_holds : (msgQInit : MsgQ α).Holds [] := represents_init

/-- The queue takes messages. -/
def accepting : Option (MsgQ α) → Bool
  | none => false
  | some q => !q.unblocked

/-- **SEND**: a message that is taken goes to the end of the queue. -/
theorem msgQSnd_accepted {q : MsgQ α} {xs : List α} {a : Addr} (m : α)
    (h : q.Holds xs) (hopen : q.unblocked = false)
    (ha : a ∉ q.msgList.heap) :
    ∃ q', msgQSnd (some q) (some m) true (some a) = some (.success, some q') ∧
      q'.Holds (xs ++ [m]) ∧ q'.unblocked = false := by
  obtain ⟨l, hadd, hl⟩ := linkedListAdd_represents m true h ha
  refine ⟨{ q with msgList := l }, ?_, ?_, hopen⟩
  · simp [msgQSnd, hopen, hadd, convertLinkedListErrType]
  · unfold MsgQ.Holds
    rw [List.map_append]
    exact hl

/-- What is not taken leaves the queue as it is, and the sender is told. -/
theorem msgQSnd_refused {q : Option (MsgQ α)} {m : Option α}
    {elem : Option Addr}
    (h : accepting q = false ∨ m = none ∨ elem = none) :
    ∃ rv, msgQSnd q m true elem = some (rv, q) ∧ rv ≠ .success := by
  cases q with
  | none => exact ⟨.invalidHandle, rfl, by decide⟩
  | some q =>
      cases m with
      | none => exact ⟨.invalidParameter, rfl, by decide⟩
      | some m =>
          obtain ⟨l, unblocked⟩ := q
          cases unblocked with
          | true => exact ⟨.unavailableResource, rfl, by decide⟩
          | false =>
              obtain rfl : elem = none := by simpa [accepting] using h
              exact ⟨.failureGeneral, rfl, by decide⟩

/-- The queue is empty: wait, or give up once it is unblocked. -/
theorem rcvLoop_nil {q : MsgQ α} (h : q.Holds []) :
    rcvLoop q = some (if q.unblocked then
      .done .unavailableResource none (some q) else .wait) := by
  have hempty : linkedListEmpty q.msgList = true :=
    (linkedListEmpty_iff h).mpr rfl
  have hrem := linkedListRemove_nil h
  obtain ⟨l, unblocked⟩ := q
  cases unblocked with
  | true => simp [rcvLoop, hempty, hrem, convertLinkedListErrType]
  | false => simp [rcvLoop, hempty]

/-- **RECEIVE**: the front of the queue, unblocked or not. -/
theorem rcvLoop_cons {q : MsgQ α} {m : α} {xs : List α}
    (h : q.Holds (m :: xs)) :
    ∃ q', rcvLoop q = some (.done .success (some m) (some q')) ∧
      q'.Holds xs ∧ q'.unblocked = q.unblocked := by
  have hempty : linkedListEmpty q.msgList = false := by
    rw [Bool.eq_false_iff, ne_eq, linkedListEmpty_iff h]
    exact List.cons_ne_nil _ _
  obtain ⟨l, hrem, hl⟩ := linkedListRemove_represents h
  refine ⟨{ q with msgList := l }, ?_, hl, rfl⟩
  simp [rcvLoop, hempty, hrem, convertLinkedListErrType]

/-- **FLUSH**: every message of the queue is freed, once. -/
theorem msgQFlush_holds {q : MsgQ α} {xs : List α} (h : q.Holds xs) :
    ∃ q', msgQFlush (some q) = some (.success, xs.reverse, some q') ∧
      q'.Holds [] := by
  obtain ⟨l, hflush, hl, -⟩ := linkedListFlush_represents h
  have hout : freedData (xs.map (fun m => (m, true))).reverse = xs.reverse := by
    rw [← List.map_reverse]
    unfold freedData
    rw [List.filter_eq_self.mpr (by simp), List.map_map]
    exact List.map_id _
  refine ⟨{ q with msgList := l }, ?_, hl⟩
  simp [msgQFlush, hflush, hout, convertLinkedListErrType]

/-- **UNBLOCK**: the messages stay, no more are taken. -/
theorem msgQUnblock_shut (p : Option (MsgQ α)) :
    accepting (msgQUnblock p).2 = false := by
  cases p with
  | none => rfl
  | some q =>
      obtain ⟨l, unblocked⟩ := q
      cases unblocked <;> rfl

theorem msgQUnblock_holds {p : Option (MsgQ α)} {xs : List α}
    (h : ∀ q ∈ p, q.Holds xs) : ∀ q ∈ (msgQUnblock p).2, q.Holds xs := by
  intro q' hq'
  cases p with
  | none => cases hq'
  | some q =>
      simp only [msgQUnblock] at hq'
      split at hq'
      · exact h q' hq'
      · cases hq'
        exact h q rfl

/-- After a flush nothing is left for the end of the queue to free. -/
theorem msgQDestroy_nil {q : MsgQ α} (h : q.Holds []) :
    msgQDestroy (some q) = some (.success, []) := by
  obtain ⟨l, hflush, -, -⟩ := linkedListFlush_represents h
  simp [msgQDestroy, hflush, freedData]

end QcomMsgTask
