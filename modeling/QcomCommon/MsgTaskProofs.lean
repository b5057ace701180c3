import Mathlib.Data.List.Nodup
import QcomCommon.TransitionProofs
import QcomCommon.MsgQueueProofs

/-! # The message task

    `MsgTask.cpp`: any number of threads send messages to a queue, one thread
    takes them out, calls `proc()` on each and deletes it.  `destroy()`
    unblocks the queue and lets go of the thread; the destructor, run by that
    thread once it has left `run()`, flushes what is left.

    A step is a section under the queue's mutex or a step between two of
    them.  The wait in `msg_q_rcv` may end at any time, as a wait on a
    condition may.  The lists `sent`, `enqueued`, `processed` and `destroyed`
    only record what happens. -/

namespace QcomMsgTask

open QcomLinkedList QcomTransition

/-- Where the thread is. -/
inductive RunPc (α : Type)
  | fresh
  | top
  | rcv
  | waiting
  | proc (msg : α)
  | delete (msg : α)
  | left
  | gone
deriving DecidableEq

/-- Where `destroy()` is. -/
inductive DestroyPc | idle | unblocked | done
deriving DecidableEq

/-- `mRunnable`: the field of the thread's delegate is not NULL. -/
structure MsgTask (α : Type) where
  mQ : Option (MsgQ α)
  mThread : Bool
  mJoinable : Bool
  mRunnable : Bool
  run : RunPc α
  destroy : DestroyPc
  alive : Bool
  sent : List α
  enqueued : List α
  processed : List α
  destroyed : List α

variable {α : Type}

/-- `MsgTask::MsgTask`: memory for the queue may be missing, and so may the
    thread. -/
def newTask (mQ : Option (MsgQ α)) (mThread mJoinable : Bool) : MsgTask α :=
  { mQ := mQ, mThread := mThread, mJoinable := mJoinable,
    mRunnable := mThread, run := if mThread then .fresh else .gone,
    destroy := .idle, alive := true,
    sent := [], enqueued := [], processed := [], destroyed := [] }

/-- `MsgTask::sendMsg`: what `msg_q_snd` returns is dropped. -/
def sendMsg (s : MsgTask α) (msg : Option α) (elem : Option Addr) :
    Option (MsgTask α) :=
  (msgQSnd s.mQ msg true elem).map (fun (rv, q) =>
    { s with
      mQ := q
      sent := s.sent ++ msg.toList
      enqueued :=
        if rv = .success then s.enqueued ++ msg.toList else s.enqueued })

/-- What `MsgTask::run` does with the end of a section of `msg_q_rcv`. -/
def runRcv (s : MsgTask α) : Rcv α → MsgTask α
  | .wait => { s with run := .waiting }
  | .done .success (some msg) q => { s with mQ := q, run := .proc msg }
  | .done _ _ q => { s with mQ := q, run := .left }

/-- `MsgTask::~MsgTask`. -/
def destructor (s : MsgTask α) : Option (MsgTask α) :=
  (msgQFlush s.mQ).bind (fun (_, out, q) =>
    (msgQDestroy q).map (fun (_, out') =>
      { s with
        mQ := none, alive := false, run := .gone
        destroyed := s.destroyed ++ out ++ out' }))

/-- The steps.  `threadStart` and `loopTest` are the reads of `mRunnable` in
    `threadMain`, `rcv` and `wake` the two sections of `msg_q_rcv`. -/
inductive TaskMove (α : Type)
  | sendMsg (msg : Option α) (elem : Option Addr)
  | threadStart
  | loopTest
  | rcv
  | wake
  | proc
  | delete
  | destructor
  | destroy
  | destroyThread

/-- `malloc` returns no element that is in use. -/
def elemFree : Option (MsgQ α) → Option Addr → Bool
  | some q, some a => decide (a ∉ q.msgList.heap)
  | _, _ => true

section Step

variable [DecidableEq α]

/-- A step of a sender or of the thread of the task. -/
def taskStep (s : MsgTask α) : TaskMove α → Option (MsgTask α)
  | .sendMsg msg elem =>
      -- a message is handed over once
      if s.alive ∧ elemFree s.mQ elem ∧ (∀ m ∈ msg, m ∉ s.sent) then
        sendMsg s msg elem
      else none
  | .threadStart =>
      match s.run with
      | .fresh =>
          some { s with run := if s.mRunnable then .top else .gone }
      | _ => none
  | .loopTest =>
      match s.run with
      | .top => some { s with run := if s.mRunnable then .rcv else .left }
      | _ => none
  | .rcv =>
      match s.run with
      | .rcv => (msgQRcv s.mQ).map (runRcv s)
      | _ => none
  | .wake =>
      match s.run, s.mQ with
      | .waiting, some q => (rcvLoop q).map (runRcv s)
      | _, _ => none
  | .proc =>
      match s.run with
      | .proc m =>
          some { s with run := .delete m, processed := s.processed ++ [m] }
      | _ => none
  | .delete =>
      match s.run with
      | .delete m =>
          some { s with run := .top, destroyed := s.destroyed ++ [m] }
      | _ => none
  | .destructor =>
      match s.run with
      | .left => destructor s
      | _ => none
  | .destroy =>
      match s.destroy with
      | .idle =>
          some { s with mQ := (msgQUnblock s.mQ).2, destroy := .unblocked }
      | _ => none
  | .destroyThread =>
      match s.destroy with
      | .unblocked =>
          if s.mThread then
            -- a joinable thread is stopped, a detached one let go
            some { s with
              mRunnable := s.mRunnable && !s.mJoinable, destroy := .done }
          else
            (destructor s).map (fun s' => { s' with destroy := .done })
      | _ => none

/-- The task from its constructor on. -/
def msgTask (α : Type) [DecidableEq α] : TransSys (MsgTask α) (TaskMove α) where
  init s := ∃ mQ mThread mJoinable, s = newTask mQ mThread mJoinable ∧
    (mQ = none ∨ mQ = some msgQInit)
  step := taskStep

end Step

/-! ## Where the messages are -/

/-- The message `run()` has received and not yet processed. -/
def RunPc.taken : RunPc α → List α
  | .proc m => [m]
  | _ => []

/-- The message `run()` has processed and not yet deleted. -/
def RunPc.held : RunPc α → List α
  | .delete m => [m]
  | _ => []

/-- The messages that were taken are, in the order they were sent, processed,
    in the hands of `run()`, or in the queue; what is processed is destroyed
    but for the one in hand, and after the destructor everything is. -/
structure TaskLaw (s : MsgTask α) : Prop where
  order : ∃ rest, s.enqueued = s.processed ++ s.run.taken ++ rest ∧
    ∀ q ∈ s.mQ, q.Holds rest
  owned : s.alive = true → s.processed = s.destroyed ++ s.run.held
  buried : s.alive = false →
    s.destroyed.Perm s.enqueued ∧ s.mQ = none ∧ s.run = .gone
  noThread : s.mThread = false → s.run = .gone
  sentOnce : s.sent.Nodup
  enqueuedOnce : s.enqueued.Nodup
  enqueuedSent : ∀ m ∈ s.enqueued, m ∈ s.sent
  shut : s.destroy ≠ .idle → accepting s.mQ = false

theorem taskLaw_init {mQ : Option (MsgQ α)} (mThread mJoinable : Bool)
    (h : mQ = none ∨ mQ = some msgQInit) :
    TaskLaw (newTask mQ mThread mJoinable) where
  order := by
    refine ⟨[], ?_, ?_⟩
    · cases mThread <;> rfl
    · rintro q hq
      rcases h with rfl | rfl
      · cases hq
      · cases hq
        exact msgQInit_holds
  owned := by
    intro _
    cases mThread <;> rfl
  buried := by
    intro h
    cases h
  noThread := by
    rintro (rfl : mThread = false)
    rfl
  sentOnce := List.nodup_nil
  enqueuedOnce := List.nodup_nil
  enqueuedSent := fun _ hm => hm
  shut := fun h => absurd rfl h

/-- What a send does: the queue takes the message, or nothing but the sender
    knows of it. -/
theorem sendMsg_cases {s s' : MsgTask α} {m : Option α} {elem : Option Addr}
    {rest : List α} (hrest : ∀ q ∈ s.mQ, q.Holds rest)
    (hfree : elemFree s.mQ elem = true) (h : sendMsg s m elem = some s') :
    ((accepting s.mQ = false ∨ m = none ∨ elem = none) ∧
      s' = { s with sent := s.sent ++ m.toList }) ∨
    ∃ q' d, accepting s.mQ = true ∧ m = some d ∧ elem ≠ none ∧
      q'.Holds (rest ++ [d]) ∧ q'.unblocked = false ∧
      s' = { s with mQ := some q', sent := s.sent ++ [d],
                    enqueued := s.enqueued ++ [d] } := by
  by_cases hrefused : accepting s.mQ = false ∨ m = none ∨ elem = none
  · obtain ⟨rv, hsnd, hrv⟩ := msgQSnd_refused hrefused
    refine Or.inl ⟨hrefused, ?_⟩
    simp only [sendMsg, hsnd, Option.map_some, hrv, if_false] at h
    exact (Option.some.inj h).symm
  · simp only [not_or, Bool.not_eq_false] at hrefused
    obtain ⟨hopen, hm, he⟩ := hrefused
    obtain ⟨d, rfl⟩ := Option.ne_none_iff_exists'.mp hm
    obtain ⟨a, rfl⟩ := Option.ne_none_iff_exists'.mp he
    cases hq : s.mQ with
    | none =>
        rw [hq] at hopen
        cases hopen
    | some q =>
        rw [hq] at hopen hfree
        have hnotblocked : q.unblocked = false := by
          simpa [accepting] using hopen
        obtain ⟨q', hsnd, hholds, hblocked⟩ :=
          msgQSnd_accepted d (hrest q hq) hnotblocked
            (of_decide_eq_true hfree)
        refine Or.inr ⟨q', d, hopen, rfl, he, hholds, hblocked, ?_⟩
        simp only [sendMsg, hq, hsnd, Option.map_some, if_true] at h
        exact (Option.some.inj h).symm

theorem taskLaw_sendMsg {s s' : MsgTask α} {m : Option α}
    {elem : Option Addr} (hl : TaskLaw s) (halive : s.alive = true)
    (hfree : elemFree s.mQ elem = true) (hnew : ∀ d ∈ m, d ∉ s.sent)
    (h : sendMsg s m elem = some s') : TaskLaw s' := by
  obtain ⟨rest, horder, hrest⟩ := hl.order
  have hsent : ∀ d ∈ m, (s.sent ++ [d]).Nodup := by
    intro d hd
    exact List.nodup_append.mpr ⟨hl.sentOnce, List.nodup_singleton d,
      fun a ha b hb hab => hnew d hd (List.mem_singleton.mp hb ▸ hab ▸ ha)⟩
  rcases sendMsg_cases hrest hfree h with
    ⟨-, rfl⟩ | ⟨q', d, hopen, rfl, -, hholds, hblocked, rfl⟩
  · refine { hl with sentOnce := ?_, enqueuedSent := ?_ }
    · cases m with
      | none => simpa using hl.sentOnce
      | some d => exact hsent d rfl
    · intro e he
      exact List.mem_append_left _ (hl.enqueuedSent e he)
  · have hnotsent : d ∉ s.sent := hnew d rfl
    refine { hl with
      order := ⟨rest ++ [d], ?_, ?_⟩, buried := ?_,
      sentOnce := hsent d rfl, enqueuedOnce := ?_, enqueuedSent := ?_,
      shut := ?_ }
    · rw [horder, List.append_assoc]
    · rintro q hq
      cases hq
      exact hholds
    · intro hdead
      rw [halive] at hdead
      cases hdead
    · refine List.nodup_append.mpr ⟨hl.enqueuedOnce, List.nodup_singleton d,
        ?_⟩
      rintro a ha b hb rfl
      exact hnotsent (List.mem_singleton.mp hb ▸ hl.enqueuedSent a ha)
    · intro e he
      rcases List.mem_append.mp he with he | he
      · exact List.mem_append_left _ (hl.enqueuedSent e he)
      · exact List.mem_append_right _ he
    · intro hdestroy
      rw [hl.shut hdestroy] at hopen
      cases hopen

/-- The thread moves on with the message it has taken: the messages taken are
    the same, and it holds what it has processed and not destroyed. -/
theorem TaskLaw.handle {s : MsgTask α} (hl : TaskLaw s) {pc : RunPc α}
    {processed destroyed : List α} (hthread : s.run ≠ .gone)
    (htaken : processed ++ pc.taken = s.processed ++ s.run.taken)
    (hheld : s.processed = s.destroyed ++ s.run.held →
      processed = destroyed ++ pc.held) :
    TaskLaw { s with run := pc, processed := processed,
                     destroyed := destroyed } := by
  obtain ⟨rest, horder, hrest⟩ := hl.order
  refine { hl with
    order := ⟨rest, ?_, hrest⟩, owned := ?_, buried := ?_, noThread := ?_ }
  · show s.enqueued = processed ++ pc.taken ++ rest
    rw [htaken]
    exact horder
  · intro halive
    exact hheld (hl.owned halive)
  · intro hdead
    exact absurd (hl.buried hdead).2.2 hthread
  · intro hno
    exact absurd (hl.noThread hno) hthread

/-- The thread moves on with what it has in hand. -/
theorem TaskLaw.goto {s : MsgTask α} (hl : TaskLaw s) {pc : RunPc α}
    (hthread : s.run ≠ .gone) (htaken : pc.taken = s.run.taken)
    (hheld : pc.held = s.run.held) : TaskLaw { s with run := pc } := by
  refine hl.handle hthread ?_ ?_
  · rw [htaken]
  · rw [hheld]
    exact id

/-- How a section of `msg_q_rcv` can end for `run()`: it waits, gives up, or
    takes the front of the queue. -/
theorem runRcv_cases {s : MsgTask α} {q : MsgQ α} {xs : List α} {r : Rcv α}
    (h : q.Holds xs) (hq : s.mQ = some q)
    (hr : msgQRcv (some q) = some r ∨ rcvLoop q = some r) :
    runRcv s r = { s with run := .waiting } ∨
    runRcv s r = { s with run := .left } ∨
    ∃ m xs' q', xs = m :: xs' ∧ q'.Holds xs' ∧
      q'.unblocked = q.unblocked ∧
      runRcv s r = { s with mQ := some q', run := .proc m } := by
  have hr : r = .done .unavailableResource none (some q) ∨
      rcvLoop q = some r := by
    rcases hr with hr | hr
    · simp only [msgQRcv] at hr
      split at hr
      · exact Or.inl (Option.some.inj hr).symm
      · exact Or.inr hr
    · exact Or.inr hr
  have hleft : ∀ p, p = s.mQ →
      runRcv s (.done .unavailableResource none p)
        = { s with run := .left } := by
    rintro p rfl
    rfl
  rcases hr with rfl | hr
  · exact Or.inr (Or.inl (hleft _ hq.symm))
  cases xs with
  | nil =>
      obtain rfl := Option.some.inj ((rcvLoop_nil h).symm.trans hr)
      split
      · exact Or.inr (Or.inl (hleft _ hq.symm))
      · exact Or.inl rfl
  | cons m xs =>
      obtain ⟨q', hrcv, hholds, hsame⟩ := rcvLoop_cons h
      obtain rfl := Option.some.inj (hrcv.symm.trans hr)
      exact Or.inr (Or.inr ⟨m, xs, q', rfl, hholds, hsame, rfl⟩)

theorem taskLaw_rcv {s : MsgTask α} {q : MsgQ α} {r : Rcv α}
    (hl : TaskLaw s) (hrun : s.run = .rcv ∨ s.run = .waiting)
    (hq : s.mQ = some q)
    (hr : msgQRcv (some q) = some r ∨ rcvLoop q = some r) :
    TaskLaw (runRcv s r) := by
  obtain ⟨rest, horder, hrest⟩ := hl.order
  have htaken : s.run.taken = [] := by rcases hrun with h | h <;> rw [h] <;> rfl
  have hheld : s.run.held = [] := by rcases hrun with h | h <;> rw [h] <;> rfl
  have hthread : s.run ≠ .gone := by
    rcases hrun with h | h <;> rw [h] <;> exact fun h => by cases h
  rcases runRcv_cases (hrest q hq) hq hr with
    heq | heq | ⟨m, xs', q', rfl, hholds, hsame, heq⟩
  · rw [heq]
    exact hl.goto hthread htaken.symm hheld.symm
  · rw [heq]
    exact hl.goto hthread htaken.symm hheld.symm
  · rw [heq]
    rw [htaken, List.append_nil] at horder
    refine { hl with
      order := ⟨xs', ?_, ?_⟩, owned := ?_, buried := ?_, noThread := ?_,
      shut := ?_ }
    · rw [horder]
      simp [RunPc.taken]
    · rintro p hp
      cases hp
      exact hholds
    · intro halive
      have howned := hl.owned halive
      rw [hheld] at howned
      exact howned
    · intro hdead
      rw [(hl.buried hdead).2.1] at hq
      cases hq
    · intro hno
      exact absurd (hl.noThread hno) hthread
    · intro hdestroy
      have hshut := hl.shut hdestroy
      rw [hq] at hshut
      simpa [accepting, hsame] using hshut

/-- **THE DESTRUCTOR**: what is still queued is destroyed, and nothing
    else. -/
theorem destructor_cases {s s' : MsgTask α} {rest : List α}
    (hrest : ∀ q ∈ s.mQ, q.Holds rest) (h : destructor s = some s') :
    s' = { s with mQ := none, alive := false, run := .gone,
                  destroyed := s.destroyed ++ rest.reverse } := by
  cases hq : s.mQ with
  | none =>
      simp [destructor, hq, msgQFlush, msgQDestroy] at h
  | some q =>
      obtain ⟨q', hflush, hempty⟩ := msgQFlush_holds (hrest q hq)
      simp only [destructor, hq, hflush, Option.bind_some,
        msgQDestroy_nil hempty, Option.map_some, List.append_nil] at h
      exact (Option.some.inj h).symm

theorem taskLaw_destructor {s s' : MsgTask α} (hl : TaskLaw s)
    (htaken : s.run.taken = []) (hheld : s.run.held = [])
    (h : destructor s = some s') : TaskLaw s' := by
  obtain ⟨rest, horder, hrest⟩ := hl.order
  have halive : s.alive = true := by
    by_contra hdead
    have hnone := (hl.buried (Bool.not_eq_true _ ▸ hdead)).2.1
    simp [destructor, hnone, msgQFlush, msgQDestroy] at h
  have howned := hl.owned halive
  rw [hheld, List.append_nil] at howned
  rw [htaken, List.append_nil] at horder
  obtain rfl := destructor_cases hrest h
  refine { hl with
    order := ⟨rest, ?_, ?_⟩, owned := ?_, buried := ?_, noThread := ?_,
    shut := ?_ }
  · rw [horder]
    simp [RunPc.taken]
  · intro q hq
    cases hq
  · intro hno
    cases hno
  · intro _
    refine ⟨?_, rfl, rfl⟩
    rw [horder, howned]
    exact (List.reverse_perm rest).append_left _
  · intro _
    rfl
  · intro _
    rfl

theorem taskLaw_proc {s : MsgTask α} {m : α} (hl : TaskLaw s)
    (hrun : s.run = .proc m) :
    TaskLaw { s with run := .delete m, processed := s.processed ++ [m] } := by
  refine hl.handle (by rw [hrun]; exact fun h => by cases h) ?_ ?_
  · rw [hrun]
    exact List.append_nil _
  · intro howned
    rw [howned, hrun]
    exact congrArg (· ++ [m]) (List.append_nil _)

theorem taskLaw_delete {s : MsgTask α} {m : α} (hl : TaskLaw s)
    (hrun : s.run = .delete m) :
    TaskLaw { s with run := .top, destroyed := s.destroyed ++ [m] } := by
  refine hl.handle (by rw [hrun]; exact fun h => by cases h) ?_ ?_
  · rw [hrun]
    rfl
  · intro howned
    rw [howned, hrun]
    exact (List.append_nil _).symm

theorem taskLaw_destroy {s : MsgTask α} (hl : TaskLaw s) :
    TaskLaw { s with mQ := (msgQUnblock s.mQ).2, destroy := .unblocked } := by
  obtain ⟨rest, horder, hrest⟩ := hl.order
  refine { hl with
    order := ⟨rest, horder, msgQUnblock_holds hrest⟩, buried := ?_,
    shut := fun _ => msgQUnblock_shut s.mQ }
  intro hdead
  obtain ⟨hperm, hq, hgone⟩ := hl.buried hdead
  refine ⟨hperm, ?_, hgone⟩
  show (msgQUnblock s.mQ).2 = none
  rw [hq]
  rfl

variable [DecidableEq α]

/-- **STEP LEMMA**: every step keeps the account of the messages. -/
theorem taskLaw_step {s s' : MsgTask α} {a : TaskMove α} (hl : TaskLaw s)
    (h : taskStep s a = some s') : TaskLaw s' := by
  cases a with
  | sendMsg m elem =>
      simp only [taskStep] at h
      split at h
      · rename_i hok
        exact taskLaw_sendMsg hl hok.1 hok.2.1 hok.2.2 h
      · cases h
  | threadStart =>
      simp only [taskStep] at h
      split at h
      · rename_i hrun
        cases h
        refine hl.goto (by rw [hrun]; exact fun h => by cases h) ?_ ?_ <;>
          rw [hrun] <;> split <;> rfl
      · cases h
  | loopTest =>
      simp only [taskStep] at h
      split at h
      · rename_i hrun
        cases h
        refine hl.goto (by rw [hrun]; exact fun h => by cases h) ?_ ?_ <;>
          rw [hrun] <;> split <;> rfl
      · cases h
  | rcv =>
      simp only [taskStep] at h
      split at h
      · rename_i hrun
        obtain ⟨r, hr, rfl⟩ := Option.map_eq_some_iff.mp h
        cases hq : s.mQ with
        | none =>
            rw [hq] at hr
            cases hr
            have heq : runRcv s (.done .invalidHandle none none)
                = { s with run := .left } := by
              rw [← hq]
              rfl
            rw [heq]
            exact hl.goto (by rw [hrun]; exact fun h => by cases h)
              (by rw [hrun]; rfl) (by rw [hrun]; rfl)
        | some q =>
            rw [hq] at hr
            exact taskLaw_rcv hl (Or.inl hrun) hq (Or.inl hr)
      · cases h
  | wake =>
      simp only [taskStep] at h
      split at h
      · rename_i q hrun hq
        obtain ⟨r, hr, rfl⟩ := Option.map_eq_some_iff.mp h
        exact taskLaw_rcv hl (Or.inr hrun) hq (Or.inr hr)
      · cases h
  | proc =>
      simp only [taskStep] at h
      split at h
      · rename_i m hrun
        cases h
        exact taskLaw_proc hl hrun
      · cases h
  | delete =>
      simp only [taskStep] at h
      split at h
      · rename_i m hrun
        cases h
        exact taskLaw_delete hl hrun
      · cases h
  | destructor =>
      simp only [taskStep] at h
      split at h
      · rename_i hrun
        exact taskLaw_destructor hl (by rw [hrun]; rfl) (by rw [hrun]; rfl) h
      · cases h
  | destroy =>
      simp only [taskStep] at h
      split at h
      · cases h
        exact taskLaw_destroy hl
      · cases h
  | destroyThread =>
      simp only [taskStep] at h
      split at h
      · rename_i hdestroy
        have hshut := hl.shut (by rw [hdestroy]; exact fun h => by cases h)
        split at h
        · cases h
          exact { hl with shut := fun _ => hshut }
        · rename_i hno
          have hgone := hl.noThread (Bool.not_eq_true _ ▸ hno)
          obtain ⟨t, ht, rfl⟩ := Option.map_eq_some_iff.mp h
          have hlt := taskLaw_destructor hl (by rw [hgone]; rfl)
            (by rw [hgone]; rfl) ht
          obtain ⟨rest, -, hrest⟩ := hl.order
          obtain rfl := destructor_cases hrest ht
          exact { hlt with shut := fun _ => rfl }
      · cases h

theorem reach_taskLaw {s : MsgTask α} (h : Reach (msgTask α) s) :
    TaskLaw s := by
  refine reachUnder_inv ?_ ?_ h
  · rintro s ⟨mQ, mThread, mJoinable, rfl, hq⟩
    exact taskLaw_init mThread mJoinable hq
  · intro s a s' hl _ hs
    exact taskLaw_step hl hs

/-! ## The order of delivery -/

/-- The message is taken: the queue is there and not unblocked, and memory
    for its list element is found. -/
def Accepted (s : MsgTask α) : TaskMove α → Prop
  | .sendMsg (some _) elem => accepting s.mQ = true ∧ elem ≠ none
  | _ => True

instance decidableAccepted (s : MsgTask α) :
    ∀ a : TaskMove α, Decidable (Accepted s a)
  | .sendMsg (some _) elem =>
      inferInstanceAs (Decidable (accepting s.mQ = true ∧ elem ≠ none))
  | .sendMsg none _ => isTrue trivial
  | .threadStart => isTrue trivial
  | .loopTest => isTrue trivial
  | .rcv => isTrue trivial
  | .wake => isTrue trivial
  | .proc => isTrue trivial
  | .delete => isTrue trivial
  | .destructor => isTrue trivial
  | .destroy => isTrue trivial
  | .destroyThread => isTrue trivial

/-- What a step records of sent messages: a new one, taken or not, or
    nothing. -/
def Records (s : MsgTask α) (a : TaskMove α) (s' : MsgTask α) : Prop :=
  (∃ m elem, a = .sendMsg (some m) elem ∧ m ∉ s.sent ∧
    s'.sent = s.sent ++ [m] ∧
    (Accepted s a ∧ s'.enqueued = s.enqueued ++ [m] ∨
      ¬ Accepted s a ∧ s'.enqueued = s.enqueued)) ∨
  Accepted s a ∧ s'.sent = s.sent ∧ s'.enqueued = s.enqueued

omit [DecidableEq α] in
theorem sendMsg_records {s s' : MsgTask α} {m : Option α}
    {elem : Option Addr} (hl : TaskLaw s)
    (hfree : elemFree s.mQ elem = true) (hnew : ∀ d ∈ m, d ∉ s.sent)
    (h : sendMsg s m elem = some s') : Records s (.sendMsg m elem) s' := by
  obtain ⟨rest, -, hrest⟩ := hl.order
  rcases sendMsg_cases hrest hfree h with
    ⟨hrefused, rfl⟩ | ⟨q', d, hopen, rfl, helem, -, -, rfl⟩
  · cases m with
    | none => exact Or.inr ⟨trivial, List.append_nil _, rfl⟩
    | some d =>
        refine Or.inl ⟨d, elem, rfl, hnew d rfl, rfl, Or.inr ⟨?_, rfl⟩⟩
        rintro ⟨hopen, helem⟩
        rcases hrefused with hshut | hnull | hnone
        · rw [hopen] at hshut
          cases hshut
        · cases hnull
        · exact helem hnone
  · exact Or.inl ⟨d, elem, rfl, hnew d rfl, rfl,
      Or.inl ⟨⟨hopen, helem⟩, rfl⟩⟩

/-- **WHAT A STEP RECORDS**, and `destroy()` is not undone. -/
theorem step_records {s s' : MsgTask α} {a : TaskMove α} (hl : TaskLaw s)
    (h : taskStep s a = some s') :
    Records s a s' ∧ (s'.destroy = s.destroy ∨ s'.destroy ≠ .idle) := by
  have hrcv : ∀ r, (runRcv s r).sent = s.sent ∧
      (runRcv s r).enqueued = s.enqueued ∧
      (runRcv s r).destroy = s.destroy := by
    intro r
    unfold runRcv
    split <;> exact ⟨rfl, rfl, rfl⟩
  have hdtor : ∀ t, destructor s = some t → t.sent = s.sent ∧
      t.enqueued = s.enqueued ∧ t.destroy = s.destroy := by
    intro t ht
    obtain ⟨rest, -, hrest⟩ := hl.order
    obtain rfl := destructor_cases hrest ht
    exact ⟨rfl, rfl, rfl⟩
  cases a with
  | sendMsg m elem =>
      simp only [taskStep] at h
      split at h
      · rename_i hok
        refine ⟨sendMsg_records hl hok.2.1 hok.2.2 h, Or.inl ?_⟩
        obtain ⟨_, _, rfl⟩ := Option.map_eq_some_iff.mp h
        rfl
      · cases h
  | threadStart =>
      simp only [taskStep] at h
      split at h <;> cases h
      exact ⟨Or.inr ⟨trivial, rfl, rfl⟩, Or.inl rfl⟩
  | loopTest =>
      simp only [taskStep] at h
      split at h <;> cases h
      exact ⟨Or.inr ⟨trivial, rfl, rfl⟩, Or.inl rfl⟩
  | rcv =>
      simp only [taskStep] at h
      split at h
      · obtain ⟨r, -, rfl⟩ := Option.map_eq_some_iff.mp h
        obtain ⟨hsent, henq, hdestroy⟩ := hrcv r
        exact ⟨Or.inr ⟨trivial, hsent, henq⟩, Or.inl hdestroy⟩
      · cases h
  | wake =>
      simp only [taskStep] at h
      split at h
      · obtain ⟨r, -, rfl⟩ := Option.map_eq_some_iff.mp h
        obtain ⟨hsent, henq, hdestroy⟩ := hrcv r
        exact ⟨Or.inr ⟨trivial, hsent, henq⟩, Or.inl hdestroy⟩
      · cases h
  | proc =>
      simp only [taskStep] at h
      split at h <;> cases h
      exact ⟨Or.inr ⟨trivial, rfl, rfl⟩, Or.inl rfl⟩
  | delete =>
      simp only [taskStep] at h
      split at h <;> cases h
      exact ⟨Or.inr ⟨trivial, rfl, rfl⟩, Or.inl rfl⟩
  | destructor =>
      simp only [taskStep] at h
      split at h
      · obtain ⟨hsent, henq, hdestroy⟩ := hdtor s' h
        exact ⟨Or.inr ⟨trivial, hsent, henq⟩, Or.inl hdestroy⟩
      · cases h
  | destroy =>
      simp only [taskStep] at h
      split at h <;> cases h
      exact ⟨Or.inr ⟨trivial, rfl, rfl⟩, Or.inr (fun h => by cases h)⟩
  | destroyThread =>
      simp only [taskStep] at h
      split at h
      · split at h
        · cases h
          exact ⟨Or.inr ⟨trivial, rfl, rfl⟩, Or.inr (fun h => by cases h)⟩
        · obtain ⟨t, ht, rfl⟩ := Option.map_eq_some_iff.mp h
          obtain ⟨hsent, henq, -⟩ := hdtor t ht
          exact ⟨Or.inr ⟨trivial, hsent, henq⟩,
            Or.inr (fun h => by cases h)⟩
      · cases h

/-- After `msg_q_unblock` a step enqueues nothing, and the queue stays
    unblocked. -/
theorem step_enqueues_nothing {s s' : MsgTask α} {a : TaskMove α}
    (hl : TaskLaw s) (hd : s.destroy ≠ .idle)
    (h : (msgTask α).step s a = some s') :
    s'.destroy ≠ .idle ∧ s'.enqueued = s.enqueued := by
  obtain ⟨hrec, hdestroy⟩ := step_records hl h
  constructor
  · rcases hdestroy with hsame | hne
    · rw [hsame]
      exact hd
    · exact hne
  · rcases hrec with ⟨m, elem, rfl, -, -, hm⟩ | ⟨-, -, henq⟩
    · rcases hm with ⟨hacc, -⟩ | ⟨-, henq⟩
      · have hshut := hl.shut hd
        rw [hacc.1] at hshut
        cases hshut
      · exact henq
    · exact henq

/-- So does a run. -/
theorem run_enqueues_nothing (l : List (TaskMove α)) {s s' : MsgTask α}
    (hl : TaskLaw s) (hd : s.destroy ≠ .idle)
    (h : exec (msgTask α) s l = some s') : s'.enqueued = s.enqueued := by
  refine (exec_inv (M := msgTask α) (I := fun t => TaskLaw t ∧
    t.destroy ≠ .idle ∧ t.enqueued = s.enqueued) ?_ l ⟨hl, hd, rfl⟩ h).2.2
  rintro t a t' ⟨ht, hdt, henq⟩ hst
  obtain ⟨hd', hsame⟩ := step_enqueues_nothing ht hdt hst
  exact ⟨taskLaw_step ht hst, hd', hsame.trans henq⟩

/-- **DELIVERY ORDER**: `proc()` is called on the messages that were enqueued,
    in that order, none skipped and none twice; after `msg_q_unblock` no run
    enqueues another. -/
theorem proc_enqueue_order {s : MsgTask α} (h : Reach (msgTask α) s) :
    s.processed <+: s.enqueued ∧ s.processed.Nodup ∧
    (s.destroy ≠ .idle → ∀ l s', exec (msgTask α) s l = some s' →
      s'.enqueued = s.enqueued) := by
  have hl := reach_taskLaw h
  obtain ⟨rest, horder, -⟩ := hl.order
  rw [List.append_assoc] at horder
  have hfront : s.processed <+: s.enqueued := ⟨_, horder.symm⟩
  exact ⟨hfront, hl.enqueuedOnce.sublist hfront.sublist,
    fun hd l s' hrun => run_enqueues_nothing l hl hd hrun⟩

/-- Two messages are sent, the first is processed while the third one comes,
    then the queue is unblocked. -/
def deliveryRun : List (TaskMove Nat) :=
  [.threadStart, .loopTest, .sendMsg (some 5) (some 0), .rcv,
    .sendMsg (some 6) (some 1), .proc, .sendMsg (some 7) (some 0), .delete,
    .destroy]

theorem proc_enqueue_order_run :
    ∃ s : MsgTask Nat, (s.processed = [5] ∧ s.enqueued = [5, 6, 7] ∧
        s.destroy = .unblocked) ∧
      s.processed <+: s.enqueued ∧ s.processed.Nodup ∧
      (s.destroy ≠ .idle → ∀ l s', exec (msgTask Nat) s l = some s' →
        s'.enqueued = s.enqueued) := by
  have hrun : (exec (msgTask Nat) (newTask (some msgQInit) true true)
      deliveryRun).map (fun s => (s.processed, s.enqueued, s.destroy))
      = some ([5], [5, 6, 7], .unblocked) := by decide +kernel
  obtain ⟨s, hexec, hend⟩ := Option.map_eq_some_iff.mp hrun
  simp only [Prod.mk.injEq] at hend
  have hinit : Reach (msgTask Nat) (newTask (some msgQInit) true true) :=
    .init ⟨_, _, _, rfl, Or.inr rfl⟩
  exact ⟨s, hend, proc_enqueue_order (reach_exec _ hinit hexec)⟩

/-! ## The end of every message -/

/-- One step: every message sent so far is enqueued after it if and only if
    it was so before, and a message sent by the step is accepted. -/
theorem step_all_enqueued {s s' : MsgTask α} {a : TaskMove α} (hl : TaskLaw s)
    (h : (msgTask α).step s a = some s') :
    (∀ m ∈ s'.sent, m ∈ s'.enqueued) ↔
      (∀ m ∈ s.sent, m ∈ s.enqueued) ∧ Accepted s a := by
  rcases (step_records hl h).1 with
    ⟨d, elem, rfl, hnew, hsent, hm⟩ | ⟨hacc, hsent, henq⟩
  · rcases hm with ⟨hacc, henq⟩ | ⟨hacc, henq⟩
    · rw [hsent, henq]
      constructor
      · intro hall
        refine ⟨fun m hm => ?_, hacc⟩
        rcases List.mem_append.mp
          (hall m (List.mem_append_left _ hm)) with he | he
        · exact he
        · exact absurd (List.mem_singleton.mp he ▸ hm) hnew
      · rintro ⟨hall, -⟩ m hm
        rcases List.mem_append.mp hm with hm | hm
        · exact List.mem_append_left _ (hall m hm)
        · exact List.mem_append_right _ hm
    · rw [hsent, henq]
      constructor
      · intro hall
        have hd := hall d
          (List.mem_append_right _ (List.mem_singleton_self d))
        exact absurd (hl.enqueuedSent d hd) hnew
      · rintro ⟨-, hyes⟩
        exact absurd hyes hacc
  · rw [hsent, henq]
    exact ⟨fun hall => ⟨hall, hacc⟩, fun hall => hall.1⟩

/-- A message that was refused stays so: every message of a run is enqueued
    if and only if each was when it was sent. -/
theorem run_all_enqueued (l : List (TaskMove α)) {s s' : MsgTask α}
    (hl : TaskLaw s) (h : exec (msgTask α) s l = some s') :
    (∀ m ∈ s'.sent, m ∈ s'.enqueued) ↔
      (∀ m ∈ s.sent, m ∈ s.enqueued) ∧
        StepsMeet (msgTask α) Accepted s l :=
  exec_iff_of_step_iff (P := fun s => ∀ m ∈ s.sent, m ∈ s.enqueued)
    (fun _ _ _ => taskLaw_step) (fun _ _ _ => step_all_enqueued) l hl h

/-- After the destructor the destroyed messages are those that were
    enqueued, each once. -/
theorem TaskLaw.count_destroyed {s : MsgTask α} (hl : TaskLaw s)
    (hdead : s.alive = false) (m : α) :
    s.destroyed.count m = 1 ↔ m ∈ s.enqueued := by
  obtain ⟨hperm, -, -⟩ := hl.buried hdead
  rw [hperm.count_eq]
  constructor
  · intro hcount
    exact List.count_pos_iff.mp (by omega)
  · exact List.count_eq_one_of_mem hl.enqueuedOnce

/-- **THE END OF EVERY MESSAGE**: in a run to the end of the destructor every
    message that was sent is destroyed exactly once if and only if every send
    found the queue open and memory for the list element. -/
theorem destroyed_once_iff {s₀ s : MsgTask α} {l : List (TaskMove α)}
    (hinit : (msgTask α).init s₀) (hrun : exec (msgTask α) s₀ l = some s)
    (hdead : s.alive = false) :
    (∀ m ∈ s.sent, s.destroyed.count m = 1) ↔
      StepsMeet (msgTask α) Accepted s₀ l := by
  have hl₀ : TaskLaw s₀ := reach_taskLaw (.init hinit)
  have hl : TaskLaw s := reach_taskLaw (reach_exec l (.init hinit) hrun)
  have hnone : ∀ m ∈ s₀.sent, m ∈ s₀.enqueued := by
    obtain ⟨mQ, mThread, mJoinable, rfl, -⟩ := hinit
    intro m hm
    cases hm
  calc (∀ m ∈ s.sent, s.destroyed.count m = 1)
      ↔ ∀ m ∈ s.sent, m ∈ s.enqueued := by
        simp only [hl.count_destroyed hdead]
    _ ↔ (∀ m ∈ s₀.sent, m ∈ s₀.enqueued) ∧
          StepsMeet (msgTask α) Accepted s₀ l := run_all_enqueued l hl₀ hrun
    _ ↔ StepsMeet (msgTask α) Accepted s₀ l := and_iff_right hnone

/-- Two messages are sent, the first is processed, the second one is flushed
    after the thread was stopped. -/
def flushedRun : List (TaskMove Nat) :=
  [.threadStart, .loopTest, .sendMsg (some 5) (some 0), .rcv,
    .sendMsg (some 6) (some 1), .proc, .destroy, .delete, .destroyThread,
    .loopTest, .destructor]

theorem destroyed_once_iff_flushed :
    ∃ s : MsgTask Nat, (s.sent = [5, 6] ∧ s.destroyed = [5, 6]) ∧
      ((∀ m ∈ s.sent, s.destroyed.count m = 1) ↔
        StepsMeet (msgTask Nat) Accepted
          (newTask (some msgQInit) true true) flushedRun) := by
  have hrun : (exec (msgTask Nat) (newTask (some msgQInit) true true)
      flushedRun).map (fun s => (s.sent, s.destroyed, s.alive))
      = some ([5, 6], [5, 6], false) := by decide +kernel
  obtain ⟨s, hexec, hend⟩ := Option.map_eq_some_iff.mp hrun
  simp only [Prod.mk.injEq] at hend
  obtain ⟨hsent, hdestroyed, hdead⟩ := hend
  exact ⟨s, ⟨hsent, hdestroyed⟩,
    destroyed_once_iff ⟨_, _, _, rfl, Or.inr rfl⟩ hexec hdead⟩

/-- A message is sent after `destroy()` has unblocked the queue. -/
def refusedRun : List (TaskMove Nat) :=
  [.threadStart, .loopTest, .rcv, .destroy, .sendMsg (some 7) (some 0),
    .wake, .destroyThread, .destructor]

/-- The queue refuses it, `sendMsg` drops the refusal, and no one deletes the
    message. -/
theorem refused_not_destroyed :
    ¬ ∀ (s₀ s : MsgTask Nat) (l : List (TaskMove Nat)),
      (msgTask Nat).init s₀ → exec (msgTask Nat) s₀ l = some s →
      s.alive = false → ∀ m ∈ s.sent, s.destroyed.count m = 1 := by
  intro hall
  have hrun : (exec (msgTask Nat) (newTask (some msgQInit) true true)
      refusedRun).map (fun s => (s.sent, s.destroyed, s.alive))
      = some ([7], [], false) := by decide +kernel
  obtain ⟨s, hexec, hend⟩ := Option.map_eq_some_iff.mp hrun
  simp only [Prod.mk.injEq] at hend
  obtain ⟨hsent, hdestroyed, hdead⟩ := hend
  have hone := hall _ s _ ⟨_, _, _, rfl, Or.inr rfl⟩ hexec hdead 7
    (by rw [hsent]; exact List.mem_singleton_self 7)
  rw [hdestroyed] at hone
  cases hone

end QcomMsgTask
