import QcomCommon.LocHeapOrderProofs
import QcomCommon.LocTimerProofs

/-! # Every start is consumed once

    A started timer is stopped by its client or called back, not both: the
    starts that succeeded are the stops that succeeded, the calls back and
    the timers still running (`timer_consumed_once`).  The delegate of a
    start is sent one Remove when it is stopped or expires, and no heap has
    it after that message deleted it.

    The delegate is in a heap until its Remove comes, so the search of the
    heap has to find it; the ranking it searches by is that of the deadlines
    as long as their seconds fit an `int`. -/

namespace QcomTimer

open QcomTransition QcomHeap LocHeapNode

/-! ## The log of a run -/

/-- A run with its log: the clients of the calls of `start` and of `stop`
    that returned true, the messages queued, the delegates stopped or
    expired, and those deleted. -/
structure TimerLog where
  timers : Timers
  started : List Nat
  stopped : List Nat
  sent : List TimerMsg
  ended : List DelegateRef
  deleted : List DelegateRef

/-- The timers that a step starts. -/
def startedBy (s : Timers) : TimerAction → List Nat
  | .start client _ _ => if s.mTimer client = none then [client] else []
  | _ => []

/-- The timers that a step stops. -/
def stoppedBy (s : Timers) : TimerAction → List Nat
  | .stop client => if s.mTimer client = none then [] else [client]
  | _ => []

/-- Stopped by its client, or by the message thread in `expire`. -/
def endedBy (s : Timers) : TimerAction → List DelegateRef
  | .stop client => (s.mTimer client).toList
  | .taskStep =>
      match s.task with
      | .stopping _ _ _ client => (s.mTimer client).toList
      | _ => []
  | _ => []

/-- The last a Remove does is to delete its delegate. -/
def deletedBy (s : Timers) : TimerAction → List DelegateRef
  | .taskStep =>
      match s.task, s.queue with
      | .idle, .MsgTimerRemove _ mTimer :: _ => [mTimer]
      | _, _ => []
  | _ => []

/-- A step, written down. -/
def logStep (l : TimerLog) (a : TimerAction) : Option TimerLog :=
  (timerStep l.timers a).map (fun s => {
    timers := s
    started := l.started ++ startedBy l.timers a
    stopped := l.stopped ++ stoppedBy l.timers a
    sent := l.sent ++ s.queue.drop l.timers.queue.length
    ended := l.ended ++ endedBy l.timers a
    deleted := l.deleted ++ deletedBy l.timers a })

/-- The timers with a log, from their start on. -/
def logSys : TransSys TimerLog TimerAction where
  init l := ∃ now, now.Shown ∧ l = ⟨newTimers now, [], [], [], [], []⟩
  step := logStep

/-- An expire() read its client and is not done with it. -/
def TaskPc.halfWay : TaskPc → Bool
  | .stopping _ _ _ _ => true
  | .calling _ _ _ _ => true
  | _ => false

/-- The message pushes the timer. -/
def TimerMsg.pushes (d : DelegateRef) : TimerMsg → Bool
  | .MsgTimerPush _ mTimer => decide (mTimer = d)
  | _ => false

/-- The message removes it. -/
def TimerMsg.removes (d : DelegateRef) : TimerMsg → Bool
  | .MsgTimerRemove _ mTimer => decide (mTimer = d)
  | _ => false

/-- The client about to be called back. -/
def TaskPc.callee : TaskPc → Option Nat
  | .calling _ _ client _ => some client
  | _ => none

/-- The calls back of a client, the one about to be made included. -/
def called (s : Timers) (client : Nat) : Nat :=
  (s.fired.map Fired.client).count client +
    if s.task.callee = some client then 1 else 0

/-! ## What a step does to the delegates -/

/-- A step creates a delegate with a start, ends one with a stop, moves one
    into its heap, deletes one, or leaves them, but for what is popped. -/
inductive DelegateMove (s : Timers) (a : TimerAction) : Timers → Prop where
  | started {client : Nat} {d : DelegateRef} {c : LocTimerContainer}
      (hfree : s.mTimer client = none) (hd : d.addr = s.created)
      (hstarted : startedBy s a = [client]) (hstopped : stoppedBy s a = [])
      (hended : endedBy s a = []) (hdeleted : deletedBy s a = []) :
      DelegateMove s a { s with
        mTimer := Function.update s.mTimer client (some d)
        mClient := Function.update s.mClient s.created (some client)
        mContainer := Function.update s.mContainer s.created (some c)
        created := s.created + 1
        queue := s.queue ++ [.MsgTimerPush c d] }
  | ended {client : Nat} {d : DelegateRef} {s' : Timers}
      (hd : s.mTimer client = some d)
      (hstop : ∃ task, s' = { stop s client with task := task })
      (hcalled : stoppedBy s a = [client] ∧
          (∀ n, called s' n = called s n) ∨
        stoppedBy s a = [] ∧
          ∀ n, called s' n = called s n + if n = client then 1 else 0)
      (hstarted : startedBy s a = []) (hended : endedBy s a = [d])
      (hdeleted : deletedBy s a = []) : DelegateMove s a s'
  | pushed {c : LocTimerContainer} {d : DelegateRef} {queue : List TimerMsg}
      (ha : a = .taskStep) (hidle : s.task = .idle)
      (hq : s.queue = .MsgTimerPush c d :: queue) :
      DelegateMove s a (procPush { s with queue := queue } c d)
  | removed {c : LocTimerContainer} {d : DelegateRef} {queue : List TimerMsg}
      (ha : a = .taskStep) (hidle : s.task = .idle)
      (hq : s.queue = .MsgTimerRemove c d :: queue) :
      DelegateMove s a (procRemove { s with queue := queue } c d)
  | other {s' : Timers} (htimer : s'.mTimer = s.mTimer)
      (hclient : s'.mClient = s.mClient)
      (hcontainer : s'.mContainer = s.mContainer)
      (hcreated : s'.created = s.created)
      (htree : ∀ c, s'.mTree c = s.mTree c ∨
        s'.mTree c = (s.mTree c).popNode)
      (hqueue : s'.queue = s.queue ∨
        (∃ c, s'.queue = s.queue ++ [.MsgTimerExpire c]) ∨
        ∃ c, s.queue = .MsgTimerExpire c :: s'.queue)
      (hcalled : ∀ n, called s' n = called s n)
      (hstarted : startedBy s a = []) (hstopped : stoppedBy s a = [])
      (hended : endedBy s a = []) (hdeleted : deletedBy s a = []) :
      DelegateMove s a s'

theorem callee_expireLoop (s : Timers) (c : LocTimerContainer)
    (timerOfNow : Timespec)
    (popped : Option DelegateRef × LocHeapNode DelegateRef) :
    (expireLoop s c timerOfNow popped).task.callee = none := by
  rw [expireLoop]
  cases popped.1 <;> rfl

theorem popIfOutRanks_tree (t : LocHeapNode DelegateRef) (now : Timespec) :
    (popIfOutRanks t now).2 = t ∨ (popIfOutRanks t now).2 = t.popNode := by
  rw [popIfOutRanks]
  split
  · split
    · exact Or.inl rfl
    · exact Or.inr rfl
  · exact Or.inl rfl

/-- The loop of an Expire at most pops from its heap. -/
theorem expireLoop_tree (s : Timers) (c : LocTimerContainer)
    (timerOfNow : Timespec)
    {popped : Option DelegateRef × LocHeapNode DelegateRef}
    (hpop : popped.2 = s.mTree c ∨ popped.2 = (s.mTree c).popNode)
    (c' : LocTimerContainer) :
    (expireLoop s c timerOfNow popped).mTree c' = s.mTree c' ∨
      (expireLoop s c timerOfNow popped).mTree c' =
        (s.mTree c').popNode := by
  by_cases hc : c' = c
  · subst hc
    show Function.update s.mTree c' popped.2 c' = _ ∨
      Function.update s.mTree c' popped.2 c' = _
    rw [Function.update_self]
    exact hpop
  · exact Or.inl (Function.update_of_ne hc _ _)

/-- A step of the message thread that only goes on in the loop. -/
theorem delegateMove_loop {s : Timers} {c : LocTimerContainer}
    {timerOfNow : Timespec} {s₀ : Timers}
    (hs₀ : s₀ = { s with fired := s₀.fired })
    (hcalled : ∀ n, (s₀.fired.map Fired.client).count n = called s n)
    (hended : endedBy s .taskStep = [])
    (hdeleted : deletedBy s .taskStep = []) :
    DelegateMove s .taskStep (expireLoop s₀ c timerOfNow
      (popIfOutRanks (s.mTree c) timerOfNow)) := by
  have htree : ∀ c', (expireLoop s₀ c timerOfNow
      (popIfOutRanks (s.mTree c) timerOfNow)).mTree c' = s₀.mTree c' ∨
      (expireLoop s₀ c timerOfNow
        (popIfOutRanks (s.mTree c) timerOfNow)).mTree c' =
        (s₀.mTree c').popNode := by
    refine expireLoop_tree s₀ c timerOfNow ?_
    rw [hs₀]
    exact popIfOutRanks_tree _ _
  rw [hs₀] at htree ⊢
  refine .other rfl rfl rfl rfl htree (Or.inl rfl) ?_ rfl rfl hended hdeleted
  intro n
  rw [called, callee_expireLoop, ← hcalled n]
  rfl

theorem endedBy_kernel {s : Timers} {c : LocTimerContainer}
    {calls : List KernelCall} (htask : s.task = .kernel c calls) :
    endedBy s .taskStep = [] := by
  rw [endedBy, htask]

theorem deletedBy_busy {s : Timers} (htask : s.task ≠ .idle) :
    deletedBy s .taskStep = [] := by
  rw [deletedBy]
  split
  · rename_i hidle _
    exact absurd hidle htask
  · rfl

theorem delegateMove_take {s : Timers} {m : TimerMsg}
    {queue : List TimerMsg} (hidle : s.task = .idle)
    (hq : s.queue = m :: queue) :
    DelegateMove s .taskStep (proc { s with queue := queue } m) := by
  cases m with
  | MsgTimerPush c d => exact .pushed rfl hidle hq
  | MsgTimerRemove c d => exact .removed rfl hidle hq
  | MsgTimerExpire c =>
      refine .other rfl rfl rfl rfl (expireLoop_tree _ _ _ (Or.inr rfl))
        (Or.inr (Or.inr ⟨c, hq⟩)) ?_ rfl rfl ?_ ?_
      · intro n
        rw [called, called, hidle]
        show _ + (if (expireLoop _ _ _ _).task.callee = some n then 1 else 0)
          = _
        rw [callee_expireLoop]
        rfl
      · rw [endedBy, hidle]
      · rw [deletedBy, hidle, hq]

/-- A step that leaves the delegates and the queue. -/
theorem delegateMove_none {s s' : Timers} {a : TimerAction}
    (hsame : s'.mTimer = s.mTimer ∧ s'.mClient = s.mClient ∧
      s'.mContainer = s.mContainer ∧ s'.created = s.created ∧
      s'.mTree = s.mTree ∧ s'.queue = s.queue)
    (hcalled : ∀ n, called s' n = called s n)
    (hstarted : startedBy s a = []) (hstopped : stoppedBy s a = [])
    (hended : endedBy s a = []) (hdeleted : deletedBy s a = []) :
    DelegateMove s a s' := by
  obtain ⟨htimer, hclient, hcontainer, hcreated, htree, hqueue⟩ := hsame
  exact .other htimer hclient hcontainer hcreated
    (fun c => Or.inl (by rw [htree])) (Or.inl hqueue) hcalled hstarted hstopped
    hended hdeleted

theorem delegateMove_start (s : Timers) (client : Nat) (timeOutInMs : UInt32)
    (wakeOnExpire : Bool) :
    DelegateMove s (.start client timeOutInMs wakeOnExpire)
      (start s client timeOutInMs wakeOnExpire) := by
  rw [start]
  split
  · rename_i d hd
    refine delegateMove_none ⟨rfl, rfl, rfl, rfl, rfl, rfl⟩ (fun _ => rfl) ?_
      rfl rfl rfl
    rw [startedBy, if_neg (by rw [hd]; exact Option.some_ne_none d)]
  · rename_i hfree
    refine .started hfree rfl ?_ rfl rfl rfl
    rw [startedBy, if_pos hfree]

theorem delegateMove_stop (s : Timers) (client : Nat) :
    DelegateMove s (.stop client) (stop s client) := by
  cases hd : s.mTimer client with
  | none =>
      rw [stop, hd]
      refine delegateMove_none ⟨rfl, rfl, rfl, rfl, rfl, rfl⟩ (fun _ => rfl)
        rfl ?_ ?_ rfl
      · rw [stoppedBy, if_pos hd]
      · rw [endedBy, hd]
        rfl
  | some d =>
      obtain ⟨f, g, k, l, hstop, _⟩ := stop_eq s client
      refine .ended hd ⟨s.task, ?_⟩ (Or.inl ⟨?_, ?_⟩) rfl ?_ rfl
      · rw [hstop]
      · rw [stoppedBy, if_neg (by rw [hd]; exact Option.some_ne_none d)]
      · rw [hstop]
        exact fun _ => rfl
      · rw [endedBy, hd]
        rfl

/-- The message thread: a message is taken, the kernel called, or one popped
    delegate goes one step further. -/
theorem delegateMove_taskStep {s s' : Timers} (hs : taskStep s = some s') :
    DelegateMove s .taskStep s' := by
  cases taskStep_move hs with
  | take hidle hq =>
      exact delegateMove_take hidle hq
  | done htask =>
      refine delegateMove_none ⟨rfl, rfl, rfl, rfl, rfl, rfl⟩ ?_ rfl rfl
        (endedBy_kernel htask) (deletedBy_busy (by simp [htask]))
      intro n
      simp [called, TaskPc.callee, htask]
  | kernel htask =>
      refine delegateMove_none ⟨rfl, rfl, rfl, rfl, rfl, rfl⟩ ?_ rfl rfl
        (endedBy_kernel htask) (deletedBy_busy (by simp [htask]))
      intro n
      simp [called, TaskPc.callee, htask]
  | read htask hclient =>
      refine delegateMove_none ⟨rfl, rfl, rfl, rfl, rfl, rfl⟩ ?_ rfl rfl ?_
        (deletedBy_busy (by simp [htask]))
      · intro n
        simp [called, TaskPc.callee, htask]
      · rw [endedBy, htask]
  | gone htask hclient =>
      refine delegateMove_loop rfl ?_ ?_ (deletedBy_busy (by simp [htask]))
      · intro n
        simp [called, TaskPc.callee, htask]
      · rw [endedBy, htask]
  | @stop c timerOfNow timer started client htask hstarted =>
      obtain ⟨f, g, k, l, hstop, _⟩ := stop_eq s client
      refine .ended hstarted ⟨_, rfl⟩ (Or.inr ⟨rfl, ?_⟩) rfl ?_
        (deletedBy_busy (by simp [htask]))
      · intro n
        rw [hstop]
        simp only [called, TaskPc.callee, htask, Option.some.injEq,
          reduceCtorEq, if_false, Nat.add_zero, eq_comm]
      · rw [endedBy, htask]
        simp only [hstarted]
        rfl
  | stopped htask hstarted =>
      refine delegateMove_loop rfl ?_ ?_ (deletedBy_busy (by simp [htask]))
      · intro n
        simp [called, TaskPc.callee, htask]
      · rw [endedBy, htask]
        simp only [hstarted]
        rfl
  | call htask =>
      refine delegateMove_loop rfl ?_ ?_ (deletedBy_busy (by simp [htask]))
      · intro n
        simp [called, TaskPc.callee, htask, List.count_singleton]
      · rw [endedBy, htask]

/-- **EVERY STEP** is one of the moves of a delegate. -/
theorem delegate_move {s s' : Timers} {a : TimerAction}
    (hs : timerStep s a = some s') : DelegateMove s a s' := by
  cases a with
  | start client timeOutInMs wakeOnExpire =>
      injection hs with hs
      exact hs ▸ delegateMove_start s client timeOutInMs wakeOnExpire
  | stop client =>
      injection hs with hs
      exact hs ▸ delegateMove_stop s client
  | tick now =>
      rw [timerStep, tick] at hs
      split at hs
      · injection hs with hs
        subst hs
        exact delegateMove_none ⟨rfl, rfl, rfl, rfl, rfl, rfl⟩ (fun _ => rfl)
          rfl rfl rfl rfl
      · cases hs
  | epollWait cs =>
      rw [timerStep, epollWait] at hs
      split at hs
      · injection hs with hs
        subst hs
        exact delegateMove_none ⟨rfl, rfl, rfl, rfl, rfl, rfl⟩ (fun _ => rfl)
          rfl rfl rfl rfl
      · cases hs
  | pollStep =>
      rw [timerStep, pollStep] at hs
      split at hs
      · injection hs with hs
        subst hs
        exact delegateMove_none ⟨rfl, rfl, rfl, rfl, rfl, rfl⟩ (fun _ => rfl)
          rfl rfl rfl rfl
      · rename_i c poll hpoll
        injection hs with hs
        subst hs
        exact .other rfl rfl rfl rfl (fun _ => Or.inl rfl)
          (Or.inr (Or.inl ⟨c, rfl⟩)) (fun _ => rfl) rfl rfl rfl rfl
      · cases hs
  | taskStep => exact delegateMove_taskStep hs

/-! ## The invariant -/

/-- The copies of a delegate that are in a heap or on their way there. -/
def copies (s : Timers) (d : DelegateRef) : Nat :=
  s.queue.countP (TimerMsg.pushes d) + (s.mTree .mSwTimers).objects.count d +
    (s.mTree .mHwTimers).objects.count d

/-- The log after a step to `s`. -/
def TimerLog.next (l : TimerLog) (a : TimerAction) (s : Timers) :
    TimerLog where
  timers := s
  started := l.started ++ startedBy l.timers a
  stopped := l.stopped ++ stoppedBy l.timers a
  sent := l.sent ++ s.queue.drop l.timers.queue.length
  ended := l.ended ++ endedBy l.timers a
  deleted := l.deleted ++ deletedBy l.timers a

/-- Starts are paid for by stops, calls back and the running timer. -/
def CountLaw (l : TimerLog) : Prop :=
  ∀ n, l.started.count n = l.stopped.count n + called l.timers n +
    if l.timers.mTimer n = none then 0 else 1

/-- A delegate is pushed once, to one container, before it is removed from
    it, and a running one was not removed. -/
structure MailLaw (l : TimerLog) : Prop where
  live : ∀ client d, l.timers.mTimer client = some d →
    l.timers.mClient d.addr = some client ∧ d ∉ l.ended ∧
    ∃ c, l.timers.mContainer d.addr = some c ∧ .MsgTimerPush c d ∈ l.sent
  removes : ∀ d, l.sent.countP (TimerMsg.removes d) = l.ended.count d
  nodup : l.ended.Nodup
  known : ∀ c d, .MsgTimerPush c d ∈ l.sent → d.addr < l.timers.created
  homes : ∀ c c' d, .MsgTimerPush c d ∈ l.sent →
    .MsgTimerPush c' d ∈ l.sent → c = c'
  removed : ∀ c d, .MsgTimerRemove c d ∈ l.sent → .MsgTimerPush c d ∈ l.sent
  queued : ∀ m ∈ l.timers.queue, m ∈ l.sent
  trees : ∀ c d, (l.timers.mTree c).Mem d → .MsgTimerPush c d ∈ l.sent
  single : ∀ d, copies l.timers d ≤ 1
  order : l.timers.queue.Pairwise
    (fun m m' => ∀ d, m.removes d = true → m'.pushes d = false)
  deleted : ∀ d ∈ l.deleted, l.timers.queue.countP (TimerMsg.pushes d) = 0 ∧
    ∃ c, .MsgTimerRemove c d ∈ l.sent

theorem removes_iff {m : TimerMsg} {d : DelegateRef} :
    m.removes d = true ↔ ∃ c, m = .MsgTimerRemove c d := by
  cases m with
  | MsgTimerPush c e => simp [TimerMsg.removes]
  | MsgTimerRemove c e => simp [TimerMsg.removes]
  | MsgTimerExpire c => simp [TimerMsg.removes]

theorem pushes_iff {m : TimerMsg} {d : DelegateRef} :
    m.pushes d = true ↔ ∃ c, m = .MsgTimerPush c d := by
  cases m with
  | MsgTimerPush c e => simp [TimerMsg.pushes]
  | MsgTimerRemove c e => simp [TimerMsg.pushes]
  | MsgTimerExpire c => simp [TimerMsg.pushes]

/-! ## The account -/

theorem stop_mTimer (s : Timers) (client : Nat) :
    (stop s client).mTimer = Function.update s.mTimer client none := by
  rw [stop]
  split
  · rw [destroyLocked]
    split <;> rfl
  · rename_i hd
    rw [← hd, Function.update_eq_self]

theorem countLaw_move {l : TimerLog} (h : CountLaw l) {a : TimerAction}
    {s : Timers} (hm : DelegateMove l.timers a s) :
    CountLaw (l.next a s) := by
  intro n
  have hn := h n
  simp only [TimerLog.next]
  cases hm with
  | @started client d c hfree hd hstarted hstopped hended hdeleted =>
      rw [hstarted, hstopped, List.append_nil, List.count_append,
        List.count_singleton]
      simp only [beq_iff_eq]
      show _ = _ + called l.timers n + _
      by_cases hnc : n = client
      · subst hnc
        simp only [Function.update_self, hfree, if_true, reduceCtorEq,
          if_false] at hn ⊢
        omega
      · have hcn : ¬ client = n := fun heq => hnc heq.symm
        simp only [Function.update_of_ne hnc, if_neg hcn]
        omega
  | @ended client d _ hd hstop hcalled hstarted hended hdeleted =>
      obtain ⟨task, rfl⟩ := hstop
      rw [hstarted, List.append_nil]
      show _ = _ + _ + (if (stop l.timers client).mTimer n = none then 0
        else 1)
      rw [stop_mTimer]
      by_cases hnc : n = client
      · subst hnc
        simp only [Function.update_self, hd, reduceCtorEq, if_true, if_false]
          at hn ⊢
        -- its client stopped it, or the message thread is to call it back
        rcases hcalled with ⟨hstopped, hsame⟩ | ⟨hstopped, hmore⟩
        · rw [hstopped, hsame, List.count_append, List.count_singleton_self]
          omega
        · rw [hstopped, hmore, List.append_nil, if_pos rfl]
          omega
      · have hcn : client ≠ n := fun heq => hnc heq.symm
        simp only [Function.update_of_ne hnc]
        rcases hcalled with ⟨hstopped, hsame⟩ | ⟨hstopped, hmore⟩
        · rw [hstopped, hsame, List.count_append, List.count_cons_of_ne hcn,
            List.count_nil]
          omega
        · rw [hstopped, hmore, List.append_nil, if_neg hnc]
          omega
  | @pushed c d queue ha hidle hq =>
      subst ha
      simp only [startedBy, stoppedBy, List.append_nil]
      rw [hn]
      simp only [called, hidle]
      rfl
  | @removed c d queue ha hidle hq =>
      subst ha
      simp only [startedBy, stoppedBy, List.append_nil]
      rw [hn]
      simp only [called, hidle]
      rfl
  | other htimer hclient hcontainer hcreated htree hqueue hcalled hstarted
      hstopped hended hdeleted =>
      simp only [hstarted, hstopped, List.append_nil, htimer, hcalled]
      exact hn

/-! ## The messages -/

/-- An ended delegate was pushed. -/
theorem MailLaw.ended_sent {l : TimerLog} (h : MailLaw l) {d : DelegateRef}
    (hd : d ∈ l.ended) : ∃ c, .MsgTimerPush c d ∈ l.sent := by
  have hcount : 0 < l.sent.countP (TimerMsg.removes d) := by
    rw [h.removes d]
    exact List.count_pos_iff.mpr hd
  obtain ⟨m, hm, hrem⟩ := List.countP_pos_iff.mp hcount
  obtain ⟨c, rfl⟩ := removes_iff.mp hrem
  exact ⟨c, h.removed c d hm⟩

/-- A delegate without a Push is nowhere. -/
theorem MailLaw.copies_eq_zero {l : TimerLog} (h : MailLaw l)
    {d : DelegateRef} (hd : ∀ c, .MsgTimerPush c d ∉ l.sent) :
    copies l.timers d = 0 := by
  have htree : ∀ c, (l.timers.mTree c).objects.count d = 0 := by
    intro c
    refine Multiset.count_eq_zero.mpr ?_
    intro hmem
    exact hd c (h.trees c d (mem_objects.mp hmem))
  have hqueue : l.timers.queue.countP (TimerMsg.pushes d) = 0 := by
    refine List.countP_eq_zero.mpr ?_
    intro m hm hpush
    obtain ⟨c, rfl⟩ := pushes_iff.mp hpush
    exact hd c (h.queued _ hm)
  rw [copies, hqueue, htree, htree]

/-- A message that is sent adds a copy if it is a Push. -/
theorem copies_send {s s' : Timers} {m : TimerMsg}
    (hqueue : s'.queue = s.queue ++ [m]) (htree : s'.mTree = s.mTree)
    (d : DelegateRef) :
    copies s' d = copies s d + if m.pushes d = true then 1 else 0 := by
  rw [copies, copies, hqueue, htree, List.countP_append, List.countP_singleton]
  omega

/-- A delegate without a Push ended neither. -/
theorem MailLaw.not_ended {l : TimerLog} (h : MailLaw l) {d : DelegateRef}
    (hd : ∀ c, .MsgTimerPush c d ∉ l.sent) : d ∉ l.ended := by
  intro hmem
  obtain ⟨c, hm⟩ := h.ended_sent hmem
  exact hd c hm

/-- What is added to the queue is logged. -/
theorem MailLaw.queued_append {l : TimerLog} (h : MailLaw l)
    {m : TimerMsg} (added : List TimerMsg) (hm : m ∈ l.timers.queue ++ added) :
    m ∈ l.sent ++ added := by
  rcases List.mem_append.mp hm with hm | hm
  · exact List.mem_append_left _ (h.queued m hm)
  · exact List.mem_append_right _ hm

/-- A start creates a delegate nothing knows yet. -/
theorem mailLaw_started {l : TimerLog} (h : MailLaw l) {a : TimerAction}
    {client : Nat} {d : DelegateRef} {c : LocTimerContainer}
    (hd : d.addr = l.timers.created)
    (hended : endedBy l.timers a = [])
    (hdeleted : deletedBy l.timers a = []) :
    MailLaw (l.next a { l.timers with
      mTimer := Function.update l.timers.mTimer client (some d)
      mClient := Function.update l.timers.mClient l.timers.created
        (some client)
      mContainer := Function.update l.timers.mContainer l.timers.created
        (some c)
      created := l.timers.created + 1
      queue := l.timers.queue ++ [.MsgTimerPush c d] }) := by
  have hnew : ∀ c', .MsgTimerPush c' d ∉ l.sent := by
    intro c' hm
    have := h.known c' d hm
    omega
  have hold : ∀ {e c'}, .MsgTimerPush c' e ∈ l.sent →
      e.addr ≠ l.timers.created := by
    intro e c' hm heq
    have := h.known c' e hm
    omega
  have hsent : ∀ {m}, m ∈ l.sent ++ [.MsgTimerPush c d] ↔
      m ∈ l.sent ∨ m = .MsgTimerPush c d := by
    intro m
    rw [List.mem_append, List.mem_singleton]
  simp only [TimerLog.next, hended, hdeleted, List.drop_left, List.append_nil]
  constructor
  case live =>
    intro client' d' hd'
    by_cases hcc : client' = client
    · subst hcc
      simp only [Function.update_self, Option.some.injEq] at hd'
      subst hd'
      exact ⟨by simp only [hd, Function.update_self], h.not_ended hnew, c,
        by simp only [hd, Function.update_self], hsent.mpr (Or.inr rfl)⟩
    · simp only [Function.update_of_ne hcc] at hd'
      obtain ⟨hcl, hne, c', hcont, hm⟩ := h.live client' d' hd'
      have haddr := hold hm
      refine ⟨?_, hne, c', ?_, hsent.mpr (Or.inl hm)⟩
      · simp only [Function.update_of_ne haddr]
        exact hcl
      · simp only [Function.update_of_ne haddr]
        exact hcont
  case removes =>
    intro e
    rw [List.countP_append, h.removes e]
    rfl
  case nodup => exact h.nodup
  case known =>
    intro c' e hm
    show e.addr < l.timers.created + 1
    rcases hsent.mp hm with hm | hm
    · have := h.known c' e hm
      omega
    · injection hm with _ he
      rw [he]
      omega
  case homes =>
    intro c' c'' e hm hm'
    rcases hsent.mp hm with hm | hm
    · rcases hsent.mp hm' with hm' | hm'
      · exact h.homes c' c'' e hm hm'
      · injection hm' with _ he
        exact absurd (he ▸ hm) (hnew c')
    · injection hm with hc he
      rcases hsent.mp hm' with hm' | hm'
      · exact absurd (he ▸ hm') (hnew c'')
      · injection hm' with hc' _
        rw [hc, hc']
  case removed =>
    intro c' e hm
    rcases hsent.mp hm with hm | hm
    · exact hsent.mpr (Or.inl (h.removed c' e hm))
    · cases hm
  case queued => exact fun m hm => h.queued_append _ hm
  case trees =>
    intro c' e hm
    exact hsent.mpr (Or.inl (h.trees c' e hm))
  case single =>
    intro e
    refine le_of_eq_of_le (copies_send (s := l.timers)
      (m := .MsgTimerPush c d) ?_ ?_ e) ?_
    · rfl
    · rfl
    by_cases hpush : (TimerMsg.MsgTimerPush c d).pushes e = true
    · obtain ⟨_, heq⟩ := pushes_iff.mp hpush
      injection heq with _ hde
      rw [if_pos hpush, ← hde, h.copies_eq_zero hnew]
    · rw [if_neg hpush]
      exact h.single e
  case order =>
    refine List.pairwise_append.mpr ⟨h.order, List.pairwise_singleton _ _, ?_⟩
    intro m hm m' hm' e hrem
    obtain ⟨c', rfl⟩ := removes_iff.mp hrem
    obtain rfl := List.mem_singleton.mp hm'
    refine decide_eq_false ?_
    intro heq
    exact hnew c' (heq ▸ h.removed c' e (h.queued _ hm))
  case deleted =>
    intro e he
    obtain ⟨hzero, c', hm⟩ := h.deleted e he
    refine ⟨?_, c', hsent.mpr (Or.inl hm)⟩
    simp only [List.countP_append, hzero, Nat.zero_add, List.countP_singleton]
    refine if_neg ?_
    intro hpush
    obtain ⟨_, heq⟩ := pushes_iff.mp hpush
    injection heq with _ heq
    exact hnew c' (heq ▸ h.removed c' e hm)

/-- Expires are no messages of a delegate. -/
theorem countP_expires {added : List TimerMsg}
    (h : ∀ m ∈ added, ∃ c, m = .MsgTimerExpire c) {p : TimerMsg → Bool}
    (hp : ∀ c, p (.MsgTimerExpire c) = false) : added.countP p = 0 := by
  refine List.countP_eq_zero.mpr ?_
  intro m hm
  obtain ⟨c, rfl⟩ := h m hm
  rw [hp c]
  exact Bool.false_ne_true

/-- A step that starts and ends no delegate: it takes messages, queues
    Expires, and brings no copy of a delegate in. -/
theorem MailLaw.calm {l : TimerLog} (h : MailLaw l) {a : TimerAction}
    {s : Timers} (htimer : s.mTimer = l.timers.mTimer)
    (hclient : s.mClient = l.timers.mClient)
    (hcontainer : s.mContainer = l.timers.mContainer)
    (hcreated : s.created = l.timers.created)
    (added : List TimerMsg)
    (hadded : s.queue.drop l.timers.queue.length = added)
    (hexpire : ∀ m ∈ added, ∃ c, m = .MsgTimerExpire c)
    (hqueue : s.queue.Sublist (l.timers.queue ++ added))
    (htrees : ∀ c d, (s.mTree c).Mem d → .MsgTimerPush c d ∈ l.sent)
    (hsingle : ∀ d, copies s d ≤ 1) (hended : endedBy l.timers a = [])
    (hdeleted : ∀ d ∈ deletedBy l.timers a,
      s.queue.countP (TimerMsg.pushes d) = 0 ∧
      ∃ c, .MsgTimerRemove c d ∈ l.sent) :
    MailLaw (l.next a s) := by
  have hpush : ∀ d, added.countP (TimerMsg.pushes d) = 0 :=
    fun d => countP_expires hexpire (fun _ => rfl)
  have hrem : ∀ d, added.countP (TimerMsg.removes d) = 0 :=
    fun d => countP_expires hexpire (fun _ => rfl)
  have hpushSent : ∀ {c d}, .MsgTimerPush c d ∈ l.sent ++ added →
      .MsgTimerPush c d ∈ l.sent := by
    intro c d hm
    rcases List.mem_append.mp hm with hm | hm
    · exact hm
    · obtain ⟨_, heq⟩ := hexpire _ hm
      cases heq
  simp only [TimerLog.next, hended, List.append_nil, hadded]
  constructor
  case live =>
    intro client d hd
    rw [htimer] at hd
    obtain ⟨hcl, hne, c, hcont, hm⟩ := h.live client d hd
    rw [hclient, hcontainer]
    exact ⟨hcl, hne, c, hcont, List.mem_append_left _ hm⟩
  case removes =>
    intro d
    rw [List.countP_append, hrem, h.removes d]
    rfl
  case nodup => exact h.nodup
  case known =>
    intro c d hm
    rw [hcreated]
    exact h.known c d (hpushSent hm)
  case homes =>
    intro c c' d hm hm'
    exact h.homes c c' d (hpushSent hm) (hpushSent hm')
  case removed =>
    intro c d hm
    refine List.mem_append_left _ (h.removed c d ?_)
    rcases List.mem_append.mp hm with hm | hm
    · exact hm
    · obtain ⟨_, heq⟩ := hexpire _ hm
      cases heq
  case queued => exact fun m hm => h.queued_append _ (hqueue.subset hm)
  case trees =>
    intro c d hm
    exact List.mem_append_left _ (htrees c d hm)
  case single => exact hsingle
  case order =>
    refine List.Pairwise.sublist hqueue ?_
    refine List.pairwise_append.mpr ⟨h.order, ?_, ?_⟩
    · refine List.pairwise_of_forall_mem_list ?_
      intro m hm m' hm' d hd
      obtain ⟨c, rfl⟩ := hexpire m hm
      cases hd
    · intro m hm m' hm' d hd
      obtain ⟨c, rfl⟩ := hexpire m' hm'
      rfl
  case deleted =>
    intro d hd
    rcases List.mem_append.mp hd with hd | hd
    · obtain ⟨hzero, c, hm⟩ := h.deleted d hd
      refine ⟨?_, c, List.mem_append_left _ hm⟩
      have hle := hqueue.countP_le (p := TimerMsg.pushes d)
      rw [List.countP_append, hzero, hpush d] at hle
      exact Nat.le_zero.mp hle
    · obtain ⟨hzero, c, hm⟩ := hdeleted d hd
      exact ⟨hzero, c, List.mem_append_left _ hm⟩

/-- A step that takes the first message. -/
theorem MailLaw.taken {l : TimerLog} (h : MailLaw l) {a : TimerAction}
    {s : Timers} {m : TimerMsg} (hqueue : l.timers.queue = m :: s.queue)
    (htimer : s.mTimer = l.timers.mTimer)
    (hclient : s.mClient = l.timers.mClient)
    (hcontainer : s.mContainer = l.timers.mContainer)
    (hcreated : s.created = l.timers.created)
    (htrees : ∀ c d, (s.mTree c).Mem d → .MsgTimerPush c d ∈ l.sent)
    (hsingle : ∀ d, copies s d ≤ 1) (hended : endedBy l.timers a = [])
    (hdeleted : ∀ d ∈ deletedBy l.timers a,
      s.queue.countP (TimerMsg.pushes d) = 0 ∧
      ∃ c, .MsgTimerRemove c d ∈ l.sent) :
    MailLaw (l.next a s) := by
  refine h.calm htimer hclient hcontainer hcreated [] ?_ ?_ ?_ htrees hsingle
    hended hdeleted
  · rw [hqueue]
    exact List.drop_eq_nil_of_le (Nat.le_succ _)
  · exact fun m hm => absurd hm List.not_mem_nil
  · rw [List.append_nil, hqueue]
    exact List.sublist_cons_self _ _

/-- What `stop` does to a running timer. -/
theorem stop_running {s : Timers} {client : Nat} {d : DelegateRef}
    {c : LocTimerContainer} (hd : s.mTimer client = some d)
    (hc : s.mContainer d.addr = some c) :
    stop s client = { s with
      mTimer := Function.update s.mTimer client none
      mClient := Function.update s.mClient d.addr none
      mContainer := Function.update s.mContainer d.addr none
      queue := s.queue ++ [.MsgTimerRemove c d] } := by
  rw [stop, hd]
  simp only [destroyLocked, hc]

/-- A stop sends its delegate the one Remove. -/
theorem mailLaw_ended {l : TimerLog} (h : MailLaw l) {a : TimerAction}
    {client : Nat} {d : DelegateRef} {task : TaskPc}
    (hd : l.timers.mTimer client = some d)
    (hended : endedBy l.timers a = [d])
    (hdeleted : deletedBy l.timers a = []) :
    MailLaw (l.next a { stop l.timers client with task := task }) := by
  obtain ⟨hcl, hne, c, hcont, hpushed⟩ := h.live client d hd
  rw [stop_running hd hcont]
  simp only [TimerLog.next, hended, hdeleted, List.drop_left, List.append_nil]
  have hold : ∀ {m}, m ∈ l.sent → m ∈ l.sent ++ [.MsgTimerRemove c d] :=
    fun hm => List.mem_append_left _ hm
  have hpush : ∀ {c' e}, .MsgTimerPush c' e ∈
      l.sent ++ [TimerMsg.MsgTimerRemove c d] → .MsgTimerPush c' e ∈ l.sent
      := by
    intro c' e hm
    rcases List.mem_append.mp hm with hm | hm
    · exact hm
    · cases List.mem_singleton.mp hm
  constructor
  case live =>
    intro client' e he
    have hcc : client' ≠ client := by
      intro heq
      simp only [heq, Function.update_self, reduceCtorEq] at he
    simp only [Function.update_of_ne hcc] at he
    obtain ⟨hcl', hne', c', hcont', hm⟩ := h.live client' e he
    -- another client's delegate is another one
    have haddr : e.addr ≠ d.addr := by
      intro heq
      rw [heq, hcl] at hcl'
      exact hcc (Option.some.inj hcl').symm
    refine ⟨?_, ?_, c', ?_, hold hm⟩
    · simp only [Function.update_of_ne haddr]
      exact hcl'
    · intro hmem
      rcases List.mem_append.mp hmem with hmem | hmem
      · exact hne' hmem
      · exact haddr (congrArg DelegateRef.addr (List.mem_singleton.mp hmem))
    · simp only [Function.update_of_ne haddr]
      exact hcont'
  case removes =>
    intro e
    rw [List.countP_append, List.count_append, h.removes e,
      List.countP_singleton, List.count_singleton]
    simp only [TimerMsg.removes, decide_eq_true_eq, beq_iff_eq]
  case nodup =>
    refine List.nodup_append.mpr ⟨h.nodup, List.nodup_singleton d, ?_⟩
    intro e he e' he'
    rw [List.mem_singleton.mp he']
    exact fun heq => hne (heq ▸ he)
  case known => exact fun c' e hm => h.known c' e (hpush hm)
  case homes =>
    exact fun c' c'' e hm hm' => h.homes c' c'' e (hpush hm) (hpush hm')
  case removed =>
    intro c' e hm
    rcases List.mem_append.mp hm with hm | hm
    · exact hold (h.removed c' e hm)
    · injection List.mem_singleton.mp hm with hc he
      rw [hc, he]
      exact hold hpushed
  case queued => exact fun m hm => h.queued_append _ hm
  case trees => exact fun c' e hm => hold (h.trees c' e hm)
  case single =>
    intro e
    refine le_of_eq_of_le (copies_send (s := l.timers)
      (m := .MsgTimerRemove c d) ?_ ?_ e) (h.single e)
    · rfl
    · rfl
  case order =>
    refine List.pairwise_append.mpr ⟨h.order, List.pairwise_singleton _ _, ?_⟩
    intro m hm m' hm' e hrem
    obtain rfl := List.mem_singleton.mp hm'
    rfl
  case deleted =>
    intro e he
    obtain ⟨hzero, c', hm⟩ := h.deleted e he
    refine ⟨?_, c', hold hm⟩
    simp only [List.countP_append, hzero, List.countP_singleton,
      TimerMsg.pushes, Bool.false_eq_true, if_false]

/-- The copies after one heap and the queue changed. -/
theorem copies_update (s s' : Timers) {c : LocTimerContainer}
    (t : LocHeapNode DelegateRef)
    (htree : s'.mTree = Function.update s.mTree c t) (d : DelegateRef) :
    copies s' d + s.queue.countP (TimerMsg.pushes d) +
        (s.mTree c).objects.count d =
      copies s d + s'.queue.countP (TimerMsg.pushes d) +
        t.objects.count d := by
  have hsw : LocTimerContainer.mSwTimers ≠ .mHwTimers := by decide
  simp only [copies, htree]
  cases c with
  | mSwTimers =>
      rw [Function.update_self, Function.update_of_ne hsw.symm]
      omega
  | mHwTimers =>
      rw [Function.update_self, Function.update_of_ne hsw]
      omega

theorem count_popNode_le (t : LocHeapNode DelegateRef) (d : DelegateRef) :
    t.popNode.objects.count d ≤ t.objects.count d := by
  cases hpeek : t.peek with
  | none => rw [peek_eq_none.mp hpeek, popNode]
  | some e =>
      rw [← objects_popNode hpeek]
      exact Multiset.count_le_count_cons d e _

theorem count_remove_le (t : LocHeapNode DelegateRef) (x d : DelegateRef) :
    (t.remove x).2.objects.count d ≤ t.objects.count d := by
  cases hfound : (t.remove x).1 with
  | none => rw [remove_eq_of_none hfound]
  | some y =>
      rw [← (objects_remove hfound).2]
      exact Multiset.count_le_count_cons d x _

/-- A Push brings its delegate from the queue to the heap. -/
theorem mailLaw_pushed {l : TimerLog} (h : MailLaw l)
    {c : LocTimerContainer} {d : DelegateRef} {queue : List TimerMsg}
    (hidle : l.timers.task = .idle)
    (hq : l.timers.queue = .MsgTimerPush c d :: queue) :
    MailLaw (l.next .taskStep
      (procPush { l.timers with queue := queue } c d)) := by
  have hsent : .MsgTimerPush c d ∈ l.sent :=
    h.queued _ (by rw [hq]; exact List.mem_cons_self)
  refine h.taken hq rfl rfl rfl rfl ?_ ?_ ?_ ?_
  · intro c' e hm
    rcases mem_update hm with ⟨rfl, hm⟩ | hm
    · rcases mem_push hm with rfl | hm
      · exact hsent
      · exact h.trees c' e hm
    · exact h.trees c' e hm
  · intro e
    show copies (procPush { l.timers with queue := queue } c d) e ≤ 1
    have hcopies := copies_update l.timers
      (procPush { l.timers with queue := queue } c d)
      ((l.timers.mTree c).push d) rfl e
    have hqueue : (procPush { l.timers with queue := queue } c d).queue =
        queue := rfl
    generalize procPush { l.timers with queue := queue } c d = s' at *
    have hold := h.single e
    rw [objects_push, hqueue, hq, List.countP_cons, Multiset.count_cons]
      at hcopies
    simp only [TimerMsg.pushes, decide_eq_true_eq] at hcopies
    by_cases hde : d = e
    · rw [if_pos hde, if_pos hde.symm] at hcopies
      omega
    · have hed : ¬ e = d := fun heq => hde heq.symm
      rw [if_neg hde, if_neg hed] at hcopies
      omega
  · rw [endedBy, hidle]
  · rw [deletedBy, hidle, hq]
    exact fun e he => absurd he List.not_mem_nil

/-- A Remove comes after the Push of its delegate: no Push of it is left. -/
theorem mailLaw_removed {l : TimerLog} (h : MailLaw l)
    {c : LocTimerContainer} {d : DelegateRef} {queue : List TimerMsg}
    (hidle : l.timers.task = .idle)
    (hq : l.timers.queue = .MsgTimerRemove c d :: queue) :
    MailLaw (l.next .taskStep
      (procRemove { l.timers with queue := queue } c d)) := by
  have horder := h.order
  rw [hq, List.pairwise_cons] at horder
  refine h.taken hq rfl rfl rfl rfl ?_ ?_ ?_ ?_
  · intro c' e hm
    rcases mem_update hm with ⟨rfl, hm⟩ | hm
    · exact h.trees c' e (mem_remove hm)
    · exact h.trees c' e hm
  · intro e
    show copies (procRemove { l.timers with queue := queue } c d) e ≤ 1
    have hcopies := copies_update l.timers
      (procRemove { l.timers with queue := queue } c d)
      ((l.timers.mTree c).remove d).2 rfl e
    have hqueue : (procRemove { l.timers with queue := queue } c d).queue =
        queue := rfl
    generalize procRemove { l.timers with queue := queue } c d = s' at *
    have hold := h.single e
    have hle := count_remove_le (l.timers.mTree c) d e
    rw [hqueue, hq, List.countP_cons_of_neg (by exact Bool.false_ne_true)]
      at hcopies
    omega
  · rw [endedBy, hidle]
  · rw [deletedBy, hidle, hq]
    intro e he
    obtain rfl := List.mem_singleton.mp he
    refine ⟨?_, c, h.queued _ (by rw [hq]; exact List.mem_cons_self)⟩
    refine List.countP_eq_zero.mpr ?_
    intro m hm
    rw [horder.1 m hm e (decide_eq_true rfl)]
    exact Bool.false_ne_true

theorem mailLaw_move {l : TimerLog} (h : MailLaw l) {a : TimerAction}
    {s : Timers} (hm : DelegateMove l.timers a s) : MailLaw (l.next a s) := by
  cases hm with
  | started hfree hd hstarted hstopped hended hdeleted =>
      exact mailLaw_started h hd hended hdeleted
  | ended hd hstop hcalled hstarted hended hdeleted =>
      obtain ⟨task, rfl⟩ := hstop
      exact mailLaw_ended h hd hended hdeleted
  | pushed ha hidle hq => exact ha ▸ mailLaw_pushed h hidle hq
  | removed ha hidle hq => exact ha ▸ mailLaw_removed h hidle hq
  | other htimer hclient hcontainer hcreated htree hqueue hcalled hstarted
      hstopped hended hdeleted =>
      have hsub : ∃ added, s.queue.drop l.timers.queue.length = added ∧
          (∀ m ∈ added, ∃ c, m = .MsgTimerExpire c) ∧
          s.queue.Sublist (l.timers.queue ++ added) := by
        rcases hqueue with hq | ⟨c, hq⟩ | ⟨c, hq⟩
        · refine ⟨[], ?_, fun m hm => absurd hm List.not_mem_nil, ?_⟩
          · rw [hq, List.drop_length]
          · rw [hq, List.append_nil]
        · refine ⟨[.MsgTimerExpire c], ?_, ?_, ?_⟩
          · rw [hq, List.drop_left]
          · exact fun m hm => ⟨c, List.mem_singleton.mp hm⟩
          · rw [hq]
        · refine ⟨[], ?_, fun m hm => absurd hm List.not_mem_nil, ?_⟩
          · rw [hq]
            exact List.drop_eq_nil_of_le (Nat.le_succ _)
          · rw [hq, List.append_nil]
            exact List.sublist_cons_self _ _
      obtain ⟨added, hadded, hexpire, hsub⟩ := hsub
      have hpush : ∀ d, s.queue.countP (TimerMsg.pushes d) ≤
          l.timers.queue.countP (TimerMsg.pushes d) := by
        intro d
        have hle := hsub.countP_le (p := TimerMsg.pushes d)
        have hzero : added.countP (TimerMsg.pushes d) = 0 :=
          countP_expires hexpire (fun _ => rfl)
        rw [List.countP_append, hzero] at hle
        exact hle
      have hcount : ∀ c d, (s.mTree c).objects.count d ≤
          (l.timers.mTree c).objects.count d := by
        intro c d
        rcases htree c with ht | ht
        · rw [ht]
        · rw [ht]
          exact count_popNode_le _ d
      refine h.calm htimer hclient hcontainer hcreated added hadded hexpire
        hsub ?_ ?_ hended ?_
      · intro c d hd
        refine h.trees c d ?_
        rcases htree c with ht | ht
        · exact ht ▸ hd
        · rw [ht] at hd
          exact mem_popNode hd
      · intro d
        have hold := h.single d
        have hp := hpush d
        have hsw := hcount .mSwTimers d
        have hhw := hcount .mHwTimers d
        simp only [copies] at hold ⊢
        omega
      · rw [hdeleted]
        exact fun d hd => absurd hd List.not_mem_nil

/-! ## The order of the deadlines -/

/-- A reading of the clock that counts from the boot: the latest deadline
    that can be computed from it has its seconds in an `int`, 68 years. -/
def BootClock (now : Timespec) : Prop := now.tv_sec + 4294968 < 2147483648

instance (now : Timespec) : Decidable (BootClock now) :=
  inferInstanceAs (Decidable (now.tv_sec + 4294968 < 2147483648))

/-- A deadline whose parts fit. -/
def Fits (d : DelegateRef) : Prop :=
  d.mFutureTime.tv_sec < 2147483648 ∧ d.mFutureTime.tv_nsec < 1000000000

theorem fits_of_started {now : Timespec} (hclock : BootClock now)
    {d : DelegateRef} (h : Started now d.mFutureTime) : Fits d := by
  have hclock : now.tv_sec + 4294968 < 2147483648 := hclock
  have hnear := h.near
  exact ⟨by omega, h.shown.2⟩

/-- Among deadlines that fit, the sooner ranks higher. -/
theorem ranked_fits :
    RankedOn Fits (fun a b => b.mFutureTime ≤ a.mFutureTime) where
  total {a b} _ _ := by
    show b.mFutureTime.le a.mFutureTime ∨ a.mFutureTime.le b.mFutureTime
    simp only [Timespec.le]
    omega
  trans _ _ _ hab hbc := Timespec.le_trans hbc hab
  pos {a b} ha hb := by
    obtain ⟨has, han⟩ := ha
    obtain ⟨hbs, hbn⟩ := hb
    show 0 < ranks a.mFutureTime b.mFutureTime ↔
      ¬ b.mFutureTime.le a.mFutureTime
    simp only [ranks, toInt, Int.bmod, Timespec.le]
    omega

/-- The heaps are sorted and have no deleted delegate. -/
structure TreeLaw (l : TimerLog) : Prop where
  sorted : ∀ c, (l.timers.mTree c).Sorted
  gone : ∀ d ∈ l.deleted, ∀ c, ¬ (l.timers.mTree c).Mem d

/-- At most one copy: none is left of what was taken out of the heap. -/
theorem not_mem_remove {t : LocHeapNode DelegateRef} {d : DelegateRef}
    (hP : ∀ e, t.Mem e → Fits e) (hsort : t.Sorted)
    (hone : t.objects.count d ≤ 1) : ¬ (t.remove d).2.Mem d := by
  intro hleft
  have hfound := hsort.remove_mem ranked_fits hP (mem_remove hleft)
  have hobj := (objects_remove hfound).2
  have hpos := Multiset.count_pos.mpr (mem_objects.mpr hleft)
  rw [← hobj, Multiset.count_cons_self] at hone
  omega

theorem count_le_copies (s : Timers) (c : LocTimerContainer)
    (d : DelegateRef) : (s.mTree c).objects.count d ≤ copies s d := by
  rw [copies]
  cases c with
  | mSwTimers => omega
  | mHwTimers => omega

/-- A sorted heap in the place of another. -/
theorem sorted_update {mTree : LocTimerContainer → LocHeapNode DelegateRef}
    (h : ∀ c, (mTree c).Sorted) {c : LocTimerContainer}
    {t : LocHeapNode DelegateRef} (ht : t.Sorted) (c' : LocTimerContainer) :
    (Function.update mTree c t c').Sorted := by
  by_cases hc : c' = c
  · subst hc
    rw [Function.update_self]
    exact ht
  · rw [Function.update_of_ne hc]
    exact h c'

theorem treeLaw_pushed {l : TimerLog} (h : TreeLaw l) (hmail : MailLaw l)
    (hP : ∀ c d, (l.timers.mTree c).Mem d → Fits d)
    {c : LocTimerContainer} {d : DelegateRef} {queue : List TimerMsg}
    (hd : Fits d) (hidle : l.timers.task = .idle)
    (hq : l.timers.queue = .MsgTimerPush c d :: queue) :
    TreeLaw (l.next .taskStep
      (procPush { l.timers with queue := queue } c d)) := by
  have hdel : l.deleted ++ deletedBy l.timers .taskStep = l.deleted := by
    rw [deletedBy, hidle, hq]
    exact List.append_nil _
  constructor
  case sorted =>
    exact sorted_update h.sorted ((h.sorted c).push ranked_fits (hP c) hd)
  case gone =>
    intro e he c' hmem
    simp only [TimerLog.next, hdel] at he
    rcases mem_update hmem with ⟨rfl, hm⟩ | hm
    · rcases mem_push hm with rfl | hm
      -- a deleted delegate has no Push left
      · have hzero := (hmail.deleted e he).1
        have hpush : (TimerMsg.MsgTimerPush c' e).pushes e = true :=
          decide_eq_true rfl
        rw [hq, List.countP_cons_of_pos hpush] at hzero
        omega
      · exact h.gone e he c' hm
    · exact h.gone e he c' hm

theorem treeLaw_removed {l : TimerLog} (h : TreeLaw l) (hmail : MailLaw l)
    (hP : ∀ c d, (l.timers.mTree c).Mem d → Fits d)
    {c : LocTimerContainer} {d : DelegateRef} {queue : List TimerMsg}
    (hidle : l.timers.task = .idle)
    (hq : l.timers.queue = .MsgTimerRemove c d :: queue) :
    TreeLaw (l.next .taskStep
      (procRemove { l.timers with queue := queue } c d)) := by
  have hdel : l.deleted ++ deletedBy l.timers .taskStep =
      l.deleted ++ [d] := by
    rw [deletedBy, hidle, hq]
  have hsent : .MsgTimerPush c d ∈ l.sent :=
    hmail.removed c d (hmail.queued _ (by rw [hq]; exact List.mem_cons_self))
  constructor
  case sorted =>
    exact sorted_update h.sorted ((h.sorted c).remove ranked_fits (hP c) d)
  case gone =>
    intro e he c' hmem
    simp only [TimerLog.next, hdel] at he
    rcases List.mem_append.mp he with he | he
    · rcases mem_update hmem with ⟨rfl, hm⟩ | hm
      · exact h.gone e he c' (mem_remove hm)
      · exact h.gone e he c' hm
    · obtain rfl := List.mem_singleton.mp he
      by_cases hc : c' = c
      · subst hc
        have hm : (Function.update l.timers.mTree c'
            ((l.timers.mTree c').remove e).2 c').Mem e := hmem
        rw [Function.update_self] at hm
        exact not_mem_remove (hP c') (h.sorted c')
          (Nat.le_trans (count_le_copies _ c' e) (hmail.single e)) hm
      -- the other heap never had it
      · have hm : (Function.update l.timers.mTree c
            ((l.timers.mTree c).remove e).2 c').Mem e := hmem
        rw [Function.update_of_ne hc] at hm
        exact hc (hmail.homes c' c e (hmail.trees c' e hm) hsent)

theorem treeLaw_move {l : TimerLog} (h : TreeLaw l) (hmail : MailLaw l)
    (hP : ∀ c d, (l.timers.mTree c).Mem d → Fits d)
    (hpush : ∀ c d, .MsgTimerPush c d ∈ l.timers.queue → Fits d)
    {a : TimerAction} {s : Timers} (hm : DelegateMove l.timers a s) :
    TreeLaw (l.next a s) := by
  -- a step that leaves the heaps and deletes nothing
  have hsame : ∀ {s' : Timers}, s'.mTree = l.timers.mTree →
      deletedBy l.timers a = [] → TreeLaw (l.next a s') := by
    intro s' htree hdeleted
    constructor
    case sorted =>
      intro c
      show (s'.mTree c).Sorted
      rw [htree]
      exact h.sorted c
    case gone =>
      intro d hd c
      simp only [TimerLog.next, hdeleted, List.append_nil] at hd
      show ¬ (s'.mTree c).Mem d
      rw [htree]
      exact h.gone d hd c
  cases hm with
  | started hfree hd hstarted hstopped hended hdeleted =>
      exact hsame rfl hdeleted
  | @ended client d _ hd hstop hcalled hstarted hended hdeleted =>
      obtain ⟨task, rfl⟩ := hstop
      obtain ⟨_, _, c, hcont, _⟩ := hmail.live client d hd
      refine hsame ?_ hdeleted
      rw [stop_running hd hcont]
  | @pushed c d queue ha hidle hq =>
      subst ha
      refine treeLaw_pushed h hmail hP ?_ hidle hq
      exact hpush c d (by rw [hq]; exact List.mem_cons_self)
  | removed ha hidle hq =>
      subst ha
      exact treeLaw_removed h hmail hP hidle hq
  | other htimer hclient hcontainer hcreated htree hqueue hcalled hstarted
      hstopped hended hdeleted =>
      constructor
      case sorted =>
        intro c
        show (s.mTree c).Sorted
        rcases htree c with ht | ht
        · rw [ht]
          exact h.sorted c
        · rw [ht]
          exact (h.sorted c).popNode ranked_fits (hP c)
      case gone =>
        intro d hd c hmem
        simp only [TimerLog.next, hdeleted, List.append_nil] at hd
        have hmem : (s.mTree c).Mem d := hmem
        refine h.gone d hd c ?_
        rcases htree c with ht | ht
        · exact ht ▸ hmem
        · rw [ht] at hmem
          exact mem_popNode hmem

/-! ## Runs -/

theorem now_le_of_step {s s' : Timers} {a : TimerAction}
    (hs : timerStep s a = some s') : s.now ≤ s'.now := by
  have hrefl : ∀ t : Timespec, t ≤ t := fun t => Or.inr ⟨rfl, Nat.le_refl _⟩
  have hstop : ∀ client, (stop s client).now = s.now := by
    intro client
    obtain ⟨f, g, k, l, hstop, _⟩ := stop_eq s client
    rw [hstop]
  cases a with
  | start client timeOutInMs wakeOnExpire =>
      injection hs with hs
      subst hs
      rw [start]
      split <;> exact hrefl _
  | stop client =>
      injection hs with hs
      subst hs
      rw [hstop]
      exact hrefl _
  | tick now =>
      rw [timerStep, tick] at hs
      split at hs
      · rename_i hnow
        injection hs with hs
        exact hs ▸ hnow.1
      · cases hs
  | epollWait cs =>
      rw [timerStep, epollWait] at hs
      split at hs
      · injection hs with hs
        exact hs ▸ hrefl _
      · cases hs
  | pollStep =>
      rw [timerStep, pollStep] at hs
      split at hs
      · injection hs with hs
        exact hs ▸ hrefl _
      · injection hs with hs
        exact hs ▸ hrefl _
      · cases hs
  | taskStep =>
      have hs : taskStep s = some s' := hs
      cases taskStep_move hs with
      | @take m queue hidle hq => cases m <;> exact hrefl _
      | done htask => exact hrefl _
      | kernel htask => exact hrefl _
      | read htask hclient => exact hrefl _
      | gone htask hclient => exact hrefl _
      | @stop c timerOfNow timer started client htask hstarted =>
          show s.now ≤ (QcomTimer.stop s client).now
          rw [hstop]
          exact hrefl _
      | stopped htask hstarted => exact hrefl _
      | call htask => exact hrefl _

/-- A step of a logged run is a step of the timers. -/
theorem logStep_some {l l' : TimerLog} {a : TimerAction}
    (hs : logStep l a = some l') :
    ∃ s, timerStep l.timers a = some s ∧ l' = l.next a s := by
  obtain ⟨s, hstep, heq⟩ := Option.map_eq_some_iff.mp hs
  exact ⟨s, hstep, heq.symm⟩

theorem reach_timers {l : TimerLog} (h : Reach logSys l) :
    Reach timerSys l.timers := by
  refine reachUnder_map (f := TimerLog.timers) (I := fun _ => True)
    (fun _ _ => trivial) ?_ ?_ h
  · rintro l ⟨now, hnow, rfl⟩
    exact init_newTimers now hnow
  · intro l a l' _ _ hs
    obtain ⟨s, hstep, rfl⟩ := logStep_some hs
    exact ⟨a, trivial, hstep⟩

/-- What every log has; of the heaps, while the clock is one since a boot. -/
structure LogLaw (l : TimerLog) : Prop where
  counts : CountLaw l
  mail : MailLaw l
  trees : BootClock l.timers.now → TreeLaw l

theorem logLaw_init (now : Timespec) :
    LogLaw ⟨newTimers now, [], [], [], [], []⟩ where
  counts _ := rfl
  mail := {
    live := fun _ _ hd => (by cases hd)
    removes := fun _ => rfl
    nodup := List.nodup_nil
    known := fun _ _ hm => absurd hm List.not_mem_nil
    homes := fun _ _ _ hm => absurd hm List.not_mem_nil
    removed := fun _ _ hm => absurd hm List.not_mem_nil
    queued := fun _ hm => absurd hm List.not_mem_nil
    trees := fun _ _ hm => hm.elim
    single := fun _ => Nat.zero_le 1
    order := .nil
    deleted := fun _ hm => absurd hm List.not_mem_nil }
  trees _ := ⟨fun _ => trivial, fun _ hm => absurd hm List.not_mem_nil⟩

theorem logLaw_of_reach {l : TimerLog} (h : Reach logSys l) : LogLaw l := by
  refine reachUnder_inv_of (I := LogLaw) (J := fun l => HeldLaw l.timers)
    (fun _ hr => held_of_reachUnder (reach_timers (reach_of_reachUnder hr)))
    ?_ ?_ h
  · rintro l ⟨now, _, rfl⟩
    exact logLaw_init now
  · intro l a l' hheld hI _ hs
    obtain ⟨s, hstep, rfl⟩ := logStep_some hs
    have hmove := delegate_move hstep
    refine ⟨countLaw_move hI.counts hmove, mailLaw_move hI.mail hmove, ?_⟩
    intro hclock
    -- the clock was no later before
    have hbefore : BootClock l.timers.now := by
      have hle := now_le_of_step hstep
      have hclock : s.now.tv_sec + 4294968 < 2147483648 := hclock
      change _ ∨ _ at hle
      show l.timers.now.tv_sec + 4294968 < 2147483648
      omega
    exact treeLaw_move (hI.trees hbefore) hI.mail
      (fun c d hd => fits_of_started hbefore (hheld.trees c d hd))
      (fun c d hd => fits_of_started hbefore (hheld.pushes c d hd)) hmove

/-- **CONSUMED ONCE**: while no expiry is half-way, the starts of a timer are
    its stops, its calls back and the running one; a delegate is sent one
    Remove if it was stopped or expired, else none; what a Remove deleted is
    in no heap. -/
theorem timer_consumed_once {l : TimerLog} (h : Reach logSys l) :
    (l.timers.task.halfWay = false → ∀ n,
      l.started.count n = l.stopped.count n +
        (l.timers.fired.map Fired.client).count n +
        if l.timers.mTimer n = none then 0 else 1) ∧
    (∀ d, l.sent.countP (TimerMsg.removes d) =
      if d ∈ l.ended then 1 else 0) ∧
    (BootClock l.timers.now →
      ∀ d ∈ l.deleted, ∀ c, ¬ (l.timers.mTree c).Mem d) := by
  have hlaw := logLaw_of_reach h
  refine ⟨?_, ?_, fun hclock => (hlaw.trees hclock).gone⟩
  · intro hhalf n
    have hn := hlaw.counts n
    have hcallee : l.timers.task.callee = none := by
      cases htask : l.timers.task with
      | calling c timerOfNow client deadline =>
          rw [htask] at hhalf
          cases hhalf
      | idle => rfl
      | kernel c calls => rfl
      | expiring c timerOfNow timer => rfl
      | stopping c timerOfNow timer client => rfl
    rw [called, hcallee, if_neg (Option.some_ne_none n).symm] at hn
    exact hn
  · intro d
    rw [hlaw.mail.removes d, hlaw.mail.nodup.count]

/-- A timer of 10 s stopped by its client and started again, and one of 20 s
    that expires. -/
def consumedRun : List TimerAction :=
  [TimerAction.start 0 10000 false, .start 1 20000 true, .stop 0] ++
    List.replicate 10 TimerAction.taskStep ++
  [TimerAction.tick ⟨30, 0⟩, .epollWait [.mHwTimers], .pollStep, .pollStep,
    .pollStep]
    ++ List.replicate 7 TimerAction.taskStep ++ [TimerAction.start 0 5000 false]

/-- Two starts of the first timer for one stop and one that runs; the delegate
    of the first start is deleted. -/
theorem timer_consumed_once_run :
    ∃ l, exec logSys ⟨newTimers ⟨5, 0⟩, [], [], [], [], []⟩ consumedRun =
        some l ∧
      l.started.count 0 = 2 ∧
      l.sent.countP (TimerMsg.removes ⟨0, ⟨15, 0⟩⟩) = 1 ∧
      ∀ c, ¬ (l.timers.mTree c).Mem ⟨0, ⟨15, 0⟩⟩ := by
  have hrun : (exec logSys ⟨newTimers ⟨5, 0⟩, [], [], [], [], []⟩
      consumedRun).map (fun l => ((l.timers.now, l.timers.task, l.stopped),
        (l.timers.fired.map Fired.client, l.timers.mTimer 0),
        l.ended, l.deleted)) =
      some ((⟨30, 0⟩, .idle, [0]), ([1], some ⟨2, ⟨35, 0⟩⟩),
        [⟨0, ⟨15, 0⟩⟩, ⟨1, ⟨25, 0⟩⟩],
        [⟨0, ⟨15, 0⟩⟩, ⟨1, ⟨25, 0⟩⟩]) := by decide +kernel
  obtain ⟨l, hexec, hl⟩ := Option.map_eq_some_iff.mp hrun
  simp only [Prod.mk.injEq] at hl
  obtain ⟨⟨hnow, htask, hstopped⟩, ⟨hfired, hrunning⟩, hended, hdeleted⟩ := hl
  have hreach : Reach logSys l :=
    reach_exec _ (.init ⟨⟨5, 0⟩, by decide, rfl⟩) hexec
  obtain ⟨hcounts, hremoves, hgone⟩ := timer_consumed_once hreach
  have hhalf : l.timers.task.halfWay = false := by
    rw [htask]
    rfl
  refine ⟨l, hexec, ?_, ?_, hgone ?_ _ ?_⟩
  · rw [hcounts hhalf 0, hstopped, hfired,
      if_neg (by rw [hrunning]; exact Option.some_ne_none _)]
    rfl
  · rw [hremoves, hended]
    decide
  · rw [hnow]
    decide
  · rw [hdeleted]
    decide

end QcomTimer
