import QcomCommon.LocTimerArmedProofs

/-! # An idle container and the kernel

    `updateSoonestTime` disarms the kernel where the heap is empty now and
    the top has changed, but with no prior top it takes an empty heap for an
    unchanged one.  The removal of the last timer passes no prior top, so a
    container that is emptied by a stop stays armed and watched
    (`stopped_last_stays_armed`).

    In every run where the message thread empties no heap while the kernel
    has a deadline that the poll thread is not about to clear, an idle
    container is disarmed and not watched (`idle_disarmed`). -/

namespace QcomTimer

open QcomTransition QcomHeap LocHeapNode

/-! ## Emptied heaps -/

/-- The kernel calls the poll thread has left to make for a container. -/
def pollCalls (s : Timers) (c : LocTimerContainer) : List KernelCall :=
  (s.poll.filter (fun p => decide (p.container = c))).flatMap PollCall.calls

/-- The container is disarmed and not watched, once the poll thread made its
    calls. -/
def Disarming (s : Timers) (c : LocTimerContainer) : Prop :=
  (pollCalls s c).foldl TimerFd.call (s.fd c) = ⟨none, false⟩

instance (s : Timers) (c : LocTimerContainer) : Decidable (Disarming s c) :=
  inferInstanceAs (Decidable (List.foldl _ _ _ = _))

/-- The container the message thread is at the next step done with, if that
    step leaves its heap empty: a Remove that leaves nothing, or the end of
    the loop of an Expire. -/
def emptied (s : Timers) : Option LocTimerContainer :=
  match s.task with
  | .idle =>
      match s.queue with
      | .MsgTimerRemove c mTimer :: _ =>
          if ((s.mTree c).remove mTimer).2 = .null then some c else none
      | .MsgTimerExpire c :: _ => if s.mTree c = .null then some c else none
      | _ => none
  | .kernel _ _ => none
  | .expiring c _ timer =>
      if s.mClient timer.addr = none ∧ s.mTree c = .null then some c else none
  | .stopping c _ _ client =>
      if s.mTimer client = none ∧ s.mTree c = .null then some c else none
  | .calling c _ _ _ => if s.mTree c = .null then some c else none

/-- A heap is emptied only while the kernel has no deadline of it, or one the
    poll thread is about to clear. -/
def EmptiedDisarmed (s : Timers) : TimerAction → Prop
  | .taskStep => ∀ c ∈ emptied s, Disarming s c
  | _ => True

instance (s : Timers) (a : TimerAction) : Decidable (EmptiedDisarmed s a) :=
  match a with
  | .taskStep => Option.decidableForallMem (emptied s)
  | .start _ _ _ => isTrue trivial
  | .stop _ => isTrue trivial
  | .tick _ => isTrue trivial
  | .epollWait _ => isTrue trivial
  | .pollStep => isTrue trivial

/-! ## The invariant -/

/-- An empty heap is in the loop of its Expire, or the kernel is or will be
    disarmed and the message thread makes no more calls for it. -/
def IdleLaw (s : Timers) : Prop :=
  ∀ c, s.mTree c = .null → s.task.inLoop c ∨
    Disarming s c ∧ ∀ calls, s.task = .kernel c calls → calls = []

theorem IdleLaw.congr {s s' : Timers} (h : IdleLaw s)
    (htree : s'.mTree = s.mTree) (htask : s'.task = s.task)
    (hfd : s'.fd = s.fd) (hpoll : s'.poll = s.poll) : IdleLaw s' := by
  intro c
  rw [IdleLaw] at h
  simp only [Disarming, pollCalls, htree, htask, hfd, hpoll] at h ⊢
  exact h c

/-- A start keeps the law. -/
theorem idleLaw_start {s : Timers} (h : IdleLaw s) (client : Nat)
    (timeOutInMs : UInt32) (wakeOnExpire : Bool) :
    IdleLaw (start s client timeOutInMs wakeOnExpire) := by
  rw [start]
  split
  · exact h
  · exact h.congr rfl rfl rfl rfl

/-- A stop keeps it. -/
theorem idleLaw_stop {s : Timers} (h : IdleLaw s) (client : Nat) :
    IdleLaw (stop s client) := by
  obtain ⟨f, g, k, l, hstop, _⟩ := stop_eq s client
  rw [hstop]
  exact h.congr rfl rfl rfl rfl

/-- The kernel has no event of a disarmed container. -/
theorem idleLaw_epollWait {s s' : Timers} (h : IdleLaw s)
    {cs : List LocTimerContainer} (hs : epollWait s cs = some s') :
    IdleLaw s' := by
  rw [epollWait] at hs
  split at hs
  · rename_i hready
    obtain ⟨hpoll, _, hcs⟩ := hready
    injection hs with hs
    subst hs
    intro c hnull
    rcases h c hnull with hloop | ⟨hdis, hcalls⟩
    · exact Or.inl hloop
    · refine Or.inr ⟨?_, hcalls⟩
      have hfd : s.fd c = ⟨none, false⟩ := by
        rw [Disarming, pollCalls, hpoll] at hdis
        exact hdis
      have hnot : c ∉ cs := by
        intro hc
        have hr := hcs c hc
        rw [hfd] at hr
        cases hr
      have hnone : (cs.map (fun c => PollCall.mk c
          [.settime .zero, .removePoll])).filter
          (fun p => decide (p.container = c)) = [] := by
        refine List.filter_eq_nil_iff.mpr ?_
        intro p hp hpc
        obtain ⟨c', hc', rfl⟩ := List.mem_map.mp hp
        exact hnot (of_decide_eq_true hpc ▸ hc')
      rw [Disarming, pollCalls, hnone]
      exact hfd
  · cases hs

/-- A call of the poll thread moves from what is left to the kernel. -/
theorem idleLaw_pollStep {s s' : Timers} (h : IdleLaw s)
    (hs : pollStep s = some s') : IdleLaw s' := by
  have hsame : s'.mTree = s.mTree ∧ s'.task = s.task ∧
      ∀ c, (pollCalls s' c).foldl TimerFd.call (s'.fd c) =
        (pollCalls s c).foldl TimerFd.call (s.fd c) := by
    rw [pollStep] at hs
    split at hs
    · rename_i c k calls poll hpoll
      injection hs with hs
      subst hs
      refine ⟨rfl, rfl, ?_⟩
      intro c'
      simp only [pollCalls, hpoll]
      by_cases hc : c = c'
      · subst hc
        simp only [decide_true, List.filter_cons_of_pos, List.flatMap_cons,
          List.cons_append, List.foldl_cons, Function.update_self]
      · have hne : c' ≠ c := fun heq => hc heq.symm
        simp only [hc, decide_false, Bool.false_eq_true, not_false_eq_true,
          List.filter_cons_of_neg, Function.update_of_ne hne]
    · rename_i c poll hpoll
      injection hs with hs
      subst hs
      refine ⟨rfl, rfl, ?_⟩
      intro c'
      simp only [pollCalls, hpoll]
      by_cases hc : c = c'
      · simp only [hc, decide_true, List.filter_cons_of_pos,
          List.flatMap_cons, List.nil_append]
      · simp only [hc, decide_false, Bool.false_eq_true, not_false_eq_true,
          List.filter_cons_of_neg]
    · cases hs
  obtain ⟨htree, htask, hfold⟩ := hsame
  intro c hnull
  rw [htree] at hnull
  rw [htask, Disarming, hfold]
  exact h c hnull

/-- What the law says of a container the message thread is not at. -/
theorem IdleLaw.outside {s : Timers} (h : IdleLaw s) {c : LocTimerContainer}
    (hc : s.task.container ≠ some c) (hnull : s.mTree c = .null) :
    Disarming s c := by
  rcases h c hnull with hloop | hdis
  · exact absurd hloop (pending_of_container hc).2
  · exact hdis.1

/-- The message thread changed one heap and is at its kernel calls: none if
    the heap is empty. -/
theorem idleLaw_kernel {s : Timers} {c : LocTimerContainer}
    (hothers : ∀ c', c' ≠ c → s.mTree c' = .null → Disarming s c')
    {t : LocHeapNode DelegateRef} {calls : List KernelCall}
    (hc : t = .null → Disarming s c ∧ calls = []) :
    IdleLaw { s with
      mTree := Function.update s.mTree c t
      task := .kernel c calls } := by
  intro c' hnull
  right
  by_cases hcc : c' = c
  · subst hcc
    simp only [Function.update_self] at hnull
    obtain ⟨hdis, hcalls⟩ := hc hnull
    refine ⟨hdis, ?_⟩
    intro calls' heq
    injection heq with _ heq
    exact heq ▸ hcalls
  · simp only [Function.update_of_ne hcc] at hnull
    refine ⟨hothers c' hcc hnull, ?_⟩
    intro calls' heq
    injection heq with heq _
    exact absurd heq.symm hcc

theorem updateSoonestTime_null :
    updateSoonestTime (.null : LocHeapNode DelegateRef) none = [] := rfl

/-- The head of the Expire loop: a popped timer keeps the loop running. -/
theorem idleLaw_expireLoop {s : Timers} {c : LocTimerContainer}
    (hothers : ∀ c', c' ≠ c → s.mTree c' = .null → Disarming s c')
    (timerOfNow : Timespec)
    {popped : Option DelegateRef × LocHeapNode DelegateRef}
    (hend : popped.1 = none → popped.2 = .null → Disarming s c) :
    IdleLaw (expireLoop s c timerOfNow popped) := by
  obtain ⟨first, tree⟩ := popped
  cases first with
  | none =>
      refine idleLaw_kernel hothers ?_
      rintro rfl
      exact ⟨hend rfl rfl, updateSoonestTime_null⟩
  | some timer =>
      intro c' hnull
      by_cases hcc : c' = c
      · exact Or.inl hcc.symm
      · have hnull' : s.mTree c' = .null := by
          rw [← hnull]
          exact (Function.update_of_ne hcc _ _).symm
        refine Or.inr ⟨hothers c' hcc hnull', ?_⟩
        intro calls heq
        cases heq

/-- A heap without a top has been empty. -/
theorem popIfOutRanks_null {t : LocHeapNode DelegateRef} {now : Timespec}
    (h1 : (popIfOutRanks t now).1 = none)
    (h2 : (popIfOutRanks t now).2 = .null) : t = .null := by
  rw [popIfOutRanks] at h1 h2
  cases hpeek : t.peek with
  | none =>
      rw [hpeek] at h2
      exact h2
  | some top =>
      rw [hpeek] at h1 h2
      simp only at h1 h2
      split at h1
      · rename_i hlate
        rw [if_pos hlate] at h2
        exact h2
      · rw [LocHeapNode.pop, hpeek] at h1
        cases h1

/-- A heap with a push is not. -/
theorem push_ne_null (t : LocHeapNode DelegateRef) (x : DelegateRef) :
    t.push x ≠ .null := by
  intro h
  have hpeek := peek_push t x
  rw [h] at hpeek
  cases hpeek

/-- A message keeps it, if what it empties is disarmed. -/
theorem idleLaw_proc {s : Timers} (h : IdleLaw s) (hidle : s.task = .idle)
    {m : TimerMsg} {queue : List TimerMsg} (hq : s.queue = m :: queue)
    (hempty : ∀ c ∈ emptied s, Disarming s c) :
    IdleLaw (proc { s with queue := queue } m) := by
  have hothers : ∀ c, s.mTree c = .null → Disarming s c := by
    intro c hnull
    refine h.outside ?_ hnull
    rw [hidle]
    exact fun heq => by cases heq
  cases m with
  | MsgTimerPush c mTimer =>
      refine idleLaw_kernel (fun c' _ => hothers c') ?_
      intro hnull
      exact absurd hnull (push_ne_null _ _)
  | MsgTimerRemove c mTimer =>
      refine idleLaw_kernel (fun c' _ => hothers c') ?_
      intro hnull
      have hnull : ((s.mTree c).remove mTimer).2 = .null := hnull
      refine ⟨hempty c ?_, ?_⟩
      · rw [emptied, hidle, hq]
        simp only [if_pos hnull]
        rfl
      · simp only [hnull, updateSoonestTime_null, ite_self]
  | MsgTimerExpire c =>
      refine idleLaw_expireLoop (fun c' _ => hothers c') s.now ?_
      intro hnone _
      have hnull : s.mTree c = .null := peek_eq_none.mp hnone
      exact hothers c hnull

/-- A step of the task does, on the same condition. -/
theorem idleLaw_taskStep {s s' : Timers} (h : IdleLaw s)
    (hempty : ∀ c ∈ emptied s, Disarming s c) (hs : taskStep s = some s') :
    IdleLaw s' := by
  have hothers : ∀ {c}, s.task.container = some c → ∀ c', c' ≠ c →
      s.mTree c' = .null → Disarming s c' := by
    intro c hc c' hcc
    refine h.outside ?_
    rw [hc]
    exact fun heq => hcc (Option.some.inj heq).symm
  -- from one place of the loop to the next
  have hloop : ∀ {c} {task : TaskPc}, s.task.container = some c →
      task.inLoop c → IdleLaw { s with task := task } := by
    intro c task hc hin c' hnull
    by_cases hcc : c' = c
    · exact Or.inl (hcc ▸ hin)
    · refine Or.inr ⟨hothers hc c' hcc hnull, ?_⟩
      rintro calls rfl
      cases hin
  cases taskStep_move hs with
  | take hidle hq => exact idleLaw_proc h hidle hq hempty
  | @done c htask =>
      intro c' hnull
      refine Or.inr ⟨?_, fun _ heq => by cases heq⟩
      rcases h c' hnull with hin | hdis
      · rw [htask] at hin
        cases hin
      · exact hdis.1
  | @kernel c k calls htask =>
      intro c' hnull
      by_cases hcc : c' = c
      · subst hcc
        rcases h c' hnull with hin | hdis
        · rw [htask] at hin
          cases hin
        · cases hdis.2 _ htask
      · right
        have hdis := hothers (by rw [htask]; rfl) c' hcc hnull
        constructor
        · rw [Disarming, pollCalls] at hdis ⊢
          simp only [Function.update_of_ne hcc]
          exact hdis
        · intro calls' heq
          injection heq with heq _
          exact absurd heq.symm hcc
  | read htask hclient => exact hloop (by rw [htask]; rfl) rfl
  | @gone c timerOfNow timer htask hclient =>
      refine idleLaw_expireLoop (hothers (by rw [htask]; rfl)) _ ?_
      intro h1 h2
      refine hempty c ?_
      rw [emptied, htask]
      simp only [hclient, popIfOutRanks_null h1 h2, and_self, if_true]
      rfl
  | @stop c timerOfNow timer started client htask hstarted =>
      obtain ⟨f, g, k, l, hstop, _⟩ := stop_eq s client
      rw [hstop]
      have hcall : IdleLaw { s with
          task := .calling c timerOfNow client started.mFutureTime } :=
        hloop (by rw [htask]; rfl) rfl
      exact hcall.congr rfl rfl rfl rfl
  | @stopped c timerOfNow timer client htask hstarted =>
      refine idleLaw_expireLoop (hothers (by rw [htask]; rfl)) _ ?_
      intro h1 h2
      refine hempty c ?_
      rw [emptied, htask]
      simp only [hstarted, popIfOutRanks_null h1 h2, and_self, if_true]
      rfl
  | @call c timerOfNow deadline client htask =>
      refine idleLaw_expireLoop (hothers (by rw [htask]; rfl)) _ ?_
      intro h1 h2
      refine hempty c ?_
      rw [emptied, htask]
      simp only [popIfOutRanks_null h1 h2, if_true]
      rfl

/-- Every step that meets the condition keeps the law. -/
theorem idleLaw_step {s s' : Timers} {a : TimerAction} (h : IdleLaw s)
    (hg : EmptiedDisarmed s a) (hs : timerStep s a = some s') :
    IdleLaw s' := by
  cases a with
  | start client timeOutInMs wakeOnExpire =>
      injection hs with hs
      exact hs ▸ idleLaw_start h client timeOutInMs wakeOnExpire
  | stop client =>
      injection hs with hs
      exact hs ▸ idleLaw_stop h client
  | tick now =>
      rw [timerStep, tick] at hs
      split at hs
      · injection hs with hs
        exact hs ▸ h.congr rfl rfl rfl rfl
      · cases hs
  | epollWait cs => exact idleLaw_epollWait h hs
  | pollStep => exact idleLaw_pollStep h hs
  | taskStep => exact idleLaw_taskStep h hg hs

/-! ## Runs -/

/-- **AN IDLE CONTAINER IS DISARMED**, in every run whose steps empty no heap
    that the kernel is to keep a deadline of. -/
theorem idle_disarmed {s : Timers}
    (h : ReachUnder timerSys EmptiedDisarmed s) {c : LocTimerContainer}
    (hquiet : Quiet s c) (hempty : s.mTree c = .null) :
    s.fd c = ⟨none, false⟩ := by
  have hlaw : IdleLaw s := by
    refine reachUnder_inv (I := IdleLaw) ?_ ?_ h
    · rintro s ⟨now, _, rfl⟩ c _
      exact Or.inr ⟨rfl, fun _ heq => by cases heq⟩
    · intro s a s' hI hg hs
      exact idleLaw_step hI hg hs
  have hdis := hlaw.outside hquiet.task hempty
  have hnone : s.poll.filter (fun p => decide (p.container = c)) = [] := by
    refine List.filter_eq_nil_iff.mpr ?_
    intro p hp hpc
    exact hquiet.poll p hp (of_decide_eq_true hpc)
  rw [Disarming, pollCalls, hnone] at hdis
  exact hdis

/-- A timer of 10 s that expires: the poll thread disarms before the Expire
    empties the heap. -/
def expiredRun : List TimerAction :=
  [TimerAction.start 0 10000 false] ++ List.replicate 4 TimerAction.taskStep ++
  [TimerAction.tick ⟨15, 0⟩, .epollWait [.mSwTimers], .pollStep, .pollStep,
    .pollStep]
    ++ List.replicate 7 TimerAction.taskStep

theorem idle_disarmed_expired :
    ∃ s, exec timerSys (newTimers ⟨5, 0⟩) expiredRun = some s ∧
      s.fired = [⟨0, ⟨15, 0⟩, ⟨15, 0⟩⟩] ∧
      s.fd .mSwTimers = ⟨none, false⟩ := by
  have hrun : (exec timerSys (newTimers ⟨5, 0⟩) expiredRun).map
      (fun s => ((s.queue, s.task, s.poll), s.fired, s.mTree .mSwTimers)) =
      some (([], .idle, []), [⟨0, ⟨15, 0⟩, ⟨15, 0⟩⟩], .null) := by
    decide +kernel
  obtain ⟨s, hexec, hs⟩ := Option.map_eq_some_iff.mp hrun
  simp only [Prod.mk.injEq] at hs
  obtain ⟨⟨hqueue, htask, hpoll⟩, hfired, hempty⟩ := hs
  have hreach : ReachUnder timerSys EmptiedDisarmed s :=
    reachUnder_exec _ (.init (init_newTimers ⟨5, 0⟩ (by decide)))
      (by decide +kernel) hexec
  exact ⟨s, hexec, hfired, idle_disarmed hreach
    (quiet_of_done hqueue htask hpoll _) hempty⟩

/-- The one timer, of 10 s, is stopped. -/
def stoppedLastRun : List TimerAction :=
  [TimerAction.start 0 10000 true] ++ List.replicate 4 TimerAction.taskStep ++
    [TimerAction.stop 0] ++ List.replicate 2 TimerAction.taskStep

/-- The alarm stays armed and watched with no timer to expire. -/
theorem stopped_last_stays_armed :
    ∃ s, Reach timerSys s ∧ Quiet s .mHwTimers ∧
      s.mTree .mHwTimers = .null ∧
      s.fd .mHwTimers = ⟨some ⟨15, 0⟩, true⟩ := by
  have hrun : (exec timerSys (newTimers ⟨5, 0⟩) stoppedLastRun).map
      (fun s => ((s.queue, s.task, s.poll), s.mTree .mHwTimers,
        s.fd .mHwTimers)) =
      some (([], .idle, []), .null, ⟨some ⟨15, 0⟩, true⟩) := by
    decide +kernel
  obtain ⟨s, hexec, hs⟩ := Option.map_eq_some_iff.mp hrun
  simp only [Prod.mk.injEq] at hs
  obtain ⟨⟨hqueue, htask, hpoll⟩, hempty, hfd⟩ := hs
  exact ⟨s, reach_exec _ (.init (init_newTimers ⟨5, 0⟩ (by decide))) hexec,
    quiet_of_done hqueue htask hpoll _, hempty, hfd⟩

end QcomTimer
