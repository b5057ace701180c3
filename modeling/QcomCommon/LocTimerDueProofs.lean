import QcomCommon.LocTimerProofs

/-! # Timers and early expiry

    The handler of an Expire pops the first timer of the heap without a look
    at its deadline; only the later ones must be due.  If the timer the
    kernel expired for was stopped in the meantime, the next one is called
    back early (`stopped_top_fires_next`).  The handler also stops the client
    of a popped timer after it read that client without its lock: a client
    restarted in between is called back for the new start.

    In every run where each Expire finds its top due and no popped timer's
    client was restarted, no timer fires early (`timers_not_early`). -/

namespace QcomTimer

open QcomTransition QcomHeap LocHeapNode

/-! ## On time -/

/-- An Expire that is taken finds the top of its heap due. -/
def TimerMsg.OnTime (s : Timers) : TimerMsg → Prop
  | .MsgTimerExpire c => ∀ top ∈ (s.mTree c).peek, top.mFutureTime ≤ s.now
  | _ => True

instance (s : Timers) (m : TimerMsg) : Decidable (m.OnTime s) := by
  cases m <;> unfold TimerMsg.OnTime <;> infer_instance

/-- The next step of the message thread takes no early Expire, and stops no
    client that runs another timer than the popped one. -/
def TaskPc.OnTime (s : Timers) : TaskPc → Prop
  | .idle => ∀ m ∈ s.queue.head?, m.OnTime s
  | .stopping _ _ timer client =>
      ∀ started ∈ s.mTimer client, started = timer
  | _ => True

instance (s : Timers) (task : TaskPc) : Decidable (task.OnTime s) := by
  cases task <;> unfold TaskPc.OnTime <;> infer_instance

/-- Every Expire is on time, and a client that is stopped for a popped timer
    was not restarted. -/
def ExpiryOnTime (s : Timers) : TimerAction → Prop
  | .taskStep => s.task.OnTime s
  | _ => True

instance (s : Timers) (a : TimerAction) : Decidable (ExpiryOnTime s a) := by
  cases a <;> unfold ExpiryOnTime <;> infer_instance

/-! ## Ranks and time -/

/-- A deadline near `now` that `now` does not outrank is not in the future,
    for all that ranks are differences cut to an `int`. -/
theorem le_of_not_outRanks {now t : Timespec} (hnow : now.Shown)
    (ht : Started now t) (h : ¬ 0 < ranks now t) : t ≤ now := by
  obtain ⟨_, hn⟩ := hnow
  obtain ⟨⟨_, htn⟩, hnear⟩ := ht
  change t.tv_sec < now.tv_sec ∨ t.tv_sec = now.tv_sec ∧
    t.tv_nsec ≤ now.tv_nsec
  -- a later deadline is at most 2^32 ms away, so its difference fits
  by_contra hlate
  apply h
  simp only [ranks, toInt, Int.bmod]
  omega

/-! ## The invariant -/

/-- In the loop of an Expire that began at `timerOfNow`: what is left in the
    heap was started before. -/
structure LoopLaw (s : Timers) (c : LocTimerContainer)
    (timerOfNow : Timespec) : Prop where
  shown : timerOfNow.Shown
  past : timerOfNow ≤ s.now
  near : ∀ d, (s.mTree c).Mem d → Started timerOfNow d.mFutureTime

/-- What was popped is due. -/
def TaskLaw (s : Timers) : TaskPc → Prop
  | .idle => True
  | .kernel _ _ => True
  | .expiring c timerOfNow timer =>
      LoopLaw s c timerOfNow ∧ timer.mFutureTime ≤ timerOfNow
  | .stopping c timerOfNow timer _ =>
      LoopLaw s c timerOfNow ∧ timer.mFutureTime ≤ timerOfNow
  | .calling c timerOfNow _ deadline =>
      LoopLaw s c timerOfNow ∧ deadline ≤ timerOfNow

/-- The invariant of the runs whose steps meet the condition. -/
structure DueLaw (s : Timers) : Prop where
  task : TaskLaw s s.task
  fired : ∀ e ∈ s.fired, e.deadline ≤ e.time

theorem LoopLaw.congr {s s' : Timers} {c : LocTimerContainer}
    {timerOfNow : Timespec} (h : LoopLaw s c timerOfNow)
    (hnow : s.now ≤ s'.now)
    (htree : ∀ d, (s'.mTree c).Mem d → (s.mTree c).Mem d) :
    LoopLaw s' c timerOfNow :=
  ⟨h.shown, Timespec.le_trans h.past hnow, fun d hd => h.near d (htree d hd)⟩

/-- Time goes on, and no heap changes. -/
theorem TaskLaw.congr {s s' : Timers} {task : TaskPc} (h : TaskLaw s task)
    (hnow : s.now ≤ s'.now) (htree : s'.mTree = s.mTree) :
    TaskLaw s' task := by
  have hmem : ∀ c d, (s'.mTree c).Mem d → (s.mTree c).Mem d := by
    intro c d hd
    rw [htree] at hd
    exact hd
  cases task with
  | idle => trivial
  | kernel c calls => trivial
  | expiring c timerOfNow timer =>
      exact ⟨h.1.congr hnow (hmem c), h.2⟩
  | stopping c timerOfNow timer client =>
      exact ⟨h.1.congr hnow (hmem c), h.2⟩
  | calling c timerOfNow client deadline =>
      exact ⟨h.1.congr hnow (hmem c), h.2⟩

theorem Timespec.le_refl (a : Timespec) : a ≤ a :=
  Or.inr ⟨rfl, Nat.le_refl _⟩

/-- A step that leaves the message thread and the heaps. -/
theorem DueLaw.congr {s s' : Timers} (h : DueLaw s) (hnow : s.now ≤ s'.now)
    (htask : s'.task = s.task) (htree : s'.mTree = s.mTree)
    (hfired : s'.fired = s.fired) : DueLaw s' where
  task := by
    rw [htask]
    exact h.task.congr hnow htree
  fired := by
    rw [hfired]
    exact h.fired

/-! ## The steps -/

/-- The later pops of the loop take due timers. -/
theorem popIfOutRanks_due {t : LocHeapNode DelegateRef} {now : Timespec}
    (hnow : now.Shown) (hnear : ∀ d, t.Mem d → Started now d.mFutureTime)
    {timer : DelegateRef} (h : (popIfOutRanks t now).1 = some timer) :
    timer.mFutureTime ≤ now := by
  rw [popIfOutRanks] at h
  split at h
  · rename_i top htop
    split at h
    · cases h
    · rename_i hrank
      have htimer : top = timer :=
        Option.some.inj (htop.symm.trans h)
      rw [← htimer]
      exact le_of_not_outRanks hnow (hnear top (mem_of_peek htop)) hrank
  · cases h

/-- The loop pops what is due. -/
theorem dueLaw_expireLoop {s : Timers} {c : LocTimerContainer}
    {timerOfNow : Timespec} (h : LoopLaw s c timerOfNow)
    (hfired : ∀ e ∈ s.fired, e.deadline ≤ e.time)
    {popped : Option DelegateRef × LocHeapNode DelegateRef}
    (hdue : ∀ timer, popped.1 = some timer → timer.mFutureTime ≤ timerOfNow)
    (hmem : ∀ d, popped.2.Mem d → (s.mTree c).Mem d) :
    DueLaw (expireLoop s c timerOfNow popped) := by
  refine ⟨?_, hfired⟩
  have hloop : LoopLaw (expireLoop s c timerOfNow popped) c timerOfNow := by
    refine h.congr (Timespec.le_refl _) ?_
    intro d hd
    rcases mem_update hd with ⟨_, hm⟩ | hm
    · exact hmem d hm
    · exact hm
  cases hp : popped.1 with
  | none =>
      have htask : (expireLoop s c timerOfNow popped).task =
          .kernel c (updateSoonestTime popped.2 none) := by
        simp [expireLoop, hp]
      rw [htask]
      trivial
  | some timer =>
      have htask : (expireLoop s c timerOfNow popped).task =
          .expiring c timerOfNow timer := by
        simp [expireLoop, hp]
      rw [htask]
      exact ⟨hloop, hdue timer hp⟩

/-- The loop goes on. -/
theorem dueLaw_next {s : Timers} {c : LocTimerContainer}
    {timerOfNow : Timespec} (h : LoopLaw s c timerOfNow)
    (hfired : ∀ e ∈ s.fired, e.deadline ≤ e.time) :
    DueLaw (expireLoop s c timerOfNow
      (popIfOutRanks (s.mTree c) timerOfNow)) :=
  dueLaw_expireLoop h hfired (fun _ => popIfOutRanks_due h.shown h.near)
    (fun _ => mem_popIfOutRanks)

/-- A message that comes in time keeps the law. -/
theorem dueLaw_proc {s : Timers} (h : DueLaw s) (hheld : HeldLaw s)
    {m : TimerMsg} (hm : m.OnTime s) (queue : List TimerMsg) :
    DueLaw (proc { s with queue := queue } m) := by
  cases m with
  | MsgTimerPush c mTimer => exact ⟨trivial, h.fired⟩
  | MsgTimerRemove c mTimer => exact ⟨trivial, h.fired⟩
  | MsgTimerExpire c =>
      have hloop : LoopLaw { s with queue := queue } c s.now :=
        ⟨hheld.now, Timespec.le_refl _, hheld.trees c⟩
      refine dueLaw_expireLoop hloop h.fired ?_ (fun _ => mem_popNode)
      -- the first pop takes the top untested, which the condition makes due
      intro timer htimer
      exact hm timer htimer

/-- A step of the task that does keeps it. -/
theorem dueLaw_taskStep {s s' : Timers} (h : DueLaw s) (hheld : HeldLaw s)
    (hg : ExpiryOnTime s .taskStep) (hs : taskStep s = some s') :
    DueLaw s' := by
  have hpc := h.task
  have hg : s.task.OnTime s := hg
  have hnow := Timespec.le_refl s.now
  cases taskStep_move hs with
  | @take m queue hidle hq =>
      rw [hidle] at hg
      have hm : m.OnTime s := hg m (by rw [hq]; rfl)
      exact dueLaw_proc h hheld hm queue
  | done htask => exact ⟨trivial, h.fired⟩
  | kernel htask => exact ⟨trivial, h.fired⟩
  | read htask hclient =>
      rw [htask] at hpc
      exact ⟨⟨hpc.1.congr hnow (fun _ hd => hd), hpc.2⟩, h.fired⟩
  | gone htask hclient =>
      rw [htask] at hpc
      exact dueLaw_next hpc.1 h.fired
  | @stop c timerOfNow timer started client htask hstarted =>
      rw [htask] at hpc hg
      -- not restarted: the deadline consumed is the popped timer's
      have hsame : started = timer := hg started hstarted
      obtain ⟨f, g, k, l, hstop, _⟩ := stop_eq s client
      rw [hstop, hsame]
      exact ⟨⟨hpc.1.congr hnow (fun _ hd => hd), hpc.2⟩, h.fired⟩
  | stopped htask hstarted =>
      rw [htask] at hpc
      exact dueLaw_next hpc.1 h.fired
  | call htask =>
      rw [htask] at hpc
      refine dueLaw_next (hpc.1.congr hnow (fun _ hd => hd)) ?_
      intro e he
      rcases List.mem_append.mp he with he | he
      · exact h.fired e he
      · rw [List.mem_singleton.mp he]
        exact Timespec.le_trans hpc.2 hpc.1.past

/-- Every step that meets the condition keeps the law. -/
theorem dueLaw_step {s : Timers} {a : TimerAction} {s' : Timers}
    (hheld : HeldLaw s) (h : DueLaw s) (hg : ExpiryOnTime s a)
    (hs : timerStep s a = some s') : DueLaw s' := by
  have hnow := Timespec.le_refl s.now
  cases a with
  | start client timeOutInMs wakeOnExpire =>
      injection hs with hs
      subst hs
      rw [start]
      split
      · exact h
      · exact h.congr hnow rfl rfl rfl
  | stop client =>
      injection hs with hs
      subst hs
      obtain ⟨f, g, k, l, hstop, _⟩ := stop_eq s client
      rw [hstop]
      exact h.congr hnow rfl rfl rfl
  | tick now =>
      rw [timerStep, tick] at hs
      split at hs
      · rename_i hlater
        injection hs with hs
        exact hs ▸ h.congr hlater.1 rfl rfl rfl
      · cases hs
  | epollWait cs =>
      rw [timerStep, epollWait] at hs
      split at hs
      · injection hs with hs
        exact hs ▸ h.congr hnow rfl rfl rfl
      · cases hs
  | pollStep =>
      rw [timerStep, pollStep] at hs
      split at hs
      · injection hs with hs
        exact hs ▸ h.congr hnow rfl rfl rfl
      · injection hs with hs
        exact hs ▸ h.congr hnow rfl rfl rfl
      · cases hs
  | taskStep => exact dueLaw_taskStep h hheld hg hs

/-! ## Runs -/

/-- **TIMERS DO NOT FIRE EARLY** in the runs where every Expire finds its top
    due and no client is restarted while its timer expires. -/
theorem timers_not_early {s : Timers}
    (h : ReachUnder timerSys ExpiryOnTime s) :
    ∀ e ∈ s.fired, e.deadline ≤ e.time := by
  have hlaw : DueLaw s := by
    refine reachUnder_inv_of (I := DueLaw) (J := HeldLaw)
      (fun _ => held_of_reachUnder) ?_ ?_ h
    · rintro s ⟨now, _, rfl⟩
      exact ⟨trivial, fun _ he => by cases he⟩
    · intro s a s' hJ hI hg hs
      exact dueLaw_step hJ hI hg hs
  exact hlaw.fired

/-- Timers of 1 s and of 1.5 s on one container, with both due when the Expire
    of the first is taken. -/
def expiryRun : List TimerAction :=
  [TimerAction.start 0 1000 false, .start 1 1500 false] ++
    List.replicate 6 TimerAction.taskStep ++
    [TimerAction.tick ⟨7, 0⟩, .epollWait [.mSwTimers]] ++
    List.replicate 3 TimerAction.pollStep ++
    List.replicate 7 TimerAction.taskStep

theorem timers_not_early_two :
    ∃ s, exec timerSys (newTimers ⟨5, 0⟩) expiryRun = some s ∧
      s.fired = [⟨0, ⟨6, 0⟩, ⟨7, 0⟩⟩, ⟨1, ⟨6, 500000000⟩, ⟨7, 0⟩⟩] ∧
      ∀ e ∈ s.fired, e.deadline ≤ e.time := by
  have hmeet : StepsMeet timerSys ExpiryOnTime (newTimers ⟨5, 0⟩)
      expiryRun := by decide +kernel
  have hrun : (exec timerSys (newTimers ⟨5, 0⟩) expiryRun).map Timers.fired
      = some [⟨0, ⟨6, 0⟩, ⟨7, 0⟩⟩, ⟨1, ⟨6, 500000000⟩, ⟨7, 0⟩⟩] := by
    decide +kernel
  obtain ⟨s, hexec, hfired⟩ := Option.map_eq_some_iff.mp hrun
  exact ⟨s, hexec, hfired, timers_not_early
    (reachUnder_exec _ (.init (init_newTimers ⟨5, 0⟩ (by decide))) hmeet
      hexec)⟩

/-! ## The top is stopped while its Expire is on the way -/

/-- Timers of 1 s and of 100 s.  The first is stopped when the poll thread
    has its event, and removed before the Expire is taken. -/
def stoppedTopRun : List TimerAction :=
  [TimerAction.start 0 1000 false, .start 1 100000 false] ++
    List.replicate 6 TimerAction.taskStep ++
    [TimerAction.tick ⟨6, 0⟩, .epollWait [.mSwTimers], .stop 0] ++
    List.replicate 4 TimerAction.taskStep ++
    List.replicate 3 TimerAction.pollStep ++
    List.replicate 4 TimerAction.taskStep

/-- The timer of 100 s is called back after 1 s. -/
theorem stopped_top_fires_next :
    ¬ (∀ s, Reach timerSys s → ∀ e ∈ s.fired, e.deadline ≤ e.time) := by
  intro hall
  have hrun : (exec timerSys (newTimers ⟨5, 0⟩) stoppedTopRun).map
      Timers.fired = some [⟨1, ⟨105, 0⟩, ⟨6, 0⟩⟩] := by decide +kernel
  obtain ⟨s, hexec, hfired⟩ := Option.map_eq_some_iff.mp hrun
  have hreach : Reach timerSys s :=
    reach_exec _ (.init (init_newTimers ⟨5, 0⟩ (by decide))) hexec
  have hlate := hall s hreach ⟨1, ⟨105, 0⟩, ⟨6, 0⟩⟩ (by
    rw [hfired]
    exact List.mem_cons_self)
  exact absurd hlate (by decide)

end QcomTimer
