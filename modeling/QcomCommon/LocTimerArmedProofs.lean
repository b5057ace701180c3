import QcomCommon.LocTimerProofs

/-! # No timer is lost

    The kernel holds one deadline for a container and the poll thread disarms
    it on its own.  Still, whenever nothing of a container is under way and
    its heap is not empty, the kernel is armed with the deadline of the top
    and watches the container (`timer_not_lost`).

    A container is alarmed from the event of the kernel to the Expire message
    in the queue.  The invariant says of each container that it is alarmed,
    or its Expire is running, or the kernel calls still to be made by
    `updateSoonestTime` leave the kernel right. -/

namespace QcomTimer

open QcomTransition QcomHeap LocHeapNode

/-! ## The kernel is right -/

/-- The kernel has the deadline of the top, if there is one. -/
def Right (t : LocHeapNode DelegateRef) (fd : TimerFd) : Prop :=
  ∀ top, t.peek = some top → fd = ⟨some top.mFutureTime, true⟩

/-- The kernel calls left to make. -/
def TaskPc.pending (c : LocTimerContainer) : TaskPc → List KernelCall
  | .kernel c' calls => if c' = c then calls else []
  | _ => []

/-- In the loop of an Expire of `c`. -/
def TaskPc.inLoop (c : LocTimerContainer) : TaskPc → Prop
  | .expiring c' _ _ => c' = c
  | .stopping c' _ _ _ => c' = c
  | .calling c' _ _ _ => c' = c
  | _ => False

/-- From the event to the Expire in the queue. -/
def Alarmed (s : Timers) (c : LocTimerContainer) : Prop :=
  (∃ p ∈ s.poll, p.container = c) ∨ .MsgTimerExpire c ∈ s.queue

/-- A container whose timer fd is not right has an event or a message on its way
    that makes it so. -/
def ArmedLaw (s : Timers) : Prop :=
  ∀ c, Alarmed s c ∨ s.task.inLoop c ∨
    Right (s.mTree c) ((s.task.pending c).foldl TimerFd.call (s.fd c))

/-- Arming anew is right, whatever the kernel had. -/
theorem right_rearm {t : LocHeapNode DelegateRef} {x : DelegateRef}
    (ht : t.peek = some x) (hx : x.mFutureTime ≠ .zero) (fd : TimerFd) :
    Right t ([.addPoll, .settime x.mFutureTime].foldl TimerFd.call fd) := by
  intro top htop
  have hxt : x = top := Option.some.inj (ht.symm.trans htop)
  simp [TimerFd.call, hx, ← hxt]

/-- With no prior top, `updateSoonestTime` arms the kernel for the current
    one. -/
theorem right_update {t : LocHeapNode DelegateRef}
    (hz : ∀ d, t.Mem d → d.mFutureTime ≠ .zero) (fd : TimerFd) :
    Right t ((updateSoonestTime t none).foldl TimerFd.call fd) := by
  cases ht : t.peek with
  | none =>
      intro top htop
      rw [ht] at htop
      cases htop
  | some x =>
      have hcalls : updateSoonestTime t none =
          [.addPoll, .settime x.mFutureTime] := by
        simp [updateSoonestTime, ht]
      rw [hcalls]
      exact right_rearm ht (hz x (mem_of_peek ht)) fd

/-- A push arms the kernel anew exactly if it changes the top. -/
theorem right_push {t : LocHeapNode DelegateRef} {x : DelegateRef}
    {fd : TimerFd} (hx : x.mFutureTime ≠ .zero) (h : Right t fd) :
    Right (t.push x) ((updateSoonestTime (t.push x) t.peek).foldl
      TimerFd.call fd) := by
  have hpeek := peek_push t x
  cases ht : t.peek with
  | none =>
      simp only [ht] at hpeek
      have hcalls : updateSoonestTime (t.push x) none =
          [.addPoll, .settime x.mFutureTime] := by
        simp [updateSoonestTime, hpeek]
      rw [hcalls]
      exact right_rearm hpeek hx fd
  | some prior =>
      simp only [ht] at hpeek
      by_cases hkeep : higher x prior = prior
      · rw [hkeep] at hpeek
        have hcalls : updateSoonestTime (t.push x) (some prior) = [] := by
          simp [updateSoonestTime, hpeek]
        rw [hcalls]
        intro top htop
        exact h top (by rw [ht, ← hpeek, htop])
      · have hout : outRanks x prior = true := by
          by_contra hnot
          exact hkeep (by rw [higher, if_neg hnot])
        have hhigh : higher x prior = x := by rw [higher, if_pos hout]
        rw [hhigh] at hpeek hkeep
        have hcalls : updateSoonestTime (t.push x) (some prior) =
            [.addPoll, .settime x.mFutureTime] := by
          simp [updateSoonestTime, hpeek, hkeep, hout]
        rw [hcalls]
        exact right_rearm hpeek hx fd

/-- A removal arms the kernel anew if it took the top. -/
theorem right_remove {t : LocHeapNode DelegateRef} {x : DelegateRef}
    {fd : TimerFd} (hz : ∀ d, t.Mem d → d.mFutureTime ≠ .zero)
    (h : Right t fd) :
    Right (t.remove x).2 ((if t.peek = (t.remove x).1 then
      updateSoonestTime (t.remove x).2 none else []).foldl
        TimerFd.call fd) := by
  split
  · exact right_update (fun d hd => hz d (mem_remove hd)) fd
  · rename_i hne
    have hpeek := peek_remove (fun heq => hne heq.symm)
    intro top htop
    exact h top (hpeek.symm.trans htop)

/-! ## The steps -/

theorem pending_of_container {t : TaskPc} {c : LocTimerContainer}
    (h : t.container ≠ some c) : t.pending c = [] ∧ ¬ t.inLoop c := by
  cases t with
  | idle => exact ⟨rfl, (fun h => h)⟩
  | kernel c' calls =>
      have hne : c' ≠ c := fun heq => h (congrArg some heq)
      exact ⟨if_neg hne, (fun h => h)⟩
  | expiring c' timerOfNow timer =>
      exact ⟨rfl, fun heq => h (congrArg some heq)⟩
  | stopping c' timerOfNow timer client =>
      exact ⟨rfl, fun heq => h (congrArg some heq)⟩
  | calling c' timerOfNow client deadline =>
      exact ⟨rfl, fun heq => h (congrArg some heq)⟩

/-- What the law says of a container the message thread is not at. -/
theorem ArmedLaw.outside {s : Timers} (h : ArmedLaw s)
    {c : LocTimerContainer} (hc : s.task.container ≠ some c) :
    Alarmed s c ∨ Right (s.mTree c) (s.fd c) := by
  obtain ⟨hpending, hloop⟩ := pending_of_container hc
  rcases h c with ha | hl | hr
  · exact Or.inl ha
  · exact absurd hl hloop
  · rw [hpending] at hr
    exact Or.inr hr

/-- A step that only queues messages or takes events. -/
theorem ArmedLaw.grow {s s' : Timers} (h : ArmedLaw s)
    (htask : s'.task = s.task) (htree : s'.mTree = s.mTree)
    (hfd : s'.fd = s.fd) (hpoll : ∀ p ∈ s.poll, p ∈ s'.poll)
    (hqueue : ∀ m ∈ s.queue, m ∈ s'.queue) : ArmedLaw s' := by
  intro c
  rw [htask, htree, hfd]
  rcases h c with (⟨p, hp, hpc⟩ | hm) | hrest
  · exact Or.inl (Or.inl ⟨p, hpoll p hp, hpc⟩)
  · exact Or.inl (Or.inr (hqueue _ hm))
  · exact Or.inr hrest

theorem armedLaw_start {s : Timers} (h : ArmedLaw s) (client : Nat)
    (timeOutInMs : UInt32) (wakeOnExpire : Bool) :
    ArmedLaw (start s client timeOutInMs wakeOnExpire) := by
  rw [start]
  split
  · exact h
  · exact h.grow rfl rfl rfl (fun _ hp => hp)
      (fun _ hm => List.mem_append_left _ hm)

theorem armedLaw_stop {s : Timers} (h : ArmedLaw s) (client : Nat) :
    ArmedLaw (stop s client) := by
  obtain ⟨f, g, k, l, hstop, _⟩ := stop_eq s client
  rw [hstop]
  exact h.grow rfl rfl rfl (fun _ hp => hp)
    (fun _ hm => List.mem_append_left _ hm)

theorem armedLaw_epollWait {s s' : Timers} (h : ArmedLaw s)
    {cs : List LocTimerContainer} (hs : epollWait s cs = some s') :
    ArmedLaw s' := by
  rw [epollWait] at hs
  split at hs
  · rename_i hready
    injection hs with hs
    subst hs
    refine h.grow rfl rfl rfl ?_ (fun _ hm => hm)
    intro p hp
    rw [hready.1] at hp
    cases hp
  · cases hs

/-- The poll thread disarms alarmed containers only, and leaves them
    alarmed. -/
theorem armedLaw_pollStep {s s' : Timers} (h : ArmedLaw s)
    (hs : pollStep s = some s') : ArmedLaw s' := by
  rw [pollStep] at hs
  split at hs
  · rename_i c k calls poll hpoll
    injection hs with hs
    subst hs
    intro c'
    by_cases hc : c' = c
    -- its event is still being handled
    · exact Or.inl (Or.inl ⟨_, List.mem_cons_self, hc.symm⟩)
    · have hfd : Function.update s.fd c ((s.fd c).call k) c' = s.fd c' :=
        Function.update_of_ne hc _ _
      rcases h c' with (⟨p, hp, hpc⟩ | hm) | hrest
      · rw [hpoll] at hp
        rcases List.mem_cons.mp hp with rfl | hp
        · exact absurd hpc.symm hc
        · exact Or.inl (Or.inl ⟨p, List.mem_cons_of_mem _ hp, hpc⟩)
      · exact Or.inl (Or.inr hm)
      · refine Or.inr ?_
        simp only [hfd]
        exact hrest
  · rename_i c poll hpoll
    injection hs with hs
    subst hs
    intro c'
    rcases h c' with (⟨p, hp, hpc⟩ | hm) | hrest
    · rw [hpoll] at hp
      rcases List.mem_cons.mp hp with rfl | hp
      · refine Or.inl (Or.inr (List.mem_append_right _ ?_))
        rw [← hpc]
        exact List.mem_cons_self
      · exact Or.inl (Or.inl ⟨p, hp, hpc⟩)
    · exact Or.inl (Or.inr (List.mem_append_left _ hm))
    · exact Or.inr hrest
  · cases hs

/-- The head of the Expire loop: a popped timer keeps the loop running, else
    `updateSoonestTime` arms the kernel anew. -/
theorem armedLaw_expireLoop {s : Timers} {c : LocTimerContainer}
    (hothers : ∀ c', c' ≠ c →
      Alarmed s c' ∨ Right (s.mTree c') (s.fd c'))
    (timerOfNow : Timespec)
    {popped : Option DelegateRef × LocHeapNode DelegateRef}
    (hz : ∀ d, popped.2.Mem d → d.mFutureTime ≠ .zero) :
    ArmedLaw (expireLoop s c timerOfNow popped) := by
  intro c'
  by_cases hc : c' = c
  · subst hc
    right
    rw [expireLoop]
    cases popped.1 with
    | some timer => exact Or.inl rfl
    | none =>
        right
        simp only [TaskPc.pending, if_true, Function.update_self]
        exact right_update hz _
  · have htree : (expireLoop s c timerOfNow popped).mTree c' = s.mTree c' :=
      Function.update_of_ne hc _ _
    have hcontainer : (expireLoop s c timerOfNow popped).task.container
        ≠ some c' := by
      have hcc : (expireLoop s c timerOfNow popped).task.container
          = some c := by
        rw [expireLoop]
        cases popped.1 <;> rfl
      rw [hcc]
      exact fun heq => hc (Option.some.inj heq).symm
    rcases hothers c' hc with ha | hr
    · exact Or.inl ha
    · refine Or.inr (Or.inr ?_)
      rw [(pending_of_container hcontainer).1, htree]
      exact hr

/-- A message that is taken alarms no other container. -/
theorem alarmed_tail {s : Timers} {m : TimerMsg} {queue : List TimerMsg}
    (hq : s.queue = m :: queue) {c : LocTimerContainer}
    (hm : m ≠ .MsgTimerExpire c) (h : Alarmed s c) :
    Alarmed { s with queue := queue } c := by
  rcases h with hp | hmem
  · exact Or.inl hp
  · rw [hq] at hmem
    rcases List.mem_cons.mp hmem with heq | hmem
    · exact absurd heq.symm hm
    · exact Or.inr hmem

/-- The message thread changes one heap and has the kernel calls for it to
    make. -/
theorem armedLaw_kernel {s : Timers} {c : LocTimerContainer}
    (hothers : ∀ c', c' ≠ c →
      Alarmed s c' ∨ Right (s.mTree c') (s.fd c'))
    {t : LocHeapNode DelegateRef} {calls : List KernelCall}
    (hc : Alarmed s c ∨ Right t (calls.foldl TimerFd.call (s.fd c))) :
    ArmedLaw { s with
      mTree := Function.update s.mTree c t
      task := .kernel c calls } := by
  intro c'
  by_cases hcc : c' = c
  · subst hcc
    rcases hc with ha | hr
    · exact Or.inl ha
    · right
      right
      simp only [TaskPc.pending, if_true, Function.update_self]
      exact hr
  · rcases hothers c' hcc with ha | hr
    · exact Or.inl ha
    · right
      right
      have hne : c ≠ c' := fun heq => hcc heq.symm
      simp only [TaskPc.pending, if_neg hne, Function.update_of_ne hcc]
      exact hr

theorem armedLaw_proc {s : Timers} (h : ArmedLaw s) (hheld : HeldLaw s)
    (hidle : s.task = .idle) {m : TimerMsg} {queue : List TimerMsg}
    (hq : s.queue = m :: queue) :
    ArmedLaw (proc { s with queue := queue } m) := by
  have hz : ∀ c d, (s.mTree c).Mem d → d.mFutureTime ≠ .zero :=
    fun c d hd => (hheld.trees c d hd).shown.1
  have hall : ∀ c, m ≠ .MsgTimerExpire c →
      Alarmed { s with queue := queue } c ∨ Right (s.mTree c) (s.fd c) := by
    intro c hm
    have hcontainer : s.task.container ≠ some c := by
      rw [hidle]
      exact fun heq => by cases heq
    rcases h.outside hcontainer with ha | hr
    · exact Or.inl (alarmed_tail hq hm ha)
    · exact Or.inr hr
  cases m with
  | MsgTimerPush c mTimer =>
      have hx : mTimer.mFutureTime ≠ .zero :=
        (hheld.pushes c mTimer (hq ▸ List.mem_cons_self)).shown.1
      refine armedLaw_kernel (fun c' _ => hall c' (fun heq => by cases heq)) ?_
      rcases hall c (fun heq => by cases heq) with ha | hr
      · exact Or.inl ha
      · exact Or.inr (right_push hx hr)
  | MsgTimerRemove c mTimer =>
      refine armedLaw_kernel (fun c' _ => hall c' (fun heq => by cases heq)) ?_
      rcases hall c (fun heq => by cases heq) with ha | hr
      · exact Or.inl ha
      · exact Or.inr (right_remove (hz c) hr)
  | MsgTimerExpire c =>
      refine armedLaw_expireLoop ?_ s.now
        (fun d hd => hz c d (mem_popNode hd))
      intro c' hc'
      refine hall c' ?_
      intro heq
      injection heq with heq
      exact hc' heq.symm

/-- A step within the loop of an Expire. -/
theorem ArmedLaw.loop {s : Timers} (h : ArmedLaw s) {c : LocTimerContainer}
    (hc : s.task.container = some c) {task : TaskPc} (hloop : task.inLoop c) :
    ArmedLaw { s with task := task } := by
  intro c'
  by_cases hcc : c' = c
  · subst hcc
    exact Or.inr (Or.inl hloop)
  · have hs : s.task.container ≠ some c' := by
      rw [hc]
      exact fun heq => hcc (Option.some.inj heq).symm
    have ht : task.pending c' = [] := by
      cases task with
      | idle => rfl
      | kernel c'' calls => cases hloop
      | expiring c'' timerOfNow timer => rfl
      | stopping c'' timerOfNow timer client => rfl
      | calling c'' timerOfNow client deadline => rfl
    rcases h.outside hs with ha | hr
    · exact Or.inl ha
    · right
      right
      rw [ht]
      exact hr

/-- A kernel call is made. -/
theorem armedLaw_call {s : Timers} (h : ArmedLaw s) {c : LocTimerContainer}
    {k : KernelCall} {calls : List KernelCall}
    (htask : s.task = .kernel c (k :: calls)) :
    ArmedLaw { s with
      fd := Function.update s.fd c ((s.fd c).call k)
      task := .kernel c calls } := by
  intro c'
  have hc' := h c'
  rw [htask] at hc'
  rcases hc' with ha | hl | hr
  · exact Or.inl ha
  · cases hl
  · refine Or.inr (Or.inr ?_)
    by_cases hcc : c' = c
    · subst hcc
      simp only [TaskPc.pending, if_true, List.foldl_cons] at hr
      simp only [TaskPc.pending, if_true, Function.update_self]
      exact hr
    · have hne : c ≠ c' := fun heq => hcc heq.symm
      simp only [TaskPc.pending, if_neg hne] at hr
      simp only [TaskPc.pending, if_neg hne, Function.update_of_ne hcc]
      exact hr

/-- No kernel call is left. -/
theorem armedLaw_done {s : Timers} (h : ArmedLaw s) {c : LocTimerContainer}
    (htask : s.task = .kernel c []) : ArmedLaw { s with task := .idle } := by
  intro c'
  have hc' := h c'
  rw [htask] at hc'
  rcases hc' with ha | hl | hr
  · exact Or.inl ha
  · cases hl
  · refine Or.inr (Or.inr ?_)
    simp only [TaskPc.pending, ite_self, List.foldl_nil] at hr ⊢
    exact hr

theorem armedLaw_taskStep {s s' : Timers} (h : ArmedLaw s)
    (hheld : HeldLaw s) (hs : taskStep s = some s') : ArmedLaw s' := by
  have hz : ∀ c timerOfNow d,
      (popIfOutRanks (s.mTree c) timerOfNow).2.Mem d →
      d.mFutureTime ≠ .zero :=
    fun c _ d hd => (hheld.trees c d (mem_popIfOutRanks hd)).shown.1
  have hothers : ∀ {c}, s.task.container = some c → ∀ c', c' ≠ c →
      Alarmed s c' ∨ Right (s.mTree c') (s.fd c') := by
    intro c hc c' hcc
    refine h.outside ?_
    rw [hc]
    exact fun heq => hcc (Option.some.inj heq).symm
  cases taskStep_move hs with
  | take hidle hq => exact armedLaw_proc h hheld hidle hq
  | done htask => exact armedLaw_done h htask
  | kernel htask => exact armedLaw_call h htask
  | read htask hclient => exact h.loop (by rw [htask]; rfl) rfl
  | gone htask hclient =>
      exact armedLaw_expireLoop (hothers (by rw [htask]; rfl)) _ (hz _ _)
  | @stop c timerOfNow timer started client htask hstarted =>
      have hc : (stop s client).task.container = some c := by
        obtain ⟨f, g, k, l, hstop, _⟩ := stop_eq s client
        rw [hstop]
        change s.task.container = some c
        rw [htask]
        rfl
      exact (armedLaw_stop h client).loop hc rfl
  | stopped htask hstarted =>
      exact armedLaw_expireLoop (hothers (by rw [htask]; rfl)) _ (hz _ _)
  | call htask =>
      exact armedLaw_expireLoop (hothers (by rw [htask]; rfl)) _ (hz _ _)

theorem armedLaw_step {s : Timers} {a : TimerAction} {s' : Timers}
    (hheld : HeldLaw s) (h : ArmedLaw s) (hs : timerStep s a = some s') :
    ArmedLaw s' := by
  cases a with
  | start client timeOutInMs wakeOnExpire =>
      injection hs with hs
      exact hs ▸ armedLaw_start h client timeOutInMs wakeOnExpire
  | stop client =>
      injection hs with hs
      exact hs ▸ armedLaw_stop h client
  | tick now =>
      rw [timerStep, tick] at hs
      split at hs
      · injection hs with hs
        exact hs ▸ h.grow rfl rfl rfl (fun _ hp => hp) (fun _ hm => hm)
      · cases hs
  | epollWait cs => exact armedLaw_epollWait h hs
  | pollStep => exact armedLaw_pollStep h hs
  | taskStep => exact armedLaw_taskStep h hheld hs

/-! ## Runs -/

/-- Nothing of the container is under way: no message of it is queued or
    being handled, and the poll thread has no event of it. -/
structure Quiet (s : Timers) (c : LocTimerContainer) : Prop where
  queue : ∀ m ∈ s.queue, m.container ≠ c
  task : s.task.container ≠ some c
  poll : ∀ p ∈ s.poll, p.container ≠ c

theorem quiet_of_done {s : Timers} (hqueue : s.queue = [])
    (htask : s.task = .idle) (hpoll : s.poll = []) (c : LocTimerContainer) :
    Quiet s c where
  queue _ hm := absurd (hqueue ▸ hm) List.not_mem_nil
  task := by
    rw [htask]
    exact fun heq => by cases heq
  poll _ hp := absurd (hpoll ▸ hp) List.not_mem_nil

/-- **NO LOST TIMER**: a quiet container whose heap is not empty is armed with
    the deadline of the top and watched. -/
theorem timer_not_lost {s : Timers} (h : Reach timerSys s)
    {c : LocTimerContainer} (hquiet : Quiet s c) {top : DelegateRef}
    (htop : (s.mTree c).peek = some top) :
    s.fd c = ⟨some top.mFutureTime, true⟩ := by
  have hlaw : ArmedLaw s := by
    refine reachUnder_inv_of (I := ArmedLaw) (J := HeldLaw)
      (fun _ => held_of_reachUnder) ?_ ?_ h
    · rintro s ⟨now, _, rfl⟩ c
      exact Or.inr (Or.inr (fun _ ht => by cases ht))
    · intro s a s' hJ hI _ hs
      exact armedLaw_step hJ hI hs
  -- quiet excludes the alarm, so the kernel is right
  rcases hlaw.outside hquiet.task with (⟨p, hp, hpc⟩ | hm) | hright
  · exact absurd hpc (hquiet.poll p hp)
  · exact absurd rfl (hquiet.queue _ hm)
  · exact hright top htop

/-- A timer of 100 s and one of 10 s, both pushed. -/
def twoTimersRun : List TimerAction :=
  [TimerAction.start 0 100000 false, .start 1 10000 false] ++
    List.replicate 8 TimerAction.taskStep

/-- The kernel has the sooner one. -/
theorem timer_not_lost_two :
    ∃ s, exec timerSys (newTimers ⟨5, 0⟩) twoTimersRun = some s ∧
      s.fd .mSwTimers = ⟨some ⟨15, 0⟩, true⟩ := by
  have hrun : (exec timerSys (newTimers ⟨5, 0⟩) twoTimersRun).map
      (fun s => (s.queue, s.task, s.poll, (s.mTree .mSwTimers).peek))
        = some ([], .idle, [], some ⟨1, ⟨15, 0⟩⟩) := by decide +kernel
  obtain ⟨s, hexec, hs⟩ := Option.map_eq_some_iff.mp hrun
  obtain ⟨hqueue, htask, hpoll, htop⟩ : s.queue = [] ∧ s.task = .idle ∧
      s.poll = [] ∧ (s.mTree .mSwTimers).peek = some ⟨1, ⟨15, 0⟩⟩ := by
    simpa using hs
  have hreach : Reach timerSys s :=
    reach_exec _ (.init (init_newTimers ⟨5, 0⟩ (by decide))) hexec
  exact ⟨s, hexec, timer_not_lost hreach
    (quiet_of_done hqueue htask hpoll _) htop⟩

end QcomTimer
