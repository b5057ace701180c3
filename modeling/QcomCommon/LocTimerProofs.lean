import Mathlib.Logic.Function.Basic
import QcomCommon.LocHeapProofs
import QcomCommon.TransitionProofs

/-! # Timers

    `LocTimer.cpp`: a started timer is a delegate in the heap of one of two
    containers.  The heaps belong to the message thread, which handles the
    Push, Remove and Expire messages in order; the kernel holds one deadline
    for each container, the soonest; the poll thread waits for the kernel,
    disarms the container and queues its Expire.

    Clients start and stop timers at any time, under the timer's lock.  The
    message thread and the poll thread move one kernel call at a time, and
    the expiry of a delegate is cut where it reads `mClient` without the
    lock.  A pointer to a delegate is its number in the order of creation,
    with the deadline it was created with. -/

namespace QcomTimer

open QcomTransition QcomHeap

/-! ## Time -/

/-- `struct timespec`. -/
structure Timespec where
  tv_sec : Nat
  tv_nsec : Nat
deriving DecidableEq, Repr

/-- Not later, for normalised times. -/
def Timespec.le (a b : Timespec) : Prop :=
  a.tv_sec < b.tv_sec ∨ a.tv_sec = b.tv_sec ∧ a.tv_nsec ≤ b.tv_nsec

instance : LE Timespec := ⟨Timespec.le⟩

instance (a b : Timespec) : Decidable (a ≤ b) :=
  inferInstanceAs (Decidable (a.tv_sec < b.tv_sec ∨
    a.tv_sec = b.tv_sec ∧ a.tv_nsec ≤ b.tv_nsec))

/-- The time 0. -/
def Timespec.zero : Timespec := ⟨0, 0⟩

/-- The deadline `LocTimer::start` computes. -/
def futureTime (now : Timespec) (timeOutInMs : UInt32) : Timespec :=
  let tv_sec := now.tv_sec + timeOutInMs.toNat / 1000
  let tv_nsec := now.tv_nsec + timeOutInMs.toNat % 1000 * 1000000
  if 1000000000 ≤ tv_nsec then
    ⟨tv_sec + tv_nsec / 1000000000, tv_nsec % 1000000000⟩
  else ⟨tv_sec, tv_nsec⟩

/-- Conversion to `int`. -/
def toInt (x : Int) : Int := x.bmod 4294967296

/-- `LocTimerDelegate::ranks`: the larger time ranks lower. -/
def ranks (this timer : Timespec) : Int :=
  let rank := toInt ((timer.tv_sec : Int) - this.tv_sec)
  if rank = 0 then toInt ((timer.tv_nsec : Int) - this.tv_nsec) else rank

/-! ## Objects -/

/-- A pointer to a `LocTimerDelegate`. -/
structure DelegateRef where
  addr : Nat
  mFutureTime : Timespec
deriving DecidableEq, Repr

instance : LocRankable DelegateRef :=
  ⟨fun a b => ranks a.mFutureTime b.mFutureTime⟩

/-- The two containers, of which one wakes the system. -/
inductive LocTimerContainer where
  | mSwTimers
  | mHwTimers
deriving DecidableEq, Repr

/-- What the kernel has of a container. -/
structure TimerFd where
  armed : Option Timespec
  polled : Bool
deriving DecidableEq, Repr

/-- What a container has the kernel do. -/
inductive KernelCall where
  | addPoll
  | removePoll
  | settime (it_value : Timespec)
deriving DecidableEq, Repr

/-- A zero `it_value` disarms. -/
def TimerFd.call (fd : TimerFd) : KernelCall → TimerFd
  | .addPoll => { fd with polled := true }
  | .removePoll => { fd with polled := false }
  | .settime it_value =>
      { fd with armed := if it_value = .zero then none else some it_value }

/-- The messages of a container. -/
inductive TimerMsg where
  | MsgTimerPush (c : LocTimerContainer) (mTimer : DelegateRef)
  | MsgTimerRemove (c : LocTimerContainer) (mTimer : DelegateRef)
  | MsgTimerExpire (c : LocTimerContainer)
deriving DecidableEq, Repr

/-- The container of a message. -/
def TimerMsg.container : TimerMsg → LocTimerContainer
  | .MsgTimerPush c _ => c
  | .MsgTimerRemove c _ => c
  | .MsgTimerExpire c => c

/-- Where the message thread is: between two messages, at the kernel calls of
    `updateSoonestTime`, or in the loop of an Expire: about to read the
    client of a popped timer, to stop that client, to call it back. -/
inductive TaskPc where
  | idle
  | kernel (c : LocTimerContainer) (calls : List KernelCall)
  | expiring (c : LocTimerContainer) (timerOfNow : Timespec)
      (timer : DelegateRef)
  | stopping (c : LocTimerContainer) (timerOfNow : Timespec)
      (timer : DelegateRef) (client : Nat)
  | calling (c : LocTimerContainer) (timerOfNow : Timespec)
      (client : Nat) (deadline : Timespec)
deriving DecidableEq, Repr

/-- The container that the task is busy with. -/
def TaskPc.container : TaskPc → Option LocTimerContainer
  | .idle => none
  | .kernel c _ => some c
  | .expiring c _ _ => some c
  | .stopping c _ _ _ => some c
  | .calling c _ _ _ => some c

/-- An event the poll thread handles, with the kernel calls left before it
    queues the Expire. -/
structure PollCall where
  container : LocTimerContainer
  calls : List KernelCall
deriving DecidableEq, Repr

/-- A call back of a client: the deadline of the start it consumed, and when
    it was made. -/
structure Fired where
  client : Nat
  deadline : Timespec
  time : Timespec
deriving DecidableEq, Repr

/-- The clock, the clients' `mTimer`, the delegates' `mClient` and
    `mContainer`, the containers with their kernel state, the message queue
    and the two threads. -/
structure Timers where
  now : Timespec
  mTimer : Nat → Option DelegateRef
  mClient : Nat → Option Nat
  mContainer : Nat → Option LocTimerContainer
  created : Nat
  mTree : LocTimerContainer → LocHeapNode DelegateRef
  fd : LocTimerContainer → TimerFd
  queue : List TimerMsg
  task : TaskPc
  poll : List PollCall
  fired : List Fired

/-! ## Clients -/

/-- `LocTimerContainer::get`. -/
def containerOf (wakeOnExpire : Bool) : LocTimerContainer :=
  if wakeOnExpire then .mHwTimers else .mSwTimers

/-- `LocTimer::start`. -/
def start (s : Timers) (client : Nat) (timeOutInMs : UInt32)
    (wakeOnExpire : Bool) : Timers :=
  match s.mTimer client with
  | some _ => s
  | none =>
      let timer : DelegateRef := ⟨s.created, futureTime s.now timeOutInMs⟩
      { s with
        mTimer := Function.update s.mTimer client (some timer)
        mClient := Function.update s.mClient s.created (some client)
        mContainer := Function.update s.mContainer s.created
          (some (containerOf wakeOnExpire))
        created := s.created + 1
        queue := s.queue ++ [.MsgTimerPush (containerOf wakeOnExpire) timer] }

/-- `LocTimerDelegate::destroyLocked`. -/
def destroyLocked (s : Timers) (timer : DelegateRef) : Timers :=
  match s.mContainer timer.addr with
  | some c =>
      { s with
        mClient := Function.update s.mClient timer.addr none
        mContainer := Function.update s.mContainer timer.addr none
        queue := s.queue ++ [.MsgTimerRemove c timer] }
  | none =>
      { s with mClient := Function.update s.mClient timer.addr none }

/-- `LocTimer::stop`, which succeeds if the timer was started. -/
def stop (s : Timers) (client : Nat) : Timers :=
  match s.mTimer client with
  | some timer =>
      destroyLocked
        { s with mTimer := Function.update s.mTimer client none } timer
  | none => s

/-! ## The message thread -/

/-- `LocTimerContainer::updateSoonestTime`, the kernel calls it makes. -/
def updateSoonestTime (mTree : LocHeapNode DelegateRef)
    (priorTop : Option DelegateRef) : List KernelCall :=
  -- nothing to do while the top stays
  if mTree.peek = priorTop then []
  else match mTree.peek with
    -- the heap is empty now
    | none => [.removePoll, .settime .zero]
    | some curTop =>
        if priorTop.all (fun prior => outRanks curTop prior) then
          [.addPoll, .settime curTop.mFutureTime]
        else []

/-- `LocTimerContainer::popIfOutRanks`. -/
def popIfOutRanks (mTree : LocHeapNode DelegateRef) (timer : Timespec) :
    Option DelegateRef × LocHeapNode DelegateRef :=
  match mTree.peek with
  | some top =>
      if 0 < ranks timer top.mFutureTime then (none, mTree) else mTree.pop
  | none => (none, mTree)

/-- The head of the Expire loop, with what was popped. -/
def expireLoop (s : Timers) (c : LocTimerContainer) (timerOfNow : Timespec)
    (popped : Option DelegateRef × LocHeapNode DelegateRef) : Timers :=
  { s with
    mTree := Function.update s.mTree c popped.2
    task := match popped.1 with
      | some timer => .expiring c timerOfNow timer
      -- nothing more is due: arm for the current top
      | none => .kernel c (updateSoonestTime popped.2 none) }

/-- `MsgTimerPush::proc` up to its kernel calls. -/
def procPush (s : Timers) (c : LocTimerContainer) (mTimer : DelegateRef) :
    Timers :=
  { s with
    mTree := Function.update s.mTree c ((s.mTree c).push mTimer)
    task := .kernel c
      (updateSoonestTime ((s.mTree c).push mTimer) (s.mTree c).peek) }

/-- `MsgTimerRemove::proc` up to its kernel calls: only if the top itself was
    removed, the kernel is told of the current one. -/
def procRemove (s : Timers) (c : LocTimerContainer) (mTimer : DelegateRef) :
    Timers :=
  { s with
    mTree := Function.update s.mTree c ((s.mTree c).remove mTimer).2
    task := .kernel c
      (if (s.mTree c).peek = ((s.mTree c).remove mTimer).1 then
        updateSoonestTime ((s.mTree c).remove mTimer).2 none
      else []) }

/-- `MsgTimerExpire::proc` up to the first timer: the first pop is
    unconditional. -/
def procExpire (s : Timers) (c : LocTimerContainer) : Timers :=
  expireLoop s c s.now (s.mTree c).pop

/-- `proc` of a message. -/
def proc (s : Timers) : TimerMsg → Timers
  | .MsgTimerPush c mTimer => procPush s c mTimer
  | .MsgTimerRemove c mTimer => procRemove s c mTimer
  | .MsgTimerExpire c => procExpire s c

/-- The next step of the message thread. -/
def taskStep (s : Timers) : Option Timers :=
  match s.task with
  | .idle =>
      match s.queue with
      | m :: queue => some (proc { s with queue := queue } m)
      | [] => none
  | .kernel _ [] => some { s with task := .idle }
  | .kernel c (k :: calls) =>
      some { s with
        fd := Function.update s.fd c ((s.fd c).call k)
        task := .kernel c calls }
  | .expiring c timerOfNow timer =>
      match s.mClient timer.addr with
      | some client =>
          some { s with task := .stopping c timerOfNow timer client }
      | none =>
          -- destroyed since it was started: not called back
          some (expireLoop s c timerOfNow
            (popIfOutRanks (s.mTree c) timerOfNow))
  | .stopping c timerOfNow _ client =>
      match s.mTimer client with
      | some timer =>
          some { stop s client with
            task := .calling c timerOfNow client timer.mFutureTime }
      | none =>
          -- stopped by its client in between: not called back
          some (expireLoop s c timerOfNow
            (popIfOutRanks (s.mTree c) timerOfNow))
  | .calling c timerOfNow client deadline =>
      some (expireLoop
        { s with fired := s.fired ++ [⟨client, deadline, s.now⟩] }
        c timerOfNow (popIfOutRanks (s.mTree c) timerOfNow))

/-! ## The poll thread -/

/-- The kernel has an event of the container. -/
def TimerFd.ready (fd : TimerFd) (now : Timespec) : Bool :=
  fd.polled && fd.armed.any (fun t => decide (t ≤ now))

/-- `epoll_wait` returns events, at most one for each container. -/
def epollWait (s : Timers) (cs : List LocTimerContainer) : Option Timers :=
  if s.poll = [] ∧ cs.Nodup ∧ (∀ c ∈ cs, (s.fd c).ready s.now = true) then
    some { s with
      poll := cs.map (fun c => ⟨c, [.settime .zero, .removePoll]⟩) }
  else none

/-- The next step of `LocTimerContainer::expire`. -/
def pollStep (s : Timers) : Option Timers :=
  match s.poll with
  | ⟨c, k :: calls⟩ :: poll =>
      some { s with
        fd := Function.update s.fd c ((s.fd c).call k)
        poll := ⟨c, calls⟩ :: poll }
  | ⟨c, []⟩ :: poll =>
      some { s with
        poll := poll
        queue := s.queue ++ [.MsgTimerExpire c] }
  | [] => none

/-! ## Runs -/

/-- What clients, the kernel and the two threads do. -/
inductive TimerAction where
  | start (client : Nat) (timeOutInMs : UInt32) (wakeOnExpire : Bool)
  | stop (client : Nat)
  | tick (now : Timespec)
  | epollWait (cs : List LocTimerContainer)
  | pollStep
  | taskStep
deriving DecidableEq, Repr

/-- A time the clock can show. -/
def Timespec.Shown (t : Timespec) : Prop :=
  t ≠ .zero ∧ t.tv_nsec < 1000000000

instance (t : Timespec) : Decidable t.Shown :=
  inferInstanceAs (Decidable (t ≠ .zero ∧ t.tv_nsec < 1000000000))

/-- Time moves forward. -/
def tick (s : Timers) (now : Timespec) : Option Timers :=
  if s.now ≤ now ∧ now.Shown then some { s with now := now } else none

/-- A step of a client, the kernel or a thread. -/
def timerStep (s : Timers) : TimerAction → Option Timers
  | .start client timeOutInMs wakeOnExpire =>
      some (start s client timeOutInMs wakeOnExpire)
  | .stop client => some (stop s client)
  | .tick now => tick s now
  | .epollWait cs => epollWait s cs
  | .pollStep => pollStep s
  | .taskStep => taskStep s

/-- Nothing was started yet. -/
def newTimers (now : Timespec) : Timers where
  now := now
  mTimer _ := none
  mClient _ := none
  mContainer _ := none
  created := 0
  mTree _ := .null
  fd _ := ⟨none, false⟩
  queue := []
  task := .idle
  poll := []
  fired := []

/-- Timers from their start on. -/
def timerSys : TransSys Timers TimerAction where
  init s := ∃ now, now.Shown ∧ s = newTimers now
  step := timerStep

theorem init_newTimers (now : Timespec) (h : now.Shown) :
    timerSys.init (newTimers now) := ⟨now, h, rfl⟩

/-! ## What the message thread does -/

/-- The steps of the message thread: it takes a message, makes a kernel call
    or is done with them; in the loop of an Expire it reads the client of the
    popped timer or finds it gone, stops that client or finds it stopped, and
    calls it back. -/
inductive TaskMove (s : Timers) : Timers → Prop where
  | take {m : TimerMsg} {queue : List TimerMsg} (hidle : s.task = .idle)
      (hq : s.queue = m :: queue) :
      TaskMove s (proc { s with queue := queue } m)
  | done {c : LocTimerContainer} (htask : s.task = .kernel c []) :
      TaskMove s { s with task := .idle }
  | kernel {c : LocTimerContainer} {k : KernelCall} {calls : List KernelCall}
      (htask : s.task = .kernel c (k :: calls)) :
      TaskMove s { s with
        fd := Function.update s.fd c ((s.fd c).call k)
        task := .kernel c calls }
  | read {c : LocTimerContainer} {timerOfNow : Timespec}
      {timer : DelegateRef} {client : Nat}
      (htask : s.task = .expiring c timerOfNow timer)
      (hclient : s.mClient timer.addr = some client) :
      TaskMove s { s with task := .stopping c timerOfNow timer client }
  | gone {c : LocTimerContainer} {timerOfNow : Timespec}
      {timer : DelegateRef} (htask : s.task = .expiring c timerOfNow timer)
      (hclient : s.mClient timer.addr = none) :
      TaskMove s (expireLoop s c timerOfNow
        (popIfOutRanks (s.mTree c) timerOfNow))
  | stop {c : LocTimerContainer} {timerOfNow : Timespec}
      {timer started : DelegateRef} {client : Nat}
      (htask : s.task = .stopping c timerOfNow timer client)
      (hstarted : s.mTimer client = some started) :
      TaskMove s { stop s client with
        task := .calling c timerOfNow client started.mFutureTime }
  | stopped {c : LocTimerContainer} {timerOfNow : Timespec}
      {timer : DelegateRef} {client : Nat}
      (htask : s.task = .stopping c timerOfNow timer client)
      (hstarted : s.mTimer client = none) :
      TaskMove s (expireLoop s c timerOfNow
        (popIfOutRanks (s.mTree c) timerOfNow))
  | call {c : LocTimerContainer} {timerOfNow deadline : Timespec}
      {client : Nat}
      (htask : s.task = .calling c timerOfNow client deadline) :
      TaskMove s (expireLoop
        { s with fired := s.fired ++ [⟨client, deadline, s.now⟩] }
        c timerOfNow (popIfOutRanks (s.mTree c) timerOfNow))

/-- A step of the task is one of the moves it has. -/
theorem taskStep_move {s s' : Timers} (hs : taskStep s = some s') :
    TaskMove s s' := by
  rw [taskStep] at hs
  split at hs
  · rename_i hidle
    split at hs
    · rename_i m queue hq
      exact Option.some.inj hs ▸ .take hidle hq
    · cases hs
  · rename_i htask
    exact Option.some.inj hs ▸ .done htask
  · rename_i htask
    exact Option.some.inj hs ▸ .kernel htask
  · rename_i htask
    split at hs
    · rename_i client hclient
      exact Option.some.inj hs ▸ .read htask hclient
    · rename_i hclient
      exact Option.some.inj hs ▸ .gone htask hclient
  · rename_i htask
    split at hs
    · rename_i started hstarted
      exact Option.some.inj hs ▸ .stop htask hstarted
    · rename_i hstarted
      exact Option.some.inj hs ▸ .stopped htask hstarted
  · rename_i htask
    exact Option.some.inj hs ▸ .call htask

/-! ## Started delegates -/

theorem Timespec.le_trans {a b c : Timespec} (hab : a ≤ b) (hbc : b ≤ c) :
    a ≤ c := by
  change _ ∨ _ at hab hbc ⊢
  omega

/-- A deadline that was computed until `now`: the longest time-out is 2^32
    ms. -/
structure Started (now t : Timespec) : Prop where
  shown : t.Shown
  near : t.tv_sec ≤ now.tv_sec + 4294968

/-- What was started before a time was started before a later one. -/
theorem Started.mono {now now' t : Timespec} (hle : now ≤ now')
    (h : Started now t) : Started now' t := by
  have hsec : now.tv_sec ≤ now'.tv_sec := by
    change _ ∨ _ at hle
    omega
  have hnear := h.near
  exact ⟨h.shown, by omega⟩

/-- The deadline that is computed belongs to a start now. -/
theorem started_futureTime {now : Timespec} (h : now.Shown)
    (timeOutInMs : UInt32) : Started now (futureTime now timeOutInMs) := by
  obtain ⟨sec, nsec⟩ := now
  obtain ⟨hzero, hnsec⟩ := h
  have hms : timeOutInMs.toNat < 4294967296 := timeOutInMs.toNat_lt
  have hnz : sec ≠ 0 ∨ nsec ≠ 0 := by
    by_contra hboth
    push Not at hboth
    obtain ⟨rfl, rfl⟩ := hboth
    exact hzero rfl
  have hnsec' : nsec < 1000000000 := hnsec
  rw [futureTime]
  split
  · rename_i hcarry
    simp only at hcarry ⊢
    refine ⟨⟨?_, ?_⟩, ?_⟩
    · intro heq
      injection heq with hs
      omega
    · change _ % 1000000000 < 1000000000
      omega
    · change _ ≤ sec + 4294968
      simp only
      omega
  · rename_i hcarry
    simp only at hcarry ⊢
    refine ⟨⟨?_, ?_⟩, ?_⟩
    · intro heq
      injection heq with hs hn
      omega
    · change nsec + _ < 1000000000
      omega
    · change _ ≤ sec + 4294968
      simp only
      omega

/-- Every delegate in a heap or on its way there has a deadline that was
    computed. -/
structure HeldLaw (s : Timers) : Prop where
  now : s.now.Shown
  trees : ∀ c d, (s.mTree c).Mem d → Started s.now d.mFutureTime
  pushes : ∀ c d, .MsgTimerPush c d ∈ s.queue → Started s.now d.mFutureTime

/-- A step that brings no delegate in. -/
theorem HeldLaw.congr {s s' : Timers} (h : HeldLaw s) (hnow : s'.now = s.now)
    (htree : ∀ c d, (s'.mTree c).Mem d → (s.mTree c).Mem d)
    (hpush : ∀ c d, .MsgTimerPush c d ∈ s'.queue →
      .MsgTimerPush c d ∈ s.queue) : HeldLaw s' where
  now := hnow ▸ h.now
  trees c d hd := hnow ▸ h.trees c d (htree c d hd)
  pushes c d hd := hnow ▸ h.pushes c d (hpush c d hd)

/-- What the containers hold after one of them changed. -/
theorem mem_update {s : Timers} {c c' : LocTimerContainer}
    {t : LocHeapNode DelegateRef} {d : DelegateRef}
    (h : (Function.update s.mTree c t c').Mem d) :
    c' = c ∧ t.Mem d ∨ (s.mTree c').Mem d := by
  by_cases hc : c' = c
  · subst hc
    rw [Function.update_self] at h
    exact Or.inl ⟨rfl, h⟩
  · rw [Function.update_of_ne hc] at h
    exact Or.inr h

/-- A pop adds nothing to the heap. -/
theorem mem_popIfOutRanks {t : LocHeapNode DelegateRef} {now : Timespec}
    {d : DelegateRef} (h : (popIfOutRanks t now).2.Mem d) : t.Mem d := by
  rw [popIfOutRanks] at h
  split at h
  · split at h
    · exact h
    · exact LocHeapNode.mem_popNode h
  · exact h

/-- The loop of an Expire only takes delegates out. -/
theorem heldLaw_expireLoop {s : Timers} (h : HeldLaw s)
    (c : LocTimerContainer) (timerOfNow : Timespec)
    {popped : Option DelegateRef × LocHeapNode DelegateRef}
    (hpop : ∀ d, popped.2.Mem d → (s.mTree c).Mem d) :
    HeldLaw (expireLoop s c timerOfNow popped) := by
  refine h.congr rfl ?_ (fun _ _ hd => hd)
  intro c' d hd
  rcases mem_update hd with ⟨rfl, hm⟩ | hm
  · exact hpop d hm
  · exact hm

/-- A stop changes the client and its delegate and queues a Remove at most. -/
theorem stop_eq (s : Timers) (client : Nat) :
    ∃ f g k l, stop s client = { s with
        mTimer := f, mClient := g, mContainer := k, queue := s.queue ++ l } ∧
      ∀ c d, .MsgTimerPush c d ∉ l := by
  have hnone : ∀ c d, .MsgTimerPush c d ∉ ([] : List TimerMsg) :=
    fun _ _ => List.not_mem_nil
  rw [stop]
  cases s.mTimer client with
  | none =>
      refine ⟨s.mTimer, s.mClient, s.mContainer, [], ?_, hnone⟩
      rw [List.append_nil]
  | some timer =>
      simp only [destroyLocked]
      cases s.mContainer timer.addr with
      | none =>
          refine ⟨Function.update s.mTimer client none,
            Function.update s.mClient timer.addr none, s.mContainer, [], ?_,
            hnone⟩
          rw [List.append_nil]
      | some c =>
          refine ⟨_, _, _, _, rfl, ?_⟩
          intro c' d hd
          cases List.mem_singleton.mp hd

/-- A stop keeps the law. -/
theorem heldLaw_stop {s : Timers} (h : HeldLaw s) (client : Nat) :
    HeldLaw (stop s client) := by
  obtain ⟨f, g, k, l, hstop, hl⟩ := stop_eq s client
  rw [hstop]
  refine h.congr rfl (fun _ _ hd => hd) ?_
  intro c d hd
  rcases List.mem_append.mp hd with hd | hd
  · exact hd
  · exact absurd hd (hl c d)

/-- A start keeps it. -/
theorem heldLaw_start {s : Timers} (h : HeldLaw s) (client : Nat)
    (timeOutInMs : UInt32) (wakeOnExpire : Bool) :
    HeldLaw (start s client timeOutInMs wakeOnExpire) := by
  rw [start]
  split
  · exact h
  · refine ⟨h.now, h.trees, ?_⟩
    intro c d hd
    rcases List.mem_append.mp hd with hd | hd
    · exact h.pushes c d hd
    · injection List.mem_singleton.mp hd with _ hd
      rw [hd]
      exact started_futureTime h.now timeOutInMs

/-- A message that is handled keeps it. -/
theorem heldLaw_proc {s : Timers} {m : TimerMsg} {queue : List TimerMsg}
    (h : HeldLaw s) (hq : s.queue = m :: queue) :
    HeldLaw (proc { s with queue := queue } m) := by
  have hrest : HeldLaw { s with queue := queue } :=
    h.congr rfl (fun _ _ hd => hd)
      (fun _ _ hd => hq ▸ List.mem_cons_of_mem _ hd)
  cases m with
  | MsgTimerPush c mTimer =>
      refine ⟨hrest.now, ?_, hrest.pushes⟩
      intro c' d hd
      rcases mem_update hd with ⟨rfl, hm⟩ | hm
      · rcases LocHeapNode.mem_push hm with rfl | hm
        · exact h.pushes c' d (hq ▸ List.mem_cons_self)
        · exact h.trees c' d hm
      · exact h.trees c' d hm
  | MsgTimerRemove c mTimer =>
      refine hrest.congr rfl ?_ (fun _ _ hd => hd)
      intro c' d hd
      rcases mem_update hd with ⟨rfl, hm⟩ | hm
      · exact LocHeapNode.mem_remove hm
      · exact hm
  | MsgTimerExpire c =>
      exact heldLaw_expireLoop hrest c _ (fun d hd =>
        LocHeapNode.mem_popNode hd)

/-- A step of the task keeps it. -/
theorem heldLaw_taskStep {s s' : Timers} (h : HeldLaw s)
    (hs : taskStep s = some s') : HeldLaw s' := by
  cases taskStep_move hs with
  | take hidle hq => exact heldLaw_proc h hq
  | done htask => exact h.congr rfl (fun _ _ hd => hd) (fun _ _ hd => hd)
  | kernel htask => exact h.congr rfl (fun _ _ hd => hd) (fun _ _ hd => hd)
  | read htask hclient =>
      exact h.congr rfl (fun _ _ hd => hd) (fun _ _ hd => hd)
  | gone htask hclient =>
      exact heldLaw_expireLoop h _ _ (fun _ => mem_popIfOutRanks)
  | stop htask hstarted =>
      exact (heldLaw_stop h _).congr rfl (fun _ _ hd => hd)
        (fun _ _ hd => hd)
  | stopped htask hstarted =>
      exact heldLaw_expireLoop h _ _ (fun _ => mem_popIfOutRanks)
  | call htask =>
      refine heldLaw_expireLoop ?_ _ _ (fun _ => mem_popIfOutRanks)
      exact h.congr rfl (fun _ _ hd => hd) (fun _ _ hd => hd)

/-- A step of the poll thread keeps it. -/
theorem heldLaw_pollStep {s s' : Timers} (h : HeldLaw s)
    (hs : pollStep s = some s') : HeldLaw s' := by
  rw [pollStep] at hs
  split at hs
  · injection hs with hs
    exact hs ▸ h.congr rfl (fun _ _ hd => hd) (fun _ _ hd => hd)
  · injection hs with hs
    subst hs
    refine h.congr rfl (fun _ _ hd => hd) ?_
    intro c d hd
    rcases List.mem_append.mp hd with hd | hd
    · exact hd
    · cases List.mem_singleton.mp hd
  · cases hs

/-- Every step keeps the law of the timers that are held. -/
theorem heldLaw_step {s : Timers} {a : TimerAction} {s' : Timers}
    (h : HeldLaw s) (hs : timerStep s a = some s') : HeldLaw s' := by
  cases a with
  | start client timeOutInMs wakeOnExpire =>
      injection hs with hs
      exact hs ▸ heldLaw_start h client timeOutInMs wakeOnExpire
  | stop client =>
      injection hs with hs
      exact hs ▸ heldLaw_stop h client
  | tick now =>
      rw [timerStep, tick] at hs
      split at hs
      · rename_i hnow
        injection hs with hs
        subst hs
        exact ⟨hnow.2, fun c d hd => (h.trees c d hd).mono hnow.1,
          fun c d hd => (h.pushes c d hd).mono hnow.1⟩
      · cases hs
  | epollWait cs =>
      rw [timerStep, epollWait] at hs
      split at hs
      · injection hs with hs
        exact hs ▸ h.congr rfl (fun _ _ hd => hd) (fun _ _ hd => hd)
      · cases hs
  | pollStep => exact heldLaw_pollStep h hs
  | taskStep => exact heldLaw_taskStep h hs

/-- The law holds in every run, whatever its steps are held to. -/
theorem held_of_reachUnder {G : Timers → TimerAction → Prop} {s : Timers}
    (h : ReachUnder timerSys G s) : HeldLaw s := by
  refine reachUnder_inv (I := HeldLaw) ?_ ?_ h
  · rintro s ⟨now, hnow, rfl⟩
    exact ⟨hnow, (fun _ _ hd => by cases hd), (fun _ _ hd => by cases hd)⟩
  · intro s a s' hI _ hs
    exact heldLaw_step hI hs

end QcomTimer
