import QcomCommon.TransitionProofs

/-! # The thread of the daemon connection

    `loc_eng_dmn_conn_thread_helper.c`: `loc_eng_dmn_conn_launch_thelper`
    waits for the new thread until its initialization is over, the thread
    calls its functions until `thread_exit`, and the owner unblocks and joins
    it.  The parties take turns after every access to what they share.

    Unless `pthread_cond_wait` returns without a signal, the launch returns
    after the initialization and with its failure, and no signal is lost
    (`launch_handshake`).  In all runs the functions are called in order, a
    thread that is told to exit calls its task once more at most and ends
    within twelve steps, and nothing is used after it was destroyed
    (`thelper_lifecycle`). -/

namespace QcomThelper

open QcomTransition

/-- The functions of the thread; one that is `NULL` is passed over. -/
inductive Proc where
  | thread_proc_init
  | thread_proc_pre
  | thread_proc
  | thread_proc_post
deriving DecidableEq

/-- Where the owner is: in `thelper_signal_wait`, in
    `loc_eng_dmn_conn_launch_thelper` behind it, or done with both, with the
    result; then in `loc_eng_dmn_conn_join_thelper`. -/
inductive Owner where
  | created
  | locked
  | waiting
  | woken
  | checked
  | unlocked
  | returned (result : Bool)
  | joined (result : Bool)
  | destroyed (result : Bool)
deriving DecidableEq

/-- Where `thelper_main` is; in and behind `thelper_signal_ready` with whether
    the initialization failed. -/
inductive Child where
  | init
  | initFailed
  | ready (failed : Bool)
  | setting (failed : Bool)
  | signalling (failed : Bool)
  | unlocking (failed : Bool)
  | pre
  | preFailed
  | proc
  | procFailed
  | test
  | post
  | done (failed : Bool)
deriving DecidableEq

/-- The owner and its thread. -/
inductive Party where
  | owner
  | child
deriving DecidableEq

/-- `struct loc_eng_dmn_conn_thelper`, with who holds the mutex, where the
    parties are and which functions the thread came to. -/
structure Thelper where
  thread_exit : Bool
  thread_ready : Bool
  thread_mutex : Option Party
  owner : Owner
  child : Child
  passed : List Proc

/-- What can happen; a function of the thread gives a negative result or not,
    and `pthread_cond_wait` may return without a signal. -/
inductive Step where
  | owner
  | child (negative : Bool)
  | spurious
  | unblock
deriving DecidableEq

/-- `pthread_mutex_lock`. -/
def lock (p : Party) (s : Thelper) : Option Thelper :=
  if s.thread_mutex = none then some { s with thread_mutex := some p }
  else none

/-- `thelper_signal_wait`, the end of the launch, and the join. -/
def ownerStep (s : Thelper) : Option Thelper :=
  match s.owner with
  | .created => (lock .owner s).map fun s => { s with owner := .locked }
  | .locked =>
      if ¬ s.thread_ready ∧ ¬ s.thread_exit then
        some { s with thread_mutex := none, owner := .waiting }
      else some { s with owner := .checked }
  | .waiting => none
  | .woken => (lock .owner s).map fun s => { s with owner := .checked }
  | .checked => some { s with thread_mutex := none, owner := .unlocked }
  | .unlocked => some { s with owner := .returned s.thread_exit }
  | .returned r =>
      match s.child with
      | .done _ => some { s with owner := .joined r }
      | _ => none
  | .joined r => some { s with owner := .destroyed r }
  | .destroyed _ => none

/-- A call of a function, or none where it is `NULL`. -/
def call (s : Thelper) (p : Proc) (next : Child) : Thelper :=
  { s with passed := s.passed ++ [p], child := next }

/-- `thelper_main`. -/
def childStep (procs : Proc → Bool) (s : Thelper) (negative : Bool) :
    Option Thelper :=
  match s.child with
  | .init =>
      some (call s .thread_proc_init
        (if procs .thread_proc_init ∧ negative then .initFailed
          else .ready false))
  | .initFailed => some { s with thread_exit := true, child := .ready true }
  | .ready f => (lock .child s).map fun s => { s with child := .setting f }
  | .setting f =>
      some { s with thread_ready := true, child := .signalling f }
  | .signalling f =>
      some
        { s with
          owner := if s.owner = .waiting then .woken else s.owner
          child := .unlocking f }
  | .unlocking f =>
      some
        { s with
          thread_mutex := none
          child := if f then .done true else .pre }
  | .pre =>
      some (call s .thread_proc_pre
        (if procs .thread_proc_pre ∧ negative then .preFailed else .proc))
  | .preFailed => some { s with thread_exit := true, child := .done false }
  | .proc =>
      some (call s .thread_proc
        (if procs .thread_proc ∧ negative then .procFailed else .test))
  | .procFailed => some { s with thread_exit := true, child := .test }
  | .test => some { s with child := if s.thread_exit then .post else .proc }
  | .post => some (call s .thread_proc_post (.done false))
  | .done _ => none

/-- `loc_eng_dmn_conn_unblock_thelper`, which the owner calls when the launch
    is over. -/
def unblock (s : Thelper) : Option Thelper :=
  match s.owner with
  | .returned _ => some { s with thread_exit := true }
  | _ => none

/-- A step of the owner or of the thread. -/
def step (procs : Proc → Bool) (s : Thelper) : Step → Option Thelper
  | .owner => ownerStep s
  | .child negative => childStep procs s negative
  | .spurious =>
      if s.owner = .waiting then some { s with owner := .woken } else none
  | .unblock => unblock s

/-- The launch when the thread was created. -/
def launched : Thelper where
  thread_exit := false
  thread_ready := false
  thread_mutex := none
  owner := .created
  child := .init
  passed := []

/-- Owner and thread from the launch on. -/
def thelper (procs : Proc → Bool) : TransSys Thelper Step where
  init s := s = launched
  step := step procs

/-! ## Where the parties are -/

/-- The owner holds the mutex. -/
def Owner.holds : Owner → Bool
  | .locked | .checked => true
  | _ => false

/-- The thread does. -/
def Child.holds : Child → Bool
  | .setting _ | .signalling _ | .unlocking _ => true
  | _ => false

/-- `thread_ready` was set. -/
def Child.setReady : Child → Bool
  | .init | .initFailed | .ready _ | .setting _ => false
  | _ => true

/-- The condition was signalled. -/
def Child.signalled : Child → Bool
  | .init | .initFailed | .ready _ | .setting _ | .signalling _ => false
  | _ => true

/-- The initialization failed. -/
def Child.failed : Child → Bool
  | .initFailed => true
  | .ready f | .setting f | .signalling f | .unlocking f | .done f => f
  | _ => false

/-- What the launch returned. -/
def Owner.result : Owner → Option Bool
  | .returned r | .joined r | .destroyed r => some r
  | _ => none

/-- The wait is over. -/
def Owner.waited : Owner → Bool
  | .created | .locked | .waiting => false
  | _ => true

/-- Who holds the mutex, and what the flags say. -/
structure Shared (s : Thelper) : Prop where
  mutex : s.thread_mutex = if s.owner.holds then some .owner
    else if s.child.holds then some .child else none
  one : ¬ (s.owner.holds = true ∧ s.child.holds = true)
  ready : s.thread_ready = s.child.setReady
  failed : s.child.failed = true → s.child ≠ .initFailed →
    s.thread_exit = true

/-- The mutex is locked if it is free. -/
theorem lock_eq_some {p : Party} {s s' : Thelper} :
    lock p s = some s' ↔
      s.thread_mutex = none ∧ s' = { s with thread_mutex := some p } := by
  rw [lock]
  split
  · next h => simp [h, eq_comm]
  · next h => simp [h]

/-- The mutex is free at the launch. -/
theorem shared_launched : Shared launched where
  mutex := rfl
  one := by decide
  ready := rfl
  failed := by decide

/-- A step of the owner keeps the rule of the mutex. -/
theorem shared_owner {s s' : Thelper} (hs : Shared s)
    (h : ownerStep s = some s') : Shared s' := by
  obtain ⟨ex, rdy, mtx, own, ch, ps⟩ := s
  obtain ⟨hmutex, hone, hready, hfailed⟩ := hs
  cases own with
  | created =>
      obtain ⟨t, ht, rfl⟩ := Option.map_eq_some_iff.mp h
      obtain ⟨hfree, rfl⟩ := lock_eq_some.mp ht
      refine ⟨rfl, ?_, hready, hfailed⟩
      rintro ⟨-, hheld⟩
      simp [Owner.holds] at hmutex hfree
      simp [hfree, hheld] at hmutex
  | locked =>
      have hheld : ch.holds = false := by simpa [Owner.holds] using hone
      simp only [ownerStep] at h
      split at h
      · cases h
        exact ⟨by simp [Owner.holds, hheld], by simp [Owner.holds], hready,
          hfailed⟩
      · cases h
        exact ⟨hmutex, hone, hready, hfailed⟩
  | waiting => cases h
  | woken =>
      obtain ⟨t, ht, rfl⟩ := Option.map_eq_some_iff.mp h
      obtain ⟨hfree, rfl⟩ := lock_eq_some.mp ht
      refine ⟨rfl, ?_, hready, hfailed⟩
      rintro ⟨-, hheld⟩
      simp [Owner.holds] at hmutex hfree
      simp [hfree, hheld] at hmutex
  | checked =>
      have hheld : ch.holds = false := by simpa [Owner.holds] using hone
      cases h
      exact ⟨by simp [Owner.holds, hheld], by simp [Owner.holds], hready,
        hfailed⟩
  | unlocked =>
      cases h
      exact ⟨hmutex, hone, hready, hfailed⟩
  | returned r =>
      simp only [ownerStep] at h
      split at h
      · cases h
        exact ⟨hmutex, hone, hready, hfailed⟩
      · cases h
  | joined r =>
      cases h
      exact ⟨hmutex, hone, hready, hfailed⟩
  | destroyed r => cases h

/-- A step of the thread, from place to place. -/
theorem shared_child {procs : Proc → Bool} {s s' : Thelper} {negative : Bool}
    (hs : Shared s) (h : childStep procs s negative = some s') :
    Shared s' := by
  obtain ⟨ex, rdy, mtx, own, ch, ps⟩ := s
  obtain ⟨hmutex, hone, hready, hfailed⟩ := hs
  have hfree : ch.holds = true → own.holds = false := by
    intro hc
    simpa [hc] using hone
  cases ch with
  | init =>
      cases h
      dsimp only [call]
      split
      · exact ⟨hmutex, by simp [Child.holds], hready, by simp⟩
      · exact ⟨hmutex, by simp [Child.holds], hready, by simp [Child.failed]⟩
  | initFailed =>
      cases h
      exact ⟨hmutex, by simp [Child.holds], hready, fun _ _ => rfl⟩
  | ready f =>
      obtain ⟨t, ht, rfl⟩ := Option.map_eq_some_iff.mp h
      obtain ⟨hnone, rfl⟩ := lock_eq_some.mp ht
      have hown : own.holds = false := by
        cases hheld : own.holds with
        | false => rfl
        | true =>
            have howner : mtx = some .owner := by simpa [hheld] using hmutex
            exact nomatch howner.symm.trans hnone
      exact ⟨by simp [hown, Child.holds], by simp [hown], hready,
        fun hf _ => hfailed hf (by simp)⟩
  | setting f =>
      cases h
      exact ⟨hmutex, hone, rfl, fun hf _ => hfailed hf (by simp)⟩
  | signalling f =>
      cases h
      have hown := hfree rfl
      by_cases hwait : own = .waiting
      · subst hwait
        exact ⟨hmutex, by simp [Owner.holds], hready,
          fun hf _ => hfailed hf (by simp)⟩
      · dsimp only
        rw [if_neg hwait]
        exact ⟨hmutex, hone, hready, fun hf _ => hfailed hf (by simp)⟩
  | unlocking f =>
      cases h
      have hown := hfree rfl
      cases f with
      | true =>
          exact ⟨by simp [hown, Child.holds], by simp [Child.holds], hready,
            fun hf _ => hfailed hf (by simp)⟩
      | false =>
          exact ⟨by simp [hown, Child.holds], by simp [Child.holds], hready,
            by simp [Child.failed]⟩
  | pre =>
      cases h
      dsimp only [call]
      split <;>
        exact ⟨hmutex, by simp [Child.holds], hready, by simp [Child.failed]⟩
  | preFailed =>
      cases h
      exact ⟨hmutex, by simp [Child.holds], hready, by simp [Child.failed]⟩
  | proc =>
      cases h
      dsimp only [call]
      split <;>
        exact ⟨hmutex, by simp [Child.holds], hready, by simp [Child.failed]⟩
  | procFailed =>
      cases h
      exact ⟨hmutex, by simp [Child.holds], hready, by simp [Child.failed]⟩
  | test =>
      cases h
      dsimp only
      split <;>
        exact ⟨hmutex, by simp [Child.holds], hready, by simp [Child.failed]⟩
  | post =>
      cases h
      exact ⟨hmutex, by simp [call, Child.holds], hready, by
        simp [call, Child.failed]⟩
  | done f => cases h

/-- A wait that ends by itself keeps the rule of the mutex. -/
theorem shared_spurious {s : Thelper} (hs : Shared s)
    (hwait : s.owner = .waiting) : Shared { s with owner := .woken } := by
  have hmutex := hs.mutex
  rw [hwait] at hmutex
  exact ⟨hmutex, by simp [Owner.holds], hs.ready, hs.failed⟩

/-- The owner unblocks the thread only behind the launch. -/
theorem unblock_eq_some {s s' : Thelper} (h : unblock s = some s') :
    (∃ r, s.owner = .returned r) ∧ s' = { s with thread_exit := true } := by
  rw [unblock] at h
  split at h
  · next r hr => exact ⟨⟨r, hr⟩, (Option.some.inj h).symm⟩
  · cases h

/-- Only a wait ends by itself. -/
theorem spurious_eq_some {procs : Proc → Bool} {s s' : Thelper}
    (h : step procs s .spurious = some s') :
    s.owner = .waiting ∧ s' = { s with owner := .woken } := by
  simp only [step] at h
  split at h
  · next hwait => exact ⟨hwait, (Option.some.inj h).symm⟩
  · cases h

/-- **WHAT THE PARTIES SHARE** is as their places say. -/
theorem shared_step {procs : Proc → Bool} {s s' : Thelper} {a : Step}
    (hs : Shared s) (h : step procs s a = some s') : Shared s' := by
  cases a with
  | owner => exact shared_owner hs h
  | child negative => exact shared_child hs h
  | spurious =>
      obtain ⟨hwait, rfl⟩ := spurious_eq_some h
      exact shared_spurious hs hwait
  | unblock =>
      obtain ⟨-, rfl⟩ := unblock_eq_some h
      exact ⟨hs.mutex, hs.one, hs.ready, fun _ _ => rfl⟩

/-- The rule of the mutex holds in every run. -/
theorem shared_reach {procs : Proc → Bool} {s : Thelper}
    (h : Reach (thelper procs) s) : Shared s := by
  refine reachUnder_inv (fun s hs => ?_) (fun s a s' hs _ h => ?_) h
  · rw [show s = launched from hs]
    exact shared_launched
  · exact shared_step hs h

/-! ## The launch -/

/-- No step is a return of `pthread_cond_wait` without a signal. -/
def Signalled (_ : Thelper) (a : Step) : Prop := a ≠ .spurious

instance (s : Thelper) (a : Step) : Decidable (Signalled s a) :=
  inferInstanceAs (Decidable (_ ≠ _))

/-- The wait and the initialization. -/
structure Waits (s : Thelper) : Prop where
  quiet : s.child = .init ∨ s.child = .initFailed → s.thread_exit = false
  waiting : s.owner = .waiting → s.child.signalled = false
  waited : s.owner.waited = true → s.child ≠ .init ∧ s.child ≠ .initFailed
  result : ∀ r, s.owner.result = some r → s.child.failed = true → r = true

theorem waits_launched : Waits launched where
  quiet _ := rfl
  waiting h := nomatch h
  waited h := nomatch h
  result _ h := nomatch h

/-- A step of the owner keeps what it waits for. -/
theorem waits_owner {s s' : Thelper} (hshared : Shared s) (hs : Waits s)
    (h : ownerStep s = some s') : Waits s' := by
  obtain ⟨ex, rdy, mtx, own, ch, ps⟩ := s
  obtain ⟨hquiet, hwaiting, hwaited, hresult⟩ := hs
  cases own with
  | created =>
      obtain ⟨t, ht, rfl⟩ := Option.map_eq_some_iff.mp h
      obtain ⟨-, rfl⟩ := lock_eq_some.mp ht
      exact ⟨hquiet, (nomatch ·), (nomatch ·), fun _ h => nomatch h⟩
  | locked =>
      have hready := hshared.ready
      dsimp only at hready
      simp only [ownerStep] at h
      split at h
      · next hflags =>
          cases h
          refine ⟨hquiet, fun _ => ?_, (nomatch ·), fun _ h => nomatch h⟩
          -- a place before `thread_ready` is before the signal
          have hset : ch.setReady = false := by
            rw [← hready]
            exact Bool.eq_false_iff.mpr hflags.1
          cases ch <;> first | rfl | cases hset
      · next hflags =>
          cases h
          refine ⟨hquiet, (nomatch ·), fun _ => ?_, fun _ h => nomatch h⟩
          constructor
          · rintro rfl
            have hexit : ex = false := hquiet (Or.inl rfl)
            exact hflags ⟨by rw [hready]; decide, by rw [hexit]; decide⟩
          · rintro rfl
            have hexit : ex = false := hquiet (Or.inr rfl)
            exact hflags ⟨by rw [hready]; decide, by rw [hexit]; decide⟩
  | waiting => cases h
  | woken =>
      obtain ⟨t, ht, rfl⟩ := Option.map_eq_some_iff.mp h
      obtain ⟨-, rfl⟩ := lock_eq_some.mp ht
      exact ⟨hquiet, (nomatch ·), fun _ => hwaited rfl, fun _ h => nomatch h⟩
  | checked =>
      cases h
      exact ⟨hquiet, (nomatch ·), fun _ => hwaited rfl, fun _ h => nomatch h⟩
  | unlocked =>
      cases h
      refine ⟨hquiet, (nomatch ·), fun _ => hwaited rfl, fun r hr hf => ?_⟩
      cases hr
      exact hshared.failed hf (hwaited rfl).2
  | returned r =>
      simp only [ownerStep] at h
      split at h
      · cases h
        exact ⟨hquiet, (nomatch ·), fun _ => hwaited rfl, hresult⟩
      · cases h
  | joined r =>
      cases h
      exact ⟨hquiet, (nomatch ·), fun _ => hwaited rfl, hresult⟩
  | destroyed r => cases h

/-- The thread goes on from the initialization, and never fails it later. -/
theorem childStep_place {procs : Proc → Bool} {s s' : Thelper}
    {negative : Bool} (h : childStep procs s negative = some s') :
    s'.child ≠ .init
      ∧ (s'.child = .initFailed → s.child = .init)
      ∧ (s'.child.failed = true → s.child.failed = true ∨ s.child = .init)
      ∧ (s'.owner = s.owner ∨ s.owner = .waiting ∧ s'.owner = .woken
        ∧ s.child ≠ .init ∧ s.child ≠ .initFailed
        ∧ s'.child ≠ .initFailed) := by
  obtain ⟨ex, rdy, mtx, own, ch, ps⟩ := s
  cases ch with
  | init =>
      cases h
      dsimp only [call]
      split <;> simp [Child.failed]
  | initFailed =>
      cases h
      simp [Child.failed]
  | ready f =>
      obtain ⟨t, ht, rfl⟩ := Option.map_eq_some_iff.mp h
      obtain ⟨-, rfl⟩ := lock_eq_some.mp ht
      simp [Child.failed]
  | setting f =>
      cases h
      simp [Child.failed]
  | signalling f =>
      cases h
      by_cases hwait : own = .waiting
      · simp [Child.failed, hwait]
      · simp [Child.failed, hwait]
  | unlocking f =>
      cases h
      cases f <;> simp [Child.failed]
  | pre =>
      cases h
      dsimp only [call]
      split <;> simp [Child.failed]
  | preFailed =>
      cases h
      simp [Child.failed]
  | proc =>
      cases h
      dsimp only [call]
      split <;> simp [Child.failed]
  | procFailed =>
      cases h
      simp [Child.failed]
  | test =>
      cases h
      dsimp only
      split <;> simp [Child.failed]
  | post =>
      cases h
      simp [call, Child.failed]
  | done f => cases h

/-- Only the initialization that failed and the functions behind it set
    `thread_exit`, and only a signal wakes the owner. -/
theorem childStep_flags {procs : Proc → Bool} {s s' : Thelper}
    {negative : Bool} (h : childStep procs s negative = some s') :
    (s.child = .init → s'.thread_exit = s.thread_exit)
      ∧ (s'.owner = .waiting → s.child.signalled = false →
        s'.child.signalled = false) := by
  obtain ⟨ex, rdy, mtx, own, ch, ps⟩ := s
  cases ch with
  | init =>
      cases h
      dsimp only [call]
      split <;> simp [Child.signalled]
  | initFailed =>
      cases h
      simp [Child.signalled]
  | ready f =>
      obtain ⟨t, ht, rfl⟩ := Option.map_eq_some_iff.mp h
      obtain ⟨-, rfl⟩ := lock_eq_some.mp ht
      simp [Child.signalled]
  | setting f =>
      cases h
      simp [Child.signalled]
  | signalling f =>
      cases h
      by_cases hwait : own = .waiting
      · simp [hwait]
      · simp [hwait]
  | unlocking f =>
      cases h
      simp [Child.signalled]
  | pre =>
      cases h
      simp [call, Child.signalled]
  | preFailed =>
      cases h
      simp [Child.signalled]
  | proc =>
      cases h
      simp [call, Child.signalled]
  | procFailed =>
      cases h
      simp [Child.signalled]
  | test =>
      cases h
      simp [Child.signalled]
  | post =>
      cases h
      simp [call, Child.signalled]
  | done f => cases h

/-- A step of the thread keeps what the owner waits for. -/
theorem waits_child {procs : Proc → Bool} {s s' : Thelper} {negative : Bool}
    (hs : Waits s) (h : childStep procs s negative = some s') : Waits s' := by
  obtain ⟨hinit, hfailedInit, hfailed, howner⟩ := childStep_place h
  obtain ⟨hexit, hsignal⟩ := childStep_flags h
  refine ⟨?_, fun hwait => ?_, fun hwaited => ⟨hinit, fun hf => ?_⟩,
    fun r hr hf => ?_⟩
  · rintro (hi | hf)
    · exact absurd hi hinit
    · have hfrom := hfailedInit hf
      rw [hexit hfrom]
      exact hs.quiet (Or.inl hfrom)
  · refine hsignal hwait (hs.waiting ?_)
    rcases howner with heq | ⟨-, hwoken, -⟩
    · exact heq ▸ hwait
    · rw [hwoken] at hwait
      cases hwait
  · rcases howner with heq | ⟨-, -, -, -, hne⟩
    · exact (hs.waited (heq ▸ hwaited)).1 (hfailedInit hf)
    · exact hne hf
  · rcases howner with heq | ⟨-, hwoken, -⟩
    · have hresult : s.owner.result = some r := heq ▸ hr
      have hwaited : s.owner.waited = true := by
        cases hown : s.owner <;> rw [hown] at hresult <;> first
          | rfl
          | cases hresult
      rcases hfailed hf with hf' | hi
      · exact hs.result r hresult hf'
      · exact absurd hi (hs.waited hwaited).1
    · rw [hwoken] at hr
      cases hr

/-- Every step does, if no wait ends by itself. -/
theorem waits_step {procs : Proc → Bool} {s s' : Thelper} {a : Step}
    (hshared : Shared s) (hs : Waits s) (ha : Signalled s a)
    (h : step procs s a = some s') : Waits s' := by
  cases a with
  | owner => exact waits_owner hshared hs h
  | child negative => exact waits_child hs h
  | spurious => exact absurd rfl ha
  | unblock =>
      obtain ⟨⟨r, hr⟩, rfl⟩ := unblock_eq_some h
      obtain ⟨hinit, hfailed⟩ := hs.waited (by rw [hr]; rfl)
      refine ⟨?_, hs.waiting, hs.waited, hs.result⟩
      rintro (hi | hf)
      · exact absurd hi hinit
      · exact absurd hf hfailed

/-- The owner waits for what is still to come, in every such run. -/
theorem waits_reach {procs : Proc → Bool} {s : Thelper}
    (h : ReachUnder (thelper procs) Signalled s) : Waits s := by
  refine reachUnder_inv_of (J := Shared) ?_ (fun s hs => ?_) ?_ h
  · exact fun s hr => shared_reach (reach_of_reachUnder hr)
  · rw [show s = launched from hs]
    exact waits_launched
  · exact fun s a s' hshared hs ha hstep => waits_step hshared hs ha hstep

/-- How far the thread is from giving the mutex back. -/
def toSignal : Child → Nat
  | .init => 6
  | .initFailed => 5
  | .ready _ => 4
  | .setting _ => 3
  | .signalling _ => 2
  | .unlocking _ => 1
  | _ => 0

/-- On its way there the thread never stops but for the mutex. -/
theorem childStep_toSignal {procs : Proc → Bool} {s : Thelper}
    (hpos : 0 < toSignal s.child)
    (hfree : (∃ f, s.child = .ready f) → s.thread_mutex = none)
    (negative : Bool) :
    ∃ s', childStep procs s negative = some s'
      ∧ toSignal s'.child < toSignal s.child := by
  obtain ⟨ex, rdy, mtx, own, ch, ps⟩ := s
  cases ch with
  | init =>
      refine ⟨_, rfl, ?_⟩
      dsimp only [call]
      split <;> simp [toSignal]
  | initFailed => exact ⟨_, rfl, by simp [toSignal]⟩
  | ready f =>
      obtain rfl : mtx = none := hfree ⟨f, rfl⟩
      exact ⟨_, rfl, by simp [toSignal]⟩
  | setting f => exact ⟨_, rfl, by simp [toSignal]⟩
  | signalling f => exact ⟨_, rfl, by simp [toSignal]⟩
  | unlocking f =>
      refine ⟨_, rfl, ?_⟩
      cases f <;> simp [toSignal]
  | pre => cases hpos
  | preFailed => cases hpos
  | proc => cases hpos
  | procFailed => cases hpos
  | test => cases hpos
  | post => cases hpos
  | done f => cases hpos

/-- **THE HANDSHAKE** of the launch, where only a signal ends the wait: a
    result is there after the initialization only and tells its failure; until
    then the owner goes on, or it is the thread's turn, which each time is
    nearer to letting the owner go on. -/
theorem launch_handshake (procs : Proc → Bool) {s : Thelper}
    (h : ReachUnder (thelper procs) Signalled s) :
    (∀ r, s.owner.result = some r →
      s.child ≠ .init ∧ s.child ≠ .initFailed
        ∧ (s.child.failed = true → r = true))
    ∧ (s.owner.result = none → (ownerStep s).isSome = true
      ∨ ∀ negative, ∃ s', childStep procs s negative = some s'
        ∧ toSignal s'.child < toSignal s.child) := by
  have hwaits := waits_reach h
  have hshared := shared_reach (reach_of_reachUnder h)
  constructor
  · intro r hr
    have hwaited : s.owner.waited = true := by
      cases hown : s.owner <;> rw [hown] at hr <;> first
        | rfl
        | cases hr
    obtain ⟨hinit, hfailed⟩ := hwaits.waited hwaited
    exact ⟨hinit, hfailed, hwaits.result r hr⟩
  · intro hnone
    -- who has to take the mutex waits for a thread that holds it
    have hblocked : s.owner.holds = false → s.thread_mutex ≠ none →
        ∀ negative, ∃ s', childStep procs s negative = some s'
          ∧ toSignal s'.child < toSignal s.child := by
      intro hown hheld
      have hmutex := hshared.mutex
      rw [hown, if_neg Bool.false_ne_true] at hmutex
      have hchild : s.child.holds = true := by
        by_contra hc
        rw [if_neg hc] at hmutex
        exact hheld hmutex
      refine childStep_toSignal ?_ ?_
      · cases hc : s.child <;> rw [hc] at hchild <;> first
          | simp [toSignal]; done
          | cases hchild
      · rintro ⟨f, hf⟩
        rw [hf] at hchild
        cases hchild
    cases hown : s.owner with
    | created =>
        by_cases hfree : s.thread_mutex = none
        · exact Or.inl (by simp [ownerStep, hown, lock, hfree])
        · exact Or.inr (hblocked (by rw [hown]; rfl) hfree)
    | locked =>
        left
        simp only [ownerStep, hown]
        split <;> rfl
    | waiting =>
        right
        have hsignal := hwaits.waiting hown
        refine childStep_toSignal ?_ ?_
        · cases hc : s.child <;> rw [hc] at hsignal <;> first
            | simp [toSignal]; done
            | cases hsignal
        · rintro ⟨f, hf⟩
          rw [hshared.mutex, hown, hf]
          rfl
    | woken =>
        by_cases hfree : s.thread_mutex = none
        · exact Or.inl (by simp [ownerStep, hown, lock, hfree])
        · exact Or.inr (hblocked (by rw [hown]; rfl) hfree)
    | checked => exact Or.inl (by simp [ownerStep, hown])
    | unlocked => exact Or.inl (by simp [ownerStep, hown])
    | returned r =>
        rw [hown] at hnone
        cases hnone
    | joined r =>
        rw [hown] at hnone
        cases hnone
    | destroyed r =>
        rw [hown] at hnone
        cases hnone

/-- Without a signal the launch may be over before the initialization, with
    the result of a success. -/
example : (exec (thelper fun _ => true) launched
      [.owner, .owner, .spurious, .owner, .owner, .owner]).map
        (fun s => (s.owner, s.child)) = some (.returned false, .init) := by
  decide

/-- A launch whose initialization fails. -/
def failedLaunch : List Step :=
  [.owner, .owner, .child true, .child false, .child false, .child false,
    .child false, .child false, .owner, .owner, .owner]

theorem launch_handshake_failed :
    ∃ s, exec (thelper fun _ => true) launched failedLaunch = some s
      ∧ s.owner = .returned true ∧ s.child ≠ .init := by
  refine ⟨_, rfl, rfl, ?_⟩
  have hreach : ReachUnder (thelper fun _ => true) Signalled launched :=
    .init rfl
  exact ((launch_handshake (fun _ => true) (reachUnder_exec failedLaunch hreach
    (by decide) rfl)).1 true rfl).1

/-! ## The whole life -/

/-- The functions that the thread came to, by its place. -/
def Ordered (s : Thelper) : Prop :=
  match s.child with
  | .init => s.passed = []
  | .initFailed | .pre => s.passed = [.thread_proc_init]
  | .ready _ | .setting _ | .signalling _ | .unlocking _ | .done true =>
      s.passed = [.thread_proc_init]
  | .preFailed => s.passed = [.thread_proc_init, .thread_proc_pre]
  | .proc => ∃ n, s.passed = [.thread_proc_init, .thread_proc_pre]
      ++ List.replicate n .thread_proc
  | .procFailed | .test | .post =>
      ∃ n, s.passed = [.thread_proc_init, .thread_proc_pre]
        ++ List.replicate (n + 1) .thread_proc
  | .done false => s.passed = [.thread_proc_init, .thread_proc_pre]
      ∨ ∃ n, s.passed = [.thread_proc_init, .thread_proc_pre]
        ++ List.replicate (n + 1) .thread_proc ++ [.thread_proc_post]

/-- The thread makes its calls in their order. -/
theorem ordered_child {procs : Proc → Bool} {s s' : Thelper}
    {negative : Bool} (hs : Ordered s)
    (h : childStep procs s negative = some s') : Ordered s' := by
  obtain ⟨ex, rdy, mtx, own, ch, ps⟩ := s
  cases ch with
  | init =>
      cases h
      obtain rfl : ps = [] := hs
      dsimp only [call]
      split <;> rfl
  | initFailed =>
      cases h
      exact hs
  | ready f =>
      obtain ⟨t, ht, rfl⟩ := Option.map_eq_some_iff.mp h
      obtain ⟨-, rfl⟩ := lock_eq_some.mp ht
      exact hs
  | setting f =>
      cases h
      exact hs
  | signalling f =>
      cases h
      exact hs
  | unlocking f =>
      cases h
      cases f <;> exact hs
  | pre =>
      cases h
      obtain rfl : ps = [.thread_proc_init] := hs
      dsimp only [call]
      split
      · rfl
      · exact ⟨0, rfl⟩
  | preFailed =>
      cases h
      exact Or.inl hs
  | proc =>
      cases h
      obtain ⟨n, hn⟩ : ∃ n, ps = _ := hs
      have hnext : ps ++ [.thread_proc]
          = [.thread_proc_init, .thread_proc_pre]
            ++ List.replicate (n + 1) .thread_proc := by
        rw [hn, List.append_assoc, ← List.replicate_succ']
      dsimp only [call]
      split <;> exact ⟨n, hnext⟩
  | procFailed =>
      cases h
      exact hs
  | test =>
      cases h
      obtain ⟨n, hn⟩ : ∃ n, ps = _ := hs
      dsimp only
      split
      · exact ⟨n, hn⟩
      · exact ⟨n + 1, hn⟩
  | post =>
      cases h
      obtain ⟨n, hn⟩ : ∃ n, ps = _ := hs
      exact Or.inr ⟨n, by rw [← hn]; rfl⟩
  | done f => cases h

/-- The steps of the others leave the thread where it is. -/
theorem ownerStep_child {s s' : Thelper} (h : ownerStep s = some s') :
    s'.child = s.child ∧ s'.passed = s.passed
      ∧ s'.thread_exit = s.thread_exit
      ∧ (∀ r, s'.owner = .joined r → ∃ f, s.child = .done f)
      ∧ (∀ r, s'.owner = .destroyed r → s.owner = .joined r) := by
  obtain ⟨ex, rdy, mtx, own, ch, ps⟩ := s
  cases own with
  | created =>
      obtain ⟨t, ht, rfl⟩ := Option.map_eq_some_iff.mp h
      obtain ⟨-, rfl⟩ := lock_eq_some.mp ht
      simp
  | locked =>
      simp only [ownerStep] at h
      split at h <;> cases h <;> simp
  | waiting => cases h
  | woken =>
      obtain ⟨t, ht, rfl⟩ := Option.map_eq_some_iff.mp h
      obtain ⟨-, rfl⟩ := lock_eq_some.mp ht
      simp
  | checked =>
      cases h
      simp
  | unlocked =>
      cases h
      simp
  | returned r =>
      simp only [ownerStep] at h
      split at h
      · cases h
        simp
      · cases h
  | joined r =>
      cases h
      simp
  | destroyed r => cases h

/-- What was joined has ended. -/
def Ended (s : Thelper) : Prop :=
  ∀ r, s.owner = .joined r ∨ s.owner = .destroyed r → ∃ f, s.child = .done f

/-- Every step keeps the order of the calls, and how they end. -/
theorem life_step {procs : Proc → Bool} {s s' : Thelper} {a : Step}
    (hs : Ordered s ∧ Ended s) (h : step procs s a = some s') :
    Ordered s' ∧ Ended s' := by
  obtain ⟨hordered, hended⟩ := hs
  cases a with
  | owner =>
      obtain ⟨hchild, hpassed, -, hjoin, hdestroy⟩ := ownerStep_child h
      constructor
      · unfold Ordered at hordered ⊢
        rw [hchild, hpassed]
        exact hordered
      · rintro r (hr | hr)
        · rw [hchild]
          exact hjoin r hr
        · rw [hchild]
          exact hended r (Or.inl (hdestroy r hr))
  | child negative =>
      refine ⟨ordered_child hordered h, fun r hr => ?_⟩
      obtain ⟨-, -, -, howner⟩ := childStep_place h
      rcases howner with heq | ⟨-, hwoken, -⟩
      · obtain ⟨f, hf⟩ := hended r (heq ▸ hr)
        have hstep : childStep procs s negative = some s' := h
        simp [childStep, hf] at hstep
      · rw [hwoken] at hr
        rcases hr with hr | hr <;> cases hr
  | spurious =>
      obtain ⟨-, rfl⟩ := spurious_eq_some h
      exact ⟨hordered, fun r hr => by rcases hr with hr | hr <;> cases hr⟩
  | unblock =>
      obtain ⟨-, rfl⟩ := unblock_eq_some h
      exact ⟨hordered, hended⟩

/-! ## Told to exit -/

/-- How many steps the thread still makes once `thread_exit` is set. -/
def toEnd : Child → Nat
  | .init => 12
  | .initFailed => 11
  | .ready _ => 10
  | .setting _ => 9
  | .signalling _ => 8
  | .unlocking _ => 7
  | .pre => 6
  | .preFailed => 1
  | .proc => 5
  | .procFailed => 4
  | .test => 3
  | .post => 2
  | .done _ => 0

/-- How often it calls its task. -/
def tasksLeft : Child → Nat
  | .preFailed | .procFailed | .test | .post | .done _ => 0
  | _ => 1

/-- Behind the exit each step brings the thread nearer to its end. -/
theorem childStep_exit {procs : Proc → Bool} {s s' : Thelper}
    {negative : Bool} (hexit : s.thread_exit = true)
    (h : childStep procs s negative = some s') :
    s'.thread_exit = true ∧ toEnd s'.child < toEnd s.child
      ∧ s'.passed.count .thread_proc + tasksLeft s'.child
        ≤ s.passed.count .thread_proc + tasksLeft s.child := by
  obtain ⟨ex, rdy, mtx, own, ch, ps⟩ := s
  obtain rfl : ex = true := hexit
  cases ch with
  | init =>
      cases h
      dsimp only [call]
      split <;> simp [toEnd, tasksLeft]
  | initFailed =>
      cases h
      simp [toEnd, tasksLeft]
  | ready f =>
      obtain ⟨t, ht, rfl⟩ := Option.map_eq_some_iff.mp h
      obtain ⟨-, rfl⟩ := lock_eq_some.mp ht
      simp [toEnd, tasksLeft]
  | setting f =>
      cases h
      simp [toEnd, tasksLeft]
  | signalling f =>
      cases h
      simp [toEnd, tasksLeft]
  | unlocking f =>
      cases h
      cases f <;> simp [toEnd, tasksLeft]
  | pre =>
      cases h
      dsimp only [call]
      split <;> simp [toEnd, tasksLeft]
  | preFailed =>
      cases h
      simp [toEnd, tasksLeft]
  | proc =>
      cases h
      dsimp only [call]
      split <;> simp [toEnd, tasksLeft]
  | procFailed =>
      cases h
      simp [toEnd, tasksLeft]
  | test =>
      cases h
      simp [toEnd, tasksLeft]
  | post =>
      cases h
      simp [call, toEnd, tasksLeft]
  | done f => cases h

/-- A step of the thread. -/
def Step.isChild : Step → Bool
  | .child _ => true
  | _ => false

/-- A whole run of a thread that is told to exit. -/
theorem exec_exit {procs : Proc → Bool} (l : List Step) {s s' : Thelper}
    (hexit : s.thread_exit = true) (h : exec (thelper procs) s l = some s') :
    l.countP Step.isChild + toEnd s'.child ≤ toEnd s.child
      ∧ s'.passed.count .thread_proc + tasksLeft s'.child
        ≤ s.passed.count .thread_proc + tasksLeft s.child := by
  induction l generalizing s with
  | nil =>
      cases h
      exact ⟨Nat.le_of_eq (Nat.zero_add _), Nat.le_refl _⟩
  | cons a l ih =>
      obtain ⟨t, ht, hrest⟩ := Option.bind_eq_some_iff.mp h
      cases a with
      | owner =>
          obtain ⟨hchild, hpassed, heq, -⟩ := ownerStep_child ht
          have htail := ih (heq.trans hexit) hrest
          rw [hchild, hpassed] at htail
          exact htail
      | child negative =>
          obtain ⟨hexit', hend, htasks⟩ := childStep_exit hexit ht
          obtain ⟨htail, htail'⟩ := ih hexit' hrest
          rw [List.countP_cons_of_pos (by rfl)]
          omega
      | spurious =>
          have hstep : step procs s .spurious = some t := ht
          obtain ⟨-, rfl⟩ := spurious_eq_some hstep
          exact ih (s := { s with owner := .woken }) hexit hrest
      | unblock =>
          obtain ⟨-, rfl⟩ := unblock_eq_some ht
          exact ih (s := { s with thread_exit := true }) rfl hrest

/-- How many steps the owner needs to give the mutex back. -/
def toRelease : Owner → Nat
  | .locked => 2
  | .checked => 1
  | _ => 0

/-- An owner that holds the mutex comes nearer to giving it back with every
    step of its own, and the other steps leave it where it is. -/
theorem owner_releases (procs : Proc → Bool) {s : Thelper}
    (hheld : s.owner.holds = true) :
    (∃ s', ownerStep s = some s' ∧ toRelease s'.owner < toRelease s.owner)
      ∧ ∀ a s', a ≠ .owner → step procs s a = some s' →
        s'.owner = s.owner := by
  constructor
  · cases hown : s.owner with
    | locked =>
        simp only [ownerStep, hown]
        split
        · exact ⟨_, rfl, by simp [toRelease]⟩
        · exact ⟨_, rfl, by simp [toRelease]⟩
    | checked => exact ⟨_, by rw [ownerStep, hown], by simp [toRelease]⟩
    | _ => simp [hown, Owner.holds] at hheld
  · intro a s' ha h
    cases a with
    | owner => exact absurd rfl ha
    | child negative =>
        obtain ⟨-, -, -, howner⟩ := childStep_place h
        rcases howner with heq | ⟨hwait, -⟩
        · exact heq
        · simp [hwait, Owner.holds] at hheld
    | spurious =>
        obtain ⟨hwait, -⟩ := spurious_eq_some h
        simp [hwait, Owner.holds] at hheld
    | unblock =>
        obtain ⟨⟨r, hr⟩, -⟩ := unblock_eq_some h
        simp [hr, Owner.holds] at hheld

/-- **THE LIFE OF THE THREAD**, in all runs: its functions are called in
    order, nothing of it is there when it was joined, and from the moment it
    is told to exit it makes twelve steps more at most, in which it calls its
    task once at most; only the mutex holds it up, and an owner that has it
    gives it back within two steps of its own. -/
theorem thelper_lifecycle (procs : Proc → Bool) {s : Thelper}
    (h : Reach (thelper procs) s) :
    Ordered s ∧ Ended s
      ∧ (s.thread_exit = true →
        ∀ l s', exec (thelper procs) s l = some s' →
          l.countP Step.isChild ≤ 12
            ∧ s'.passed.count .thread_proc ≤ s.passed.count .thread_proc + 1)
      ∧ ((∀ f, s.child ≠ .done f) →
        (∀ negative, (childStep procs s negative).isSome = true)
          ∨ toRelease s.owner ≤ 2
            ∧ (∃ s', ownerStep s = some s'
              ∧ toRelease s'.owner < toRelease s.owner)
            ∧ ∀ a s', a ≠ .owner → step procs s a = some s' →
              s'.owner = s.owner)
      ∧ (toRelease s.owner = 0 → s.thread_mutex ≠ some .owner) := by
  have hlife : Ordered s ∧ Ended s := by
    refine reachUnder_inv (I := fun s => Ordered s ∧ Ended s)
      (fun s hs => ?_) (fun s a s' hs _ hstep => life_step hs hstep) h
    rw [show s = launched from hs]
    exact ⟨rfl, fun r hr => by rcases hr with hr | hr <;> cases hr⟩
  have hshared := shared_reach h
  refine ⟨hlife.1, hlife.2, fun hexit l s' hl => ?_, fun hdone => ?_, ?_⟩
  · obtain ⟨hsteps, htasks⟩ := exec_exit l hexit hl
    have hend : toEnd s.child ≤ 12 := by
      cases s.child <;> simp [toEnd]
    have hleft : tasksLeft s.child ≤ 1 := by
      cases s.child <;> simp [tasksLeft]
    omega
  · by_cases hheld : s.owner.holds = true
    · exact Or.inr ⟨by cases s.owner <;> simp [toRelease],
        owner_releases procs hheld⟩
    · left
      intro negative
      cases hc : s.child with
      | ready f =>
          have hmutex := hshared.mutex
          rw [if_neg hheld, hc] at hmutex
          have hfree : s.thread_mutex = none := hmutex
          simp [childStep, hc, lock, hfree]
      | done f => exact absurd hc (hdone f)
      | _ => simp [childStep, hc]
  · intro hzero
    have hheld : ¬ s.owner.holds = true := by
      cases hown : s.owner <;> simp [hown, toRelease, Owner.holds] at hzero ⊢
    rw [hshared.mutex, if_neg hheld]
    split <;> simp

/-- A thread that is launched, calls its task twice, is told to exit and is
    joined. -/
def wholeLife : List Step :=
  [.owner, .owner, .child false, .child false, .child false, .child false,
    .child false, .owner, .owner, .owner, .child false, .child false,
    .child false, .child false, .unblock, .child false, .child false,
    .owner, .owner]

theorem thelper_lifecycle_run :
    ∃ s, exec (thelper fun _ => true) launched wholeLife = some s
      ∧ s.owner = .destroyed false ∧ Ordered s := by
  refine ⟨_, rfl, rfl, ?_⟩
  exact (thelper_lifecycle (fun _ => true)
    (reach_exec wholeLife (.init rfl) rfl)).1

end QcomThelper
