import QcomCommon.TransitionProofs

/-! # The thread object and its two owners

    `LocThread.cpp`: the client and the spawned thread share a
    `LocThreadDelegate` with a reference count of two; `mRunnable` is at once
    the running flag, the stop request and the sign that the creation
    succeeded.  A step is one read or write of the shared fields, or the
    locked section of `destroy()`.

    The delegate is deleted exactly once whatever the schedule.  The runnable
    is where the header says it is if and only if the spawned thread has read
    `mRunnable` before `stop()` writes it, and the creator has checked it
    before the spawned thread writes it. -/

namespace QcomThread

open QcomTransition

/-- Where `LocThreadDelegate::destroy` is: its test of the count, the locked
    decrement, `delete this`. -/
inductive DestroyPc | test | dec | del
deriving DecidableEq, Repr

/-- Where the client is. -/
inductive ClientPc
  | idle
  | created
  | createDestroy (d : DestroyPc)
  | running
  | stopTest
  | stopNull
  | joinTest
  | join
  | destroy (d : DestroyPc)
  | done
deriving DecidableEq, Repr

/-- Where the spawned thread is in `threadMain`. -/
inductive ThreadPc
  | absent
  | fresh
  | prerun
  | loop
  | run
  | postrun
  | null
  | delete
  | destroy (d : DestroyPc)
  | exited
deriving DecidableEq, Repr

/-- A `LocThread` with the delegate it makes.  `started` is what `start`
    returned, the last two fields count deletions. -/
structure LocThread where
  made : Bool
  mRunnable : Bool
  mJoinable : Bool
  mRefCount : Nat
  client : ClientPc
  thread : ThreadPc
  started : Option Bool
  delegateDeleted : Nat
  runnableDeleted : Nat
deriving DecidableEq, Repr

/-- A `LocThread` as it is made. -/
def newLocThread : LocThread :=
  ⟨false, false, false, 0, .idle, .absent, none, 0, 0⟩

/-- One step of `destroy()`: where it goes on, `none` as it returns. -/
def destroyStep (s : LocThread) : DestroyPc → LocThread × Option DestroyPc
  | .test => (s, if 0 < s.mRefCount then some .dec else none)
  | .dec =>
      ({ s with mRefCount := s.mRefCount - 1 },
        if s.mRefCount = 1 then some .del else none)
  | .del => ({ s with delegateDeleted := s.delegateDeleted + 1 }, none)

/-- The inputs of `start`: a runnable is given, memory for the delegate and
    the thread are found. -/
structure StartArgs where
  runnable : Bool
  joinable : Bool
  memory : Bool
  created : Bool
deriving DecidableEq, Repr

/-- `LocThread::start` up to the constructor of the delegate. -/
def start (s : LocThread) (p : StartArgs) : LocThread :=
  if p.runnable && p.memory then
    if p.created then
      { s with
        made := true, mRunnable := true, mJoinable := p.joinable,
        mRefCount := 2, client := .created, thread := .fresh }
    else
      -- the values that must be set upon failure
      { s with
        made := true, mRunnable := false, mJoinable := false,
        mRefCount := 1, client := .created }
  else { s with started := some false, client := .done }

/-- A step of the client inside `create`, `stop` or `bye`. -/
def clientStep (s : LocThread) : Option LocThread :=
  match s.client with
  | .createDestroy d =>
      let (s', d') := destroyStep s d
      match d' with
      | some d => some { s' with client := .createDestroy d }
      | none => some { s' with started := some false, client := .done }
  | .stopTest =>
      some { s with client := if s.mRunnable then .stopNull else .joinTest }
  | .stopNull => some { s with mRunnable := false, client := .joinTest }
  | .joinTest =>
      if s.mJoinable then some { s with mJoinable := false, client := .join }
      else some { s with client := .destroy .test }
  | .join =>
      if s.thread = .exited then some { s with client := .destroy .test }
      else none
  | .destroy d =>
      let (s', d') := destroyStep s d
      match d' with
      | some d => some { s' with client := .destroy d }
      | none => some { s' with client := .done }
  | _ => none

/-- A step of `threadMain`; `ran` is what `run()` returns where it is
    called. -/
def threadStep (s : LocThread) (ran : Bool) : Option LocThread :=
  match s.thread with
  | .fresh =>
      some { s with
        thread := if s.mRunnable then .prerun else .destroy .test }
  | .prerun => some { s with thread := .loop }
  | .loop => some { s with thread := if s.mRunnable then .run else .postrun }
  | .run => some { s with thread := if ran then .loop else .postrun }
  | .postrun => some { s with thread := .null }
  | .null => some { s with mRunnable := false, thread := .delete }
  | .delete =>
      some { s with
        runnableDeleted := s.runnableDeleted + 1, thread := .destroy .test }
  | .destroy d =>
      let (s', d') := destroyStep s d
      match d' with
      | some d => some { s' with thread := .destroy d }
      | none => some { s' with thread := .exited }
  | _ => none

/-- `check` is the `isRunning()` of `create`, `bye` the destructor of
    `LocThread`. -/
inductive ThreadMove
  | start (p : StartArgs)
  | check
  | stop
  | bye
  | client
  | thread (ran : Bool)
deriving DecidableEq, Repr

/-- A step of the client or of the thread. -/
def locThreadStep (s : LocThread) : ThreadMove → Option LocThread
  | .start p => if s.client = .idle then some (start s p) else none
  | .check =>
      if s.client = .created then
        if s.mRunnable then
          some { s with started := some true, client := .running }
        else some { s with client := .createDestroy .test }
      else none
  | .stop =>
      if s.client = .running then some { s with client := .stopTest }
      else none
  | .bye =>
      if s.client = .running then
        some { s with
          client := if s.mJoinable then .stopTest else .destroy .test }
      else none
  | .client => clientStep s
  | .thread ran => threadStep s ran

/-- Both, from the start on. -/
def locThread : TransSys LocThread ThreadMove where
  init s := s = newLocThread
  step := locThreadStep

/-- The spawned thread, where there is one, and the client have finished. -/
def Finished (s : LocThread) : Prop :=
  s.client = .done ∧ (s.thread = .absent ∨ s.thread = .exited)

/-! ## The references to the delegate -/

/-- Inside `destroy()`: the reference is still to be given back; `none` where
    it has returned. -/
def owes : Option DestroyPc → Nat
  | some .test | some .dec => 1
  | some .del | none => 0

/-- At `delete this`. -/
def deletes : Option DestroyPc → Nat
  | some .del => 1
  | _ => 0

/-- How many deletes the client still has to make. -/
def ClientPc.owes : ClientPc → Nat
  | .idle | .done => 0
  | .createDestroy d | .destroy d => QcomThread.owes (some d)
  | _ => 1

/-- How many the thread has. -/
def ThreadPc.owes : ThreadPc → Nat
  | .absent | .exited => 0
  | .destroy d => QcomThread.owes (some d)
  | _ => 1

/-- How many the client is about to make. -/
def ClientPc.deletes : ClientPc → Nat
  | .createDestroy d | .destroy d => QcomThread.deletes (some d)
  | _ => 0

/-- How many the thread is. -/
def ThreadPc.deletes : ThreadPc → Nat
  | .destroy d => QcomThread.deletes (some d)
  | _ => 0

/-- The count is the number of sides that have not given their reference
    back, and the side that takes it to zero deletes the delegate. -/
structure RefLaw (s : LocThread) : Prop where
  count : s.mRefCount = s.client.owes + s.thread.owes
  deleted : s.delegateDeleted + s.client.deletes + s.thread.deletes
    = if s.made = true ∧ s.mRefCount = 0 then 1 else 0
  unmade : s.made = false → s.thread = .absent ∧
    (s.client = .idle ∨ s.client = .done)
  idle : s.client = .idle → s.made = false

theorem refLaw_init : RefLaw newLocThread where
  count := rfl
  deleted := rfl
  unmade := fun _ => ⟨rfl, Or.inl rfl⟩
  idle := fun _ => rfl

/-- A client that is busy has its delegate made. -/
theorem RefLaw.made_of_client {s : LocThread} (hl : RefLaw s)
    (hidle : s.client ≠ .idle) (hdone : s.client ≠ .done) :
    s.made = true := by
  by_contra hno
  rcases (hl.unmade (Bool.not_eq_true _ ▸ hno)).2 with h | h
  · exact hidle h
  · exact hdone h

/-- So has a thread that there is. -/
theorem RefLaw.made_of_thread {s : LocThread} (hl : RefLaw s)
    (hthread : s.thread ≠ .absent) : s.made = true := by
  by_contra hno
  exact hthread (hl.unmade (Bool.not_eq_true _ ▸ hno)).1

/-- A step that neither gives a reference back nor deletes the delegate. -/
theorem RefLaw.keep {s s' : LocThread} (hl : RefLaw s)
    (hmade : s.made = true) (hmade' : s'.made = s.made)
    (hcount : s'.mRefCount = s.mRefCount)
    (hdeleted : s'.delegateDeleted = s.delegateDeleted)
    (hclient : s'.client.owes = s.client.owes ∧
      s'.client.deletes = s.client.deletes)
    (hthread : s'.thread.owes = s.thread.owes ∧
      s'.thread.deletes = s.thread.deletes)
    (hidle : s'.client ≠ .idle) : RefLaw s' where
  count := by rw [hcount, hclient.1, hthread.1, hl.count]
  deleted := by
    rw [hdeleted, hclient.2, hthread.2, hmade', hcount, hl.deleted]
  unmade := by
    intro hno
    rw [hmade', hmade] at hno
    cases hno
  idle := fun h => absurd h hidle

/-- **`destroy()`**: the count stays the number of references that are held,
    and the side that takes it to zero goes on to delete the delegate. -/
theorem destroyStep_ref {s s' : LocThread} {d : DestroyPc}
    {d' : Option DestroyPc} {other otherDel : Nat}
    (h : destroyStep s d = (s', d'))
    (hcount : s.mRefCount = owes (some d) + other)
    (hdel : s.delegateDeleted + deletes (some d) + otherDel
      = if s.mRefCount = 0 then 1 else 0) :
    s'.mRefCount = owes d' + other ∧
    s'.delegateDeleted + deletes d' + otherDel
      = if s'.mRefCount = 0 then 1 else 0 := by
  cases d with
  | test =>
      have hpos : 0 < s.mRefCount := by
        rw [hcount]
        exact Nat.add_pos_left Nat.one_pos other
      simp only [destroyStep, hpos, if_true, Prod.mk.injEq] at h
      obtain ⟨rfl, rfl⟩ := h
      exact ⟨hcount, hdel⟩
  | dec =>
      have hone : s.mRefCount = 1 + other := hcount
      simp only [destroyStep, Prod.mk.injEq] at h
      obtain ⟨rfl, rfl⟩ := h
      rw [if_neg (by omega)] at hdel
      by_cases hlast : s.mRefCount = 1
      · rw [if_pos hlast]
        refine ⟨?_, ?_⟩
        · show s.mRefCount - 1 = 0 + other
          omega
        · rw [if_pos (by show s.mRefCount - 1 = 0; omega)]
          show s.delegateDeleted + 1 + otherDel = 1
          have hdel : s.delegateDeleted + 0 + otherDel = 0 := hdel
          omega
      · rw [if_neg hlast]
        refine ⟨?_, ?_⟩
        · show s.mRefCount - 1 = 0 + other
          omega
        · rw [if_neg (by show s.mRefCount - 1 ≠ 0; omega)]
          exact hdel
  | del =>
      simp only [destroyStep, Prod.mk.injEq] at h
      obtain ⟨rfl, rfl⟩ := h
      exact ⟨hcount, hdel⟩

/-- `destroy()` touches the count and the delegate's life only. -/
theorem destroyStep_frame {s s' : LocThread} {d : DestroyPc}
    {d' : Option DestroyPc} (h : destroyStep s d = (s', d')) :
    s' = { s with
      mRefCount := s'.mRefCount, delegateDeleted := s'.delegateDeleted } := by
  cases d <;> cases h <;> rfl

/-- The delegate is made, so its life is what the count says. -/
theorem RefLaw.deleted_made {s : LocThread} (hl : RefLaw s)
    (hmade : s.made = true) :
    s.delegateDeleted + s.client.deletes + s.thread.deletes
      = if s.mRefCount = 0 then 1 else 0 := by
  have h := hl.deleted
  simpa [hmade] using h

/-- A step of the client in its `destroy()`, at `pc d` and then `pc'`. -/
theorem refLaw_clientDestroy {s s' : LocThread} {d : DestroyPc}
    {d' : Option DestroyPc} {pc' : ClientPc} {st : Option Bool}
    (hl : RefLaw s) (hidle : s.client ≠ .idle) (hdone : s.client ≠ .done)
    (howes : s.client.owes = owes (some d))
    (hdeletes : s.client.deletes = deletes (some d))
    (h : destroyStep s d = (s', d')) (hidle' : pc' ≠ .idle)
    (howes' : pc'.owes = owes d') (hdeletes' : pc'.deletes = deletes d') :
    RefLaw { s' with client := pc', started := st } := by
  have hmade := hl.made_of_client hidle hdone
  have hframe := destroyStep_frame h
  have hcount := hl.count
  have hdeleted := hl.deleted_made hmade
  rw [howes] at hcount
  rw [hdeletes] at hdeleted
  obtain ⟨hcount', hdeleted'⟩ := destroyStep_ref h hcount hdeleted
  have hmade' : s'.made = true := by
    rw [hframe]
    exact hmade
  have hthread : s'.thread = s.thread := by rw [hframe]
  refine ⟨?_, ?_, ?_, fun h => absurd h hidle'⟩
  · show s'.mRefCount = pc'.owes + s'.thread.owes
    rw [howes', hthread]
    exact hcount'
  · show s'.delegateDeleted + pc'.deletes + s'.thread.deletes = _
    rw [hdeletes', hthread, hdeleted']
    simp [hmade']
  · intro hno
    rw [show s'.made = false from hno] at hmade'
    cases hmade'

/-- A step of the spawned thread in its `destroy()`. -/
theorem refLaw_threadDestroy {s s' : LocThread} {d : DestroyPc}
    {d' : Option DestroyPc} {pc' : ThreadPc} (hl : RefLaw s)
    (hpc : s.thread = .destroy d) (h : destroyStep s d = (s', d'))
    (howes' : pc'.owes = owes d') (hdeletes' : pc'.deletes = deletes d') :
    RefLaw { s' with thread := pc' } := by
  have hmade := hl.made_of_thread (by rw [hpc]; exact fun h => by cases h)
  have hframe := destroyStep_frame h
  have hcount := hl.count
  have hdeleted := hl.deleted_made hmade
  rw [hpc, Nat.add_comm] at hcount
  rw [hpc, Nat.add_right_comm] at hdeleted
  obtain ⟨hcount', hdeleted'⟩ := destroyStep_ref h hcount hdeleted
  have hmade' : s'.made = true := by
    rw [hframe]
    exact hmade
  have hclient : s'.client = s.client := by rw [hframe]
  refine ⟨?_, ?_, ?_, ?_⟩
  · show s'.mRefCount = s'.client.owes + pc'.owes
    rw [howes', hclient, Nat.add_comm]
    exact hcount'
  · show s'.delegateDeleted + s'.client.deletes + pc'.deletes = _
    rw [hdeletes', hclient, Nat.add_right_comm, hdeleted']
    simp [hmade']
  · intro hno
    rw [show s'.made = false from hno] at hmade'
    cases hmade'
  · intro hidle
    have hno := hl.idle (hclient ▸ hidle)
    rw [hmade] at hno
    cases hno

/-- A start keeps the count of the references. -/
theorem refLaw_start {s : LocThread} (p : StartArgs) (hl : RefLaw s)
    (hidle : s.client = .idle) : RefLaw (start s p) := by
  have hunmade := hl.idle hidle
  obtain ⟨hthread, -⟩ := hl.unmade hunmade
  have hcount := hl.count
  have hdeleted := hl.deleted
  rw [hidle, hthread] at hcount hdeleted
  rw [hunmade, if_neg (by rintro ⟨h, -⟩; cases h)] at hdeleted
  have hzero : s.delegateDeleted = 0 := hdeleted
  unfold start
  split
  · split
    · refine ⟨rfl, ?_, fun h => by (cases h), fun h => by (cases h)⟩
      show s.delegateDeleted + 0 + 0 = 0
      rw [hzero]
    · refine ⟨?_, ?_, fun h => by (cases h), fun h => by (cases h)⟩
      · show 1 = 1 + s.thread.owes
        rw [hthread]
        rfl
      · show s.delegateDeleted + 0 + s.thread.deletes = 0
        rw [hthread, hzero]
        rfl
  · refine ⟨?_, ?_, fun _ => ⟨hthread, Or.inr rfl⟩, fun _ => hunmade⟩
    · show s.mRefCount = 0 + s.thread.owes
      rw [hthread]
      exact hcount
    · show s.delegateDeleted + 0 + s.thread.deletes
        = if s.made = true ∧ s.mRefCount = 0 then 1 else 0
      rw [hthread, hunmade, hzero]
      rfl

/-- A step of the client that is not in `destroy()` and stays out of its
    sections. -/
theorem RefLaw.keep_client {s : LocThread} (hl : RefLaw s) {pc₀ pc : ClientPc}
    {run join : Bool} {st : Option Bool} (hpc : s.client = pc₀)
    (howes : pc₀.owes = 1) (hdeletes : pc₀.deletes = 0)
    (howes' : pc.owes = 1) (hdeletes' : pc.deletes = 0) :
    RefLaw { s with
      mRunnable := run, mJoinable := join, client := pc, started := st } := by
  have hne : ∀ {p : ClientPc}, p.owes = 1 → p ≠ .idle ∧ p ≠ .done := by
    rintro p hp
    constructor <;> rintro rfl <;> cases hp
  have hmade := hl.made_of_client (hpc ▸ (hne howes).1) (hpc ▸ (hne howes).2)
  refine hl.keep hmade rfl rfl rfl ⟨?_, ?_⟩ ⟨rfl, rfl⟩ (hne howes').1
  · rw [hpc, howes]
    exact howes'
  · rw [hpc, hdeletes]
    exact hdeletes'

/-- The same for the spawned thread. -/
theorem RefLaw.keep_thread {s : LocThread} (hl : RefLaw s) {pc₀ pc : ThreadPc}
    {run : Bool} {n : Nat} (hpc : s.thread = pc₀)
    (howes : pc₀.owes = 1) (hdeletes : pc₀.deletes = 0)
    (howes' : pc.owes = 1) (hdeletes' : pc.deletes = 0) :
    RefLaw { s with mRunnable := run, thread := pc, runnableDeleted := n } := by
  have hmade := hl.made_of_thread (by
    intro habsent
    rw [← hpc, habsent] at howes
    cases howes)
  refine hl.keep hmade rfl rfl rfl ⟨rfl, rfl⟩ ⟨?_, ?_⟩ ?_
  · rw [hpc, howes]
    exact howes'
  · rw [hpc, hdeletes]
    exact hdeletes'
  · intro hidle
    rw [hl.idle hidle] at hmade
    cases hmade

/-- A step of the client keeps the count of the references. -/
theorem refLaw_clientStep {s s' : LocThread} (hl : RefLaw s)
    (h : clientStep s = some s') : RefLaw s' := by
  unfold clientStep at h
  split at h
  · rename_i d hpc
    obtain ⟨s₁, d', hd⟩ : ∃ s₁ d', destroyStep s d = (s₁, d') := ⟨_, _, rfl⟩
    simp only [hd] at h
    cases d' <;> cases h <;>
      exact refLaw_clientDestroy hl (by simp [hpc]) (by simp [hpc])
        (by rw [hpc]; rfl) (by rw [hpc]; rfl) hd (fun h => by cases h) rfl rfl
  · rename_i hpc
    cases h
    cases s.mRunnable <;>
      exact hl.keep_client hpc rfl rfl rfl rfl
  · rename_i hpc
    cases h
    exact hl.keep_client hpc rfl rfl rfl rfl
  · rename_i hpc
    split at h <;> cases h <;>
      exact hl.keep_client hpc rfl rfl rfl rfl
  · rename_i hpc
    split at h <;> cases h
    exact hl.keep_client hpc rfl rfl rfl rfl
  · rename_i d hpc
    obtain ⟨s₁, d', hd⟩ : ∃ s₁ d', destroyStep s d = (s₁, d') := ⟨_, _, rfl⟩
    simp only [hd] at h
    cases d' <;> cases h <;>
      exact refLaw_clientDestroy hl (by simp [hpc]) (by simp [hpc])
        (by rw [hpc]; rfl) (by rw [hpc]; rfl) hd (fun h => by cases h) rfl rfl
  · cases h

/-- A step of the thread keeps it. -/
theorem refLaw_threadStep {s s' : LocThread} {ran : Bool} (hl : RefLaw s)
    (h : threadStep s ran = some s') : RefLaw s' := by
  unfold threadStep at h
  split at h
  · rename_i hpc
    cases h
    cases s.mRunnable <;>
      exact hl.keep_thread hpc rfl rfl rfl rfl
  · rename_i hpc
    cases h
    exact hl.keep_thread hpc rfl rfl rfl rfl
  · rename_i hpc
    cases h
    cases s.mRunnable <;>
      exact hl.keep_thread hpc rfl rfl rfl rfl
  · rename_i hpc
    cases h
    cases ran <;>
      exact hl.keep_thread hpc rfl rfl rfl rfl
  · rename_i hpc
    cases h
    exact hl.keep_thread hpc rfl rfl rfl rfl
  · rename_i hpc
    cases h
    exact hl.keep_thread hpc rfl rfl rfl rfl
  · rename_i hpc
    cases h
    exact hl.keep_thread hpc rfl rfl rfl rfl
  · rename_i d hpc
    obtain ⟨s₁, d', hd⟩ : ∃ s₁ d', destroyStep s d = (s₁, d') := ⟨_, _, rfl⟩
    simp only [hd] at h
    cases d' <;> cases h <;> exact refLaw_threadDestroy hl hpc hd rfl rfl
  · cases h

/-- **STEP LEMMA**: every step keeps the references. -/
theorem refLaw_step {s s' : LocThread} {a : ThreadMove} (hl : RefLaw s)
    (h : locThreadStep s a = some s') : RefLaw s' := by
  cases a with
  | start p =>
      simp only [locThreadStep] at h
      split at h <;> cases h
      rename_i hidle
      exact refLaw_start p hl hidle
  | check =>
      simp only [locThreadStep] at h
      split at h
      · rename_i hpc
        split at h <;> cases h <;>
          exact hl.keep_client hpc rfl rfl rfl rfl
      · cases h
  | stop =>
      simp only [locThreadStep] at h
      split at h <;> cases h
      rename_i hpc
      exact hl.keep_client hpc rfl rfl rfl rfl
  | bye =>
      simp only [locThreadStep] at h
      split at h <;> cases h
      rename_i hpc
      cases s.mJoinable <;>
        exact hl.keep_client hpc rfl rfl rfl rfl
  | client => exact refLaw_clientStep hl h
  | thread ran => exact refLaw_threadStep hl h

/-- The delegate is deleted at most once, and when both sides have finished
    exactly once. -/
theorem RefLaw.delegate {s : LocThread} (hl : RefLaw s) :
    s.delegateDeleted ≤ 1 ∧
    (Finished s → s.delegateDeleted = if s.made then 1 else 0) := by
  constructor
  · have h := hl.deleted
    split at h <;> omega
  · rintro ⟨hclient, hthread⟩
    have h := hl.deleted
    have hcount := hl.count
    have howes : s.thread.owes = 0 ∧ s.thread.deletes = 0 := by
      rcases hthread with h | h <;> rw [h] <;> exact ⟨rfl, rfl⟩
    rw [hclient, howes.1] at hcount
    rw [hclient, howes.2] at h
    simpa [ClientPc.deletes, show s.mRefCount = 0 from hcount] using h

/-! ## What a step can do -/

/-- The thread has the runnable and has not deleted it. -/
def ThreadPc.busy : ThreadPc → Prop
  | .prerun | .loop | .run | .postrun | .null | .delete => True
  | _ => False

/-- The thread has only its reference left to give back. -/
def ThreadPc.ended : ThreadPc → Prop
  | .destroy _ | .exited => True
  | _ => False

/-- `create` has found the thread not running. -/
def ClientPc.failing : ClientPc → Prop
  | .createDestroy _ => True
  | _ => False

/-- `start` has returned true, and the client has the object. -/
def ClientPc.live : ClientPc → Prop
  | .running | .stopTest | .stopNull | .joinTest | .join | .destroy _ => True
  | _ => False

/-- The steps of the spawned thread, as far as the runnable goes. -/
inductive ThreadGo (s s' : LocThread) : Prop
  | reads (hpc : s.thread = .fresh) (hread : s.mRunnable = true)
      (hpc' : s'.thread.busy) (hflag : s'.mRunnable = s.mRunnable)
      (hdel : s'.runnableDeleted = s.runnableDeleted)
  | misses (hpc : s.thread = .fresh) (hread : s.mRunnable = false)
      (hpc' : s'.thread.ended) (hflag : s'.mRunnable = s.mRunnable)
      (hdel : s'.runnableDeleted = s.runnableDeleted)
  | works (hpc : s.thread.busy) (hpc' : s'.thread.busy)
      (hflag : s'.mRunnable = true → s.mRunnable = true)
      (hdel : s'.runnableDeleted = s.runnableDeleted)
  | deletes (hpc : s.thread.busy) (hpc' : s'.thread.ended)
      (hflag : s'.mRunnable = s.mRunnable)
      (hdel : s'.runnableDeleted = s.runnableDeleted + 1)
  | ends (hpc : s.thread.ended) (hpc' : s'.thread.ended)
      (hflag : s'.mRunnable = s.mRunnable)
      (hdel : s'.runnableDeleted = s.runnableDeleted)

/-- What a step of the thread can do. -/
theorem threadStep_go {s s' : LocThread} {ran : Bool}
    (h : threadStep s ran = some s') :
    s'.client = s.client ∧ s'.started = s.started ∧ ThreadGo s s' := by
  unfold threadStep at h
  split at h
  · rename_i hpc
    cases h
    cases hread : s.mRunnable with
    | true => exact ⟨rfl, rfl, .reads hpc hread (by simp [ThreadPc.busy])
        hread.symm rfl⟩
    | false => exact ⟨rfl, rfl, .misses hpc hread (by simp [ThreadPc.ended])
        hread.symm rfl⟩
  · rename_i hpc
    cases h
    exact ⟨rfl, rfl, .works (by rw [hpc]; trivial) trivial id rfl⟩
  · rename_i hpc
    cases h
    refine ⟨rfl, rfl, .works (by rw [hpc]; trivial) ?_ id rfl⟩
    show (if s.mRunnable = true then ThreadPc.run else .postrun).busy
    split <;> trivial
  · rename_i hpc
    cases h
    refine ⟨rfl, rfl, .works (by rw [hpc]; trivial) ?_ id rfl⟩
    show (if ran = true then ThreadPc.loop else .postrun).busy
    split <;> trivial
  · rename_i hpc
    cases h
    exact ⟨rfl, rfl, .works (by rw [hpc]; trivial) trivial id rfl⟩
  · rename_i hpc
    cases h
    exact ⟨rfl, rfl, .works (by rw [hpc]; trivial) trivial
      (fun h => by cases h) rfl⟩
  · rename_i hpc
    cases h
    exact ⟨rfl, rfl, .deletes (by rw [hpc]; trivial) trivial rfl rfl⟩
  · rename_i d hpc
    obtain ⟨s₁, d', hd⟩ : ∃ s₁ d', destroyStep s d = (s₁, d') := ⟨_, _, rfl⟩
    have hframe := destroyStep_frame hd
    simp only [hd] at h
    have hended : s.thread.ended := by rw [hpc]; trivial
    cases d' <;> cases h <;> rw [hframe] <;>
      exact ⟨rfl, rfl, .ends hended trivial rfl rfl⟩
  · cases h

/-- The steps of the client after the constructor of the delegate. -/
inductive ClientGo (s : LocThread) (a : ThreadMove) (s' : LocThread) : Prop
  | checks (hpc : s.client = .created) (hread : s.mRunnable = true)
      (hpc' : s'.client.live) (hstarted : s'.started = some true)
      (hflag : s'.mRunnable = s.mRunnable)
  | fails (ha : a = .check) (hpc : s.client = .created)
      (hread : s.mRunnable = false) (hpc' : s'.client.failing)
      (hstarted : s'.started = s.started) (hflag : s'.mRunnable = s.mRunnable)
  | releases (hpc : s.client.failing)
      (hpc' : s'.client.failing ∧ s'.started = s.started ∨
        s'.client = .done ∧ s'.started = some false)
      (hflag : s'.mRunnable = s.mRunnable)
  | nulls (ha : a = .client) (hpc : s.client = .stopNull)
      (hpc' : s'.client.live) (hstarted : s'.started = s.started)
      (hflag : s'.mRunnable = false)
  | goes (hpc : s.client.live) (hpc' : s'.client.live ∨ s'.client = .done)
      (hstarted : s'.started = s.started) (hflag : s'.mRunnable = s.mRunnable)

/-- What a step of the client can do. -/
theorem clientStep_go {s s' : LocThread} (h : clientStep s = some s') :
    s'.thread = s.thread ∧ s'.runnableDeleted = s.runnableDeleted ∧
      ClientGo s .client s' := by
  unfold clientStep at h
  split at h
  · rename_i d hpc
    obtain ⟨s₁, d', hd⟩ : ∃ s₁ d', destroyStep s d = (s₁, d') := ⟨_, _, rfl⟩
    have hframe := destroyStep_frame hd
    simp only [hd] at h
    have hfailing : s.client.failing := by rw [hpc]; trivial
    cases d' <;> cases h <;> rw [hframe]
    · exact ⟨rfl, rfl, .releases hfailing (Or.inr ⟨rfl, rfl⟩) rfl⟩
    · exact ⟨rfl, rfl, .releases hfailing (Or.inl ⟨trivial, rfl⟩) rfl⟩
  · rename_i hpc
    cases h
    refine ⟨rfl, rfl, .goes (by rw [hpc]; trivial) (Or.inl ?_) rfl rfl⟩
    show (if s.mRunnable = true then ClientPc.stopNull else .joinTest).live
    split <;> trivial
  · rename_i hpc
    cases h
    exact ⟨rfl, rfl, .nulls rfl hpc trivial rfl rfl⟩
  · rename_i hpc
    have hlive : s.client.live := by rw [hpc]; trivial
    split at h <;> cases h <;>
      exact ⟨rfl, rfl, .goes hlive (Or.inl trivial) rfl rfl⟩
  · rename_i hpc
    split at h <;> cases h
    exact ⟨rfl, rfl, .goes (by rw [hpc]; trivial) (Or.inl trivial) rfl rfl⟩
  · rename_i d hpc
    obtain ⟨s₁, d', hd⟩ : ∃ s₁ d', destroyStep s d = (s₁, d') := ⟨_, _, rfl⟩
    have hframe := destroyStep_frame hd
    simp only [hd] at h
    have hlive : s.client.live := by rw [hpc]; trivial
    cases d' <;> cases h <;> rw [hframe]
    · exact ⟨rfl, rfl, .goes hlive (Or.inr rfl) rfl rfl⟩
    · exact ⟨rfl, rfl, .goes hlive (Or.inl trivial) rfl rfl⟩
  · cases h

/-- **WHAT A STEP CAN DO**: the start, a step of the client that leaves the
    thread's part as it is, or one of the thread that leaves the client's. -/
theorem step_go {s s' : LocThread} {a : ThreadMove}
    (h : locThreadStep s a = some s') :
    (∃ p, a = .start p ∧ s.client = .idle ∧ s' = start s p) ∨
    (s'.thread = s.thread ∧ s'.runnableDeleted = s.runnableDeleted ∧
      ClientGo s a s') ∨
    (s'.client = s.client ∧ s'.started = s.started ∧ ThreadGo s s' ∧
      ∃ ran, a = .thread ran) := by
  cases a with
  | start p =>
      simp only [locThreadStep] at h
      split at h
      · rename_i hidle
        cases h
        exact Or.inl ⟨p, rfl, hidle, rfl⟩
      · cases h
  | check =>
      simp only [locThreadStep] at h
      split at h
      · rename_i hpc
        cases hread : s.mRunnable with
        | true =>
            rw [hread] at h
            cases h
            exact Or.inr (Or.inl ⟨rfl, rfl, .checks hpc hread trivial rfl
              hread.symm⟩)
        | false =>
            rw [hread] at h
            cases h
            exact Or.inr (Or.inl ⟨rfl, rfl, .fails rfl hpc hread trivial rfl
              hread.symm⟩)
      · cases h
  | stop =>
      simp only [locThreadStep] at h
      split at h <;> cases h
      rename_i hpc
      exact Or.inr (Or.inl ⟨rfl, rfl, .goes (by rw [hpc]; trivial)
        (Or.inl trivial) rfl rfl⟩)
  | bye =>
      simp only [locThreadStep] at h
      split at h <;> cases h
      rename_i hpc
      refine Or.inr (Or.inl ⟨rfl, rfl, .goes (by rw [hpc]; trivial)
        (Or.inl ?_) rfl rfl⟩)
      show (if s.mJoinable = true then ClientPc.stopTest
        else .destroy .test).live
      split <;> trivial
  | client => exact Or.inr (Or.inl (clientStep_go h))
  | thread ran =>
      obtain ⟨hclient, hstarted, hgo⟩ := threadStep_go h
      exact Or.inr (Or.inr ⟨hclient, hstarted, hgo, ran, rfl⟩)

/-! ## The runnable -/

/-- What holds of the runnable and the result of `start` on every schedule. -/
structure RunLaw (s : LocThread) : Prop where
  once : s.runnableDeleted = 0 ∨ s.runnableDeleted = 1 ∧ s.thread.ended
  flag : s.mRunnable = true → s.thread ≠ .absent
  live : s.client.live → s.started = some true
  told : s.started = some true → s.thread ≠ .absent
  early : s.client = .idle ∨ s.client = .created ∨ s.client.failing →
    s.started = none
  refused : s.started = some false → s.client = .done
  idle : s.client = .idle → s.thread = .absent

theorem runLaw_init : RunLaw newLocThread where
  once := Or.inl rfl
  flag := fun h => by cases h
  live := fun h => h.elim
  told := fun h => by cases h
  early := fun _ => rfl
  refused := fun h => by cases h
  idle := fun _ => rfl

/-- A start keeps what is known of the runnable. -/
theorem runLaw_start {s : LocThread} (p : StartArgs) (hl : RunLaw s)
    (hidle : s.client = .idle) : RunLaw (start s p) := by
  have hthread := hl.idle hidle
  have hstarted := hl.early (Or.inl hidle)
  have hzero : s.runnableDeleted = 0 := by
    rcases hl.once with h | ⟨-, h⟩
    · exact h
    · rw [hthread] at h
      exact h.elim
  unfold start
  split
  · split
    · exact ⟨Or.inl hzero, fun _ h => by (cases h), fun h => h.elim,
        fun _ h => by (cases h), fun _ => hstarted,
        fun h => by (cases hstarted.symm.trans h), fun h => by (cases h)⟩
    · exact ⟨Or.inl hzero, fun h => by (cases h), fun h => h.elim,
        fun h => by (cases hstarted.symm.trans h), fun _ => hstarted,
        fun h => by (cases hstarted.symm.trans h), fun h => by (cases h)⟩
  · refine ⟨Or.inl hzero, hl.flag, fun h => h.elim, fun h => by (cases h),
      ?_, fun _ => rfl, fun h => by (cases h)⟩
    rintro (h | h | h) <;> cases h

/-- A thread that is busy is there, and has not ended. -/
theorem busy_present {p : ThreadPc} (h : p.busy) :
    p ≠ .absent ∧ p ≠ .fresh ∧ ¬ p.ended := by
  refine ⟨?_, ?_, ?_⟩
  · rintro rfl
    exact h
  · rintro rfl
    exact h
  · intro hended
    cases p <;> first | exact h | exact hended

theorem ended_present {p : ThreadPc} (h : p.ended) :
    p ≠ .absent ∧ p ≠ .fresh := by
  constructor
  · rintro rfl
    exact h
  · rintro rfl
    exact h

theorem ThreadGo.present {s s' : LocThread} (h : ThreadGo s s') :
    s'.thread ≠ .absent ∧ s.thread ≠ .absent := by
  cases h with
  | reads hpc _ hpc' _ _ => exact ⟨(busy_present hpc').1, by simp [hpc]⟩
  | misses hpc _ hpc' _ _ => exact ⟨(ended_present hpc').1, by simp [hpc]⟩
  | works hpc hpc' _ _ => exact ⟨(busy_present hpc').1, (busy_present hpc).1⟩
  | deletes hpc hpc' _ _ => exact ⟨(ended_present hpc').1, (busy_present hpc).1⟩
  | ends hpc hpc' _ _ => exact ⟨(ended_present hpc').1, (ended_present hpc).1⟩

/-- A client whose thread runs is nowhere else. -/
theorem live_not {p : ClientPc} (h : p.live) :
    p ≠ .idle ∧ p ≠ .created ∧ ¬ p.failing ∧ p ≠ .done := by
  refine ⟨?_, ?_, ?_, ?_⟩
  · rintro rfl
    exact h
  · rintro rfl
    exact h
  · intro hfailing
    cases p <;> first | exact h | exact hfailing
  · rintro rfl
    exact h

/-- Nor is one whose start fails. -/
theorem failing_not {p : ClientPc} (h : p.failing) :
    p ≠ .idle ∧ p ≠ .created ∧ ¬ p.live ∧ p ≠ .done := by
  refine ⟨?_, ?_, fun hlive => (live_not hlive).2.2.1 h, ?_⟩
  · rintro rfl
    exact h
  · rintro rfl
    exact h
  · rintro rfl
    exact h

/-- A step of the thread keeps what is known of the runnable. -/
theorem runLaw_thread {s s' : LocThread} (hl : RunLaw s)
    (hclient : s'.client = s.client) (hstarted : s'.started = s.started)
    (hgo : ThreadGo s s') : RunLaw s' where
  once := by
    have hzero : s.thread = .fresh ∨ s.thread.busy →
        s.runnableDeleted = 0 := by
      intro hpc
      rcases hl.once with h | ⟨-, h⟩
      · exact h
      · rcases hpc with hpc | hpc
        · exact absurd hpc (ended_present h).2
        · exact absurd h (busy_present hpc).2.2
    cases hgo with
    | reads hpc _ _ _ hdel => exact Or.inl (hdel.trans (hzero (Or.inl hpc)))
    | misses hpc _ _ _ hdel => exact Or.inl (hdel.trans (hzero (Or.inl hpc)))
    | works hpc _ _ hdel => exact Or.inl (hdel.trans (hzero (Or.inr hpc)))
    | deletes hpc hpc' _ hdel =>
        rw [hzero (Or.inr hpc)] at hdel
        exact Or.inr ⟨hdel, hpc'⟩
    | ends _ hpc' _ hdel =>
        rw [hdel]
        rcases hl.once with h | ⟨h, -⟩
        · exact Or.inl h
        · exact Or.inr ⟨h, hpc'⟩
  flag := fun _ => hgo.present.1
  live := by
    rw [hclient, hstarted]
    exact hl.live
  told := fun _ => hgo.present.1
  early := by
    rw [hclient, hstarted]
    exact hl.early
  refused := by
    rw [hclient, hstarted]
    exact hl.refused
  idle := by
    intro h
    exact absurd (hl.idle (hclient ▸ h)) hgo.present.2

/-- A step of the client keeps it. -/
theorem runLaw_client {s s' : LocThread} {a : ThreadMove} (hl : RunLaw s)
    (hthread : s'.thread = s.thread)
    (hdel : s'.runnableDeleted = s.runnableDeleted)
    (hgo : ClientGo s a s') : RunLaw s' := by
  have honce : s'.runnableDeleted = 0 ∨
      s'.runnableDeleted = 1 ∧ s'.thread.ended := by
    rw [hdel, hthread]
    exact hl.once
  cases hgo with
  | checks hpc hread hpc' hstarted hflag =>
      have hpresent : s'.thread ≠ .absent := by
        rw [hthread]
        exact hl.flag hread
      obtain ⟨hidle, hcreated, hfailing, hdone⟩ := live_not hpc'
      refine ⟨honce, fun _ => hpresent, fun _ => hstarted, fun _ => hpresent,
        ?_, fun h => by (cases hstarted.symm.trans h),
        fun h => absurd h hidle⟩
      rintro (h | h | h)
      · exact absurd h hidle
      · exact absurd h hcreated
      · exact absurd h hfailing
  | fails _ hpc hread hpc' hstarted hflag =>
      have hnone : s'.started = none := by
        rw [hstarted]
        exact hl.early (Or.inr (Or.inl hpc))
      obtain ⟨hidle, -, hlive, -⟩ := failing_not hpc'
      exact ⟨honce, fun h => by (cases hread.symm.trans (hflag ▸ h)),
        fun h => absurd h hlive, fun h => by (cases hnone.symm.trans h),
        fun _ => hnone, fun h => by (cases hnone.symm.trans h),
        fun h => absurd h hidle⟩
  | releases hpc hpc' hflag =>
      have hnone : s.started = none := hl.early (Or.inr (Or.inr hpc))
      have hpresent : s'.mRunnable = true → s'.thread ≠ .absent := by
        rw [hflag, hthread]
        exact hl.flag
      rcases hpc' with ⟨hpc', hstarted⟩ | ⟨hdone, hstarted⟩
      · have hnone' := hstarted.trans hnone
        obtain ⟨hidle, -, hlive, -⟩ := failing_not hpc'
        exact ⟨honce, hpresent, fun h => absurd h hlive,
          fun h => by (cases hnone'.symm.trans h), fun _ => hnone',
          fun h => by (cases hnone'.symm.trans h), fun h => absurd h hidle⟩
      · refine ⟨honce, hpresent, ?_, fun h => by (cases hstarted.symm.trans h),
          ?_, fun _ => hdone, ?_⟩
        · rw [hdone]
          exact fun h => h.elim
        · rw [hdone]
          rintro (h | h | h) <;> cases h
        · rw [hdone]
          exact fun h => by cases h
  | nulls _ hpc hpc' hstarted hflag =>
      have htrue : s'.started = some true := by
        rw [hstarted]
        exact hl.live (by rw [hpc]; trivial)
      obtain ⟨hidle, hcreated, hfailing, hdone⟩ := live_not hpc'
      refine ⟨honce, fun h => by (cases hflag.symm.trans h), fun _ => htrue,
        fun _ => ?_, ?_, fun h => by (cases htrue.symm.trans h),
        fun h => absurd h hidle⟩
      · rw [hthread]
        exact hl.told (hstarted ▸ htrue)
      · rintro (h | h | h)
        · exact absurd h hidle
        · exact absurd h hcreated
        · exact absurd h hfailing
  | goes hpc hpc' hstarted hflag =>
      have htrue : s'.started = some true := hstarted.trans (hl.live hpc)
      have hnot : ¬ (s'.client = .idle ∨ s'.client = .created ∨
          s'.client.failing) := by
        rcases hpc' with hpc' | hdone
        · obtain ⟨hidle, hcreated, hfailing, -⟩ := live_not hpc'
          simp [hidle, hcreated, hfailing]
        · rw [hdone]
          rintro (h | h | h) <;> cases h
      refine ⟨honce, ?_, fun _ => htrue, fun _ => ?_, fun h => absurd h hnot,
        fun h => by (cases htrue.symm.trans h),
        fun h => absurd (Or.inl h) hnot⟩
      · rw [hflag, hthread]
        exact hl.flag
      · rw [hthread]
        exact hl.told (hl.live hpc)

/-- **STEP LEMMA** for the runnable. -/
theorem runLaw_step {s s' : LocThread} {a : ThreadMove} (hl : RunLaw s)
    (h : locThreadStep s a = some s') : RunLaw s' := by
  rcases step_go h with ⟨p, -, hidle, rfl⟩ | ⟨hthread, hdel, hgo⟩ |
    ⟨hclient, hstarted, hgo, -⟩
  · exact runLaw_start p hl hidle
  · exact runLaw_client hl hthread hdel hgo
  · exact runLaw_thread hl hclient hstarted hgo

/-! ## The two races -/

/-- The runnable was handed to a thread. -/
def Handed (s : LocThread) : Prop := s.thread ≠ .absent

/-- The creator's check comes before the spawned thread's write of
    `mRunnable`, and `stop()`'s write after the spawned thread's read. -/
def InTime (s : LocThread) : ThreadMove → Prop
  | .check => s.thread ≠ .absent → s.mRunnable = true
  | .client => s.client = .stopNull → s.thread ≠ .fresh
  | _ => True

instance decidableInTime (s : LocThread) :
    ∀ a : ThreadMove, Decidable (InTime s a)
  | .start _ => isTrue trivial
  | .check =>
      inferInstanceAs (Decidable (s.thread ≠ .absent → s.mRunnable = true))
  | .stop => isTrue trivial
  | .bye => isTrue trivial
  | .client =>
      inferInstanceAs (Decidable (s.client = .stopNull → s.thread ≠ .fresh))
  | .thread _ => isTrue trivial

/-- Neither race was lost. -/
structure Good (s : LocThread) : Prop where
  refused : s.client.failing ∨ s.started = some false → s.thread = .absent
  fresh : s.thread = .fresh → s.mRunnable = true
  ended : s.thread.ended → s.runnableDeleted = 1

/-- A race was lost: `create` fails although the thread has the runnable, or
    no one will delete the runnable. -/
def Bad (s : LocThread) : Prop :=
  (s.thread ≠ .absent ∧ (s.client.failing ∨ s.started = some false)) ∨
  (s.started = some true ∧ s.runnableDeleted = 0 ∧
    (s.thread.ended ∨ s.thread = .fresh ∧ s.mRunnable = false))

/-- A step that comes in time loses no race. -/
theorem good_step {s s' : LocThread} {a : ThreadMove} (hl : RunLaw s)
    (hg : Good s) (htime : InTime s a) (h : locThreadStep s a = some s') :
    Good s' := by
  rcases step_go h with ⟨p, -, hidle, rfl⟩ | ⟨hthread, hdel, hgo⟩ |
    ⟨hclient, hstarted, hgo, -⟩
  · have hthread := hl.idle hidle
    have hstarted := hl.early (Or.inl hidle)
    unfold start
    split
    · split
      · refine ⟨?_, fun _ => rfl, fun h => h.elim⟩
        rintro (h | h)
        · exact h.elim
        · cases hstarted.symm.trans h
      · exact ⟨fun _ => hthread, fun h => by (cases hthread.symm.trans h),
          hg.ended⟩
    · exact ⟨fun _ => hthread, hg.fresh, hg.ended⟩
  · refine ⟨?_, ?_, ?_⟩
    · intro hrefused
      rw [hthread]
      cases hgo with
      | checks _ _ hpc' hstarted _ =>
          rcases hrefused with h | h
          · exact absurd h (live_not hpc').2.2.1
          · cases hstarted.symm.trans h
      | fails ha hpc hread hpc' hstarted _ =>
          subst ha
          by_contra hpresent
          cases hread.symm.trans (htime hpresent)
      | releases hpc _ _ => exact hg.refused (Or.inl hpc)
      | nulls _ hpc hpc' hstarted _ =>
          rcases hrefused with h | h
          · exact absurd h (live_not hpc').2.2.1
          · exact hg.refused (Or.inr (hstarted ▸ h))
      | goes hpc hpc' hstarted _ =>
          rw [hstarted, hl.live hpc] at hrefused
          rcases hrefused with h | h
          · rcases hpc' with hpc' | hdone
            · exact absurd h (live_not hpc').2.2.1
            · rw [hdone] at h
              exact h.elim
          · cases h
    · intro hfresh
      rw [hthread] at hfresh
      have hflagged := hg.fresh hfresh
      cases hgo with
      | checks _ _ _ _ hflag => exact hflag.trans hflagged
      | fails _ _ _ _ _ hflag => exact hflag.trans hflagged
      | releases _ _ hflag => exact hflag.trans hflagged
      | nulls ha hpc _ _ _ =>
          subst ha
          exact absurd hfresh (htime hpc)
      | goes _ _ _ hflag => exact hflag.trans hflagged
    · rw [hthread, hdel]
      exact hg.ended
  · refine ⟨?_, ?_, ?_⟩
    · intro hrefused
      rw [hclient, hstarted] at hrefused
      exact absurd (hg.refused hrefused) hgo.present.2
    · intro hfresh
      cases hgo with
      | reads _ _ hpc' _ _ => exact absurd hfresh (busy_present hpc').2.1
      | misses _ _ hpc' _ _ => exact absurd hfresh (ended_present hpc').2
      | works _ hpc' _ _ => exact absurd hfresh (busy_present hpc').2.1
      | deletes _ hpc' _ _ => exact absurd hfresh (ended_present hpc').2
      | ends _ hpc' _ _ => exact absurd hfresh (ended_present hpc').2
    · intro hended
      cases hgo with
      | reads _ _ hpc' _ _ => exact absurd hended (busy_present hpc').2.2
      | misses hpc hread _ _ _ =>
          cases hread.symm.trans (hg.fresh hpc)
      | works _ hpc' _ _ => exact absurd hended (busy_present hpc').2.2
      | deletes hpc _ _ hdel =>
          rcases hl.once with hzero | ⟨-, hend⟩
          · rw [hdel, hzero]
          · exact absurd hend (busy_present hpc).2.2
      | ends hpc _ _ hdel => exact hdel.trans (hg.ended hpc)

/-- A step off the condition loses a race. -/
theorem bad_of_late {s s' : LocThread} {a : ThreadMove} (hl : RunLaw s)
    (hlate : ¬ InTime s a) (h : locThreadStep s a = some s') : Bad s' := by
  cases a with
  | start p => exact absurd trivial hlate
  | stop => exact absurd trivial hlate
  | bye => exact absurd trivial hlate
  | thread ran => exact absurd trivial hlate
  | check =>
      simp only [InTime, not_forall, Bool.not_eq_true] at hlate
      obtain ⟨hpresent, hread⟩ := hlate
      simp only [locThreadStep, hread] at h
      split at h <;> cases h
      exact Or.inl ⟨hpresent, Or.inl trivial⟩
  | client =>
      simp only [InTime, not_forall, not_not] at hlate
      obtain ⟨hpc, hfresh⟩ := hlate
      simp only [locThreadStep, clientStep, hpc] at h
      cases h
      have hzero : s.runnableDeleted = 0 := by
        rcases hl.once with h | ⟨-, h⟩
        · exact h
        · exact absurd hfresh (ended_present h).2
      exact Or.inr ⟨hl.live (by rw [hpc]; trivial), hzero,
        Or.inr ⟨hfresh, rfl⟩⟩

/-- A lost race stays lost. -/
theorem bad_step {s s' : LocThread} {a : ThreadMove} (hl : RunLaw s)
    (hb : Bad s) (h : locThreadStep s a = some s') : Bad s' := by
  rcases step_go h with ⟨p, -, hidle, rfl⟩ | ⟨hthread, hdel, hgo⟩ |
    ⟨hclient, hstarted, hgo, -⟩
  · have hthread := hl.idle hidle
    rcases hb with ⟨hpresent, -⟩ | ⟨htrue, -, -⟩
    · exact absurd hthread hpresent
    · cases (hl.early (Or.inl hidle)).symm.trans htrue
  · rcases hb with ⟨hpresent, hrefused⟩ | ⟨htrue, hzero, hpc⟩
    · -- `create` is on its way to fail, or the client has returned
      have hnot : ¬ s.client.live ∧ s.client ≠ .created := by
        rcases hrefused with hf | hfalse
        · exact ⟨(failing_not hf).2.2.1, (failing_not hf).2.1⟩
        · rw [hl.refused hfalse]
          exact ⟨fun h => h, fun h => by cases h⟩
      refine Or.inl ⟨by rw [hthread]; exact hpresent, ?_⟩
      cases hgo with
      | checks hc _ _ _ _ => exact absurd hc hnot.2
      | fails _ hc _ _ _ _ => exact absurd hc hnot.2
      | releases _ hpc' _ =>
          rcases hpc' with ⟨hf, -⟩ | ⟨-, hfalse⟩
          · exact Or.inl hf
          · exact Or.inr hfalse
      | nulls _ hc _ _ _ => exact absurd (by rw [hc]; trivial) hnot.1
      | goes hc _ _ _ => exact absurd hc hnot.1
    · have hgoes : s'.started = some true ∧
          (s.mRunnable = false → s'.mRunnable = false) := by
        cases hgo with
        | checks _ _ _ hstarted hflag => exact ⟨hstarted, hflag.trans⟩
        | fails _ _ _ _ hstarted hflag =>
            exact ⟨hstarted.trans htrue, hflag.trans⟩
        | releases hf _ _ =>
            cases (hl.early (Or.inr (Or.inr hf))).symm.trans htrue
        | nulls _ _ _ hstarted hflag =>
            exact ⟨hstarted.trans htrue, fun _ => hflag⟩
        | goes _ _ hstarted hflag =>
            exact ⟨hstarted.trans htrue, hflag.trans⟩
      refine Or.inr ⟨hgoes.1, hdel.trans hzero, ?_⟩
      rw [hthread]
      rcases hpc with hend | ⟨hfresh, hread⟩
      · exact Or.inl hend
      · exact Or.inr ⟨hfresh, hgoes.2 hread⟩
  · rcases hb with ⟨-, hrefused⟩ | ⟨htrue, hzero, hpc⟩
    · refine Or.inl ⟨hgo.present.1, ?_⟩
      rw [hclient, hstarted]
      exact hrefused
    · refine Or.inr ⟨hstarted.trans htrue, ?_⟩
      -- the thread has missed the runnable or will, and is not at work
      have hidle : ¬ s.thread.busy := by
        intro hbusy
        obtain ⟨-, hnot, hnotend⟩ := busy_present hbusy
        rcases hpc with hend | ⟨hf, -⟩
        · exact absurd hend hnotend
        · exact absurd hf hnot
      cases hgo with
      | reads hf hread _ _ _ =>
          rcases hpc with hend | ⟨-, hnull⟩
          · exact absurd hf (ended_present hend).2
          · cases hread.symm.trans hnull
      | misses _ _ hpc' _ hdel => exact ⟨hdel.trans hzero, Or.inl hpc'⟩
      | works hbusy _ _ _ => exact absurd hbusy hidle
      | deletes hbusy _ _ _ => exact absurd hbusy hidle
      | ends _ hpc' _ hdel => exact ⟨hdel.trans hzero, Or.inl hpc'⟩

/-- What the header promises of the runnable. -/
def HeaderLaw (s : LocThread) : Prop :=
  (s.started = some false → ¬ Handed s) ∧
  (Finished s → s.started = some true → s.runnableDeleted = 1)

/-- Where no race was lost the header is right. -/
theorem Good.header {s : LocThread} (hl : RunLaw s) (hg : Good s) :
    HeaderLaw s := by
  constructor
  · intro hfalse hpresent
    exact hpresent (hg.refused (Or.inr hfalse))
  · rintro ⟨-, hthread⟩ htrue
    rcases hthread with habsent | hexited
    · exact absurd habsent (hl.told htrue)
    · exact hg.ended (by rw [hexited]; trivial)

/-- A run that lost one ends against the header. -/
theorem Bad.not_header {s : LocThread} (hb : Bad s) (hfin : Finished s) :
    ¬ HeaderLaw s := by
  rintro ⟨hfalse, htrue⟩
  rcases hb with ⟨hpresent, hrefused⟩ | ⟨hstarted, hzero, -⟩
  · rcases hrefused with hf | hf
    · rw [hfin.1] at hf
      exact hf
    · exact hfalse hf hpresent
  · rw [htrue hfin hstarted] at hzero
    cases hzero

/-- **THE OBJECTS OF A THREAD**: on every schedule the delegate is deleted
    exactly once, and the runnable not twice.  The runnable is where the
    header says on the schedules that lose neither race, and, once both sides
    have finished, on no other. -/
theorem thread_objects {l : List ThreadMove} {s : LocThread}
    (hrun : exec locThread newLocThread l = some s) :
    (s.delegateDeleted ≤ 1 ∧
      (Finished s → s.delegateDeleted = if s.made then 1 else 0)) ∧
    s.runnableDeleted ≤ 1 ∧
    (StepsMeet locThread InTime newLocThread l → HeaderLaw s) ∧
    (Finished s →
      (HeaderLaw s ↔ StepsMeet locThread InTime newLocThread l)) := by
  have hreach : Reach locThread s := reach_exec l (.init rfl) hrun
  have href : RefLaw s := by
    refine reachUnder_inv ?_ ?_ hreach
    · rintro t rfl
      exact refLaw_init
    · exact fun t a t' hl _ ht => refLaw_step hl ht
  have hlaw : RunLaw s := by
    refine reachUnder_inv ?_ ?_ hreach
    · rintro t rfl
      exact runLaw_init
    · exact fun t a t' hl _ ht => runLaw_step hl ht
  have hinit : Good newLocThread :=
    ⟨fun _ => rfl, fun h => by (cases h), fun h => h.elim⟩
  have hends := exec_good_or_bad (M := locThread) (G := InTime)
    (fun _ _ _ => runLaw_step) (fun _ _ _ => good_step)
    (fun _ _ _ hl _ => bad_of_late hl) (fun _ _ _ => bad_step) l
    runLaw_init hinit hrun
  refine ⟨href.delegate, ?_, ?_, ?_⟩
  · rcases hlaw.once with h | ⟨h, -⟩ <;> omega
  · intro hmeet
    rcases hends with ⟨-, hg⟩ | ⟨hnot, -⟩
    · exact hg.header hlaw
    · exact absurd hmeet hnot
  · intro hfin
    rcases hends with ⟨hmeet, hg⟩ | ⟨hnot, hb⟩
    · exact iff_of_true (hg.header hlaw) hmeet
    · exact iff_of_false (hb.not_header hfin) hnot

/-- `run()` is called twice, then the client stops the thread. -/
def stoppedRun : List ThreadMove :=
  [.start ⟨true, true, true, true⟩, .check, .thread true, .thread true,
    .thread true, .thread true, .stop, .client, .thread true, .client,
    .client, .thread true, .thread true, .thread true, .thread true,
    .thread true, .thread true, .thread true, .client, .client, .client,
    .client]

theorem thread_objects_stopped :
    ∃ s, (Finished s ∧ s.started = some true ∧ s.runnableDeleted = 1) ∧
      (s.delegateDeleted ≤ 1 ∧
        (Finished s → s.delegateDeleted = if s.made then 1 else 0)) ∧
      s.runnableDeleted ≤ 1 ∧
      (StepsMeet locThread InTime newLocThread stoppedRun → HeaderLaw s) ∧
      (Finished s → (HeaderLaw s ↔
        StepsMeet locThread InTime newLocThread stoppedRun)) := by
  have hrun : (exec locThread newLocThread stoppedRun).map
      (fun s => (s.client, s.thread, s.started, s.runnableDeleted))
      = some (.done, .exited, some true, 1) := by decide +kernel
  obtain ⟨s, hexec, hend⟩ := Option.map_eq_some_iff.mp hrun
  simp only [Prod.mk.injEq] at hend
  obtain ⟨hclient, hthread, hstarted, hdel⟩ := hend
  exact ⟨s, ⟨⟨hclient, Or.inr hthread⟩, hstarted, hdel⟩,
    thread_objects hexec⟩

/-- The client stops the thread before it has read `mRunnable`. -/
def stoppedEarlyRun : List ThreadMove :=
  [.start ⟨true, true, true, true⟩, .check, .stop, .client, .client, .client,
    .thread true, .thread true, .thread true, .client, .client, .client,
    .client]

/-- The thread is through before the creator checks it. -/
def finishedEarlyRun : List ThreadMove :=
  [.start ⟨true, true, true, true⟩, .thread true, .thread true, .thread true,
    .thread false, .thread true, .thread true, .thread true, .thread true,
    .thread true, .check, .client, .client, .client]

/-- `start` returns true and no one deletes the runnable; `start` returns
    false and the runnable is already deleted. -/
theorem header_broken :
    (∃ s, exec locThread newLocThread stoppedEarlyRun = some s ∧
      Finished s ∧ s.started = some true ∧ s.runnableDeleted = 0) ∧
    (∃ s, exec locThread newLocThread finishedEarlyRun = some s ∧
      Finished s ∧ s.started = some false ∧ Handed s ∧
      s.runnableDeleted = 1) := by
  have hearly : (exec locThread newLocThread stoppedEarlyRun).map
      (fun s => (s.client, s.thread, s.started, s.runnableDeleted))
      = some (.done, .exited, some true, 0) := by decide +kernel
  have hlate : (exec locThread newLocThread finishedEarlyRun).map
      (fun s => (s.client, s.thread, s.started, s.runnableDeleted))
      = some (.done, .exited, some false, 1) := by decide +kernel
  obtain ⟨s, hs, hend⟩ := Option.map_eq_some_iff.mp hearly
  obtain ⟨s', hs', hend'⟩ := Option.map_eq_some_iff.mp hlate
  simp only [Prod.mk.injEq] at hend hend'
  obtain ⟨hclient, hthread, hstarted, hdel⟩ := hend
  obtain ⟨hclient', hthread', hstarted', hdel'⟩ := hend'
  refine ⟨⟨s, hs, ⟨hclient, Or.inr hthread⟩, hstarted, hdel⟩,
    s', hs', ⟨hclient', Or.inr hthread'⟩, hstarted', ?_, hdel'⟩
  unfold Handed
  rw [hthread']
  exact fun h => by cases h

end QcomThread
