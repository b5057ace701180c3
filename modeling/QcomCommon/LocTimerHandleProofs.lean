import QcomCommon.LocTimerOnceProofs

/-! # Timer handles

    The C interface gives out the address of a `LocTimerWrapper` as the
    handle of a timer.  Both `loc_timer_stop` and the end of an expiry
    delete the wrapper; all that keeps the second of them off it is the
    pointer `mMe` to itself that the wrapper holds, which is read from
    freed memory, or from the wrapper that got the address next.

    A run numbers the wrappers in the order they were made and records, with
    the code's own state, which of them lives at an address, which were
    deleted, which were read after they were deleted, and where
    `loc_timer_stop` deleted another one than its handle's.  A stop while
    the expiry of its timer is under way reads freed memory, a stop of a
    handle whose address was given out again deletes the other timer
    (`stop_hits_freed_or_other`).  In every run whose stops come in time,
    each handle names its timer (`handle_names_timer`). -/

namespace QcomTimer

open QcomTransition QcomHeap

/-! ## Wrappers -/

/-- The memory of a wrapper: a call back or NULL, and `mMe`. -/
structure LocTimerWrapper where
  mCb : Bool
  mMe : Option Nat
deriving DecidableEq, Repr

/-- The timers and the wrappers by address; where the message thread is in
    `timeOutCallback`.  The rest is the record: the number of the wrapper
    that lives at an address, the address of each handle, the number of the
    wrapper that started a delegate and of the one that expires, the wrappers
    deleted, those read after that, and the stops that deleted another one. -/
structure Handles where
  timers : Timers
  wrapper : Nat → LocTimerWrapper
  calledBack : Bool
  live : Nat → Option Nat
  handles : List Nat
  owner : Nat → Nat
  expiree : Nat
  deleted : List Nat
  stale : List Nat
  wrong : List (Nat × Nat)

/-- A member of the wrapper with the number `id` is read through a pointer
    to `addr`. -/
def read (s : Handles) (addr id : Nat) : Handles :=
  if s.live addr = some id then s else { s with stale := s.stale ++ [id] }

/-- The guard of `destroy`. -/
def Handles.guard (s : Handles) (addr : Nat) : Bool :=
  (s.wrapper addr).mCb && decide ((s.wrapper addr).mMe = some addr)

/-- What `destroy` deletes. -/
def destroyed (s : Handles) (addr : Nat) : List Nat :=
  if s.guard addr then (s.live addr).toList else []

/-- `LocTimerWrapper::destroy`, for the wrapper with the number `id`: the
    destructors null the members and stop the timer, and leave the memory to
    the allocator. -/
def destroy (s : Handles) (addr id : Nat) : Handles :=
  if s.guard addr then
    { read s addr id with
      timers := stop s.timers addr
      wrapper := Function.update s.wrapper addr ⟨false, none⟩
      live := Function.update s.live addr none
      deleted := s.deleted ++ destroyed s addr }
  else read s addr id

/-- `loc_timer_start`, with the address the allocator gives: any that is not
    in use. -/
def loc_timer_start (s : Handles) (msec : UInt64) (cb_func : Bool)
    (wake_on_expire : Bool) (addr : Nat) : Option Handles :=
  if cb_func = false then some s
  else if s.live addr = none then
    some { s with
      timers := start { s.timers with
        mTimer := Function.update s.timers.mTimer addr none } addr
        msec.toUInt32 wake_on_expire
      wrapper := Function.update s.wrapper addr ⟨true, some addr⟩
      live := Function.update s.live addr (some s.handles.length)
      handles := s.handles ++ [addr]
      owner := Function.update s.owner s.timers.created s.handles.length }
  else none

/-- `loc_timer_stop`, of a copy of the `handle`-th handle. -/
def loc_timer_stop (s : Handles) (handle : Nat) : Option Handles :=
  (s.handles[handle]?).map (fun addr =>
    { destroy s addr handle with
      wrong := s.wrong ++ ((destroyed s addr).filter (fun id =>
        decide (id ≠ handle))).map (fun id => (handle, id)) })

/-- The next step of the message thread.  In `expire` it reads the client of
    a delegate, then stops that client, calls it back, and destroys it. -/
def wrapperStep (s : Handles) : Option Handles :=
  match s.timers.task with
  | .expiring _ _ timer =>
      (taskStep s.timers).map (fun t =>
        { s with timers := t, expiree := s.owner timer.addr })
  | .stopping _ _ _ client =>
      (taskStep s.timers).map (fun t =>
        { read s client s.expiree with timers := t })
  | .calling _ _ client _ =>
      if s.calledBack then
        (taskStep (destroy s client s.expiree).timers).map (fun t =>
          { destroy s client s.expiree with timers := t, calledBack := false })
      else some { read s client s.expiree with calledBack := true }
  | _ => (taskStep s.timers).map (fun t => { s with timers := t })

/-- A call of a handle, or a step of the timers. -/
inductive HandleAction where
  | loc_timer_start (msec : UInt64) (cb_func : Bool) (wake_on_expire : Bool)
      (addr : Nat)
  | loc_timer_stop (handle : Nat)
  | tick (now : Timespec)
  | epollWait (cs : List LocTimerContainer)
  | pollStep
  | taskStep
deriving DecidableEq, Repr

/-- A step of both. -/
def handleStep (s : Handles) : HandleAction → Option Handles
  | .loc_timer_start msec cb_func wake_on_expire addr =>
      loc_timer_start s msec cb_func wake_on_expire addr
  | .loc_timer_stop handle => loc_timer_stop s handle
  | .tick now => (tick s.timers now).map (fun t => { s with timers := t })
  | .epollWait cs =>
      (epollWait s.timers cs).map (fun t => { s with timers := t })
  | .pollStep => (pollStep s.timers).map (fun t => { s with timers := t })
  | .taskStep => wrapperStep s

/-- Nothing was started yet. -/
def newHandles (now : Timespec) : Handles where
  timers := newTimers now
  wrapper _ := ⟨false, none⟩
  calledBack := false
  live _ := none
  handles := []
  owner _ := 0
  expiree := 0
  deleted := []
  stale := []
  wrong := []

/-- The timers without handles, from their start on. -/
def handleSys : TransSys Handles HandleAction where
  init s := ∃ now, now.Shown ∧ s = newHandles now
  step := handleStep

/-! ## Stops in time -/

/-- The expiry of the timer is under way: the message thread has read the
    client of its delegate and has not destroyed it yet. -/
def UnderWay (s : Handles) (id : Nat) : Prop :=
  s.timers.task.halfWay = true ∧ s.expiree = id

instance (s : Handles) (id : Nat) : Decidable (UnderWay s id) :=
  inferInstanceAs (Decidable (_ ∧ _))

/-- A handle is stopped while its wrapper lives, and not while its expiry is
    under way. -/
def StoppedInTime (s : Handles) : HandleAction → Prop
  | .loc_timer_stop handle =>
      (∀ addr ∈ s.handles[handle]?, s.live addr = some handle) ∧
        ¬ UnderWay s handle
  | _ => True

instance (s : Handles) (a : HandleAction) : Decidable (StoppedInTime s a) := by
  cases a <;> unfold StoppedInTime <;> infer_instance

/-! ## The invariant -/

/-- A wrapper lives from its start to its one deletion, and in between its
    timer runs or its expiry is under way. -/
structure HandleLaw (s : Handles) : Prop where
  stale : s.stale = []
  wrong : s.wrong = []
  home : ∀ {a i}, s.live a = some i → s.handles[i]? = some a
  memory : ∀ {a i}, s.live a = some i → s.wrapper a = ⟨true, some a⟩
  counts : ∀ {i a}, s.handles[i]? = some a →
    s.deleted.count i = if s.live a = some i then 0 else 1
  known : ∀ i ∈ s.deleted, i < s.handles.length
  waits : ∀ {a i}, s.live a = some i → s.timers.mTimer a ≠ none ∨
    ∃ c t deadline, s.timers.task = .calling c t a deadline
  runs : ∀ {a d}, s.timers.mTimer a = some d →
    s.live a = some (s.owner d.addr) ∧ s.timers.mClient d.addr = some a ∧
    d.addr < s.timers.created
  clients : ∀ {n a}, s.timers.mClient n = some a →
    ∃ d, d.addr = n ∧ s.timers.mTimer a = some d
  stopping : ∀ {c t timer client},
    s.timers.task = .stopping c t timer client →
    s.timers.mClient timer.addr = some client ∧
    s.expiree = s.owner timer.addr
  calling : ∀ {c t client deadline},
    s.timers.task = .calling c t client deadline →
    s.live client = some s.expiree ∧ s.timers.mTimer client = none
  back : s.calledBack = true →
    ∃ c t client deadline, s.timers.task = .calling c t client deadline

theorem handleLaw_init (now : Timespec) : HandleLaw (newHandles now) where
  stale := rfl
  wrong := rfl
  home h := by cases h
  memory h := by cases h
  counts h := by cases h
  known _ h := absurd h List.not_mem_nil
  waits h := by cases h
  runs h := by cases h
  clients h := by cases h
  stopping h := by cases h
  calling h := by cases h
  back h := by cases h

theorem read_live {s : Handles} {addr id : Nat} (h : s.live addr = some id) :
    read s addr id = s := if_pos h

theorem guard_live {s : Handles} (h : HandleLaw s) {addr id : Nat}
    (hlive : s.live addr = some id) : s.guard addr = true := by
  rw [Handles.guard, h.memory hlive]
  simp

/-- What `destroy` does to a wrapper that lives. -/
theorem destroy_live {s : Handles} (h : HandleLaw s) {addr id : Nat}
    (hlive : s.live addr = some id) :
    destroyed s addr = [id] ∧
    destroy s addr id = { s with
      timers := stop s.timers addr
      wrapper := Function.update s.wrapper addr ⟨false, none⟩
      live := Function.update s.live addr none
      deleted := s.deleted ++ [id] } := by
  have hguard := guard_live h hlive
  have hdel : destroyed s addr = [id] := by
    rw [destroyed, if_pos hguard, hlive]
    rfl
  refine ⟨hdel, ?_⟩
  rw [destroy, if_pos hguard, hdel, read_live hlive]

/-- A step of the timers that leaves the clients, and the place in an expiry
    too or is at none. -/
theorem HandleLaw.calm {s : Handles} (h : HandleLaw s) {t : Timers}
    (htimer : t.mTimer = s.timers.mTimer)
    (hclient : t.mClient = s.timers.mClient)
    (hcreated : t.created = s.timers.created) {id : Nat}
    (htask : t.task = s.timers.task ∧ id = s.expiree ∨
      t.task.halfWay = false ∧ s.timers.task.callee = none) :
    HandleLaw { s with timers := t, expiree := id } where
  stale := h.stale
  wrong := h.wrong
  home := h.home
  memory := h.memory
  counts := h.counts
  known := h.known
  waits {a i} hlive := by
    show t.mTimer a ≠ none ∨ ∃ c tn deadline, t.task = .calling c tn a deadline
    rw [htimer]
    rcases h.waits hlive with hrun | ⟨c, tn, deadline, hcall⟩
    · exact Or.inl hrun
    · rcases htask with ⟨heq, _⟩ | ⟨_, hnone⟩
      · exact Or.inr ⟨c, tn, deadline, heq ▸ hcall⟩
      · rw [hcall] at hnone
        cases hnone
  runs {a d} hd := by
    show _ ∧ t.mClient d.addr = some a ∧ d.addr < t.created
    rw [hclient, hcreated]
    exact h.runs (htimer ▸ hd)
  clients {n a} hn := by
    show ∃ d, d.addr = n ∧ t.mTimer a = some d
    rw [htimer]
    exact h.clients (hclient ▸ hn)
  stopping {c tn timer client} hstop := by
    have hstop : t.task = .stopping c tn timer client := hstop
    show t.mClient timer.addr = some client ∧ id = s.owner timer.addr
    rcases htask with ⟨heq, hid⟩ | ⟨hhalf, _⟩
    · rw [hclient, hid]
      exact h.stopping (heq ▸ hstop)
    · rw [hstop] at hhalf
      cases hhalf
  calling {c tn client deadline} hcall := by
    have hcall : t.task = .calling c tn client deadline := hcall
    show s.live client = some id ∧ t.mTimer client = none
    rcases htask with ⟨heq, hid⟩ | ⟨hhalf, _⟩
    · rw [htimer, hid]
      exact h.calling (heq ▸ hcall)
    · rw [hcall] at hhalf
      cases hhalf
  back hback := by
    obtain ⟨c, tn, client, deadline, hcall⟩ := h.back hback
    rcases htask with ⟨heq, _⟩ | ⟨_, hnone⟩
    · exact ⟨c, tn, client, deadline, heq ▸ hcall⟩
    · rw [hcall] at hnone
      cases hnone

/-! ## Starts -/

/-- A table with a new entry. -/
theorem update_some_eq_some {α β : Type} [DecidableEq α] {f : α → Option β}
    {a x : α} {v y : β} :
    Function.update f a (some v) x = some y ↔
      x = a ∧ v = y ∨ x ≠ a ∧ f x = some y := by
  by_cases hx : x = a
  · rw [hx, Function.update_self]
    simp
  · rw [Function.update_of_ne hx]
    simp [hx]

/-- A table without an entry. -/
theorem update_none_eq_some {α β : Type} [DecidableEq α] {f : α → Option β}
    {a x : α} {y : β} :
    Function.update f a none x = some y ↔ x ≠ a ∧ f x = some y := by
  by_cases hx : x = a
  · rw [hx, Function.update_self]
    simp
  · rw [Function.update_of_ne hx]
    simp [hx]

/-- The new wrapper is not deleted yet, the others as often as before. -/
theorem HandleLaw.counts_started {s : Handles} (h : HandleLaw s) {addr : Nat}
    (hfree : s.live addr = none) {i a : Nat}
    (hi : (s.handles ++ [addr])[i]? = some a) :
    s.deleted.count i =
      if Function.update s.live addr (some s.handles.length) a = some i
      then 0 else 1 := by
  by_cases hlen : i < s.handles.length
  · rw [List.getElem?_append_left hlen] at hi
    rw [h.counts hi]
    by_cases ha : a = addr
    · have hnot : ¬ s.handles.length = i := by omega
      rw [ha, Function.update_self, hfree]
      simp [hnot]
    · rw [Function.update_of_ne ha]
  · have hlen' := (List.getElem?_eq_some_iff.mp hi).1
    rw [List.length_append, List.length_singleton] at hlen'
    have heq : i = s.handles.length := by omega
    subst heq
    rw [List.getElem?_concat_length] at hi
    obtain rfl := Option.some.inj hi
    rw [Function.update_self, if_pos rfl]
    refine List.count_eq_zero.mpr ?_
    intro hmem
    exact hlen (h.known _ hmem)

/-- The number of a new delegate is no delegate's of a client. -/
theorem HandleLaw.client_old {s : Handles} (h : HandleLaw s) {n a : Nat}
    (hn : s.timers.mClient n = some a) : n ≠ s.timers.created := by
  obtain ⟨e, hen, he⟩ := h.clients hn
  have := (h.runs he).2.2
  omega

/-- The timers that run after a start, with their wrappers and clients. -/
theorem HandleLaw.runs_started {s : Handles} (h : HandleLaw s) {addr a : Nat}
    {d e : DelegateRef} (hd : d.addr = s.timers.created)
    (he : Function.update s.timers.mTimer addr (some d) a = some e) :
    Function.update s.live addr (some s.handles.length) a =
        some (Function.update s.owner s.timers.created s.handles.length
          e.addr) ∧
      Function.update s.timers.mClient s.timers.created (some addr) e.addr =
        some a ∧
      e.addr < s.timers.created + 1 := by
  rcases update_some_eq_some.mp he with ⟨rfl, rfl⟩ | ⟨ha, he⟩
  · rw [hd, Function.update_self, Function.update_self, Function.update_self]
    exact ⟨rfl, rfl, Nat.lt_succ_self _⟩
  · obtain ⟨hlive, hcl, hlt⟩ := h.runs he
    have haddr := h.client_old hcl
    rw [Function.update_of_ne ha, Function.update_of_ne haddr,
      Function.update_of_ne haddr]
    exact ⟨hlive, hcl, Nat.lt_succ_of_lt hlt⟩

/-- And the clients have theirs. -/
theorem HandleLaw.clients_started {s : Handles} (h : HandleLaw s)
    {addr n a : Nat} (hfree : s.live addr = none) {d : DelegateRef}
    (hd : d.addr = s.timers.created)
    (hn : Function.update s.timers.mClient s.timers.created (some addr) n =
      some a) :
    ∃ e, e.addr = n ∧
      Function.update s.timers.mTimer addr (some d) a = some e := by
  rcases update_some_eq_some.mp hn with ⟨rfl, rfl⟩ | ⟨_, hn⟩
  · rw [Function.update_self]
    exact ⟨d, hd, rfl⟩
  · obtain ⟨e, hen, he⟩ := h.clients hn
    have ha : a ≠ addr := by
      rintro rfl
      rw [(h.runs he).1] at hfree
      cases hfree
    rw [Function.update_of_ne ha]
    exact ⟨e, hen, he⟩

/-- A new wrapper at a free address, with the delegate `d` of its start. -/
theorem handleLaw_started {s : Handles} (h : HandleLaw s) {addr : Nat}
    (hfree : s.live addr = none) {t : Timers} {d : DelegateRef}
    (hd : d.addr = s.timers.created)
    (htimer : t.mTimer = Function.update s.timers.mTimer addr (some d))
    (hclient : t.mClient =
      Function.update s.timers.mClient s.timers.created (some addr))
    (hcreated : t.created = s.timers.created + 1)
    (htask : t.task = s.timers.task) :
    HandleLaw { s with
      timers := t
      wrapper := Function.update s.wrapper addr ⟨true, some addr⟩
      live := Function.update s.live addr (some s.handles.length)
      handles := s.handles ++ [addr]
      owner := Function.update s.owner s.timers.created
        s.handles.length } := by
  -- nothing of the new wrapper and its delegate is known yet
  have hne : ∀ {a i}, s.live a = some i → a ≠ addr := by
    intro a i hlive heq
    rw [heq, hfree] at hlive
    cases hlive
  have hlt : ∀ {i a}, s.handles[i]? = some a → i < s.handles.length :=
    fun hi => (List.getElem?_eq_some_iff.mp hi).1
  constructor
  case stale => exact h.stale
  case wrong => exact h.wrong
  case home =>
    intro a i hlive
    show (s.handles ++ [addr])[i]? = some a
    rcases update_some_eq_some.mp hlive with ⟨rfl, rfl⟩ | ⟨_, hlive⟩
    · exact List.getElem?_concat_length
    · have hi := h.home hlive
      rw [List.getElem?_append_left (hlt hi)]
      exact hi
  case memory =>
    intro a i hlive
    show Function.update s.wrapper addr _ a = _
    rcases update_some_eq_some.mp hlive with ⟨rfl, _⟩ | ⟨ha, hlive⟩
    · rw [Function.update_self]
    · rw [Function.update_of_ne ha]
      exact h.memory hlive
  case counts => exact fun hi => h.counts_started hfree hi
  case known =>
    intro i hi
    have := h.known i hi
    show i < (s.handles ++ [addr]).length
    rw [List.length_append]
    omega
  case waits =>
    intro a i hlive
    show t.mTimer a ≠ none ∨ ∃ c tn deadline, t.task = .calling c tn a deadline
    rw [htimer, htask]
    rcases update_some_eq_some.mp hlive with ⟨rfl, _⟩ | ⟨ha, hlive⟩
    · rw [Function.update_self]
      exact Or.inl (Option.some_ne_none _)
    · rw [Function.update_of_ne ha]
      exact h.waits hlive
  case runs =>
    intro a e he
    have he : t.mTimer a = some e := he
    show Function.update s.live addr _ a =
      some (Function.update s.owner s.timers.created _ e.addr) ∧
      t.mClient e.addr = some a ∧ e.addr < t.created
    rw [hclient, hcreated]
    exact h.runs_started hd (htimer ▸ he)
  case clients =>
    intro n a hn
    have hn : t.mClient n = some a := hn
    show ∃ e, e.addr = n ∧ t.mTimer a = some e
    rw [htimer]
    exact h.clients_started hfree hd (hclient ▸ hn)
  case stopping =>
    intro c tn timer client hstop
    have hstop : t.task = .stopping c tn timer client := hstop
    rw [htask] at hstop
    obtain ⟨hcl, hexp⟩ := h.stopping hstop
    show t.mClient timer.addr = some client ∧
      s.expiree = Function.update s.owner s.timers.created _ timer.addr
    rw [hclient, Function.update_of_ne (h.client_old hcl),
      Function.update_of_ne (h.client_old hcl)]
    exact ⟨hcl, hexp⟩
  case calling =>
    intro c tn client deadline hcall
    have hcall : t.task = .calling c tn client deadline := hcall
    rw [htask] at hcall
    obtain ⟨hlive, hnone⟩ := h.calling hcall
    show Function.update s.live addr _ client = some s.expiree ∧
      t.mTimer client = none
    rw [htimer, Function.update_of_ne (hne hlive),
      Function.update_of_ne (hne hlive)]
    exact ⟨hlive, hnone⟩
  case back =>
    intro hback
    obtain ⟨c, tn, client, deadline, hcall⟩ := h.back hback
    exact ⟨c, tn, client, deadline, htask.trans hcall⟩

theorem handleLaw_start {s s' : Handles} (h : HandleLaw s) {msec : UInt64}
    {cb_func wake_on_expire : Bool} {addr : Nat}
    (hs : loc_timer_start s msec cb_func wake_on_expire addr = some s') :
    HandleLaw s' := by
  rw [loc_timer_start] at hs
  split at hs
  · injection hs with hs
    exact hs ▸ h
  · split at hs
    · rename_i hfree
      injection hs with hs
      subst hs
      -- the memory is new, or an old wrapper's, which was stopped
      have hnone : s.timers.mTimer addr = none := by
        cases hd : s.timers.mTimer addr with
        | none => rfl
        | some d =>
            rw [(h.runs hd).1] at hfree
            cases hfree
      have hself : Function.update s.timers.mTimer addr none =
          s.timers.mTimer := by
        rw [← hnone, Function.update_eq_self]
      rw [hself, start, hnone]
      exact handleLaw_started h hfree rfl rfl rfl rfl rfl
    · cases hs

/-! ## Deletions -/

/-- What the stop of one client leaves of the others. -/
theorem HandleLaw.stop_others {s : Handles} (h : HandleLaw s) (addr : Nat) :
    (∀ a, (stop s.timers addr).mTimer a =
      if a = addr then none else s.timers.mTimer a) ∧
    ∀ n, (stop s.timers addr).mClient n =
      if s.timers.mClient n = some addr then none
      else s.timers.mClient n := by
  constructor
  · intro a
    rw [stop_mTimer]
    by_cases ha : a = addr
    · rw [ha, Function.update_self, if_pos rfl]
    · rw [Function.update_of_ne ha, if_neg ha]
  · intro n
    cases hd : s.timers.mTimer addr with
    | none =>
        have hsame : stop s.timers addr = s.timers := by rw [stop, hd]
        rw [hsame]
        split
        · rename_i hn
          obtain ⟨d, _, hd'⟩ := h.clients hn
          rw [hd] at hd'
          cases hd'
        · rfl
    | some d =>
        have hmClient : (stop s.timers addr).mClient =
            Function.update s.timers.mClient d.addr none := by
          rw [stop, hd]
          simp only [destroyLocked]
          split <;> rfl
        rw [hmClient]
        by_cases hn : n = d.addr
        · rw [hn, Function.update_self, if_pos (h.runs hd).2.1]
        · rw [Function.update_of_ne hn]
          split
          · rename_i hcl
            obtain ⟨d', hdn, hd'⟩ := h.clients hcl
            rw [hd] at hd'
            obtain rfl := Option.some.inj hd'
            exact absurd hdn.symm hn
          · rfl

/-- The timers that still run, with their wrappers and clients. -/
theorem HandleLaw.runs_stop {s : Handles} (h : HandleLaw s) {addr a : Nat}
    {d : DelegateRef} (hd : (stop s.timers addr).mTimer a = some d) :
    a ≠ addr ∧ s.live a = some (s.owner d.addr) ∧
      (stop s.timers addr).mClient d.addr = some a ∧
      d.addr < s.timers.created := by
  obtain ⟨hstopT, hstopC⟩ := h.stop_others addr
  rw [hstopT] at hd
  split at hd
  · cases hd
  · rename_i ha
    obtain ⟨hl, hcl, hlt⟩ := h.runs hd
    rw [hstopC, hcl, if_neg (fun heq => ha (Option.some.inj heq))]
    exact ⟨ha, hl, rfl, hlt⟩

/-- And the clients that are left still have theirs. -/
theorem HandleLaw.clients_stop {s : Handles} (h : HandleLaw s)
    {addr n a : Nat} (hn : (stop s.timers addr).mClient n = some a) :
    ∃ d, d.addr = n ∧ (stop s.timers addr).mTimer a = some d := by
  obtain ⟨hstopT, hstopC⟩ := h.stop_others addr
  rw [hstopC] at hn
  split at hn
  · cases hn
  · rename_i hcl
    rw [hstopT, if_neg (fun heq : a = addr => hcl (heq ▸ hn))]
    exact h.clients hn

/-- The wrapper is deleted once more, the others as often as before. -/
theorem HandleLaw.counts_deleted {s : Handles} (h : HandleLaw s)
    {addr id : Nat} (hlive : s.live addr = some id) {i a : Nat}
    (hi : s.handles[i]? = some a) :
    (s.deleted ++ [id]).count i =
      if Function.update s.live addr none a = some i then 0 else 1 := by
  rw [List.count_append, List.count_singleton, h.counts hi]
  simp only [beq_iff_eq]
  by_cases hid : id = i
  · subst hid
    have ha : addr = a := by
      have hhome := h.home hlive
      rw [hhome] at hi
      exact Option.some.inj hi
    subst ha
    rw [Function.update_self, hlive]
    simp
  · by_cases ha : a = addr
    · subst ha
      rw [Function.update_self, hlive]
      simp [hid]
    · rw [Function.update_of_ne ha]
      simp [hid]

theorem stop_created (s : Timers) (client : Nat) :
    (stop s client).created = s.created ∧ (stop s client).task = s.task := by
  obtain ⟨f, g, k, l, hstop, _⟩ := stop_eq s client
  rw [hstop]
  exact ⟨rfl, rfl⟩

/-- The wrapper with the number `id` is deleted: while no expiry of it is
    under way, or at the end of its expiry. -/
theorem handleLaw_deleted {s : Handles} (h : HandleLaw s) {addr id : Nat}
    (hlive : s.live addr = some id) {t : Timers}
    (htimer : t.mTimer = (stop s.timers addr).mTimer)
    (hclient : t.mClient = (stop s.timers addr).mClient)
    (hcreated : t.created = s.timers.created) {calledBack : Bool}
    (htask : t.task = s.timers.task ∧ calledBack = s.calledBack ∧
        ¬ UnderWay s id ∨
      t.task.halfWay = false ∧ calledBack = false ∧
        ∃ c tn deadline, s.timers.task = .calling c tn addr deadline) :
    HandleLaw { s with
      timers := t
      wrapper := Function.update s.wrapper addr ⟨false, none⟩
      live := Function.update s.live addr none
      deleted := s.deleted ++ [id]
      calledBack := calledBack } := by
  obtain ⟨hstopT, hstopC⟩ := h.stop_others addr
  have hother : ∀ {a i}, s.live a = some i → i ≠ id → a ≠ addr := by
    intro a i hl hid ha
    rw [ha, hlive] at hl
    exact hid (Option.some.inj hl).symm
  constructor
  case stale => exact h.stale
  case wrong => exact h.wrong
  case home =>
    intro a i hl
    exact h.home (update_none_eq_some.mp hl).2
  case memory =>
    intro a i hl
    obtain ⟨ha, hl⟩ := update_none_eq_some.mp hl
    show Function.update s.wrapper addr _ a = _
    rw [Function.update_of_ne ha]
    exact h.memory hl
  case counts => exact fun hi => h.counts_deleted hlive hi
  case known =>
    intro i hi
    rcases List.mem_append.mp hi with hi | hi
    · exact h.known i hi
    · rw [List.mem_singleton.mp hi]
      exact (List.getElem?_eq_some_iff.mp (h.home hlive)).1
  case waits =>
    intro a i hl
    obtain ⟨ha, hl⟩ := update_none_eq_some.mp hl
    show t.mTimer a ≠ none ∨ ∃ c tn deadline, t.task = .calling c tn a deadline
    rw [htimer, hstopT, if_neg ha]
    rcases h.waits hl with hrun | ⟨c, tn, deadline, hcall⟩
    · exact Or.inl hrun
    · rcases htask with ⟨heq, _⟩ | ⟨_, _, c', tn', deadline', hcall'⟩
      · exact Or.inr ⟨c, tn, deadline, heq ▸ hcall⟩
      · rw [hcall] at hcall'
        injection hcall' with _ _ haddr _
        exact absurd haddr ha
  case runs =>
    intro a d hd
    have hd : t.mTimer a = some d := hd
    rw [htimer] at hd
    obtain ⟨ha, hl, hcl, hlt⟩ := h.runs_stop hd
    show Function.update s.live addr none a = _ ∧ t.mClient d.addr = _ ∧
      d.addr < t.created
    rw [Function.update_of_ne ha, hclient, hcreated]
    exact ⟨hl, hcl, hlt⟩
  case clients =>
    intro n a hn
    have hn : t.mClient n = some a := hn
    show ∃ d, d.addr = n ∧ t.mTimer a = some d
    rw [hclient] at hn
    rw [htimer]
    exact h.clients_stop hn
  case stopping =>
    intro c tn timer client hstop
    have hstop : t.task = .stopping c tn timer client := hstop
    rcases htask with ⟨heq, _, hway⟩ | ⟨hhalf, _⟩
    · rw [heq] at hstop
      obtain ⟨hcl, hexp⟩ := h.stopping hstop
      obtain ⟨d, hdn, hd⟩ := h.clients hcl
      have hid : s.owner d.addr ≠ id := by
        intro heq
        refine hway ⟨by rw [hstop]; rfl, ?_⟩
        rw [hexp, ← hdn, heq]
      have ha := hother (h.runs hd).1 hid
      refine ⟨?_, hexp⟩
      show t.mClient timer.addr = some client
      rw [hclient, hstopC, hcl, if_neg (fun heq => ha (Option.some.inj heq))]
    · rw [hstop] at hhalf
      cases hhalf
  case calling =>
    intro c tn client deadline hcall
    have hcall : t.task = .calling c tn client deadline := hcall
    rcases htask with ⟨heq, _, hway⟩ | ⟨hhalf, _⟩
    · rw [heq] at hcall
      obtain ⟨hl, hnone⟩ := h.calling hcall
      have hid : s.expiree ≠ id := fun heq => hway ⟨by rw [hcall]; rfl, heq⟩
      have ha := hother hl hid
      refine ⟨?_, ?_⟩
      · show Function.update s.live addr none client = _
        rw [Function.update_of_ne ha]
        exact hl
      · show t.mTimer client = none
        rw [htimer, hstopT, if_neg ha]
        exact hnone
    · rw [hcall] at hhalf
      cases hhalf
  case back =>
    intro hback
    have hback : calledBack = true := hback
    rcases htask with ⟨heq, hsame, _⟩ | ⟨_, hfalse, _⟩
    · obtain ⟨c, tn, client, deadline, hcall⟩ := h.back (hsame ▸ hback)
      exact ⟨c, tn, client, deadline, heq ▸ hcall⟩
    · rw [hfalse] at hback
      cases hback

/-! ## The message thread -/

theorem halfWay_expireLoop (s : Timers) (c : LocTimerContainer)
    (timerOfNow : Timespec)
    (popped : Option DelegateRef × LocHeapNode DelegateRef) :
    (expireLoop s c timerOfNow popped).task.halfWay = false := by
  rw [expireLoop]
  cases popped.1 <;> rfl

/-- The message thread, at no client: it takes a message, makes a kernel call
    or is done with them. -/
theorem handleLaw_message {s : Handles} (h : HandleLaw s) {t : Timers}
    (hcallee : s.timers.task.callee = none)
    (hloop : ∀ c tn timer, s.timers.task ≠ .expiring c tn timer)
    (hhalf : s.timers.task.halfWay = false)
    (hs : taskStep s.timers = some t) :
    HandleLaw { s with timers := t } := by
  cases taskStep_move hs with
  | @take m queue hidle hq =>
      cases m with
      | MsgTimerPush c d =>
          refine h.calm ?_ ?_ ?_ (Or.inr ⟨?_, hcallee⟩) <;> rfl
      | MsgTimerRemove c d =>
          refine h.calm ?_ ?_ ?_ (Or.inr ⟨?_, hcallee⟩) <;> rfl
      | MsgTimerExpire c =>
          refine h.calm ?_ ?_ ?_ (Or.inr ⟨?_, hcallee⟩)
          case refine_4 => exact halfWay_expireLoop _ _ _ _
          all_goals rfl
  | done htask => refine h.calm ?_ ?_ ?_ (Or.inr ⟨?_, hcallee⟩) <;> rfl
  | kernel htask => refine h.calm ?_ ?_ ?_ (Or.inr ⟨?_, hcallee⟩) <;> rfl
  | read htask hclient => exact absurd htask (hloop _ _ _)
  | gone htask hclient => exact absurd htask (hloop _ _ _)
  | stop htask hstarted =>
      rw [htask] at hhalf
      cases hhalf
  | stopped htask hstarted =>
      rw [htask] at hhalf
      cases hhalf
  | call htask =>
      rw [htask] at hhalf
      cases hhalf

/-- `expire` reads the client. -/
theorem handleLaw_read {s : Handles} (h : HandleLaw s) {t : Timers}
    {c : LocTimerContainer} {timerOfNow : Timespec} {timer : DelegateRef}
    (htask : s.timers.task = .expiring c timerOfNow timer)
    (hs : taskStep s.timers = some t) :
    HandleLaw { s with timers := t, expiree := s.owner timer.addr } := by
  have hcallee : s.timers.task.callee = none := by
    rw [htask]
    rfl
  have hback : s.calledBack ≠ true := by
    intro hb
    obtain ⟨_, _, _, _, hcall⟩ := h.back hb
    rw [htask] at hcall
    cases hcall
  rw [taskStep, htask] at hs
  simp only at hs
  split at hs
  · rename_i client hclient
    injection hs with hs
    subst hs
    refine ⟨h.stale, h.wrong, h.home, h.memory, h.counts, h.known, ?_,
      h.runs, h.clients, ?_, ?_, fun hb => absurd hb hback⟩
    · intro a i hlive
      rcases h.waits hlive with hrun | ⟨_, _, _, hcall⟩
      · exact Or.inl hrun
      · rw [htask] at hcall
        cases hcall
    · intro c' tn timer' client' hstop
      injection hstop with _ _ htimer hclient'
      subst htimer hclient'
      exact ⟨hclient, rfl⟩
    · intro c' tn client' deadline hcall
      cases hcall
  · injection hs with hs
    subst hs
    refine h.calm ?_ ?_ ?_ (Or.inr ⟨?_, hcallee⟩)
    case refine_4 => exact halfWay_expireLoop _ _ _ _
    all_goals rfl

/-- `expire` stops the client, which lives and runs. -/
theorem handleLaw_stopping {s : Handles} (h : HandleLaw s) {t : Timers}
    {c : LocTimerContainer} {timerOfNow : Timespec} {timer : DelegateRef}
    {client : Nat}
    (htask : s.timers.task = .stopping c timerOfNow timer client)
    (hs : taskStep s.timers = some t) :
    HandleLaw { read s client s.expiree with timers := t } := by
  obtain ⟨hcl, hexp⟩ := h.stopping htask
  obtain ⟨d, hdn, hd⟩ := h.clients hcl
  have hlive : s.live client = some s.expiree := by
    rw [hexp, ← hdn]
    exact (h.runs hd).1
  have hback : s.calledBack ≠ true := by
    intro hb
    obtain ⟨_, _, _, _, hcall⟩ := h.back hb
    rw [htask] at hcall
    cases hcall
  rw [read_live hlive]
  rw [taskStep, htask] at hs
  simp only [hd, Option.some.injEq] at hs
  subst hs
  obtain ⟨hstopT, hstopC⟩ := h.stop_others client
  refine ⟨h.stale, h.wrong, h.home, h.memory, h.counts, h.known, ?_, ?_, ?_,
    ?_, ?_, fun hb => absurd hb hback⟩
  · intro a i hl
    show (stop s.timers client).mTimer a ≠ none ∨
      ∃ c' tn deadline, TaskPc.calling c timerOfNow client d.mFutureTime =
        .calling c' tn a deadline
    by_cases ha : a = client
    · exact Or.inr ⟨c, timerOfNow, d.mFutureTime, by rw [ha]⟩
    · rw [hstopT, if_neg ha]
      rcases h.waits hl with hrun | ⟨_, _, _, hcall⟩
      · exact Or.inl hrun
      · rw [htask] at hcall
        cases hcall
  · intro a e he
    show s.live a = _ ∧ (stop s.timers client).mClient e.addr = some a ∧
      e.addr < (stop s.timers client).created
    rw [(stop_created _ _).1]
    exact (h.runs_stop he).2
  · exact fun hn => h.clients_stop hn
  · intro c' tn timer' client' hstop
    cases hstop
  · intro c' tn client' deadline hcall
    injection hcall with _ _ hcl' _
    subst hcl'
    refine ⟨hlive, ?_⟩
    show (stop s.timers client).mTimer client = none
    rw [hstopT, if_pos rfl]

theorem handleLaw_wrapperStep {s s' : Handles} (h : HandleLaw s)
    (hs : wrapperStep s = some s') : HandleLaw s' := by
  rw [wrapperStep] at hs
  split at hs
  · rename_i htask
    obtain ⟨t, ht, rfl⟩ := Option.map_eq_some_iff.mp hs
    exact handleLaw_read h htask ht
  · rename_i htask
    obtain ⟨t, ht, rfl⟩ := Option.map_eq_some_iff.mp hs
    exact handleLaw_stopping h htask ht
  · rename_i c timerOfNow client deadline htask
    obtain ⟨hlive, hnone⟩ := h.calling htask
    split at hs
    -- called back, and now destroyed
    · obtain ⟨t, ht, rfl⟩ := Option.map_eq_some_iff.mp hs
      obtain ⟨_, hdestroy⟩ := destroy_live h hlive
      have hsame : stop s.timers client = s.timers := by rw [stop, hnone]
      rw [hdestroy] at ht ⊢
      rw [hsame] at ht
      rw [taskStep, htask] at ht
      simp only [Option.some.injEq] at ht
      subst ht
      refine handleLaw_deleted h hlive ?_ ?_ ?_ (Or.inr
        ⟨?_, rfl, c, timerOfNow, deadline, htask⟩)
      · rw [hsame]
        rfl
      · rw [hsame]
        rfl
      · rfl
      · exact halfWay_expireLoop _ _ _ _
    · injection hs with hs
      subst hs
      rw [read_live hlive]
      exact ⟨h.stale, h.wrong, h.home, h.memory, h.counts, h.known, h.waits,
        h.runs, h.clients, h.stopping, h.calling,
        fun _ => ⟨c, timerOfNow, client, deadline, htask⟩⟩
  · rename_i hexp hstop hcall
    obtain ⟨t, ht, rfl⟩ := Option.map_eq_some_iff.mp hs
    refine handleLaw_message h ?_ hexp ?_ ht
    · cases htask : s.timers.task with
      | calling c tn client deadline => exact absurd htask (hcall _ _ _ _)
      | idle => rfl
      | kernel c calls => rfl
      | expiring c tn timer => rfl
      | stopping c tn timer client => rfl
    · cases htask : s.timers.task with
      | calling c tn client deadline => exact absurd htask (hcall _ _ _ _)
      | idle => rfl
      | kernel c calls => rfl
      | expiring c tn timer => rfl
      | stopping c tn timer client => exact absurd htask (hstop _ _ _ _)

/-- A stop in time deletes the wrapper of its handle. -/
theorem handleLaw_stop {s s' : Handles} (h : HandleLaw s) {handle : Nat}
    (hg : StoppedInTime s (.loc_timer_stop handle))
    (hs : loc_timer_stop s handle = some s') : HandleLaw s' := by
  obtain ⟨hin, hway⟩ := hg
  obtain ⟨addr, haddr, rfl⟩ := Option.map_eq_some_iff.mp hs
  have hlive : s.live addr = some handle := hin addr haddr
  obtain ⟨hdel, hdestroy⟩ := destroy_live h hlive
  have hright : s.wrong ++ ((destroyed s addr).filter (fun id =>
      decide (id ≠ handle))).map (fun id => (handle, id)) = s.wrong := by
    rw [hdel]
    simp
  rw [hright, hdestroy]
  obtain ⟨hcreated, htask⟩ := stop_created s.timers addr
  exact handleLaw_deleted h hlive rfl rfl hcreated
    (Or.inl ⟨htask, rfl, hway⟩)

theorem handleLaw_step {s s' : Handles} {a : HandleAction} (h : HandleLaw s)
    (hg : StoppedInTime s a) (hs : handleStep s a = some s') :
    HandleLaw s' := by
  cases a with
  | loc_timer_start msec cb_func wake_on_expire addr =>
      exact handleLaw_start h hs
  | loc_timer_stop handle => exact handleLaw_stop h hg hs
  | tick now =>
      obtain ⟨t, ht, rfl⟩ := Option.map_eq_some_iff.mp hs
      rw [tick] at ht
      split at ht
      · injection ht with ht
        subst ht
        refine h.calm ?_ ?_ ?_ (Or.inl ⟨?_, rfl⟩) <;> rfl
      · cases ht
  | epollWait cs =>
      obtain ⟨t, ht, rfl⟩ := Option.map_eq_some_iff.mp hs
      rw [epollWait] at ht
      split at ht
      · injection ht with ht
        subst ht
        refine h.calm ?_ ?_ ?_ (Or.inl ⟨?_, rfl⟩) <;> rfl
      · cases ht
  | pollStep =>
      obtain ⟨t, ht, rfl⟩ := Option.map_eq_some_iff.mp hs
      rw [pollStep] at ht
      split at ht
      · injection ht with ht
        subst ht
        refine h.calm ?_ ?_ ?_ (Or.inl ⟨?_, rfl⟩) <;> rfl
      · injection ht with ht
        subst ht
        refine h.calm ?_ ?_ ?_ (Or.inl ⟨?_, rfl⟩) <;> rfl
      · cases ht
  | taskStep => exact handleLaw_wrapperStep h hs

/-! ## Runs -/

/-- **A HANDLE NAMES ITS TIMER**, in every run whose stops come in time: no
    deleted wrapper is read, no stop deletes another timer, and a wrapper is
    deleted once, when its timer does not run and is not being expired any
    more. -/
theorem handle_names_timer {s : Handles}
    (h : ReachUnder handleSys StoppedInTime s) :
    s.stale = [] ∧ s.wrong = [] ∧
    ∀ i a, s.handles[i]? = some a →
      (s.deleted.count i = if s.live a = some i then 0 else 1) ∧
      (s.live a = some i → s.timers.mTimer a ≠ none ∨
        ∃ c t deadline, s.timers.task = .calling c t a deadline) := by
  have hlaw : HandleLaw s := by
    refine reachUnder_inv (I := HandleLaw) ?_ ?_ h
    · rintro s ⟨now, _, rfl⟩
      exact handleLaw_init now
    · intro s a s' hI hg hs
      exact handleLaw_step hI hg hs
  exact ⟨hlaw.stale, hlaw.wrong,
    fun i a hi => ⟨hlaw.counts hi, hlaw.waits⟩⟩

/-- A timer of 10 s that expires and one of 20 s, at the address that the
    first one had, that is stopped. -/
def inTimeRun : List HandleAction :=
  [HandleAction.loc_timer_start 10000 true false 64] ++
    List.replicate 4 HandleAction.taskStep ++
  [HandleAction.tick ⟨15, 0⟩, .epollWait [.mSwTimers], .pollStep, .pollStep,
    .pollStep]
    ++ List.replicate 8 HandleAction.taskStep ++
  [HandleAction.loc_timer_start 20000 true false 64, .loc_timer_stop 1]

theorem handle_names_timer_two :
    ∃ s, exec handleSys (newHandles ⟨5, 0⟩) inTimeRun = some s ∧
      s.deleted.count 0 = 1 ∧ s.deleted.count 1 = 1 ∧ s.wrong = [] := by
  have hrun : (exec handleSys (newHandles ⟨5, 0⟩) inTimeRun).map
      (fun s => (s.handles, s.live 64)) = some ([64, 64], none) := by
    decide +kernel
  obtain ⟨s, hexec, hs⟩ := Option.map_eq_some_iff.mp hrun
  simp only [Prod.mk.injEq] at hs
  obtain ⟨hhandles, hlive⟩ := hs
  have hreach : ReachUnder handleSys StoppedInTime s :=
    reachUnder_exec _ (.init ⟨⟨5, 0⟩, by decide, rfl⟩) (by decide +kernel)
      hexec
  obtain ⟨_, hwrong, hcounts⟩ := handle_names_timer hreach
  have hzero := (hcounts 0 64 (by rw [hhandles]; rfl)).1
  have hone := (hcounts 1 64 (by rw [hhandles]; rfl)).1
  rw [hlive] at hzero hone
  exact ⟨s, hexec, hzero, hone, hwrong⟩

/-- A stop between the read of the client and its use. -/
def stoppedUnderWayRun : List HandleAction :=
  [HandleAction.loc_timer_start 10000 true false 64] ++
    List.replicate 4 HandleAction.taskStep ++
  [HandleAction.tick ⟨15, 0⟩, .epollWait [.mSwTimers], .pollStep, .pollStep,
    .pollStep]
    ++ List.replicate 2 HandleAction.taskStep ++
  [HandleAction.loc_timer_stop 0, .taskStep]

/-- A stop after the expiry, when the address was given out again. -/
def stoppedLateRun : List HandleAction :=
  [HandleAction.loc_timer_start 10000 true false 64] ++
    List.replicate 4 HandleAction.taskStep ++
  [HandleAction.tick ⟨15, 0⟩, .epollWait [.mSwTimers], .pollStep, .pollStep,
    .pollStep]
    ++ List.replicate 8 HandleAction.taskStep ++
  [HandleAction.loc_timer_start 20000 true false 64, .loc_timer_stop 0]

/-- The message thread reads the wrapper that was deleted; the late stop
    deletes the second timer. -/
theorem stop_hits_freed_or_other :
    (∃ s, Reach handleSys s ∧ s.stale = [0]) ∧
    ∃ s, Reach handleSys s ∧ s.wrong = [(0, 1)] := by
  have hfreed : (exec handleSys (newHandles ⟨5, 0⟩) stoppedUnderWayRun).map
      Handles.stale = some [0] := by decide +kernel
  have hother : (exec handleSys (newHandles ⟨5, 0⟩) stoppedLateRun).map
      Handles.wrong = some [(0, 1)] := by decide +kernel
  obtain ⟨s, hs, hstale⟩ := Option.map_eq_some_iff.mp hfreed
  obtain ⟨s', hs', hwrong⟩ := Option.map_eq_some_iff.mp hother
  have hinit : Reach handleSys (newHandles ⟨5, 0⟩) :=
    .init ⟨⟨5, 0⟩, by decide, rfl⟩
  exact ⟨⟨s, reach_exec _ hinit hs, hstale⟩,
    ⟨s', reach_exec _ hinit hs', hwrong⟩⟩

end QcomTimer
