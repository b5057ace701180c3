import QcomCommon.DsMachineProofs

/-! # Runs of the DS machine

    The DS machine with what reaches it from outside: subscriptions and
    unsubscriptions of the modem, resource events, the retry timers it
    started and the `LocEngRequestSuplEs` messages its retries put in the
    queue.  Every call is one event of the current state
    (`dsAct_eq`), so the books are a run of the lease protocol.

    A start of the data call is issued from two places.  The one in Released
    looks at the result; the one in Releasing does not, and there the machine
    may wait in Pending for an answer that does not come
    (`pending_awaits_iff`). -/

namespace QcomAgps

open QcomTransition QcomLease AgpsStateMachine

/-! ## The machine and its surroundings -/

/-- The machine, its retry timers under way and the handles of its own
    `LocEngRequestSuplEs` messages, first to be handled first. -/
structure DsRun where
  sm : AgpsStateMachine
  timers : Nat
  requested : List UInt32
deriving DecidableEq, Repr

/-- A call of a DS machine, or the message that its retry posts. -/
inductive DsAction where
  | subscribeRsrc (ID : UInt32)
  | resubscribe
  | unsubscribeRsrc (ID : UInt32)
  | onRsrcEvent (event : AgpsRsrcStatus)
  | retryCallback
deriving DecidableEq, Repr

/-- The call of the machine an action is: `LocEngRequestSuplEs::proc`,
    `LocEngReleaseATL::proc`, `LocEngSuplEsOpened::proc`,
    `LocEngSuplEsClosed::proc` and `delay_callback`. -/
def DsRun.callOf (r : DsRun) : DsAction → Option ClassAction
  | .subscribeRsrc ID => some (.subscribeRsrc (.DSSubscriber ID false))
  | .resubscribe =>
      r.requested.head?.map (fun ID => .subscribeRsrc (.DSSubscriber ID false))
  | .unsubscribeRsrc ID => some (.unsubscribeRsrc (.DSSubscriber ID false))
  | .onRsrcEvent event => some (.onRsrcEvent event)
  | .retryCallback => if 0 < r.timers then some .retryCallback else none

/-- The handle of a `requestSuplES`, which the adapter queues. -/
def suplES : Call → Option UInt32
  | .requestSuplES ID => some ID
  | _ => none

/-- The run once the machine has become `sm`: timers it started run, and what
    it requested is queued. -/
def DsRun.after (r : DsRun) (a : DsAction) (o : Outside)
    (sm : AgpsStateMachine) : DsRun where
  sm := sm
  timers :=
    (if a = .retryCallback then r.timers - 1 else r.timers) +
      if o.timer then
        (newCalls r.sm sm).count (.loc_timer_start DATA_CALL_RETRY_DELAY_MSEC)
      else 0
  requested :=
    (if a = .resubscribe then r.requested.tail else r.requested) ++
      (newCalls r.sm sm).filterMap suplES

/-- The machine `DSStateMachine::DSStateMachine` builds. -/
def dsNew : DsRun := ⟨newMachine .AGPS_TYPE_INVALID, 0, []⟩

/-- `RSRC_RELEASED` or `RSRC_DENIED` is delivered. -/
def terminal : DsAction → Bool
  | .onRsrcEvent .RSRC_RELEASED => true
  | .onRsrcEvent .RSRC_DENIED => true
  | _ => false

section Ds

variable [SubscriberEquals]

/-- The DS machine under any order of calls, with any answers of the
    adapter and of `loc_timer_start`. -/
def dsSys : TransSys DsRun (DsAction × Outside) where
  init r := r = dsNew
  step r a := (r.callOf a.1).map (fun c =>
    r.after a.1 a.2 (classAct .DSStateMachine a.2 r.sm c))

theorem dsSys_step {r r' : DsRun} {a : DsAction × Outside}
    (h : dsSys.step r a = some r') :
    ∃ c, r.callOf a.1 = some c ∧
      r' = r.after a.1 a.2 (classAct .DSStateMachine a.2 r.sm c) := by
  obtain ⟨c, hc, hr⟩ := Option.map_eq_some_iff.mp h
  exact ⟨c, hc, hr.symm⟩

/-! ## One call is one event -/

/-- The event a call is, when it is one.  RELEASED is handled as DENIED
    where it would change no state. -/
def dsEventOf (m : AgpsStateMachine) : ClassAction → Option RsrcEvent
  | .subscribeRsrc s => some (.subscribe s)
  | .unsubscribeRsrc s =>
      (m.findSubscriber ⟨.rcver s, .RSRC_STATUS_MAX, false⟩).map .unsubscribe
  | .onRsrcEvent .RSRC_GRANTED => some .granted
  | .onRsrcEvent .RSRC_RELEASED =>
      some (if m.mStatePtr = .Pending ∨ m.mStatePtr = .Released then .denied
        else .released)
  | .onRsrcEvent .RSRC_DENIED => some .denied
  | .onRsrcEvent _ => none
  | .retryCallback => none

/-- An event the state does not answer leaves the machine as it is. -/
theorem stateEvent_quiet {send : SendRsrcRequest} {m : AgpsStateMachine}
    {e : RsrcEvent} (h : stateOnRsrcEvent send e m = (m.mStatePtr, m)) :
    m.stateEvent send e = m := by
  rw [stateEvent, h]

theorem dsOnRsrcEvent_released (send : SendRsrcRequest)
    (m : AgpsStateMachine) :
    m.dsOnRsrcEvent send .RSRC_RELEASED =
      m.stateEvent send
        (if m.mStatePtr = .Pending ∨ m.mStatePtr = .Released then .denied
          else .released) := by
  rw [dsOnRsrcEvent]
  cases hm : m.mStatePtr with
  | Released =>
      have hquiet : m.stateEvent send .released = m :=
        stateEvent_quiet (by rw [stateOnRsrcEvent, hm]; rfl)
      rw [hquiet, hm]
      rfl
  | Pending =>
      have hquiet : m.stateEvent send .released = m :=
        stateEvent_quiet (by rw [stateOnRsrcEvent, hm]; rfl)
      rw [hquiet, hm]
      rfl
  | Acquired =>
      have hnext : (m.stateEvent send .released).mStatePtr = .Released := by
        rw [stateEvent, stateOnRsrcEvent, hm]
        rfl
      rw [hnext]
      rfl
  | Releasing =>
      have hnext : (m.stateEvent send .released).mStatePtr ≠ .Releasing := by
        rw [stateEvent, stateOnRsrcEvent, hm]
        show (finishRelease send .RSRC_RELEASED m).1 ≠ .Releasing
        rw [finishRelease]
        split <;> exact fun h => by cases h
      rw [if_pos hnext]
      rfl

/-- A call of the DS machine is one event of the current state, a retry or
    nothing. -/
theorem dsAct_eq {m : AgpsStateMachine}
    (hm : m.mEnforceSingleSubscriber = false) (o : Outside)
    {c : ClassAction} (hc : c ≠ .retryCallback) :
    classAct .DSStateMachine o m c = match dsEventOf m c with
      | some e => m.stateEvent (dsSendRsrcRequest o.openResult o.timer) e
      | none => m := by
  cases c with
  | subscribeRsrc s =>
      show m.subscribeRsrc (dsSendRsrcRequest o.openResult o.timer) s = _
      rw [AgpsStateMachine.subscribeRsrc, hm, Bool.false_and,
        if_neg Bool.false_ne_true]
      rfl
  | unsubscribeRsrc s =>
      show (m.unsubscribeRsrc (dsSendRsrcRequest o.openResult o.timer) s).2 = _
      rw [AgpsStateMachine.unsubscribeRsrc, dsEventOf]
      cases m.findSubscriber ⟨.rcver s, .RSRC_STATUS_MAX, false⟩ with
      | none => rfl
      | some e => rfl
  | onRsrcEvent event =>
      cases event with
      | RSRC_RELEASED => exact dsOnRsrcEvent_released _ m
      | RSRC_GRANTED => rfl
      | RSRC_DENIED => rfl
      | RSRC_SUBSCRIBE => rfl
      | RSRC_UNSUBSCRIBE => rfl
      | RSRC_STATUS_MAX => rfl
  | retryCallback => exact absurd rfl hc

/-! ## The start of the data call -/

/-- The request in Released is answered by the result of the start. -/
theorem dsSend_ok (openResult : Int) (timer : Bool) (m : AgpsStateMachine) :
    (dsSendRsrcRequest openResult timer .GPS_REQUEST_AGPS_DATA_CONN m).1 = 0 ↔
      openResult = LOC_API_ADAPTER_ERR_SUCCESS := by
  have hdata : (dataCallCb openResult .GPS_REQUEST_AGPS_DATA_CONN m).1
      = openResult := rfl
  rw [dsSendRsrcRequest]
  dsimp only
  rw [hdata]
  by_cases hbusy : openResult = LOC_API_ADAPTER_ERR_ENGINE_BUSY
  · have hne : openResult ≠ LOC_API_ADAPTER_ERR_SUCCESS := by
      rw [hbusy]
      decide
    rw [if_pos hbusy]
    refine iff_of_false ?_ hne
    split
    · exact hne
    · cases timer with
      | true => exact Int.neg_ne_zero.mpr Int.one_ne_zero
      | false => exact hne
  · rw [if_neg hbusy]
    split
    · rfl
    · split
      · rfl
      · split <;> rfl

/-- The books after one event of the DS machine: a first subscriber's request
    is sent when the data call starts. -/
theorem lease_dsEvent (openResult : Int) (timer : Bool)
    (m : AgpsStateMachine) (e : RsrcEvent) :
    step agpsClients (sendOk (dsSendRsrcRequest openResult timer) m e)
        (lease m) (leaseEvent e)
      = step agpsClients (openResult == LOC_API_ADAPTER_ERR_SUCCESS)
        (lease m) (leaseEvent e) := by
  cases e with
  | subscribe s =>
      have hok : sendOk (dsSendRsrcRequest openResult timer) m (.subscribe s)
          = (openResult == LOC_API_ADAPTER_ERR_SUCCESS) := by
        rw [sendOk, Bool.eq_iff_iff, beq_iff_eq, beq_iff_eq]
        exact dsSend_ok openResult timer _
      rw [hok]
  | unsubscribe s => exact step_ok _ _ _ (fun a h => by cases h)
  | granted => exact step_ok _ _ _ (fun a h => by cases h)
  | released => exact step_ok _ _ _ (fun a h => by cases h)
  | denied => exact step_ok _ _ _ (fun a h => by cases h)

omit [SubscriberEquals] in
/-- The status calls are no data calls. -/
theorem dataCall_statusCalls (m : AgpsStateMachine) (status : AgpsRsrcStatus)
    (s : Subscriber) (action : AGpsStatusValue) :
    .dataCall action ∉ statusCalls m status s := by
  cases s <;> cases status <;>
    simp [statusCalls, classStatus, bitStatus, atlStatus, wifiStatus, dsStatus,
      informStatus, AgpsStateMachine.call]

omit [SubscriberEquals] in
theorem dataCall_wordCalls (m : AgpsStateMachine)
    (ws : List (Subscriber × Word)) (action : AGpsStatusValue) :
    .dataCall action ∉ wordCalls m ws := by
  intro h
  obtain ⟨w, -, hw⟩ := List.mem_flatMap.mp h
  exact dataCall_statusCalls m _ _ _ hw

/-- **ONE EVENT** of the DS machine: the books move, the words are told and
    the data call is started or stopped. -/
theorem dsEvent_spec (o : Outside) (m : AgpsStateMachine) (e : RsrcEvent) :
    let m' := m.stateEvent (dsSendRsrcRequest o.openResult o.timer) e
    let L' := step agpsClients (o.openResult == LOC_API_ADAPTER_ERR_SUCCESS)
      (lease m) (leaseEvent e)
    ∃ cs, Asked dsCalls L'.1.clients m.mType L'.2 cs ∧ lease m' = L'.1 ∧
      m'.mEnforceSingleSubscriber = m.mEnforceSingleSubscriber ∧
      newCalls m m'
        = wordCalls m (told agpsClients (lease m) (leaseEvent e)) ++ cs := by
  have hsend := sends_ds o.openResult o.timer
  have hlease := lease_stateEvent hsend m e
  obtain ⟨cs, r, hask, hev⟩ := stateEvent_spec hsend m e
  rw [lease_dsEvent] at hlease hask
  refine ⟨cs, hask, hlease, ?_, ?_⟩
  · rw [hev]
  · rw [hev, newCalls, List.drop_left]

/-- The data call is started exactly when the lease is asked for. -/
theorem starts_iff (o : Outside) (m : AgpsStateMachine) (e : RsrcEvent) :
    .dataCall .GPS_REQUEST_AGPS_DATA_CONN ∈ newCalls m
        (m.stateEvent (dsSendRsrcRequest o.openResult o.timer) e) ↔
      (step agpsClients (o.openResult == LOC_API_ADAPTER_ERR_SUCCESS)
        (lease m) (leaseEvent e)).2 = some .request := by
  obtain ⟨cs, hask, -, -, hcs⟩ := dsEvent_spec o m e
  rw [hcs, List.mem_append, or_iff_right (dataCall_wordCalls m _ _)]
  generalize (step agpsClients (o.openResult == LOC_API_ADAPTER_ERR_SUCCESS)
    (lease m) (leaseEvent e)).2 = ask at hask
  cases ask with
  | none =>
      rw [show cs = [] from hask]
      simp
  | some ask =>
      cases ask with
      | request =>
          obtain ⟨rest, rfl, -⟩ := hask
          simp
      | giveBack =>
          obtain ⟨rest, rfl, hrest⟩ := hask
          refine iff_of_false ?_ (fun h => by cases h)
          intro hmem
          rcases List.mem_cons.mp hmem with h | h
          · cases h
          · rcases hrest _ h with h | ⟨ID, h⟩ <;> cases h

end Ds

/-! ## Waiting in Pending -/

/-- The answer to the last start of the data call, and whether the call has
    ended since. -/
structure StartLog where
  lastStart : Option Int
  ended : Bool
deriving DecidableEq, Repr

/-- A start answers with the adapter's result; without one a terminal event
    ends the call. -/
def noteStart (g : StartLog) (r : DsRun) (a : DsAction × Outside)
    (r' : DsRun) : StartLog :=
  if .dataCall .GPS_REQUEST_AGPS_DATA_CONN ∈ newCalls r.sm r'.sm then
    ⟨some a.2.openResult, false⟩
  else ⟨g.lastStart, g.ended || terminal a.1⟩

/-- In Pending the last start was accepted and its call has not ended. -/
def AwaitsAnswer (p : DsRun × StartLog) : Prop :=
  p.1.sm.mStatePtr = .Pending →
    p.2.lastStart = some LOC_API_ADAPTER_ERR_SUCCESS ∧ p.2.ended = false

/-- A release that ends with an active subscriber left, for whom the data
    call is started anew, finds the adapter ready. -/
def RestartAccepted (p : DsRun × StartLog) (a : DsAction × Outside) : Prop :=
  terminal a.1 = true → p.1.sm.mStatePtr = .Releasing →
    (∃ s ∈ p.1.sm.mSubscribers, s.isInactive = false) →
    a.2.openResult = LOC_API_ADAPTER_ERR_SUCCESS

/-- The machine serves any number of subscribers, and in Pending it awaits
    an answer. -/
structure StartLaw (p : DsRun × StartLog) : Prop where
  multiple : p.1.sm.mEnforceSingleSubscriber = false
  awaits : AwaitsAnswer p

section Ds

variable [SubscriberEquals]

/-- The DS machine with its starts noted. -/
def startSys : TransSys (DsRun × StartLog) (DsAction × Outside) :=
  watched dsSys ⟨none, false⟩ noteStart

/-- A retry is requested for an active subscriber, and touches nothing. -/
theorem retryCallback_eq (m : AgpsStateMachine) :
    ∃ cs, m.retryCallback = { m with calls := m.calls ++ cs } ∧
      ∀ c ∈ cs, ∃ s ∈ m.mSubscribers, s.isInactive = false ∧
        c = .requestSuplES s.ID := by
  rw [retryCallback, findSubscriber_eq]
  cases hf : m.mSubscribers.find?
      (forMe ⟨.BROADCAST_ACTIVE, .RSRC_STATUS_MAX, false⟩) with
  | none => exact ⟨[], by simp, fun c hc => by cases hc⟩
  | some s =>
      have hforMe : forMe ⟨.BROADCAST_ACTIVE, .RSRC_STATUS_MAX, false⟩ s
          = true := List.find?_some hf
      have hact : (!s.isInactive) = true := hforMe
      refine ⟨[.requestSuplES s.ID], rfl, ?_⟩
      intro c hc
      exact ⟨s, List.mem_of_find?_eq_some hf, by simpa using hact,
        List.mem_singleton.mp hc⟩

/-- The event of the current state that an action is. -/
inductive DsCause (r : DsRun) : DsAction → RsrcEvent → Prop where
  | subscribe (ID : UInt32) :
      DsCause r (.subscribeRsrc ID) (.subscribe (.DSSubscriber ID false))
  | resubscribe {ID : UInt32} (h : r.requested.head? = some ID) :
      DsCause r .resubscribe (.subscribe (.DSSubscriber ID false))
  | unsubscribe {ID : UInt32} {s : Subscriber} (hs : s ∈ r.sm.mSubscribers)
      (h : SubscriberEquals.equals s (.DSSubscriber ID false) = true) :
      DsCause r (.unsubscribeRsrc ID) (.unsubscribe s)
  | granted : DsCause r (.onRsrcEvent .RSRC_GRANTED) .granted
  | released (hp : r.sm.mStatePtr ≠ .Pending)
      (hr : r.sm.mStatePtr ≠ .Released) :
      DsCause r (.onRsrcEvent .RSRC_RELEASED) .released
  | disconnected (h : r.sm.mStatePtr = .Pending ∨ r.sm.mStatePtr = .Released) :
      DsCause r (.onRsrcEvent .RSRC_RELEASED) .denied
  | denied : DsCause r (.onRsrcEvent .RSRC_DENIED) .denied

theorem dsCause_of {r : DsRun} {a : DsAction} {c : ClassAction}
    {e : RsrcEvent} (hc : r.callOf a = some c)
    (he : dsEventOf r.sm c = some e) : DsCause r a e := by
  cases a with
  | subscribeRsrc ID =>
      cases Option.some.inj hc
      cases Option.some.inj he
      exact .subscribe ID
  | resubscribe =>
      obtain ⟨ID, hID, rfl⟩ := Option.map_eq_some_iff.mp hc
      cases Option.some.inj he
      exact .resubscribe hID
  | unsubscribeRsrc ID =>
      cases Option.some.inj hc
      obtain ⟨s, hs, rfl⟩ := Option.map_eq_some_iff.mp he
      rw [findSubscriber_eq] at hs
      have hforMe : forMe ⟨.rcver (.DSSubscriber ID false), .RSRC_STATUS_MAX,
        false⟩ s = true := List.find?_some hs
      exact .unsubscribe (List.mem_of_find?_eq_some hs) hforMe
  | retryCallback =>
      have hcall : (if 0 < r.timers then some ClassAction.retryCallback
        else none) = some c := hc
      split at hcall
      · cases Option.some.inj hcall
        cases he
      · cases hcall
  | onRsrcEvent event =>
      cases Option.some.inj hc
      cases event with
      | RSRC_GRANTED =>
          cases Option.some.inj he
          exact .granted
      | RSRC_RELEASED =>
          rw [dsEventOf] at he
          by_cases hp : r.sm.mStatePtr = .Pending ∨ r.sm.mStatePtr = .Released
          · rw [if_pos hp] at he
            cases Option.some.inj he
            exact .disconnected hp
          · rw [if_neg hp] at he
            cases Option.some.inj he
            exact .released (fun h => hp (Or.inl h)) (fun h => hp (Or.inr h))
      | RSRC_DENIED =>
          cases Option.some.inj he
          exact .denied
      | RSRC_SUBSCRIBE => cases he
      | RSRC_UNSUBSCRIBE => cases he
      | RSRC_STATUS_MAX => cases he

/-- An action that is no event ends nothing. -/
theorem terminal_of_none {r : DsRun} {a : DsAction} {c : ClassAction}
    (hc : r.callOf a = some c) (he : dsEventOf r.sm c = none) :
    terminal a = false := by
  cases a with
  | subscribeRsrc ID => rfl
  | resubscribe => rfl
  | unsubscribeRsrc ID => rfl
  | retryCallback => rfl
  | onRsrcEvent event =>
      cases Option.some.inj hc
      cases event <;> first | rfl | cases he

/-- A step of the machine: an event of the current state, a retry, or
    nothing. -/
theorem dsSys_move {r r' : DsRun} {a : DsAction × Outside}
    (hm : r.sm.mEnforceSingleSubscriber = false)
    (h : dsSys.step r a = some r') :
    (∃ e, DsCause r a.1 e ∧ r'.sm = r.sm.stateEvent
        (dsSendRsrcRequest a.2.openResult a.2.timer) e) ∨
    (a.1 = .retryCallback ∧ r'.sm = r.sm.retryCallback) ∨
    (terminal a.1 = false ∧ r'.sm = r.sm) := by
  obtain ⟨c, hc, rfl⟩ := dsSys_step h
  by_cases hretry : c = .retryCallback
  · subst hretry
    refine Or.inr (Or.inl ⟨?_, rfl⟩)
    obtain ⟨a, o⟩ := a
    cases a with
    | retryCallback => rfl
    | subscribeRsrc ID => cases hc
    | unsubscribeRsrc ID => cases hc
    | onRsrcEvent event => cases hc
    | resubscribe =>
        obtain ⟨ID, -, hID⟩ := Option.map_eq_some_iff.mp hc
        cases hID
  · have hact := dsAct_eq hm a.2 hretry
    cases he : dsEventOf r.sm c with
    | none =>
        rw [he] at hact
        exact Or.inr (Or.inr ⟨terminal_of_none hc he, hact⟩)
    | some e =>
        rw [he] at hact
        exact Or.inl ⟨e, dsCause_of hc he, hact⟩

/-- A terminal event ends a release or a request. -/
theorem DsCause.terminal_iff {r : DsRun} {a : DsAction} {e : RsrcEvent}
    (h : DsCause r a e) : terminal a = true ↔ e = .released ∨ e = .denied := by
  cases h <;> simp [terminal]

/-- In Pending a RELEASED is a DENIED. -/
theorem DsCause.pending {r : DsRun} {a : DsAction} {e : RsrcEvent}
    (h : DsCause r a e) (hp : r.sm.mStatePtr = .Pending) : e ≠ .released := by
  rintro rfl
  cases h with
  | released hne _ => exact hne hp

theorem any_active_iff (l : List Subscriber) :
    l.any agpsClients.active = true ↔ ∃ s ∈ l, s.isInactive = false := by
  simp [agpsClients]

omit [SubscriberEquals] in
/-- A step without event and without start keeps the law. -/
theorem startLaw_quiet {r r' : DsRun} {g : StartLog}
    {a : DsAction × Outside} (h : StartLaw (r, g))
    (hmult : r'.sm.mEnforceSingleSubscriber = r.sm.mEnforceSingleSubscriber)
    (hstate : r'.sm.mStatePtr = r.sm.mStatePtr)
    (hquiet : .dataCall .GPS_REQUEST_AGPS_DATA_CONN ∉ newCalls r.sm r'.sm)
    (hterm : terminal a.1 = false) : StartLaw (r', noteStart g r a r') := by
  refine ⟨hmult.trans h.multiple, ?_⟩
  intro hpend
  rw [noteStart, if_neg hquiet, hterm, Bool.or_false]
  exact h.awaits (hstate.symm.trans hpend)

/-- An event under the condition keeps the law. -/
theorem startLaw_event {r r' : DsRun} {g : StartLog}
    {a : DsAction × Outside} (h : StartLaw (r, g))
    (hg : RestartAccepted (r, g) a) {e : RsrcEvent}
    (hcause : DsCause r a.1 e)
    (hsm : r'.sm = r.sm.stateEvent
      (dsSendRsrcRequest a.2.openResult a.2.timer) e) :
    StartLaw (r', noteStart g r a r') := by
  obtain ⟨cs, -, hlease, hmult, -⟩ := dsEvent_spec a.2 r.sm e
  have hstarts := starts_iff a.2 r.sm e
  rw [← hsm] at hlease hmult hstarts
  refine ⟨hmult.trans h.multiple, ?_⟩
  intro hpend
  have hasking : (lease r'.sm).phase = .asking :=
    (phaseOf_eq_iff _ .Pending).mpr hpend
  rw [hlease] at hasking
  rcases asking_step hasking with ⟨-, hok, hreq⟩ |
    ⟨hend, hev, hact, hreq⟩ | ⟨hphase, hne, hreq⟩
  · -- in Released the result is looked at
    rw [noteStart, if_pos (hstarts.mpr hreq)]
    exact ⟨congrArg some (beq_iff_eq.mp hok), rfl⟩
  · -- in Releasing it is not, which is what the condition is for
    have hterm : terminal a.1 = true := by
      rw [hcause.terminal_iff]
      cases e with
      | released => exact Or.inl rfl
      | denied => exact Or.inr rfl
      | subscribe s => rcases hev with hev | hev <;> cases hev
      | unsubscribe s => rcases hev with hev | hev <;> cases hev
      | granted => rcases hev with hev | hev <;> cases hev
    have hok := hg hterm ((phaseOf_eq_iff _ .Releasing).mp hend)
      ((any_active_iff _).mp hact)
    rw [noteStart, if_pos (hstarts.mpr hreq)]
    exact ⟨congrArg some hok, rfl⟩
  · have hwas : r.sm.mStatePtr = .Pending :=
      (phaseOf_eq_iff _ .Pending).mp hphase
    obtain ⟨hlast, hended⟩ := h.awaits hwas
    -- a terminal event would be a denial, and that leaves Pending
    have hterm : terminal a.1 = false := by
      cases ht : terminal a.1 with
      | false => rfl
      | true =>
          rcases hcause.terminal_iff.mp ht with rfl | rfl
          · exact absurd rfl (hcause.pending hwas)
          · exact absurd rfl hne
    rw [noteStart, if_neg (fun hmem => hreq (hstarts.mp hmem)), hterm,
      Bool.or_false]
    exact ⟨hlast, hended⟩

/-- A step that meets the condition keeps the law. -/
theorem startLaw_step {p p' : DsRun × StartLog} {a : DsAction × Outside}
    (h : StartLaw p) (hg : RestartAccepted p a)
    (hs : startSys.step p a = some p') : StartLaw p' := by
  obtain ⟨r, g⟩ := p
  obtain ⟨r', g'⟩ := p'
  obtain ⟨hstep, hnote⟩ := watched_step hs
  obtain rfl : g' = noteStart g r a r' := hnote
  rcases dsSys_move h.multiple hstep with ⟨e, hcause, hsm⟩ |
    ⟨hretry, hsm⟩ | ⟨hterm, hsm⟩
  · exact startLaw_event h hg hcause hsm
  · obtain ⟨cs, hk, hcs⟩ := retryCallback_eq r.sm
    rw [← hsm] at hk
    refine startLaw_quiet h (by rw [hk]) (by rw [hk]) ?_ (by rw [hretry]; rfl)
    rw [hk, newCalls, List.drop_left]
    intro hmem
    obtain ⟨s, -, -, hs⟩ := hcs _ hmem
    cases hs
  · refine startLaw_quiet h (by rw [hsm]) (by rw [hsm]) ?_ hterm
    rw [hsm, newCalls, List.drop_length]
    exact List.not_mem_nil

/-- A step that does not meet the condition ends in Pending without an
    accepted start. -/
theorem not_awaits_step {p p' : DsRun × StartLog} {a : DsAction × Outside}
    (h : StartLaw p) (hg : ¬ RestartAccepted p a)
    (hs : startSys.step p a = some p') : ¬ AwaitsAnswer p' := by
  obtain ⟨r, g⟩ := p
  obtain ⟨r', g'⟩ := p'
  obtain ⟨hstep, hnote⟩ := watched_step hs
  obtain rfl : g' = noteStart g r a r' := hnote
  have hterm : terminal a.1 = true := by
    by_contra ht
    exact hg (fun h => absurd h ht)
  have hrest : r.sm.mStatePtr = .Releasing ∧
      (∃ s ∈ r.sm.mSubscribers, s.isInactive = false) ∧
      a.2.openResult ≠ LOC_API_ADAPTER_ERR_SUCCESS := by
    by_contra hn
    refine hg (fun _ hstate hact => ?_)
    by_contra hok
    exact hn ⟨hstate, hact, hok⟩
  obtain ⟨hstate, hact, hok⟩ := hrest
  rcases dsSys_move h.multiple hstep with ⟨e, hcause, hsm⟩ |
    ⟨hretry, hsm⟩ | ⟨hquiet, hsm⟩
  · -- the active subscribers are requested for again
    have hrenew := renew_active ((any_active_iff _).mpr hact)
    have hnext : step agpsClients
        (a.2.openResult == LOC_API_ADAPTER_ERR_SUCCESS) (lease r.sm)
        (leaseEvent e) = renew agpsClients r.sm.mSubscribers := by
      have hlease : lease r.sm = ⟨.ending, r.sm.mSubscribers⟩ :=
        lease_of hstate rfl
      rw [hlease]
      rcases hcause.terminal_iff.mp hterm with rfl | rfl <;> rfl
    obtain ⟨cs, -, hlease, -, -⟩ := dsEvent_spec a.2 r.sm e
    have hstarts := (starts_iff a.2 r.sm e).mpr (by rw [hnext]; exact hrenew.2)
    rw [← hsm] at hlease hstarts
    rw [hnext] at hlease
    intro haw
    have hpend : r'.sm.mStatePtr = .Pending := by
      rw [← phaseOf_eq_iff]
      show (lease r'.sm).phase = .asking
      rw [hlease]
      exact hrenew.1
    obtain ⟨hlast, -⟩ := haw hpend
    rw [noteStart, if_pos hstarts] at hlast
    exact hok (Option.some.inj hlast)
  · rw [hretry] at hterm
    cases hterm
  · rw [hquiet] at hterm
    cases hterm

/-- **PENDING AWAITS AN ANSWER**, in every state of a run, exactly when at
    the end of every release that leaves an active subscriber the start of
    the data call is accepted. -/
theorem pending_awaits_iff (l : List (DsAction × Outside)) :
    HoldsAlong startSys AwaitsAnswer (dsNew, ⟨none, false⟩) l ↔
      StepsMeet startSys RestartAccepted (dsNew, ⟨none, false⟩) l := by
  refine holdsAlong_iff_stepsMeet (I := StartLaw) (fun _ h => h.awaits)
    (fun _ _ _ h hg hs => startLaw_step h hg hs)
    (fun _ _ _ h hg hs => not_awaits_step h hg hs) l ⟨rfl, ?_⟩
  exact fun h => by cases h

end Ds

/-- The adapter knows no profile for the emergency call. -/
def unsupported : Outside := ⟨LOC_API_ADAPTER_ERR_UNSUPPORTED, true⟩

/-- Handle 1 has its data call and releases it, handle 2 comes meanwhile, and
    the start at the end of the release is refused. -/
def restartRefused : List (DsAction × Outside) :=
  [(.subscribeRsrc 1, started), (.onRsrcEvent .RSRC_GRANTED, started),
   (.unsubscribeRsrc 1, started), (.subscribeRsrc 2, started),
   (.onRsrcEvent .RSRC_RELEASED, unsupported)]

/-- The machine waits in Pending for an answer that does not come. -/
theorem restart_refused_waits :
    ¬ (∀ l, HoldsAlong (@startSys (codeEquals (fun _ => []))) AwaitsAnswer
      (dsNew, ⟨none, false⟩) l) := by
  intro hall
  let _ : SubscriberEquals := codeEquals (fun _ => [])
  have hrun : (exec startSys (dsNew, ⟨none, false⟩) restartRefused).map
      (fun p => (p.1.sm.mStatePtr, p.2))
      = some (.Pending, ⟨some LOC_API_ADAPTER_ERR_UNSUPPORTED, false⟩) := by
    decide +kernel
  obtain ⟨p, hp, hend⟩ := Option.map_eq_some_iff.mp hrun
  have hstate : p.1.sm.mStatePtr = .Pending := congrArg Prod.fst hend
  have hlog : p.2 = ⟨some LOC_API_ADAPTER_ERR_UNSUPPORTED, false⟩ :=
    congrArg Prod.snd hend
  obtain ⟨hlast, -⟩ := (hall restartRefused).last hp hstate
  rw [hlog] at hlast
  exact absurd (Option.some.inj hlast) (by decide)

end QcomAgps
