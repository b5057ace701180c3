import QcomCommon.AgpsInvariantProofs

/-! # The DS machine, and subscribers that wait for the release

    `DSStateMachine` starts its data call through the adapter, which may
    refuse; a refused start is retried, or the subscriber is told to fall
    back to ATL.  Its subscribers stay in the list, inactive, until the
    release completes.

    A subscription finds its entry by ID.  Where an inactive entry with the
    ID is still in the list, nothing is added and nobody is told: the
    subscription is lost.  That is the only case
    (`subscription_lost_iff`). -/

namespace QcomAgps

open QcomTransition QcomLease AgpsStateMachine

/-! ## `DSStateMachine` -/

/-- The data call was opened. -/
def LOC_API_ADAPTER_ERR_SUCCESS : Int := 0

/-- The modem has no data calls. -/
def LOC_API_ADAPTER_ERR_UNSUPPORTED : Int := 2

/-- The data call may be tried again later. -/
def LOC_API_ADAPTER_ERR_ENGINE_BUSY : Int := 6

/-- How often it is. -/
def MAX_START_DATA_CALL_RETRIES : UInt8 := 4

/-- How much later. -/
def DATA_CALL_RETRY_DELAY_MSEC : Nat := 500

/-- `dataCallCb`: only the start of the call has a result, `openResult`. -/
def dataCallCb (openResult : Int) (action : AGpsStatusValue)
    (m : AgpsStateMachine) : Int × AgpsStateMachine :=
  match action with
  | .GPS_REQUEST_AGPS_DATA_CONN => (openResult, m.call (.dataCall action))
  | .GPS_RELEASE_AGPS_DATA_CONN => (0, m.call (.dataCall action))

section Ds

variable [SubscriberEquals]

/-- `DSStateMachine::sendRsrcRequest`.  `timer` is whether
    `loc_timer_start` returns a handle, which the code takes for an
    error. -/
def dsSendRsrcRequest (openResult : Int) (timer : Bool) : SendRsrcRequest :=
  fun action m =>
    let connHandle : UInt32 :=
      match m.findSubscriber ⟨.BROADCAST_ACTIVE, .RSRC_STATUS_MAX, false⟩ with
      | some s => s.ID
      | none => 0xffffffff
    let r := dataCallCb openResult action m
    let ret := r.1
    if ret = LOC_API_ADAPTER_ERR_ENGINE_BUSY then
      -- tried again later, unless the retries are used up
      let m' := { r.2 with mRetries := r.2.mRetries + 1 }
      if m'.mRetries > MAX_START_DATA_CALL_RETRIES then
        (ret, m'.informStatus .RSRC_DENIED connHandle)
      else
        -- a timer handle is not NULL, which the code reads as a failure
        (if timer then -1 else ret,
          m'.call (.loc_timer_start DATA_CALL_RETRY_DELAY_MSEC))
    else if ret = LOC_API_ADAPTER_ERR_UNSUPPORTED then
      (ret, r.2.informStatus .RSRC_DENIED connHandle)
    else if ret = LOC_API_ADAPTER_ERR_SUCCESS then (ret, r.2)
    else if ret = -1 then (ret, r.2.informStatus .RSRC_DENIED connHandle)
    else (ret, r.2)

namespace AgpsStateMachine

/-- `DSStateMachine::retryCallback`. -/
def retryCallback (m : AgpsStateMachine) : AgpsStateMachine :=
  match m.findSubscriber ⟨.BROADCAST_ACTIVE, .RSRC_STATUS_MAX, false⟩ with
  | some s => m.call (.requestSuplES s.ID)
  | none => m

/-- `DSStateMachine::onRsrcEvent`: a RELEASED that changes no state is
    handled as a DENIED. -/
def dsOnRsrcEvent (send : SendRsrcRequest) (m : AgpsStateMachine)
    (event : AgpsRsrcStatus) : AgpsStateMachine :=
  match event with
  | .RSRC_GRANTED => m.stateEvent send .granted
  | .RSRC_RELEASED =>
      let m' := m.stateEvent send .released
      -- a RELEASED in Pending: the data call did not come up
      if m'.mStatePtr ≠ m.mStatePtr then m' else m'.stateEvent send .denied
  | .RSRC_DENIED => m.stateEvent send .denied
  | _ => m

end AgpsStateMachine

/-! ## Machines of either class -/

/-- The class of the machine. -/
inductive MachineClass where
  | AgpsStateMachine
  | DSStateMachine
deriving DecidableEq, Repr

/-- What the adapter and the timer answer during one call. -/
structure Outside where
  openResult : Int
  timer : Bool
deriving DecidableEq, Repr

/-- The class's `sendRsrcRequest`. -/
def classSend (c : MachineClass) (o : Outside) : SendRsrcRequest :=
  match c with
  | .AgpsStateMachine => sendRsrcRequest
  | .DSStateMachine => dsSendRsrcRequest o.openResult o.timer

/-- A call of a machine of either class. -/
inductive ClassAction where
  | subscribeRsrc (subscriber : Subscriber)
  | unsubscribeRsrc (subscriber : Subscriber)
  | onRsrcEvent (event : AgpsRsrcStatus)
  | retryCallback
deriving DecidableEq, Repr

/-- One call of a machine of class `c`. -/
def classAct (c : MachineClass) (o : Outside) (m : AgpsStateMachine) :
    ClassAction → AgpsStateMachine
  | .subscribeRsrc s => m.subscribeRsrc (classSend c o) s
  | .unsubscribeRsrc s => (m.unsubscribeRsrc (classSend c o) s).2
  | .onRsrcEvent event =>
      match c with
      | .AgpsStateMachine => m.onRsrcEvent (classSend c o) event
      | .DSStateMachine => m.dsOnRsrcEvent (classSend c o) event
  | .retryCallback =>
      match c with
      | .AgpsStateMachine => m
      | .DSStateMachine => m.retryCallback

/-- The runs of a machine from Released and empty. -/
def classSys (c : MachineClass) :
    TransSys AgpsStateMachine (ClassAction × Outside) where
  init m := m.mStatePtr = .Released ∧ m.mSubscribers = []
  step m a := some (classAct c a.2 m a.1)

/-- Those who subscribe wait for the release to complete. -/
def Waiting (_ : AgpsStateMachine) : ClassAction × Outside → Prop
  | (.subscribeRsrc s, _) => s.waitForCloseComplete = true
  | _ => True

/-! ## One call -/

omit [SubscriberEquals] in
/-- A start with this answer falls back to ATL: no profile, an error, or the
    retries are used up. -/
def fallsBack (openResult : Int) (retries : UInt8) : Bool :=
  openResult == LOC_API_ADAPTER_ERR_UNSUPPORTED || openResult == -1 ||
    (openResult == LOC_API_ADAPTER_ERR_ENGINE_BUSY &&
      decide (MAX_START_DATA_CALL_RETRIES < retries + 1))

omit [SubscriberEquals] in
theorem fallsBack_busy (retries : UInt8) :
    fallsBack LOC_API_ADAPTER_ERR_ENGINE_BUSY retries
      = decide (MAX_START_DATA_CALL_RETRIES < retries + 1) := by
  simp [fallsBack, LOC_API_ADAPTER_ERR_UNSUPPORTED,
    LOC_API_ADAPTER_ERR_ENGINE_BUSY]

omit [SubscriberEquals] in
/-- The handle a start is made for: that of the first active entry. -/
def connHandle (l : List Subscriber) : UInt32 :=
  ((l.find? (fun s => !s.isInactive)).map Subscriber.ID).getD 0xffffffff

theorem connHandle_eq (m : AgpsStateMachine) :
    (match m.findSubscriber ⟨.BROADCAST_ACTIVE, .RSRC_STATUS_MAX, false⟩ with
      | some s => s.ID
      | none => 0xffffffff) = connHandle m.mSubscribers := by
  rw [findSubscriber_eq, connHandle]
  show (match m.mSubscribers.find? (fun s => !s.isInactive) with
    | some s => s.ID
    | none => 0xffffffff) = _
  cases m.mSubscribers.find? (fun s => !s.isInactive) <;> rfl

/-- A start that falls back: the first active handle is handed over. -/
theorem dsStart_fallback {openResult : Int} {m : AgpsStateMachine}
    (h : fallsBack openResult m.mRetries = true) (timer : Bool) :
    (dsSendRsrcRequest openResult timer .GPS_REQUEST_AGPS_DATA_CONN m).2
      = m.withCalls m.mSubscribers
        [.dataCall .GPS_REQUEST_AGPS_DATA_CONN,
          .requestATL (connHandle m.mSubscribers) .AGPS_TYPE_SUPL] := by
  rw [dsSendRsrcRequest, dataCallCb]
  dsimp only
  rw [connHandle_eq]
  generalize connHandle m.mSubscribers = ID
  have hdenied : ∀ r, ({ m.call (.dataCall .GPS_REQUEST_AGPS_DATA_CONN) with
      mRetries := r }).informStatus .RSRC_DENIED ID
      = m.withCalls m.mSubscribers [.dataCall .GPS_REQUEST_AGPS_DATA_CONN,
        .requestATL ID .AGPS_TYPE_SUPL] := by
    intro r
    simp [informStatus, AgpsStateMachine.call, withCalls, fallback]
  by_cases hbusy : openResult = LOC_API_ADAPTER_ERR_ENGINE_BUSY
  · rw [hbusy, fallsBack_busy] at h
    have hmax : (m.call (.dataCall .GPS_REQUEST_AGPS_DATA_CONN)).mRetries + 1
        > MAX_START_DATA_CALL_RETRIES := of_decide_eq_true h
    rw [if_pos hbusy, if_pos hmax]
    exact hdenied _
  · rw [if_neg hbusy]
    by_cases hun : openResult = LOC_API_ADAPTER_ERR_UNSUPPORTED
    · rw [if_pos hun]
      exact hdenied _
    · have herr : openResult = -1 := by
        simpa [fallsBack, hun, hbusy] using h
      have hok : openResult ≠ LOC_API_ADAPTER_ERR_SUCCESS := by
        rw [herr]
        decide
      rw [if_neg hun, if_neg hok, if_pos herr]
      exact hdenied _

/-- A start that does not fall back: a busy engine is tried again later. -/
theorem dsStart_kept {openResult : Int} {m : AgpsStateMachine}
    (h : fallsBack openResult m.mRetries = false) (timer : Bool) :
    (dsSendRsrcRequest openResult timer .GPS_REQUEST_AGPS_DATA_CONN m).2
      = if openResult = LOC_API_ADAPTER_ERR_ENGINE_BUSY then
          { m with
            mRetries := m.mRetries + 1
            calls := m.calls ++ [.dataCall .GPS_REQUEST_AGPS_DATA_CONN,
              .loc_timer_start DATA_CALL_RETRY_DELAY_MSEC] }
        else m.call (.dataCall .GPS_REQUEST_AGPS_DATA_CONN) := by
  rw [dsSendRsrcRequest, dataCallCb]
  dsimp only
  by_cases hbusy : openResult = LOC_API_ADAPTER_ERR_ENGINE_BUSY
  · rw [hbusy, fallsBack_busy] at h
    have hmax : ¬ (m.call (.dataCall .GPS_REQUEST_AGPS_DATA_CONN)).mRetries
        + 1 > MAX_START_DATA_CALL_RETRIES := of_decide_eq_false h
    rw [if_pos hbusy, if_pos hbusy, if_neg hmax]
    simp [AgpsStateMachine.call]
  · have hun : openResult ≠ LOC_API_ADAPTER_ERR_UNSUPPORTED := by
      rintro rfl
      simp [fallsBack] at h
    have herr : openResult ≠ -1 := by
      rintro rfl
      simp [fallsBack] at h
    rw [if_neg hbusy, if_neg hbusy, if_neg hun, if_neg herr]
    split <;> rfl

/-- Stopping the data call succeeds. -/
theorem dsStop_eq (openResult : Int) (timer : Bool) (m : AgpsStateMachine) :
    (dsSendRsrcRequest openResult timer .GPS_RELEASE_AGPS_DATA_CONN m).2
      = m.call (.dataCall .GPS_RELEASE_AGPS_DATA_CONN) := rfl

omit [SubscriberEquals] in
/-- The calls of the DS `sendRsrcRequest`: the data call, and for a start
    that failed a retry timer or the fallback. -/
def dsCalls : RequestCalls := fun action _ _ cs =>
  ∃ rest, cs = .dataCall action :: rest ∧
    ∀ c ∈ rest, c = .loc_timer_start DATA_CALL_RETRY_DELAY_MSEC ∨
      ∃ ID, c = .requestATL ID .AGPS_TYPE_SUPL

/-- Every branch of the DS `sendRsrcRequest` makes calls and changes the
    retry counter at most. -/
theorem sends_ds (openResult : Int) (timer : Bool) :
    Sends (dsSendRsrcRequest openResult timer) dsCalls := by
  intro action m
  have hplain : dsCalls action m.mSubscribers m.mType [.dataCall action] :=
    ⟨[], rfl, fun c hc => by cases hc⟩
  cases action with
  | GPS_RELEASE_AGPS_DATA_CONN =>
      exact ⟨_, hplain, m.mRetries, dsStop_eq openResult timer m⟩
  | GPS_REQUEST_AGPS_DATA_CONN =>
      cases hf : fallsBack openResult m.mRetries with
      | true =>
          rw [dsStart_fallback hf timer]
          exact ⟨_, ⟨_, rfl, fun c hc =>
            Or.inr ⟨_, List.mem_singleton.mp hc⟩⟩, withCalls_leads m _ _⟩
      | false =>
          rw [dsStart_kept hf timer]
          split
          · exact ⟨_, ⟨_, rfl, fun c hc => Or.inl (List.mem_singleton.mp hc)⟩,
              m.mRetries + 1, rfl⟩
          · exact ⟨_, hplain, m.mRetries, rfl⟩

/-- Nothing is said of the calls. -/
def anyRequests : RequestCalls := fun _ _ _ _ => True

theorem sends_class (c : MachineClass) (o : Outside) :
    Sends (classSend c o) anyRequests := by
  intro action m
  cases c with
  | AgpsStateMachine =>
      obtain ⟨cs, -, h⟩ := sends_plain action m
      exact ⟨cs, trivial, h⟩
  | DSStateMachine =>
      obtain ⟨cs, -, h⟩ := sends_ds o.openResult o.timer action m
      exact ⟨cs, trivial, h⟩

/-- The actions an event may come from: a subscription is its caller's, an
    unsubscription finds an entry. -/
def EventOf (m : AgpsStateMachine) (a : ClassAction) : RsrcEvent → Prop
  | .subscribe s => a = .subscribeRsrc s
  | .unsubscribe e => e ∈ m.mSubscribers
  | _ => True

omit [SubscriberEquals] in
theorem EventOf.named {P : Subscriber → Prop} {m : AgpsStateMachine}
    {a : ClassAction} {e : RsrcEvent} (h : EventOf m a e)
    (ha : ∀ s, a = .subscribeRsrc s → P s) :
    Named P (lease m) (leaseEvent e) := by
  cases e with
  | subscribe s => exact ha s h
  | unsubscribe e => exact h
  | granted => trivial
  | released => trivial
  | denied => trivial

/-- **ONE CALL**: what events, the refusal of a second subscriber and a retry
    keep, every call keeps. -/
theorem classAct_keeps {I : AgpsStateMachine → Prop} {c : MachineClass}
    {o : Outside} {m : AgpsStateMachine} (h : I m) {a : ClassAction}
    (hevent : ∀ m' e, I m' → EventOf m' a e →
      I (m'.stateEvent (classSend c o) e))
    (hdeny : ∀ s, a = .subscribeRsrc s →
      I (notifySubscriber ⟨.BROADCAST_ALL, .RSRC_DENIED, true⟩ s m).2)
    (hretry : c = .DSStateMachine → ∀ s ∈ m.mSubscribers,
      I (m.call (.requestSuplES s.ID))) :
    I (classAct c o m a) := by
  cases a with
  | subscribeRsrc s =>
      show I (m.subscribeRsrc (classSend c o) s)
      rw [subscribeRsrc]
      split
      · exact hdeny s rfl
      · exact hevent m (.subscribe s) h rfl
  | unsubscribeRsrc s =>
      show I (m.unsubscribeRsrc (classSend c o) s).2
      rw [unsubscribeRsrc, findSubscriber_eq]
      cases hf : m.mSubscribers.find?
          (forMe ⟨.rcver s, .RSRC_STATUS_MAX, false⟩) with
      | none => exact h
      | some e =>
          exact hevent m (.unsubscribe e) h (List.mem_of_find?_eq_some hf)
  | onRsrcEvent event =>
      have hgranted := hevent m .granted h trivial
      have hreleased := hevent m .released h trivial
      have hdenied := hevent m .denied h trivial
      cases c with
      | AgpsStateMachine =>
          cases event with
          | RSRC_GRANTED => exact hgranted
          | RSRC_RELEASED => exact hreleased
          | RSRC_DENIED => exact hdenied
          | RSRC_SUBSCRIBE => exact h
          | RSRC_UNSUBSCRIBE => exact h
          | RSRC_STATUS_MAX => exact h
      | DSStateMachine =>
          cases event with
          | RSRC_GRANTED => exact hgranted
          | RSRC_DENIED => exact hdenied
          | RSRC_RELEASED =>
              show I (m.dsOnRsrcEvent (classSend .DSStateMachine o)
                .RSRC_RELEASED)
              rw [dsOnRsrcEvent]
              split
              · exact hreleased
              · exact hevent _ .denied hreleased trivial
          | RSRC_SUBSCRIBE => exact h
          | RSRC_UNSUBSCRIBE => exact h
          | RSRC_STATUS_MAX => exact h
  | retryCallback =>
      cases c with
      | AgpsStateMachine => exact h
      | DSStateMachine =>
          show I m.retryCallback
          rw [retryCallback, findSubscriber_eq]
          split
          · next s hs =>
              exact hretry rfl s (List.mem_of_find?_eq_some hs)
          · exact h

/-! ## Lists that wait -/

/-- The subscribers that wait for the release. -/
def Waits (s : Subscriber) : Prop := s.waitForCloseComplete = true

/-- Every entry waits, none is there twice, and in Released all are
    active. -/
structure Tidy (m : AgpsStateMachine) : Prop where
  entries : Entries agpsClients Waits m.mSubscribers
  released : m.mStatePtr = .Released →
    ∀ s ∈ m.mSubscribers, s.isInactive = false

theorem tidy_event (hK : Lawful agpsClients Waits) {send : SendRsrcRequest}
    {R : RequestCalls} (hs : Sends send R) {m : AgpsStateMachine}
    (h : Tidy m) {e : RsrcEvent} (hn : Named Waits (lease m) (leaseEvent e)) :
    Tidy (m.stateEvent send e) := by
  have hlease := lease_stateEvent hs m e
  have hlist : (m.stateEvent send e).mSubscribers
      = (step agpsClients (sendOk send m e) (lease m) (leaseEvent e)).1.clients :=
    congrArg Lease.clients hlease
  have hphase : phaseOf (m.stateEvent send e).mStatePtr
      = (step agpsClients (sendOk send m e) (lease m) (leaseEvent e)).1.phase :=
    congrArg Lease.phase hlease
  refine ⟨hlist ▸ entries_step hK h.entries hn, ?_⟩
  intro hrel
  rw [← phaseOf_eq_iff, hphase] at hrel
  have hidle : (lease m).phase = .idle →
      ∀ s ∈ (lease m).clients, agpsClients.active s = true := by
    intro hp s hmem
    have hact := h.released ((phaseOf_eq_iff _ .Released).mp hp) s hmem
    simp [agpsClients, hact]
  have hactive := active_of_idle_step hidle hrel
  rw [hlist]
  intro s hmem
  simpa [agpsClients] using hactive s hmem

/-- A call of the single-subscriber branch leaves list and state alone. -/
theorem tidy_deny {m : AgpsStateMachine} (h : Tidy m) (s : Subscriber) :
    Tidy (notifySubscriber ⟨.BROADCAST_ALL, .RSRC_DENIED, true⟩ s m).2 := by
  obtain ⟨r, hr⟩ := notifyRsrcStatus_leads
    ⟨.BROADCAST_ALL, .RSRC_DENIED, true⟩ s m
  rw [notifySubscriber, hr]
  exact ⟨h.entries, h.released⟩

theorem tidy_act (hK : Lawful agpsClients Waits) (c : MachineClass)
    {m : AgpsStateMachine} (h : Tidy m) {a : ClassAction × Outside}
    (ha : Waiting m a) : Tidy (classAct c a.2 m a.1) := by
  obtain ⟨a, o⟩ := a
  refine classAct_keeps h ?_ ?_ ?_
  · intro m' e h' he
    refine tidy_event hK (sends_class c o) h' (he.named ?_)
    rintro s rfl
    exact ha
  · exact fun s _ => tidy_deny h s
  · exact fun _ _ _ => ⟨h.entries, h.released⟩

theorem tidy_reach (hK : Lawful agpsClients Waits) {c : MachineClass}
    {m : AgpsStateMachine} (h : ReachUnder (classSys c) Waiting m) :
    Tidy m := by
  refine reachUnder_inv (I := Tidy) ?_ ?_ h
  · rintro m ⟨-, hempty⟩
    refine ⟨hempty ▸ entries_nil, ?_⟩
    rw [hempty]
    exact fun _ s hs => by cases hs
  · intro m a m' hm ha hstep
    cases Option.some.inj hstep
    exact tidy_act hK c hm ha

/-! ## The subscription -/

omit [SubscriberEquals] in
/-- `s` is told that it is denied. -/
def ToldDenied (s : Subscriber) (cs : List Call) : Prop :=
  match s with
  | .BITSubscriber _ _ => .data_conn LOC_ENG_IF_REQUEST_SENDER_ID_GPSONE_DAEMON
      .GPSONE_LOC_API_IF_FAILURE ∈ cs
  | .ATLSubscriber ID _ =>
      ∃ apn bearer type, .atlOpenStatus ID false apn bearer type ∈ cs
  | .WIFISubscriber ID _ _ _ =>
      .data_conn ID .GPSONE_LOC_API_IF_FAILURE ∈ cs
  | .DSSubscriber ID _ => .requestATL ID .AGPS_TYPE_SUPL ∈ cs

/-- An entry of the list is active and equal to `s`. -/
def ActiveEntry (m : AgpsStateMachine) (s : Subscriber) : Prop :=
  ∃ e ∈ m.mSubscribers, e.isInactive = false ∧
    SubscriberEquals.equals e s = true

/-- In the single-subscriber branch the caller is told. -/
theorem toldDenied_single (m : AgpsStateMachine) (s : Subscriber) :
    ToldDenied s (newCalls m
      (notifySubscriber ⟨.BROADCAST_ALL, .RSRC_DENIED, true⟩ s m).2) := by
  obtain ⟨r, hr⟩ := notifyRsrcStatus_leads
    ⟨.BROADCAST_ALL, .RSRC_DENIED, true⟩ s m
  rw [notifySubscriber, hr, newCalls, List.drop_left]
  cases s with
  | BITSubscriber ID v6 => exact List.mem_singleton_self _
  | ATLSubscriber ID mode => exact ⟨_, _, _, List.mem_singleton_self _⟩
  | WIFISubscriber ID ssid pw b => exact List.mem_singleton_self _
  | DSSubscriber ID b => exact List.mem_singleton_self _

omit [SubscriberEquals] in
/-- A granted subscriber that waits is not told it is denied. -/
theorem not_toldDenied_granted (m : AgpsStateMachine) {s : Subscriber}
    (hs : Waits s) : ¬ ToldDenied s (statusCalls m .RSRC_GRANTED s) := by
  cases s with
  | BITSubscriber ID v6 => cases hs
  | ATLSubscriber ID mode => cases hs
  | WIFISubscriber ID ssid pw b =>
      simp [ToldDenied, statusCalls, classStatus, wifiStatus,
        AgpsStateMachine.call]
  | DSSubscriber ID b =>
      simp [ToldDenied, statusCalls, classStatus, dsStatus, informStatus,
        AgpsStateMachine.call]

/-- Outside Released a subscription calls nothing but a GRANTED. -/
theorem subscribe_not_denied {send : SendRsrcRequest} {R : RequestCalls}
    (hsend : Sends send R) {m : AgpsStateMachine}
    (hstate : m.mStatePtr ≠ .Released) {s : Subscriber} (hs : Waits s) :
    ¬ ToldDenied s (newCalls m (m.stateEvent send (.subscribe s))) := by
  obtain ⟨cs, r, hask, hev⟩ := stateEvent_spec hsend m (.subscribe s)
  have hphase : (lease m).phase ≠ .idle := by
    intro hp
    exact hstate ((phaseOf_eq_iff _ .Released).mp hp)
  have hnone := join_ask (K := agpsClients)
    (sendOk send m (.subscribe s)) hphase s
  have hcs : cs = [] := by
    rw [show leaseEvent (.subscribe s) = .join s from rfl, hnone] at hask
    exact hask
  rw [hev, newCalls, List.drop_left, hcs, List.append_nil]
  have hquiet : ¬ ToldDenied s [] := by
    cases s with
    | BITSubscriber ID v6 => cases hs
    | ATLSubscriber ID mode => cases hs
    | WIFISubscriber ID ssid pw b => exact List.not_mem_nil
    | DSSubscriber ID b => exact List.not_mem_nil
  rw [lease]
  cases hp : m.mStatePtr with
  | Released => exact absurd hp hstate
  | Pending => exact hquiet
  | Releasing => exact hquiet
  | Acquired =>
      show ¬ ToldDenied s (wordCalls m (hear agpsClients s .granted))
      rw [wordCalls_hear]
      split
      · exact not_toldDenied_granted m hs
      · exact hquiet

end Ds

/-- The code's `equals` is lawful on the subscribers that wait. -/
theorem lawful_waits (castIPv6 : Subscriber → List UInt8) :
    @Lawful Subscriber (@agpsClients (codeEquals castIPv6)) Waits := by
  refine @lawful_of_ids (codeEquals castIPv6) _ ?_ ?_ ?_
  · intro s hs
    cases s <;> exact hs
  · intro s hs
    cases s <;> exact hs
  · intro s t hs _
    cases s with
    | BITSubscriber ID v6 => cases hs
    | ATLSubscriber ID mode => rfl
    | WIFISubscriber ID ssid pw b => rfl
    | DSSubscriber ID b => rfl

/-- **LOST SUBSCRIPTIONS**: in every reachable state, a subscription leaves
    an active entry or a denial exactly when the machine refuses a second
    subscriber or no inactive entry equal to the subscriber is in the
    list. -/
theorem subscription_lost_iff (castIPv6 : Subscriber → List UInt8)
    {c : MachineClass} {m : AgpsStateMachine}
    (h : ReachUnder (@classSys (codeEquals castIPv6) c) Waiting m)
    (o : Outside) {s : Subscriber} (hs : s.waitForCloseComplete = true) :
    (@ActiveEntry (codeEquals castIPv6)
        (@classAct (codeEquals castIPv6) c o m (.subscribeRsrc s)) s ∨
      ToldDenied s (newCalls m
        (@classAct (codeEquals castIPv6) c o m (.subscribeRsrc s)))) ↔
    (m.mEnforceSingleSubscriber = true ∧ m.mSubscribers ≠ []) ∨
      ∀ e ∈ m.mSubscribers, (codeEquals castIPv6).equals e s = true →
        e.isInactive = false := by
  let _ : SubscriberEquals := codeEquals castIPv6
  have hK := lawful_waits castIPv6
  have htidy := tidy_reach hK h
  have hsend := sends_class c o
  show (ActiveEntry (m.subscribeRsrc (classSend c o) s) s ∨
    ToldDenied s (newCalls m (m.subscribeRsrc (classSend c o) s))) ↔ _
  by_cases hsingle : (m.mEnforceSingleSubscriber && m.hasSubscribers) = true
  · have hcond : m.mEnforceSingleSubscriber = true ∧ m.mSubscribers ≠ [] := by
      simpa [hasSubscribers] using hsingle
    rw [subscribeRsrc, if_pos hsingle]
    exact ⟨fun _ => Or.inl hcond, fun _ => Or.inr (toldDenied_single m s)⟩
  · have hcond : ¬ (m.mEnforceSingleSubscriber = true ∧
        m.mSubscribers ≠ []) := by
      simpa [hasSubscribers] using hsingle
    rw [subscribeRsrc, if_neg hsingle]
    have hlist : (m.stateEvent (classSend c o) (.subscribe s)).mSubscribers
        = add agpsClients s m.mSubscribers := by
      have hlease := lease_stateEvent hsend m (.subscribe s)
      rw [show leaseEvent (.subscribe s) = .join s from rfl] at hlease
      exact (congrArg Lease.clients hlease).trans (join_clients _ _ s)
    constructor
    · intro hok
      refine Or.inr (fun e he hes => ?_)
      cases hin : e.isInactive with
      | false => rfl
      | true =>
          -- the inactive entry is found, so nothing changes
          have hstate : m.mStatePtr ≠ .Released := by
            intro hrel
            rw [htidy.released hrel e he] at hin
            cases hin
          rcases hok with ⟨e', he', hact, hes'⟩ | hden
          · rw [hlist, add_of_same he hes] at he'
            have hne : e' ≠ e := by
              intro hee
              rw [hee, hin] at hact
              cases hact
            -- an active entry equal to s would be a second one beside e
            have hdiff := htidy.entries.same_false hK he' he hne
            have hse := hK.symm (htidy.entries.all e he) hs hes
            rw [hK.trans (htidy.entries.all e' he') hs
              (htidy.entries.all e he) hes' hse] at hdiff
            cases hdiff
          · exact absurd hden (subscribe_not_denied hsend hstate hs)
    · rintro (hc | hall)
      · exact absurd hc hcond
      · obtain ⟨b, hb, hbs, hb'⟩ := exists_same_add (K := agpsClients) s
          m.mSubscribers (hK.same_enter hs)
        refine Or.inl ⟨b, hlist ▸ hb, ?_, hbs⟩
        rcases hb' with hmem | hact
        · exact hall b hmem hbs
        · simpa [agpsClients] using hact

/-- The data call starts. -/
def started : Outside := ⟨LOC_API_ADAPTER_ERR_SUCCESS, true⟩

/-- DS subscriber 1 had its data call and unsubscribed; the release is under
    way. -/
def dsReleasing : AgpsStateMachine :=
  [ClassAction.subscribeRsrc (.DSSubscriber 1 false),
   .onRsrcEvent .RSRC_GRANTED,
   .unsubscribeRsrc (.DSSubscriber 1 false)].foldl
    (@classAct (codeEquals (fun _ => [])) .DSStateMachine started)
    (newMachine .AGPS_TYPE_INVALID)

theorem reach_dsReleasing :
    ReachUnder (@classSys (codeEquals (fun _ => [])) .DSStateMachine) Waiting
      dsReleasing :=
  .step (a := (.unsubscribeRsrc (.DSSubscriber 1 false), started))
    (.step (a := (.onRsrcEvent .RSRC_GRANTED, started))
      (.step (a := (.subscribeRsrc (.DSSubscriber 1 false), started))
        (.init ⟨rfl, rfl⟩) rfl rfl) trivial rfl) trivial rfl

/-- Another subscriber that comes then is not lost. -/
theorem subscription_kept :
    @ActiveEntry (codeEquals (fun _ => []))
        (@classAct (codeEquals (fun _ => [])) .DSStateMachine started
          dsReleasing (.subscribeRsrc (.DSSubscriber 2 false)))
        (.DSSubscriber 2 false) ∨
      ToldDenied (.DSSubscriber 2 false) (newCalls dsReleasing
        (@classAct (codeEquals (fun _ => [])) .DSStateMachine started
          dsReleasing (.subscribeRsrc (.DSSubscriber 2 false)))) := by
  refine (subscription_lost_iff (fun _ => []) reach_dsReleasing started
    rfl).mpr (Or.inr ?_)
  have hlist : dsReleasing.mSubscribers = [.DSSubscriber 1 true] := by
    decide +kernel
  rw [hlist]
  decide

/-- The same subscriber is: its inactive entry is found, and it is neither
    added nor told. -/
theorem resubscribe_lost :
    ¬ (∀ m, ReachUnder (@classSys (codeEquals (fun _ => [])) .DSStateMachine)
        Waiting m → ∀ (o : Outside) (s : Subscriber),
      s.waitForCloseComplete = true →
      @ActiveEntry (codeEquals (fun _ => []))
        (@classAct (codeEquals (fun _ => [])) .DSStateMachine o m
          (.subscribeRsrc s)) s ∨
      ToldDenied s (newCalls m
        (@classAct (codeEquals (fun _ => [])) .DSStateMachine o m
          (.subscribeRsrc s)))) := by
  intro hall
  let _ : SubscriberEquals := codeEquals (fun _ => [])
  have hlist : (classAct .DSStateMachine started dsReleasing
      (.subscribeRsrc (.DSSubscriber 1 false))).mSubscribers
        = [.DSSubscriber 1 true] := by decide +kernel
  have hcalls : newCalls dsReleasing (classAct .DSStateMachine started
      dsReleasing (.subscribeRsrc (.DSSubscriber 1 false))) = [] := by
    decide +kernel
  rcases hall dsReleasing reach_dsReleasing started (.DSSubscriber 1 false) rfl
    with ⟨e, he, hact, -⟩ | hden
  · rw [hlist] at he
    rw [List.mem_singleton.mp he] at hact
    cases hact
  · rw [hcalls] at hden
    cases hden

end QcomAgps
