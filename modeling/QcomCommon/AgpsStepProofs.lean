import QcomCommon.AgpsMachineProofs
import QcomCommon.LeaseProofs
import QcomCommon.TransitionProofs

/-! # One event of the AGPS machine

    What the functions of `loc_eng_agps.cpp` leave in the list and what they
    call, each stated once as an equation (`withCalls`), and from these
    **`stateEvent_eq`**: one event of the machine is one event of the lease
    protocol, whose words are the status calls and whose asks are the
    requests to the servicer.

    The other files never unfold the four states.  Where `sendRsrcRequest`
    leaves the list alone, `stateEvent_spec` says what list and calls are
    after it; the base class's is `sends_plain`. -/

namespace QcomAgps

open QcomSweep QcomTransition QcomLease AgpsStateMachine

/-- The machine `m` with the list `l` and, up to the retry counter, the calls
    `cs` made is `m'`. -/
def Leads (m m' : AgpsStateMachine) (l : List Subscriber) (cs : List Call) :
    Prop :=
  ∃ r, m' = { m with mSubscribers := l, mRetries := r, calls := m.calls ++ cs }

/-- One change behind another: the calls of both, and the clients of the
    second. -/
theorem Leads.trans {m m' m'' : AgpsStateMachine} {l l' : List Subscriber}
    {cs cs' : List Call} (h : Leads m m' l cs) (h' : Leads m' m'' l' cs') :
    Leads m m'' l' (cs ++ cs') := by
  obtain ⟨r, rfl⟩ := h
  obtain ⟨r', rfl⟩ := h'
  exact ⟨r', by simp⟩

/-- The clients that a change leads to. -/
theorem Leads.subscribers {m m' : AgpsStateMachine} {l : List Subscriber}
    {cs : List Call} (h : Leads m m' l cs) : m'.mSubscribers = l := by
  obtain ⟨r, rfl⟩ := h
  rfl

theorem Leads.type {m m' : AgpsStateMachine} {l : List Subscriber}
    {cs : List Call} (h : Leads m m' l cs) : m'.mType = m.mType := by
  obtain ⟨r, rfl⟩ := h
  rfl

/-- The fallback to ATL, with which the retry counter starts anew. -/
def fallback : Call → Bool
  | .requestATL _ _ => true
  | _ => false

/-- The machine with the list `l` once its subscribers have made the calls
    `cs`. -/
def AgpsStateMachine.withCalls (m : AgpsStateMachine) (l : List Subscriber)
    (cs : List Call) : AgpsStateMachine :=
  { m with
    mSubscribers := l
    mRetries := if cs.any fallback then 0 else m.mRetries
    calls := m.calls ++ cs }

theorem withCalls_nil (m : AgpsStateMachine) (l : List Subscriber) :
    m.withCalls l [] = { m with mSubscribers := l } := by
  rw [withCalls, List.append_nil]
  rfl

/-- Calls behind calls are one list of them. -/
theorem withCalls_withCalls (m : AgpsStateMachine) (l l' : List Subscriber)
    (cs cs' : List Call) :
    (m.withCalls l cs).withCalls l' cs' = m.withCalls l' (cs ++ cs') := by
  simp only [withCalls, List.append_assoc, List.any_append]
  cases cs.any fallback <;> cases cs'.any fallback <;> rfl

/-- New clients and calls lead from a machine to the one that has them. -/
theorem withCalls_leads (m : AgpsStateMachine) (l : List Subscriber)
    (cs : List Call) : Leads m (m.withCalls l cs) l cs :=
  ⟨_, rfl⟩

/-! ## The status switches -/

/-- The calls `classStatus` makes, seen from an empty log. -/
def statusCalls (m : AgpsStateMachine) (status : AgpsRsrcStatus)
    (s : Subscriber) : List Call :=
  (classStatus s status { m with calls := [] }).2.calls

/-- The statuses a subscriber answers with `true`. -/
def handled : AgpsRsrcStatus → Bool
  | .RSRC_UNSUBSCRIBE => true
  | .RSRC_RELEASED => true
  | .RSRC_DENIED => true
  | .RSRC_GRANTED => true
  | _ => false

/-- Whether a status was handled does not depend on the class. -/
theorem classStatus_fst (s : Subscriber) (status : AgpsRsrcStatus)
    (m : AgpsStateMachine) : (classStatus s status m).1 = handled status := by
  cases s <;> cases status <;> rfl

/-- What the members of the classes do is a list of calls. -/
theorem classStatus_eq (s : Subscriber) (status : AgpsRsrcStatus)
    (m : AgpsStateMachine) :
    (classStatus s status m).2
      = m.withCalls m.mSubscribers (statusCalls m status s) := by
  cases s <;> cases status <;>
    first
    | rfl
    | exact (withCalls_nil m m.mSubscribers).symm

/-- Neither clients nor earlier calls change what a status calls. -/
theorem statusCalls_withCalls (m : AgpsStateMachine) (l : List Subscriber)
    (cs : List Call) (status : AgpsRsrcStatus) (s : Subscriber) :
    statusCalls (m.withCalls l cs) status s = statusCalls m status s := by
  cases s <;> cases status <;> rfl

/-- Notifying the elements of a list one after the other. -/
theorem foldl_classStatus (status : AgpsRsrcStatus) :
    ∀ (l : List Subscriber) (m : AgpsStateMachine),
      l.foldl (fun m s => (classStatus s status m).2) m
        = m.withCalls m.mSubscribers (l.flatMap (statusCalls m status)) := by
  intro l
  induction l with
  | nil => exact fun m => (withCalls_nil m m.mSubscribers).symm
  | cons s l ih =>
      intro m
      have hsame : statusCalls (m.withCalls m.mSubscribers
          (statusCalls m status s)) status = statusCalls m status :=
        funext (statusCalls_withCalls m _ _ status)
      rw [List.foldl_cons, classStatus_eq, ih, hsame, withCalls_withCalls,
        List.flatMap_cons]
      rfl

/-! ## Words and asks -/

/-- The status a word of the protocol is told with. -/
def wordStatus : Word → AgpsRsrcStatus
  | .granted => .RSRC_GRANTED
  | .ended => .RSRC_RELEASED
  | .refused => .RSRC_DENIED
  | .left => .RSRC_UNSUBSCRIBE

/-- The calls a list of words makes. -/
def wordCalls (m : AgpsStateMachine) (ws : List (Subscriber × Word)) :
    List Call :=
  ws.flatMap (fun w => statusCalls m (wordStatus w.2) w.1)

/-- A word to several clients is a call for each of them. -/
theorem wordCalls_map (m : AgpsStateMachine) (l : List Subscriber)
    (w : Word) :
    wordCalls m (l.map (fun s => (s, w)))
      = l.flatMap (statusCalls m (wordStatus w)) := by
  rw [wordCalls, List.flatMap_map]

/-- What is known of the calls of a `sendRsrcRequest`: by the action, the
    list it looks at and the type of the machine. -/
abbrev RequestCalls :=
  AGpsStatusValue → List Subscriber → AGpsExtType → List Call → Prop

/-- `send` leaves the list alone and makes calls `R` knows of. -/
def Sends (send : SendRsrcRequest) (R : RequestCalls) : Prop :=
  ∀ action m, ∃ cs, R action m.mSubscribers m.mType cs ∧
    Leads m (send action m).2 m.mSubscribers cs

/-- The calls an ask of the protocol makes, on the list `l`. -/
def Asked (R : RequestCalls) (l : List Subscriber) (type : AGpsExtType) :
    Option Ask → List Call → Prop
  | none, cs => cs = []
  | some .request, cs => R .GPS_REQUEST_AGPS_DATA_CONN l type cs
  | some .giveBack, cs => R .GPS_RELEASE_AGPS_DATA_CONN l type cs

/-! ## Events -/

/-- What a state is for the resource. -/
def phaseOf : AgpsState → Phase
  | .Released => .idle
  | .Pending => .asking
  | .Acquired => .held
  | .Releasing => .ending

/-- The state for it. -/
def stateOf : Phase → AgpsState
  | .idle => .Released
  | .asking => .Pending
  | .held => .Acquired
  | .ending => .Releasing

/-- The books of a machine. -/
def lease (m : AgpsStateMachine) : Lease Subscriber :=
  ⟨phaseOf m.mStatePtr, m.mSubscribers⟩

/-- What an event is for the resource. -/
def leaseEvent : RsrcEvent → Event Subscriber
  | .subscribe s => .join s
  | .unsubscribe e => .leave e
  | .granted => .granted
  | .released => .ended
  | .denied => .refused

/-- What an event handler leaves: the next state and the list of `L`, the
    words told, and after them the calls of the ask. -/
def Handles (R : RequestCalls) (m : AgpsStateMachine)
    (r : AgpsState × AgpsStateMachine) (L : Lease Subscriber × Option Ask)
    (ws : List (Subscriber × Word)) : Prop :=
  ∃ cs, Asked R L.1.clients m.mType L.2 cs ∧ r.1 = stateOf L.1.phase ∧
    Leads m r.2 L.1.clients (wordCalls m ws ++ cs)

/-- An event that asks nothing of the modem is handled. -/
theorem handles_quiet {R : RequestCalls} {m m' : AgpsStateMachine}
    {p : Phase} {l : List Subscriber} {ws : List (Subscriber × Word)}
    (h : Leads m m' l (wordCalls m ws)) :
    Handles R m (stateOf p, m') (⟨p, l⟩, none) ws := by
  refine ⟨[], rfl, rfl, ?_⟩
  rw [List.append_nil]
  exact h

/-- `send` after the words: the ask's calls come last. -/
theorem handles_send {R : RequestCalls} {send : SendRsrcRequest}
    (hs : Sends send R) {m m' : AgpsStateMachine} {p : Phase}
    {l : List Subscriber} {ws : List (Subscriber × Word)}
    (h : Leads m m' l (wordCalls m ws)) (action : AGpsStatusValue)
    {ask : Ask} (hask : ∀ cs, R action l m.mType cs →
      Asked R l m.mType (some ask) cs) :
    Handles R m (stateOf p, (send action m').2) (⟨p, l⟩, some ask) ws := by
  obtain ⟨cs, hR, hl⟩ := hs action m'
  rw [h.subscribers, h.type] at hR
  rw [h.subscribers] at hl
  exact ⟨cs, hask cs hR, rfl, h.trans hl⟩

/-- The asks of the protocol, sent. -/
def sent (send : SendRsrcRequest) : Option Ask → AgpsStateMachine →
    AgpsStateMachine
  | none, m => m
  | some .request, m => (send .GPS_REQUEST_AGPS_DATA_CONN m).2
  | some .giveBack, m => (send .GPS_RELEASE_AGPS_DATA_CONN m).2

/-- What an event handler leaves, to the letter: the words `ws` are told, the
    list is that of `L`, and then the ask is sent. -/
def outcome (send : SendRsrcRequest) (m : AgpsStateMachine)
    (L : Lease Subscriber × Option Ask) (ws : List (Subscriber × Word)) :
    AgpsState × AgpsStateMachine :=
  (stateOf L.1.phase, sent send L.2 (m.withCalls L.1.clients (wordCalls m ws)))

/-- What the states make of an outcome of the lease is handled, if the request
    is sent as it should be. -/
theorem handles_outcome {R : RequestCalls} {send : SendRsrcRequest}
    (hs : Sends send R) (m : AgpsStateMachine)
    (L : Lease Subscriber × Option Ask) (ws : List (Subscriber × Word)) :
    Handles R m (outcome send m L ws) L ws := by
  obtain ⟨⟨p, l⟩, ask⟩ := L
  have h := withCalls_leads m l (wordCalls m ws)
  cases ask with
  | none => exact handles_quiet h
  | some ask =>
      cases ask with
      | request =>
          exact handles_send hs h .GPS_REQUEST_AGPS_DATA_CONN (fun _ hR => hR)
      | giveBack =>
          exact handles_send hs h .GPS_RELEASE_AGPS_DATA_CONN (fun _ hR => hR)

/-! ## Searches and notifications -/

theorem hasSubscribers_eq (m : AgpsStateMachine) :
    m.hasSubscribers = !m.mSubscribers.isEmpty := rfl

section Notify

variable [SubscriberEquals]

/-- What the lease protocol knows of subscribers. -/
def agpsClients : Clients Subscriber where
  same := SubscriberEquals.equals
  active s := !s.isInactive
  lingers := Subscriber.waitForCloseComplete
  enter := Subscriber.clone
  retire := Subscriber.markInactive
  active_enter s := by cases s <;> rfl
  active_retire s h := by
    cases s with
    | BITSubscriber ID v6 => cases h
    | ATLSubscriber ID mode => cases h
    | WIFISubscriber ID ssid pw b => rfl
    | DSSubscriber ID b => rfl
  lingers_of_not_active s h := by
    cases s with
    | BITSubscriber ID v6 => cases h
    | ATLSubscriber ID mode => cases h
    | WIFISubscriber ID ssid pw b => rfl
    | DSSubscriber ID b => rfl

/-- A notification calls only for the client that it is for. -/
theorem notifyRsrcStatus_eq (n : Notification) (s : Subscriber)
    (m : AgpsStateMachine) :
    (notifyRsrcStatus n s m).2 = m.withCalls m.mSubscribers
      (if forMe n s then statusCalls m n.rsrcStatus s else []) := by
  rw [notifyRsrcStatus]
  by_cases hf : forMe n s = true
  · rw [if_pos hf, if_pos hf]
    exact classStatus_eq s n.rsrcStatus m
  · rw [if_neg hf, if_neg hf]
    exact (withCalls_nil m m.mSubscribers).symm

theorem notifyRsrcStatus_leads (n : Notification) (s : Subscriber)
    (m : AgpsStateMachine) :
    Leads m (notifyRsrcStatus n s m).2 m.mSubscribers
      (if forMe n s then statusCalls m n.rsrcStatus s else []) := by
  rw [notifyRsrcStatus_eq]
  exact withCalls_leads m _ _

/-- The search finds the first client that a notification is for. -/
theorem findSubscriber_eq (m : AgpsStateMachine) (n : Notification) :
    m.findSubscriber n = m.mSubscribers.find? (forMe n) := by
  rw [findSubscriber, linkedListSearch]
  exact congrArg Prod.fst (visit_pure (forMe n) m.mSubscribers ())

/-- The machine has active subscribers where the lease has active clients. -/
theorem hasActiveSubscribers_eq (m : AgpsStateMachine) :
    m.hasActiveSubscribers = m.mSubscribers.any agpsClients.active := by
  rw [hasActiveSubscribers, findSubscriber_eq, Bool.eq_iff_iff]
  simp [agpsClients, forMe]

/-- A subscriber is added as a client of the lease is. -/
theorem addSubscriber_eq (m : AgpsStateMachine) (s : Subscriber) :
    m.addSubscriber s
      = m.withCalls (add agpsClients s m.mSubscribers) [] := by
  rw [addSubscriber, findSubscriber_eq, add, withCalls_nil]
  cases hf : m.mSubscribers.find? (forMe ⟨.rcver s, .RSRC_STATUS_MAX, false⟩) with
  | none =>
      have hno : ¬ m.mSubscribers.any
          (fun b => agpsClients.same b s) = true := by
        rw [List.any_eq_true]
        rintro ⟨b, hb, hbs⟩
        exact List.find?_eq_none.mp hf b hb hbs
      rw [if_neg hno]
      rfl
  | some b =>
      have hbs : forMe ⟨.rcver s, .RSRC_STATUS_MAX, false⟩ b = true :=
        List.find?_some hf
      have hyes : m.mSubscribers.any (fun b => agpsClients.same b s) = true :=
        List.any_eq_true.mpr ⟨b, List.mem_of_find?_eq_some hf, hbs⟩
      rw [if_pos hyes]

/-- **NOTIFY AND DELETE**: the entries concerned are told once, in order,
    and are gone. -/
theorem notifySubscribers_delete (m : AgpsStateMachine) (r : Recipient)
    {status : AgpsRsrcStatus} (hh : handled status = true) :
    m.notifySubscribers ⟨r, status, true⟩ = m.withCalls
      (m.mSubscribers.filter (fun s => !forMe ⟨r, status, true⟩ s))
      ((m.mSubscribers.filter (forMe ⟨r, status, true⟩)).flatMap
        (statusCalls m status)) := by
  -- every status that is handled is answered with true, so who is told goes
  have hacts : ActsOn (notifySubscriber ⟨r, status, true⟩)
      (forMe ⟨r, status, true⟩) (fun m s => (classStatus s status m).2) := by
    constructor
    · intro s w hf
      simp [notifySubscriber, notifyRsrcStatus, hf, classStatus_fst, hh]
    · intro s w hf
      simp [notifySubscriber, notifyRsrcStatus, hf]
  have hlen : (m.mSubscribers.filter (forMe ⟨r, status, true⟩)).length
      < m.mSubscribers.length + 1 :=
    Nat.lt_succ_of_le (List.length_filter_le _ _)
  rw [notifySubscribers, if_pos rfl, sweep_eq hacts _ _ _ hlen,
    foldl_classStatus]
  rfl

/-- Notifying without deletion: the entries concerned are told once. -/
theorem notifySubscribers_keep (m : AgpsStateMachine) (r : Recipient)
    (status : AgpsRsrcStatus) :
    m.notifySubscribers ⟨r, status, false⟩ = m.withCalls m.mSubscribers
      ((m.mSubscribers.filter (forMe ⟨r, status, false⟩)).flatMap
        (statusCalls m status)) := by
  have hacts : ActsOnly (notifySubscriber ⟨r, status, false⟩)
      (forMe ⟨r, status, false⟩) (fun m s => (classStatus s status m).2) := by
    constructor
    · intro s w hf
      simp [notifySubscriber, notifyRsrcStatus, hf]
    · intro s w hf
      simp [notifySubscriber, notifyRsrcStatus, hf]
  rw [notifySubscribers, if_neg Bool.false_ne_true, linkedListSearch,
    visit_actsOnly hacts, foldl_classStatus]
  rfl

/-- A client hears a word if it equals itself. -/
theorem wordCalls_hear (m : AgpsStateMachine) (s : Subscriber) (w : Word) :
    wordCalls m (hear agpsClients s w)
      = if SubscriberEquals.equals s s then statusCalls m (wordStatus w) s
        else [] := by
  rw [hear]
  by_cases hs : agpsClients.same s s = true
  · rw [if_pos hs]
    have hs' : SubscriberEquals.equals s s = true := hs
    rw [if_pos hs', wordCalls, List.flatMap_singleton]
  · rw [if_neg hs]
    have hs' : ¬ SubscriberEquals.equals s s = true := hs
    rw [if_neg hs']
    rfl

/-- The request the base class makes: `REQUEST` needs an active entry,
    `RELEASE` needs none. -/
def plainCalls (action : AGpsStatusValue) (l : List Subscriber)
    (type : AGpsExtType) : List Call :=
  let s := l.find? agpsClients.active
  if s.isNone == (action == .GPS_RELEASE_AGPS_DATA_CONN) then
    [.requestRsrc
      { type := type
        status := action
        ipv4_addr := if s.isNone then some INADDR_NONE else none
        ss_family := if s.isNone then .AF_UNSPEC else .AF_INET6
        ssid := (s.map (fun s => s.wifiInfo.1)).getD ""
        password := (s.map (fun s => s.wifiInfo.2)).getD "" }]
  else []

/-- The requests of the machine that is no DS machine. -/
def plainRequests : RequestCalls := fun action l type cs =>
  cs = plainCalls action l type

/-- `sendRsrcRequest` of the plain machine sends as its calls say. -/
theorem sends_plain : Sends sendRsrcRequest plainRequests := by
  intro action m
  refine ⟨plainCalls action m.mSubscribers m.mType, rfl, m.mRetries, ?_⟩
  rw [sendRsrcRequest, findSubscriber_eq, plainCalls]
  have hforMe : forMe ⟨.BROADCAST_ACTIVE, .RSRC_STATUS_MAX, false⟩
      = agpsClients.active := rfl
  rw [hforMe]
  split
  · rfl
  · rw [List.append_nil]

/-- Telling and deleting every entry. -/
theorem notifyAll_eq (m : AgpsStateMachine) (w : Word)
    (hw : handled (wordStatus w) = true) :
    m.notifySubscribers ⟨.BROADCAST_ALL, wordStatus w, true⟩ = m.withCalls []
      (wordCalls m (m.mSubscribers.map (fun s => (s, w)))) := by
  have hall : m.mSubscribers.filter
      (forMe ⟨.BROADCAST_ALL, wordStatus w, true⟩) = m.mSubscribers :=
    List.filter_eq_self.mpr (fun _ _ => rfl)
  have hnone : m.mSubscribers.filter
      (fun s => !forMe ⟨.BROADCAST_ALL, wordStatus w, true⟩ s) = [] :=
    List.filter_eq_nil_iff.mpr (fun _ _ => Bool.false_ne_true)
  rw [notifySubscribers_delete m .BROADCAST_ALL hw, hall, hnone, wordCalls_map]

/-! ## The states -/

/-- A subscriber is dropped as a client of the lease is struck off. -/
theorem dropSubscriber_eq (e : Subscriber) (m : AgpsStateMachine) :
    dropSubscriber e m = m.withCalls (strike agpsClients e m.mSubscribers)
      (wordCalls m (farewell agpsClients e m.mSubscribers)) := by
  rw [dropSubscriber, strike, farewell]
  by_cases hw : e.waitForCloseComplete = true
  · have hw' : agpsClients.lingers e = true := hw
    rw [if_pos hw, if_pos hw', if_pos hw']
    cases e with
    | BITSubscriber ID v6 => cases hw
    | ATLSubscriber ID mode => cases hw
    | WIFISubscriber ID ssid pw b =>
        exact (withCalls_nil m _).symm
    | DSSubscriber ID b => rfl
  · have hw' : ¬ agpsClients.lingers e = true := hw
    rw [if_neg hw, if_neg hw', if_neg hw', wordCalls_map]
    exact notifySubscribers_delete m (.rcver e) rfl

/-- The release of an unused connection is how the lease settles. -/
theorem releaseIfUnused_eq (send : SendRsrcRequest) (p : Phase)
    (m : AgpsStateMachine) (l : List Subscriber)
    (ws : List (Subscriber × Word)) :
    releaseIfUnused send (stateOf p) (m.withCalls l (wordCalls m ws))
      = outcome send m (settle agpsClients p l) ws := by
  have hlist : (m.withCalls l (wordCalls m ws)).mSubscribers = l := rfl
  rw [releaseIfUnused, settle, hasActiveSubscribers_eq, hasSubscribers_eq,
    hlist, Bool.not_not]
  by_cases he : l.isEmpty = true
  · rw [if_pos he, if_pos he]
    rfl
  · rw [if_neg he, if_neg he]
    cases ha : l.any agpsClients.active with
    | true => rfl
    | false => rfl

/-- The end of a connection is how the lease is renewed: those who wait are
    told, and a new request is made for the others. -/
theorem finishRelease_eq (send : SendRsrcRequest) (w : Word)
    (hw : handled (wordStatus w) = true) (m : AgpsStateMachine) :
    finishRelease send (wordStatus w) m
      = outcome send m (renew agpsClients m.mSubscribers)
        ((m.mSubscribers.filter (fun s => !agpsClients.active s)).map
          (fun s => (s, w))) := by
  have hin : forMe ⟨.BROADCAST_INACTIVE, wordStatus w, true⟩
      = fun s => !agpsClients.active s := by
    funext s
    exact (Bool.not_not s.isInactive).symm
  have hact : (fun s => !forMe ⟨.BROADCAST_INACTIVE, wordStatus w, true⟩ s)
      = agpsClients.active := rfl
  have h := notifySubscribers_delete m .BROADCAST_INACTIVE hw
  rw [hact, hin, ← wordCalls_map] at h
  have hany : (m.mSubscribers.filter agpsClients.active).any agpsClients.active
      = !(m.mSubscribers.filter agpsClients.active).isEmpty := by
    rw [Bool.eq_iff_iff]
    simp
  have hlist : ∀ cs, (m.withCalls (m.mSubscribers.filter agpsClients.active)
      cs).mSubscribers = m.mSubscribers.filter agpsClients.active :=
    fun _ => rfl
  rw [finishRelease, renew, h, hasActiveSubscribers_eq, hlist, hany]
  by_cases he : (m.mSubscribers.filter agpsClients.active).isEmpty = true
  · rw [if_pos he, he, List.isEmpty_iff.mp he]
    rfl
  · rw [if_neg he, Bool.eq_false_iff.mpr he]
    rfl

/-- Whether the request of a subscription in Released is sent. -/
def sendOk (send : SendRsrcRequest) (m : AgpsStateMachine) :
    RsrcEvent → Bool
  | .subscribe s =>
      (send .GPS_REQUEST_AGPS_DATA_CONN (m.addSubscriber s)).1 == 0
  | _ => true

/-- A notification to one client is what it hears. -/
theorem hear_eq (m : AgpsStateMachine) (s : Subscriber) (w : Word) :
    (notifyRsrcStatus ⟨.rcver s, wordStatus w, false⟩ s m).2
      = m.withCalls m.mSubscribers (wordCalls m (hear agpsClients s w)) := by
  rw [wordCalls_hear]
  exact notifyRsrcStatus_eq ⟨.rcver s, wordStatus w, false⟩ s m

section States

variable (send : SendRsrcRequest) (m : AgpsStateMachine)

omit [SubscriberEquals] in
/-- What an event leaves that tells nobody and asks for nothing. -/
theorem outcome_quiet (p : Phase) :
    outcome send m (⟨p, m.mSubscribers⟩, none) [] = (stateOf p, m) := by
  rw [outcome]
  exact congrArg (Prod.mk _) (withCalls_nil m m.mSubscribers)

/-- An event in `AgpsReleasedState` is the step of the lease. -/
theorem released_eq (e : RsrcEvent) :
    releasedOnRsrcEvent send e m = outcome send m
      (step agpsClients (sendOk send m e) ⟨.idle, m.mSubscribers⟩
        (leaseEvent e))
      (told agpsClients ⟨.idle, m.mSubscribers⟩ (leaseEvent e)) := by
  cases e with
  | subscribe s =>
      rw [releasedOnRsrcEvent, sendOk]
      show _ = (stateOf (if ((send _ (m.addSubscriber s)).1 == 0) = true
        then Phase.asking else Phase.idle),
        (send _ (m.withCalls (add agpsClients s m.mSubscribers) [])).2)
      rw [← addSubscriber_eq]
      by_cases h0 : (send .GPS_REQUEST_AGPS_DATA_CONN
          (m.addSubscriber s)).1 = 0
      · rw [if_pos h0, if_pos (beq_iff_eq.mpr h0)]
        rfl
      · rw [if_neg h0, if_neg (fun h => h0 (beq_iff_eq.mp h))]
        rfl
  | unsubscribe s =>
      exact congrArg (Prod.mk AgpsState.Released) (hear_eq m s .left)
  | granted => exact (outcome_quiet send m .idle).symm
  | released => exact (outcome_quiet send m .idle).symm
  | denied => exact (outcome_quiet send m .idle).symm

/-- An event in `AgpsPendingState` is the step of the lease. -/
theorem pending_eq (ok : Bool) (e : RsrcEvent) :
    pendingOnRsrcEvent send e m = outcome send m
      (step agpsClients ok ⟨.asking, m.mSubscribers⟩ (leaseEvent e))
      (told agpsClients ⟨.asking, m.mSubscribers⟩ (leaseEvent e)) := by
  cases e with
  | subscribe s =>
      exact congrArg (Prod.mk AgpsState.Pending) (addSubscriber_eq m s)
  | unsubscribe s =>
      rw [pendingOnRsrcEvent, dropSubscriber_eq]
      exact releaseIfUnused_eq send .asking m _ _
  | granted =>
      refine congrArg (Prod.mk AgpsState.Acquired) ?_
      have h := notifySubscribers_keep m .BROADCAST_ACTIVE
        (wordStatus .granted)
      rw [← wordCalls_map] at h
      exact h
  | released => exact (outcome_quiet send m .asking).symm
  | denied =>
      exact congrArg (Prod.mk AgpsState.Released) (notifyAll_eq m .refused rfl)

/-- An event in `AgpsAcquiredState` is the step of the lease. -/
theorem acquired_eq (ok : Bool) (e : RsrcEvent) :
    acquiredOnRsrcEvent send e m = outcome send m
      (step agpsClients ok ⟨.held, m.mSubscribers⟩ (leaseEvent e))
      (told agpsClients ⟨.held, m.mSubscribers⟩ (leaseEvent e)) := by
  cases e with
  | subscribe s =>
      refine congrArg (Prod.mk AgpsState.Acquired) ?_
      -- told first, added afterwards
      have h := hear_eq m s .granted
      rw [show wordStatus .granted = AgpsRsrcStatus.RSRC_GRANTED from rfl] at h
      rw [h, addSubscriber_eq, withCalls_withCalls, List.append_nil]
      rfl
  | unsubscribe s =>
      rw [acquiredOnRsrcEvent, dropSubscriber_eq]
      exact releaseIfUnused_eq send .held m _ _
  | granted => exact (outcome_quiet send m .held).symm
  | released =>
      exact congrArg (Prod.mk AgpsState.Released) (notifyAll_eq m .ended rfl)
  | denied => exact (outcome_quiet send m .held).symm

/-- An event in `AgpsReleasingState` is the step of the lease. -/
theorem releasing_eq (ok : Bool) (e : RsrcEvent) :
    releasingOnRsrcEvent send e m = outcome send m
      (step agpsClients ok ⟨.ending, m.mSubscribers⟩ (leaseEvent e))
      (told agpsClients ⟨.ending, m.mSubscribers⟩ (leaseEvent e)) := by
  cases e with
  | subscribe s =>
      exact congrArg (Prod.mk AgpsState.Releasing) (addSubscriber_eq m s)
  | unsubscribe s =>
      rw [releasingOnRsrcEvent, hasSubscribers_eq, dropSubscriber_eq,
        Bool.not_not]
      show (if (strike agpsClients s m.mSubscribers).isEmpty = true then _
        else _, _) = (stateOf (if (strike agpsClients s m.mSubscribers).isEmpty
          then Phase.idle else Phase.ending), _)
      split <;> rfl
  | granted => exact (outcome_quiet send m .ending).symm
  | released => exact finishRelease_eq send .ended rfl m
  | denied => exact finishRelease_eq send .refused rfl m

/-- **ONE EVENT** of the machine is one event of the lease protocol: the
    words are told, the list is the books', the ask is sent and the state is
    the books'. -/
theorem stateEvent_eq (e : RsrcEvent) :
    m.stateEvent send e =
      { sent send
          (step agpsClients (sendOk send m e) (lease m) (leaseEvent e)).2
          (m.withCalls (step agpsClients (sendOk send m e) (lease m)
            (leaseEvent e)).1.clients
            (wordCalls m (told agpsClients (lease m) (leaseEvent e)))) with
        mStatePtr := stateOf (step agpsClients (sendOk send m e) (lease m)
          (leaseEvent e)).1.phase } := by
  have h : stateOnRsrcEvent send e m = outcome send m
      (step agpsClients (sendOk send m e) (lease m) (leaseEvent e))
      (told agpsClients (lease m) (leaseEvent e)) := by
    rw [stateOnRsrcEvent, lease]
    cases m.mStatePtr with
    | Released => exact released_eq send m e
    | Pending => exact pending_eq send m _ e
    | Acquired => exact acquired_eq send m _ e
    | Releasing => exact releasing_eq send m _ e
  rw [stateEvent, h]
  rfl

end States

/-- Where the requests leave the list alone, so does the event: the calls are
    the words told and then what the ask calls. -/
theorem stateEvent_spec {send : SendRsrcRequest} {R : RequestCalls}
    (hs : Sends send R) (m : AgpsStateMachine) (e : RsrcEvent) :
    ∃ cs r,
      Asked R (step agpsClients (sendOk send m e) (lease m)
        (leaseEvent e)).1.clients m.mType
        (step agpsClients (sendOk send m e) (lease m) (leaseEvent e)).2 cs ∧
      m.stateEvent send e =
        { m with
          mStatePtr := stateOf (step agpsClients (sendOk send m e) (lease m)
            (leaseEvent e)).1.phase
          mSubscribers := (step agpsClients (sendOk send m e) (lease m)
            (leaseEvent e)).1.clients
          mRetries := r
          calls := m.calls
            ++ (wordCalls m (told agpsClients (lease m) (leaseEvent e))
              ++ cs) } := by
  obtain ⟨cs, hask, hstate, r, hl⟩ := handles_outcome hs m
    (step agpsClients (sendOk send m e) (lease m) (leaseEvent e))
    (told agpsClients (lease m) (leaseEvent e))
  refine ⟨cs, r, hask, ?_⟩
  have hsent : sent send
      (step agpsClients (sendOk send m e) (lease m) (leaseEvent e)).2
      (m.withCalls (step agpsClients (sendOk send m e) (lease m)
        (leaseEvent e)).1.clients
        (wordCalls m (told agpsClients (lease m) (leaseEvent e)))) = _ := hl
  rw [stateEvent_eq, hsent]

end Notify

end QcomAgps
