import QcomCommon.AgpsStepProofs

/-! # Runs of the plain AGPS machine

    The machine with the base `sendRsrcRequest` under any sequence of
    subscriptions, unsubscriptions and resource events, from Released and
    empty.  Its books are a run of the lease protocol, so the state and the
    list agree in every reachable state (`agps_invariant`).

    A modem restart empties the list from outside and leaves the state
    alone.  What is left is lawful for good exactly when the machine was in
    Released (`restart_law_iff`). -/

namespace QcomAgps

open QcomTransition QcomLease AgpsStateMachine

/-- A call of a machine. -/
inductive AgpsAction where
  | subscribeRsrc (subscriber : Subscriber)
  | unsubscribeRsrc (subscriber : Subscriber)
  | onRsrcEvent (event : AgpsRsrcStatus)
deriving DecidableEq, Repr

theorem lease_of {m : AgpsStateMachine} {L : Lease Subscriber}
    (hs : m.mStatePtr = stateOf L.phase) (hl : m.mSubscribers = L.clients) :
    lease m = L := by
  obtain ⟨p, l⟩ := L
  rw [lease, hs, hl]
  cases p <;> rfl

theorem phaseOf_eq_iff (p q : AgpsState) : phaseOf p = phaseOf q ↔ p = q := by
  cases p <;> cases q <;> simp [phaseOf]

/-- The calls `m'` has made since `m`. -/
def newCalls (m m' : AgpsStateMachine) : List Call :=
  m'.calls.drop m.calls.length

/-- The books after one event. -/
theorem lease_stateEvent [SubscriberEquals] {send : SendRsrcRequest}
    {R : RequestCalls} (hs : Sends send R) (m : AgpsStateMachine)
    (e : RsrcEvent) :
    lease (m.stateEvent send e)
      = (step agpsClients (sendOk send m e) (lease m) (leaseEvent e)).1 := by
  obtain ⟨cs, r, -, hev⟩ := stateEvent_spec hs m e
  exact lease_of (by rw [hev]) (by rw [hev])

section Plain

variable [SubscriberEquals]

/-- One call of the plain machine. -/
def act (m : AgpsStateMachine) : AgpsAction → AgpsStateMachine
  | .subscribeRsrc s => m.subscribeRsrc sendRsrcRequest s
  | .unsubscribeRsrc s => (m.unsubscribeRsrc sendRsrcRequest s).2
  | .onRsrcEvent event => m.onRsrcEvent sendRsrcRequest event

/-- A new machine that serves any number of subscribers. -/
structure IsNew (m : AgpsStateMachine) : Prop where
  released : m.mStatePtr = .Released
  empty : m.mSubscribers = []
  multiple : m.mEnforceSingleSubscriber = false

instance (m : AgpsStateMachine) : Decidable (IsNew m) :=
  decidable_of_iff (m.mStatePtr = .Released ∧ m.mSubscribers = [] ∧
    m.mEnforceSingleSubscriber = false)
    ⟨fun h => ⟨h.1, h.2.1, h.2.2⟩, fun h => ⟨h.released, h.empty, h.multiple⟩⟩

/-- A machine from its start on. -/
def agpsSys : TransSys AgpsStateMachine AgpsAction where
  init := IsNew
  step m a := some (act m a)

/-- Those who subscribe are of the population `P`. -/
def From (P : Subscriber → Prop) (_ : AgpsStateMachine) : AgpsAction → Prop
  | .subscribeRsrc s => P s
  | .unsubscribeRsrc _ => True
  | .onRsrcEvent _ => True

/-- Every call is enabled, so a run is a fold. -/
def run (m : AgpsStateMachine) (l : List AgpsAction) : AgpsStateMachine :=
  l.foldl act m

theorem reach_run {P : Subscriber → Prop} (l : List AgpsAction)
    (hl : ∀ a ∈ l, ∀ m, From P m a) :
    ∀ {m : AgpsStateMachine}, ReachUnder agpsSys (From P) m →
      ReachUnder agpsSys (From P) (run m l) := by
  induction l with
  | nil => intro m hm; exact hm
  | cons a l ih =>
      intro m hm
      exact ih (fun b hb => hl b (List.mem_cons_of_mem a hb))
        (.step hm (hl a List.mem_cons_self m) rfl)

/-! ## One call -/

theorem sendOk_plain (m : AgpsStateMachine) (e : RsrcEvent) :
    sendOk sendRsrcRequest m e = true := by
  cases e with
  | subscribe s =>
      rw [sendOk, sendRsrcRequest]
      split <;> rfl
  | unsubscribe s => rfl
  | granted => rfl
  | released => rfl
  | denied => rfl

/-- The books after one event of the plain machine. -/
def leaseAfter (m : AgpsStateMachine) (e : RsrcEvent) :
    Lease Subscriber × Option Ask :=
  step agpsClients true (lease m) (leaseEvent e)

/-- The calls of one event: words, then at most one request. -/
def eventCalls (m : AgpsStateMachine) (e : RsrcEvent) : List Call :=
  wordCalls m (told agpsClients (lease m) (leaseEvent e)) ++
    match (leaseAfter m e).2 with
    | none => []
    | some .request => plainCalls .GPS_REQUEST_AGPS_DATA_CONN
        (leaseAfter m e).1.clients m.mType
    | some .giveBack => plainCalls .GPS_RELEASE_AGPS_DATA_CONN
        (leaseAfter m e).1.clients m.mType

/-- One event of the plain machine, with all its calls. -/
theorem plain_event (m : AgpsStateMachine) (e : RsrcEvent) :
    ∃ r, m.stateEvent sendRsrcRequest e =
      { m with
        mStatePtr := stateOf (leaseAfter m e).1.phase
        mSubscribers := (leaseAfter m e).1.clients
        mRetries := r
        calls := m.calls ++ eventCalls m e } := by
  obtain ⟨cs, r, hask, hev⟩ := stateEvent_spec sends_plain m e
  rw [sendOk_plain] at hask hev
  refine ⟨r, ?_⟩
  have hcs : eventCalls m e
      = wordCalls m (told agpsClients (lease m) (leaseEvent e)) ++ cs := by
    rw [eventCalls]
    congr 1
    show (match (step agpsClients true (lease m) (leaseEvent e)).2 with
      | none => []
      | some .request => _
      | some .giveBack => _) = cs
    cases hA : (step agpsClients true (lease m) (leaseEvent e)).2 with
    | none => rw [hA] at hask; exact hask.symm
    | some A =>
        rw [hA] at hask
        cases A with
        | request => exact hask.symm
        | giveBack => exact hask.symm
  rw [hcs]
  exact hev

theorem newCalls_event (m : AgpsStateMachine) (e : RsrcEvent) :
    newCalls m (m.stateEvent sendRsrcRequest e) = eventCalls m e := by
  obtain ⟨r, h⟩ := plain_event m e
  rw [h, newCalls, List.drop_left]

/-- The event a call is, when it is one. -/
def eventOf (m : AgpsStateMachine) : AgpsAction → Option RsrcEvent
  | .subscribeRsrc s => some (.subscribe s)
  | .unsubscribeRsrc s =>
      (m.findSubscriber ⟨.rcver s, .RSRC_STATUS_MAX, false⟩).map .unsubscribe
  | .onRsrcEvent .RSRC_GRANTED => some .granted
  | .onRsrcEvent .RSRC_RELEASED => some .released
  | .onRsrcEvent .RSRC_DENIED => some .denied
  | .onRsrcEvent _ => none

/-- A call is one event of the current state, or nothing. -/
theorem act_eq {m : AgpsStateMachine}
    (hm : m.mEnforceSingleSubscriber = false) (a : AgpsAction) :
    act m a = match eventOf m a with
      | some e => m.stateEvent sendRsrcRequest e
      | none => m := by
  cases a with
  | subscribeRsrc s =>
      show m.subscribeRsrc sendRsrcRequest s = _
      rw [AgpsStateMachine.subscribeRsrc, hm, Bool.false_and,
        if_neg Bool.false_ne_true]
      rfl
  | unsubscribeRsrc s =>
      show (m.unsubscribeRsrc sendRsrcRequest s).2 = _
      rw [AgpsStateMachine.unsubscribeRsrc, eventOf]
      cases m.findSubscriber ⟨.rcver s, .RSRC_STATUS_MAX, false⟩ with
      | none => rfl
      | some e => rfl
  | onRsrcEvent event => cases event <;> rfl

/-- Who leaves was found on the list. -/
theorem named_eventOf {P : Subscriber → Prop} {m : AgpsStateMachine}
    {a : AgpsAction} (ha : From P m a) {e : RsrcEvent}
    (he : eventOf m a = some e) : Named P (lease m) (leaseEvent e) := by
  cases a with
  | subscribeRsrc s =>
      cases Option.some.inj he
      exact ha
  | unsubscribeRsrc s =>
      rw [eventOf, findSubscriber_eq] at he
      obtain ⟨x, hx, hxe⟩ := Option.map_eq_some_iff.mp he
      subst hxe
      exact List.mem_of_find?_eq_some hx
  | onRsrcEvent event =>
      cases event with
      | RSRC_GRANTED => cases Option.some.inj he; trivial
      | RSRC_RELEASED => cases Option.some.inj he; trivial
      | RSRC_DENIED => cases Option.some.inj he; trivial
      | RSRC_SUBSCRIBE => cases he
      | RSRC_UNSUBSCRIBE => cases he
      | RSRC_STATUS_MAX => cases he

theorem lease_event (m : AgpsStateMachine) (e : RsrcEvent) :
    lease (m.stateEvent sendRsrcRequest e) = (leaseAfter m e).1 := by
  rw [lease_stateEvent sends_plain, sendOk_plain]
  rfl

/-- What one call keeps, it is enough to show of events. -/
theorem act_keeps {I : AgpsStateMachine → Prop} {m : AgpsStateMachine}
    (hm : m.mEnforceSingleSubscriber = false) (a : AgpsAction) (h : I m)
    (hev : ∀ e, eventOf m a = some e → I (m.stateEvent sendRsrcRequest e)) :
    I (act m a) := by
  rw [act_eq hm]
  cases he : eventOf m a with
  | none => exact h
  | some e => exact hev e he

theorem multiple_act {m : AgpsStateMachine}
    (hm : m.mEnforceSingleSubscriber = false) (a : AgpsAction) :
    (act m a).mEnforceSingleSubscriber = false := by
  refine act_keeps (I := fun m => m.mEnforceSingleSubscriber = false) hm a hm ?_
  intro e _
  obtain ⟨r, h⟩ := plain_event m e
  rw [h]
  exact hm

/-! ## The invariant -/

/-- The law that needs nothing of `equals`. -/
structure Lawabiding (m : AgpsStateMachine) : Prop where
  multiple : m.mEnforceSingleSubscriber = false
  settled : Settled agpsClients (lease m)

theorem lawabiding_new {m : AgpsStateMachine} (h : IsNew m) :
    Lawabiding m := by
  refine ⟨h.multiple, ?_⟩
  rw [lease, h.released, h.empty]
  exact settled_idle

theorem lawabiding_act {m : AgpsStateMachine} (h : Lawabiding m)
    (a : AgpsAction) : Lawabiding (act m a) := by
  refine ⟨multiple_act h.multiple a, ?_⟩
  refine act_keeps (I := fun m => Settled agpsClients (lease m)) h.multiple a
    h.settled ?_
  intro e _
  rw [lease_event]
  exact settled_step h.settled (leaseEvent e)

theorem lawabiding_reach {G : AgpsStateMachine → AgpsAction → Prop}
    {m : AgpsStateMachine} (h : ReachUnder agpsSys G m) : Lawabiding m := by
  refine reachUnder_inv (I := Lawabiding) (fun _ hm => lawabiding_new hm) ?_ h
  intro m a m' hm _ hs
  cases Option.some.inj hs
  exact lawabiding_act hm a

theorem lawabiding_run (l : List AgpsAction) :
    ∀ {m : AgpsStateMachine}, Lawabiding m → Lawabiding (run m l) := by
  induction l with
  | nil => intro m hm; exact hm
  | cons a l ih => intro m hm; exact ih (lawabiding_act hm a)

theorem consistent_reach {P : Subscriber → Prop}
    (hP : Lawful agpsClients P) {m : AgpsStateMachine}
    (h : ReachUnder agpsSys (From P) m) :
    Consistent agpsClients P (lease m) := by
  refine reachUnder_inv_of (I := fun m => Consistent agpsClients P (lease m))
    (fun _ hm => lawabiding_reach hm) ?_ ?_ h
  · intro m hm
    refine ⟨(lawabiding_new hm).settled, ?_, ?_⟩
    · rw [lease, hm.empty]
      exact entries_nil
    · rw [lease, hm.released]
      exact fun hp => by cases hp
  · intro m a m' hlaw hm ha hs
    cases Option.some.inj hs
    refine act_keeps (I := fun m => Consistent agpsClients P (lease m))
      hlaw.multiple a hm ?_
    intro e he
    rw [lease_event]
    exact consistent_step hP hm (named_eventOf ha he)

/-- The law in the words of the machine. -/
theorem Lawabiding.law {m : AgpsStateMachine} (h : Lawabiding m) :
    (m.mStatePtr = .Released ↔ m.mSubscribers = []) ∧
    (m.mStatePtr = .Pending ∨ m.mStatePtr = .Acquired →
      ∃ s ∈ m.mSubscribers, s.isInactive = false) := by
  constructor
  · rw [← phaseOf_eq_iff]
    exact h.settled.idle_iff
  · intro hp
    rw [← phaseOf_eq_iff, ← phaseOf_eq_iff m.mStatePtr .Acquired] at hp
    obtain ⟨s, hs, hact⟩ := h.settled.wanted hp
    exact ⟨s, hs, by simpa [agpsClients] using hact⟩

/-- In Releasing a subscriber is inactive. -/
theorem inactive_of_releasing {P : Subscriber → Prop} {m : AgpsStateMachine}
    (h : Consistent agpsClients P (lease m)) (hp : m.mStatePtr = .Releasing) :
    ∃ s ∈ m.mSubscribers, s.isInactive = true := by
  rw [← phaseOf_eq_iff] at hp
  obtain ⟨s, hs, hact⟩ := h.ending hp
  exact ⟨s, hs, by simpa [agpsClients] using hact⟩

/-- **STATE AND LIST AGREE** in every reachable state of the plain machine,
    on any population of subscribers that `equals` tells apart. -/
theorem agps_invariant {P : Subscriber → Prop} (hP : Lawful agpsClients P)
    {m : AgpsStateMachine} (h : ReachUnder agpsSys (From P) m) :
    (m.mStatePtr = .Released ↔ m.mSubscribers = []) ∧
    (m.mStatePtr = .Pending ∨ m.mStatePtr = .Acquired →
      ∃ s ∈ m.mSubscribers, s.isInactive = false) ∧
    (m.mStatePtr = .Releasing →
      ∃ s ∈ m.mSubscribers, s.isInactive = true) ∧
    m.mSubscribers.Pairwise
      (fun s t => SubscriberEquals.equals s t = false) := by
  have hlaw := (lawabiding_reach h).law
  have hcons := consistent_reach hP h
  exact ⟨hlaw.1, hlaw.2, inactive_of_releasing hcons, hcons.entries.distinct⟩

end Plain

/-! ## The code's `equals` -/

/-- Where `equals` compares the IDs, it is lawful. -/
theorem lawful_of_ids [SubscriberEquals] {P : Subscriber → Prop}
    (hclone : ∀ s, P s → P s.clone) (hmark : ∀ s, P s → P s.markInactive)
    (hids : ∀ s t, P s → P t →
      SubscriberEquals.equals s t = (s.ID == t.ID)) :
    Lawful agpsClients P := by
  have hsame : ∀ {s t}, P s → P t →
      (agpsClients.same s t = true ↔ s.ID = t.ID) := by
    intro s t hs ht
    show SubscriberEquals.equals s t = true ↔ s.ID = t.ID
    rw [hids s t hs ht, beq_iff_eq]
  refine ⟨hclone _, hmark _, ?_, ?_, ?_, ?_, ?_⟩
  · intro s hs
    exact (hsame hs hs).mpr rfl
  · intro s t hs ht h
    exact (hsame ht hs).mpr ((hsame hs ht).mp h).symm
  · intro s t u hs ht hu h h'
    exact (hsame hs hu).mpr (((hsame hs ht).mp h).trans ((hsame ht hu).mp h'))
  · intro s hs
    refine (hsame (hclone s hs) hs).mpr ?_
    cases s <;> rfl
  · intro s hs
    refine (hsame (hmark s hs) hs).mpr ?_
    cases s <;> rfl

/-- The code's `equals` is lawful on the subscribers with an address. -/
theorem lawful_codeEquals (castIPv6 : Subscriber → List UInt8) :
    @Lawful Subscriber (@agpsClients (codeEquals castIPv6))
      (fun s => s.ID ≠ INADDR_NONE) := by
  refine @lawful_of_ids (codeEquals castIPv6) _ ?_ ?_ ?_
  · intro s hs
    cases s <;> exact hs
  · intro s hs
    cases s <;> exact hs
  · intro s t hs _
    cases s with
    | BITSubscriber ID v6 =>
        have hID : (INADDR_NONE != ID) = true := bne_iff_ne.mpr (Ne.symm hs)
        show (ID == t.ID && (INADDR_NONE != ID || strncmpEq 16 v6 (castIPv6 t)))
          = (ID == t.ID)
        rw [hID, Bool.true_or, Bool.and_true]
    | ATLSubscriber ID mode => rfl
    | WIFISubscriber ID ssid pw b => rfl
    | DSSubscriber ID b => rfl

/-- A new machine of the given type. -/
def newMachine (type : AGpsExtType) : AgpsStateMachine where
  mSubscribers := []
  mStatePtr := .Released
  mType := type
  mAPN := none
  mBearer := .AGPS_APN_BEARER_INVALID
  mEnforceSingleSubscriber := false
  mRetries := 0
  calls := []

theorem isNew_newMachine (type : AGpsExtType) : IsNew (newMachine type) :=
  ⟨rfl, rfl, rfl⟩

/-- A WIFI subscriber that unsubscribed after an ATL handle did, with the
    code's `equals`. -/
def wifiReleasing : AgpsStateMachine :=
  @run (codeEquals (fun _ => [])) (newMachine .AGPS_TYPE_WIFI)
    [.subscribeRsrc (.WIFISubscriber 1 (some "ap") none false),
     .onRsrcEvent .RSRC_GRANTED,
     .subscribeRsrc (.ATLSubscriber 5 false),
     .unsubscribeRsrc (.ATLSubscriber 5 false),
     .unsubscribeRsrc (.WIFISubscriber 1 none none false)]

theorem agps_invariant_wifi :
    wifiReleasing.mStatePtr = .Releasing ∧
      ∃ s ∈ wifiReleasing.mSubscribers, s.isInactive = true := by
  have hreach : @ReachUnder _ _ (@agpsSys (codeEquals (fun _ => [])))
      (From (fun s => s.ID ≠ INADDR_NONE)) wifiReleasing := by
    refine @reach_run (codeEquals (fun _ => [])) _ _ ?_ _
      (.init (isNew_newMachine _))
    simp [From, Subscriber.ID, INADDR_NONE]
  have hstate : wifiReleasing.mStatePtr = .Releasing := by decide +kernel
  exact ⟨hstate, (@agps_invariant (codeEquals (fun _ => [])) _
    (lawful_codeEquals _) _ hreach).2.2.1 hstate⟩

/-! ## Restart of the modem -/

section Restart

variable [SubscriberEquals]

/-- Some call asks the connectivity service for the interface. -/
def Requests (cs : List Call) : Prop :=
  ∃ r, Call.requestRsrc r ∈ cs ∧ r.status = .GPS_REQUEST_AGPS_DATA_CONN

/-- What is to hold after a restart: the list is empty exactly in Released,
    Pending and Acquired have an active subscriber, without subscriber a
    GRANTED does not lead to Acquired and the next one asks for the
    interface. -/
structure RestartLaw (m : AgpsStateMachine) : Prop where
  empty_iff : m.mSubscribers = [] ↔ m.mStatePtr = .Released
  wanted : m.mStatePtr = .Pending ∨ m.mStatePtr = .Acquired →
    ∃ s ∈ m.mSubscribers, s.isInactive = false
  granted : m.mSubscribers = [] →
    (m.onRsrcEvent sendRsrcRequest .RSRC_GRANTED).mStatePtr ≠ .Acquired
  first : m.mSubscribers = [] → ∀ s,
    Requests (newCalls m (m.subscribeRsrc sendRsrcRequest s))

/-- A first subscriber asks for the interface. -/
theorem requests_first {m : AgpsStateMachine} (h : Lawabiding m)
    (hl : m.mSubscribers = []) (s : Subscriber) :
    Requests (newCalls m (m.subscribeRsrc sendRsrcRequest s)) := by
  have hlease : lease m = ⟨.idle, []⟩ := by
    rw [lease, h.law.1.mpr hl, hl]
    rfl
  have hsub : m.subscribeRsrc sendRsrcRequest s
      = m.stateEvent sendRsrcRequest (.subscribe s) := act_eq h.multiple
        (.subscribeRsrc s)
  have hactive : agpsClients.active s.clone = true :=
    agpsClients.active_enter s
  have hcalls : ∃ n, eventCalls m (.subscribe s) = [.requestRsrc n] ∧
      n.status = .GPS_REQUEST_AGPS_DATA_CONN := by
    rw [eventCalls, leaseAfter, hlease]
    show ∃ n, plainCalls .GPS_REQUEST_AGPS_DATA_CONN [s.clone] m.mType
      = [.requestRsrc n] ∧ _
    rw [plainCalls, List.find?_cons_of_pos hactive]
    exact ⟨_, rfl, rfl⟩
  obtain ⟨n, hn, hstatus⟩ := hcalls
  refine ⟨n, ?_, hstatus⟩
  rw [hsub, newCalls_event, hn]
  exact List.mem_singleton_self _

theorem restartLaw_of_lawabiding {m : AgpsStateMachine} (h : Lawabiding m) :
    RestartLaw m := by
  refine ⟨h.law.1.symm, h.law.2, ?_, requests_first h⟩
  intro hl hacq
  have hnext := (lawabiding_act h (.onRsrcEvent .RSRC_GRANTED)).law.2
    (Or.inr hacq)
  obtain ⟨s, hs, -⟩ := hnext
  -- a GRANTED adds no subscriber
  have hempty : (act m (.onRsrcEvent .RSRC_GRANTED)).mSubscribers = [] := by
    show (m.stateEvent sendRsrcRequest .granted).mSubscribers = []
    obtain ⟨r, hev⟩ := plain_event m .granted
    rw [hev, leaseAfter, lease, h.law.1.mpr hl, hl]
    rfl
  rw [hempty] at hs
  cases hs

/-- **RESTART**: after `dropAllSubscribers` the law holds for good exactly
    when the machine was in Released. -/
theorem restart_law_iff {m : AgpsStateMachine} (h : Reach agpsSys m) :
    (∀ l, RestartLaw (run m.dropAllSubscribers l)) ↔
      m.mStatePtr = .Released := by
  constructor
  · intro hlaw
    exact (hlaw []).empty_iff.mp rfl
  · intro hrel l
    have hm := lawabiding_reach h
    -- in Released there is nobody to drop
    have hdrop : m.dropAllSubscribers = m := by
      have hl := hm.law.1.mp hrel
      obtain ⟨subs, p, t, apn, b, single, r, cs⟩ := m
      cases hl
      rfl
    rw [hdrop]
    exact restartLaw_of_lawabiding (lawabiding_run l hm)

end Restart

/-- An ATL handle came and went. -/
def idleRun : List AgpsAction :=
  [.subscribeRsrc (.ATLSubscriber 7 false),
   .unsubscribeRsrc (.ATLSubscriber 7 false)]

/-- A restart after it. -/
theorem restart_law_idle :
    (@run idEquals (newMachine .AGPS_TYPE_SUPL) idleRun).mStatePtr
        = .Released ∧
      ∀ l, @RestartLaw idEquals (@run idEquals
        (@run idEquals (newMachine .AGPS_TYPE_SUPL)
          idleRun).dropAllSubscribers l) := by
  have hidle : (@run idEquals (newMachine .AGPS_TYPE_SUPL)
      idleRun).mStatePtr = .Released := by decide +kernel
  refine ⟨hidle, (@restart_law_iff idEquals _ ?_).mpr hidle⟩
  exact reach_of_reachUnder (@reach_run idEquals (fun _ => True) _
    (by simp [From, idleRun]) _ (.init (isNew_newMachine _)))

/-- A restart while an ATL handle waits for its interface: the GRANTED that
    comes after it leaves the machine in Acquired without a subscriber. -/
theorem restart_pending :
    ¬ (∀ m, Reach (@agpsSys idEquals) m → ∀ l,
      @RestartLaw idEquals (@run idEquals m.dropAllSubscribers l)) := by
  intro hall
  let _ : SubscriberEquals := idEquals
  have hreach : Reach (@agpsSys idEquals)
      (@run idEquals (newMachine .AGPS_TYPE_SUPL)
        [.subscribeRsrc (.ATLSubscriber 7 false)]) :=
    .step (a := .subscribeRsrc (.ATLSubscriber 7 false))
      (.init (isNew_newMachine .AGPS_TYPE_SUPL)) trivial rfl
  have hlaw := hall _ hreach [.onRsrcEvent .RSRC_GRANTED]
  obtain ⟨s, hs, -⟩ := hlaw.wanted (Or.inr (by decide +kernel))
  cases hs

end QcomAgps
