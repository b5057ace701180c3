import QcomCommon.AgpsInvariantProofs
import QcomCommon.LeaseProviderProofs

/-! # The AGPS machine and the framework

    The framework is a peer that takes the `agps_cb` callbacks in order,
    brings its interface up or refuses on a REQUEST, takes it down on a
    RELEASE, and answers each; the answers reach `onRsrcEvent` in order.

    Answers carry no request id.  An answer to an earlier request that comes
    while a later one is outstanding is taken for the later one's, and from
    then on the two sides disagree: `stale_grant` is such a run.  Where every
    GRANTED or DENIED taken in Pending answers the latest request, machine
    and framework agree whenever nothing is under way
    (`framework_agreement`). -/

namespace QcomAgps

open QcomTransition QcomLease AgpsStateMachine

/-- The requests among the calls. -/
def requestsOf (cs : List Call) : List AGpsStatusValue :=
  cs.filterMap (fun c => match c with
    | .requestRsrc n => some n.status
    | _ => none)

/-- The event an answer of the framework is delivered as. -/
def answerEvent : Reply → AgpsRsrcStatus
  | .granted => .RSRC_GRANTED
  | .refused => .RSRC_DENIED
  | .ended => .RSRC_RELEASED

/-- The machine, the framework's interface and what is under way. -/
structure Network where
  sm : AgpsStateMachine
  requests : List AGpsStatusValue
  answers : List Reply
  ifaceUp : Bool
deriving DecidableEq

/-- What the clients, the framework and the wire between do. -/
inductive NetAction where
  | subscribe (s : Subscriber)
  | unsubscribe (s : Subscriber)
  | frameworkGrant
  | frameworkDeny
  | frameworkRelease
  | deliver
deriving DecidableEq, Repr

section Net

variable [SubscriberEquals]

/-- The machine makes a call; its requests join the callbacks. -/
def Network.call (n : Network) (a : AgpsAction) : Network :=
  { n with
    sm := act n.sm a
    requests := n.requests ++ requestsOf (newCalls n.sm (act n.sm a)) }

/-- A step of the clients, the framework or the wire. -/
def netStep (n : Network) : NetAction → Option Network
  | .subscribe s => some (n.call (.subscribeRsrc s))
  | .unsubscribe s => some (n.call (.unsubscribeRsrc s))
  | .frameworkGrant =>
      match n.requests with
      | .GPS_REQUEST_AGPS_DATA_CONN :: rest =>
          some { n with
            requests := rest
            answers := n.answers ++ [.granted]
            ifaceUp := true }
      | _ => none
  | .frameworkDeny =>
      match n.requests with
      | .GPS_REQUEST_AGPS_DATA_CONN :: rest =>
          some { n with
            requests := rest
            answers := n.answers ++ [.refused] }
      | _ => none
  | .frameworkRelease =>
      match n.requests with
      | .GPS_RELEASE_AGPS_DATA_CONN :: rest =>
          some { n with
            requests := rest
            answers := n.answers ++ [.ended]
            ifaceUp := false }
      | _ => none
  | .deliver =>
      match n.answers with
      | r :: rest =>
          some ({ n with answers := rest }.call (.onRsrcEvent (answerEvent r)))
      | [] => none

/-- A machine and a framework that know nothing of each other yet. -/
def netSys : TransSys Network NetAction where
  init n := IsNew n.sm ∧ n.requests = [] ∧ n.answers = [] ∧ n.ifaceUp = false
  step := netStep

/-- A GRANTED or DENIED delivered in Pending answers the latest request: no
    request is unanswered, and no answer to one is behind it. -/
def AnswersCurrent (n : Network) (a : NetAction) : Prop :=
  a = .deliver → n.sm.mStatePtr = .Pending →
    match n.answers with
    | .granted :: rest | .refused :: rest =>
        AGpsStatusValue.GPS_REQUEST_AGPS_DATA_CONN ∉ n.requests ∧
          Reply.granted ∉ rest ∧ Reply.refused ∉ rest
    | _ => True

/-! ## The requests of one event -/

/-- The request an ask is made with. -/
def askValue : Ask → AGpsStatusValue
  | .request => .GPS_REQUEST_AGPS_DATA_CONN
  | .giveBack => .GPS_RELEASE_AGPS_DATA_CONN

omit [SubscriberEquals] in
theorem requestsOf_statusCalls (m : AgpsStateMachine)
    (status : AgpsRsrcStatus) (s : Subscriber) :
    requestsOf (statusCalls m status s) = [] := by
  cases s <;> cases status <;> rfl

omit [SubscriberEquals] in
theorem requestsOf_wordCalls (m : AgpsStateMachine)
    (ws : List (Subscriber × Word)) : requestsOf (wordCalls m ws) = [] := by
  induction ws with
  | nil => rfl
  | cons w ws ih =>
      rw [wordCalls, List.flatMap_cons, requestsOf, List.filterMap_append]
      show requestsOf _ ++ requestsOf (wordCalls m ws) = []
      rw [requestsOf_statusCalls, ih, List.nil_append]

theorem requestsOf_plainCalls {action : AGpsStatusValue}
    {l : List Subscriber} {type : AGpsExtType}
    (h : l.any agpsClients.active
      = (action == .GPS_REQUEST_AGPS_DATA_CONN)) :
    requestsOf (plainCalls action l type) = [action] := by
  have hfind : (l.find? agpsClients.active).isNone
      = (action == .GPS_RELEASE_AGPS_DATA_CONN) := by
    have hany : (l.find? agpsClients.active).isNone
        = !l.any agpsClients.active := by
      rw [Bool.eq_iff_iff]
      simp
    rw [hany, h]
    cases action <;> rfl
  rw [plainCalls, if_pos (beq_iff_eq.mpr hfind)]
  rfl

/-- The requests of one event are the ask of the protocol. -/
theorem requestsOf_event {m : AgpsStateMachine} (h : Lawabiding m)
    (e : RsrcEvent) :
    requestsOf (eventCalls m e)
      = ((leaseAfter m e).2.map askValue).toList := by
  have hsplit : ∀ cs, requestsOf
      (wordCalls m (told agpsClients (lease m) (leaseEvent e)) ++ cs)
        = requestsOf cs := by
    intro cs
    rw [requestsOf, List.filterMap_append]
    show requestsOf _ ++ requestsOf cs = requestsOf cs
    rw [requestsOf_wordCalls, List.nil_append]
  rw [eventCalls, hsplit]
  have hask := ask_active h.settled (leaseEvent e)
  rw [leaseAfter]
  rcases hask with hn | ⟨hr, hact⟩ | ⟨hg, hact⟩
  · rw [hn]
    rfl
  · rw [hr]
    exact requestsOf_plainCalls hact
  · rw [hg]
    exact requestsOf_plainCalls hact

/-- The two sides in the terms of the protocol. -/
def wire (n : Network) : Wire where
  phase := phaseOf n.sm.mStatePtr
  asks := n.requests.map (fun v => match v with
    | .GPS_REQUEST_AGPS_DATA_CONN => Ask.request
    | .GPS_RELEASE_AGPS_DATA_CONN => Ask.giveBack)
  replies := n.answers
  up := n.ifaceUp

/-- A call that is the event `e` moves the wire by that event. -/
theorem wire_call {n : Network} (h : Lawabiding n.sm) {a : AgpsAction}
    {e : RsrcEvent} (he : eventOf n.sm a = some e) :
    wire (n.call a) = { wire n with
      phase := (leaseAfter n.sm e).1.phase
      asks := (wire n).asks ++ (leaseAfter n.sm e).2.toList } := by
  have hact : act n.sm a = n.sm.stateEvent sendRsrcRequest e := by
    rw [act_eq h.multiple, he]
  have hphase : phaseOf (n.sm.stateEvent sendRsrcRequest e).mStatePtr
      = (leaseAfter n.sm e).1.phase :=
    congrArg Lease.phase (lease_event n.sm e)
  rw [wire, wire, Network.call, hact, newCalls_event, requestsOf_event h]
  simp only [List.map_append, hphase]
  congr 1
  cases (leaseAfter n.sm e).2 with
  | none => rfl
  | some A => cases A <;> rfl

/-- A call that is no event moves nothing. -/
theorem wire_call_none {n : Network} (h : Lawabiding n.sm) {a : AgpsAction}
    (he : eventOf n.sm a = none) : wire (n.call a) = wire n := by
  have hact : act n.sm a = n.sm := by rw [act_eq h.multiple, he]
  rw [wire, wire, Network.call, hact, newCalls, List.drop_length]
  simp [requestsOf]

/-! ## Runs -/

/-- The reply events move the phase as replies do. -/
theorem replyMove_event (m : AgpsStateMachine) (r : Reply) {e : RsrcEvent}
    (he : eventOf m (.onRsrcEvent (answerEvent r)) = some e) :
    ReplyMove r (phaseOf m.mStatePtr) (leaseAfter m e).1.phase
      (leaseAfter m e).2 := by
  have hrenew : ∀ r, r ≠ Reply.granted → ReplyMove r .ending
      (renew agpsClients m.mSubscribers).1.phase
      (renew agpsClients m.mSubscribers).2 := by
    intro r hr
    rcases renew_ask (K := agpsClients) m.mSubscribers with
      ⟨hp, ha⟩ | ⟨hp, ha, -⟩
    -- nobody active is left, or the lease is asked for again
    · rw [hp, ha]
      exact .finished hr
    · rw [hp, ha]
      exact .again hr
  rw [leaseAfter, lease]
  cases r with
  | granted =>
      cases Option.some.inj he
      cases m.mStatePtr with
      | Released => exact .ignored (Or.inl rfl)
      | Pending => exact .granted
      | Acquired => exact .ignored (Or.inr (Or.inr (Or.inl ⟨rfl, by decide⟩)))
      | Releasing => exact .ignored (Or.inr (Or.inr (Or.inr ⟨rfl, rfl⟩)))
  | refused =>
      cases Option.some.inj he
      cases m.mStatePtr with
      | Released => exact .ignored (Or.inl rfl)
      | Pending => exact .refused
      | Acquired => exact .ignored (Or.inr (Or.inr (Or.inl ⟨rfl, by decide⟩)))
      | Releasing => exact hrenew .refused (by decide)
  | ended =>
      cases Option.some.inj he
      cases m.mStatePtr with
      | Released => exact .ignored (Or.inl rfl)
      | Pending => exact .ignored (Or.inr (Or.inl ⟨rfl, rfl⟩))
      | Acquired => exact .ended
      | Releasing => exact hrenew .ended (by decide)

/-- The invariant of machine and framework. -/
structure NetLaw (n : Network) : Prop where
  lawabiding : Lawabiding n.sm
  agreed : Agreed (wire n)

theorem netLaw_init {n : Network} (h : netSys.init n) : NetLaw n := by
  obtain ⟨hnew, hreq, hans, hup⟩ := h
  refine ⟨lawabiding_new hnew, ?_⟩
  rw [wire, hnew.released, hreq, hans, hup]
  exact Or.inl ⟨rfl, rfl⟩

theorem netLaw_client {n : Network} (h : NetLaw n) {a : AgpsAction}
    (hmove : ∀ e, eventOf n.sm a = some e →
      ClientMove (wire n).phase (leaseAfter n.sm e).1.phase
        (leaseAfter n.sm e).2) :
    NetLaw (n.call a) := by
  refine ⟨lawabiding_act h.lawabiding a, ?_⟩
  cases he : eventOf n.sm a with
  | none =>
      rw [wire_call_none h.lawabiding he]
      exact h.agreed
  | some e =>
      rw [wire_call h.lawabiding he]
      exact agreed_client h.agreed (hmove e he)

theorem netLaw_deliver {n : Network} (h : NetLaw n) {r : Reply}
    {rest : List Reply} (hans : n.answers = r :: rest)
    (hg : AnswersCurrent n .deliver) :
    NetLaw ({ n with answers := rest }.call
      (.onRsrcEvent (answerEvent r))) := by
  refine ⟨lawabiding_act h.lawabiding (.onRsrcEvent (answerEvent r)), ?_⟩
  obtain ⟨e, he⟩ : ∃ e,
      eventOf n.sm (.onRsrcEvent (answerEvent r)) = some e := by
    cases r <;> exact ⟨_, rfl⟩
  rw [wire_call (n := { n with answers := rest }) h.lawabiding he]
  have hagreed := h.agreed
  -- the condition on the delivery, in the terms of the protocol
  have hcur : Current (wire n) r rest := by
    intro hp hr
    have hstate : n.sm.mStatePtr = .Pending :=
      (phaseOf_eq_iff _ .Pending).mp hp
    have hcur := hg rfl hstate
    rw [hans] at hcur
    have hnot : AGpsStatusValue.GPS_REQUEST_AGPS_DATA_CONN ∉ n.requests ∧
        Reply.granted ∉ rest ∧ Reply.refused ∉ rest := by
      cases r with
      | granted => exact hcur
      | refused => exact hcur
      | ended => exact absurd rfl hr
    refine ⟨?_, hnot.2⟩
    intro hmem
    obtain ⟨v, hv, hask⟩ := List.mem_map.mp hmem
    cases v with
    | GPS_REQUEST_AGPS_DATA_CONN => exact hnot.1 hv
    | GPS_RELEASE_AGPS_DATA_CONN => cases hask
  rw [wire, hans] at hagreed hcur
  exact agreed_reply hagreed hcur (replyMove_event n.sm r he)

theorem netLaw_step {n n' : Network} {a : NetAction} (h : NetLaw n)
    (hg : AnswersCurrent n a) (hs : netStep n a = some n') : NetLaw n' := by
  have hagreed := h.agreed
  cases a with
  | subscribe s =>
      cases Option.some.inj hs
      refine netLaw_client h ?_
      intro e he
      cases Option.some.inj he
      exact clientMove_join (lease n.sm) s
  | unsubscribe s =>
      cases Option.some.inj hs
      refine netLaw_client h ?_
      intro e he
      obtain ⟨x, -, hx⟩ := Option.map_eq_some_iff.mp he
      subst hx
      exact clientMove_leave (lease n.sm) x
  | frameworkGrant =>
      rw [netStep] at hs
      split at hs
      · rename_i rest hreq
        cases Option.some.inj hs
        refine ⟨h.lawabiding, ?_⟩
        rw [wire, hreq] at hagreed
        exact agreed_answer hagreed true
      · cases hs
  | frameworkDeny =>
      rw [netStep] at hs
      split at hs
      · rename_i rest hreq
        cases Option.some.inj hs
        refine ⟨h.lawabiding, ?_⟩
        rw [wire, hreq] at hagreed
        exact agreed_answer hagreed false
      · cases hs
  | frameworkRelease =>
      rw [netStep] at hs
      split at hs
      · rename_i rest hreq
        cases Option.some.inj hs
        refine ⟨h.lawabiding, ?_⟩
        rw [wire, hreq] at hagreed
        exact agreed_return hagreed
      · cases hs
  | deliver =>
      rw [netStep] at hs
      split at hs
      · rename_i r rest hans
        cases Option.some.inj hs
        exact netLaw_deliver h hans hg
      · cases hs

/-- **AGREEMENT WITH THE FRAMEWORK**: in the runs where no stale answer is
    taken in Pending, whenever nothing is under way the interface is up
    exactly in Acquired. -/
theorem framework_agreement {n : Network}
    (h : ReachUnder netSys AnswersCurrent n) (hreq : n.requests = [])
    (hans : n.answers = []) :
    n.ifaceUp = true ↔ n.sm.mStatePtr = .Acquired := by
  have hlaw : NetLaw n := reachUnder_inv (I := NetLaw)
    (fun _ => netLaw_init) (fun _ _ _ => netLaw_step) h
  have hagreed := hlaw.agreed
  rw [wire, hreq, hans] at hagreed
  rw [← phaseOf_eq_iff]
  exact agreed_quiescent hagreed

end Net

/-! ## A stale answer -/

/-- A new machine and a framework with the interface down. -/
def newNetwork : Network where
  sm := newMachine .AGPS_TYPE_SUPL
  requests := []
  answers := []
  ifaceUp := false

theorem init_newNetwork : (@netSys idEquals).init newNetwork :=
  ⟨isNew_newMachine _, rfl, rfl, rfl⟩

/-- One ATL handle, granted. -/
theorem framework_agreement_granted :
    ∃ n, @exec _ _ (@netSys idEquals) newNetwork
        [.subscribe (.ATLSubscriber 1 false), .frameworkGrant, .deliver]
          = some n ∧
      (n.ifaceUp = true ↔ n.sm.mStatePtr = .Acquired) := by
  let _ : SubscriberEquals := idEquals
  refine ⟨_, rfl, framework_agreement ?_ rfl rfl⟩
  refine .step (a := .deliver) (.step (a := .frameworkGrant)
    (.step (a := .subscribe (.ATLSubscriber 1 false))
      (.init init_newNetwork) ?_ rfl) ?_ rfl) ?_ rfl
  · exact fun h => by cases h
  · exact fun h => by cases h
  · exact fun _ _ => ⟨List.not_mem_nil, List.not_mem_nil, List.not_mem_nil⟩

/-- Handle 1 leaves and handle 2 comes while the framework serves 1. -/
def staleRun : List NetAction :=
  [.subscribe (.ATLSubscriber 1 false), .unsubscribe (.ATLSubscriber 1 false),
   .frameworkGrant, .frameworkRelease, .subscribe (.ATLSubscriber 2 false),
   .deliver, .deliver, .frameworkGrant, .deliver]

/-- The GRANTED for 1 is taken for the answer to 2, the RELEASED for 1 ends
    it, and the GRANTED for 2 meets a machine in Released. -/
theorem stale_grant :
    ¬ (∀ n, Reach (@netSys idEquals) n → n.requests = [] → n.answers = [] →
      (n.ifaceUp = true ↔ n.sm.mStatePtr = .Acquired)) := by
  intro hall
  let _ : SubscriberEquals := idEquals
  have hrun : (exec netSys newNetwork staleRun).map
      (fun n => (n.requests, n.answers, n.ifaceUp, n.sm.mStatePtr))
        = some ([], [], true, .Released) := by decide +kernel
  obtain ⟨n, hexec, hn⟩ := Option.map_eq_some_iff.mp hrun
  obtain ⟨hreq, hans, hup, hstate⟩ : n.requests = [] ∧ n.answers = [] ∧
      n.ifaceUp = true ∧ n.sm.mStatePtr = .Released := by simpa using hn
  have hreach : Reach netSys n := reach_exec _ (.init init_newNetwork) hexec
  have hacq := (hall n hreach hreq hans).mp hup
  rw [hstate] at hacq
  cases hacq

end QcomAgps
