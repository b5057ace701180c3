import QcomCommon.AgpsInvariantProofs
import QcomCommon.LeaseStoryProofs

/-! # One answer for each ATL subscription

    The statuses the machine issues for an ATL handle are recorded from the
    handle's last `subscribeRsrc` on.  They are the words of the lease
    protocol for that one client, so while the handle is in the list there is
    at most an `atlOpenStatus(h, 1)`, and once it has left there is exactly
    one terminal status and nothing after it (`atl_answers`).

    Here `equals` is the code's own, and tells different clients of a run
    apart. -/

namespace QcomAgps

open QcomTransition QcomLease AgpsStateMachine

/-- `atlOpenStatus(h, is_succ)` and `atlCloseStatus(h, is_succ)`. -/
inductive AtlStatus where
  | opened (is_succ : Bool)
  | closed (is_succ : Bool)
deriving DecidableEq, Repr

/-- The status a call has for the ATL client of the handle. -/
def atlStatusOf (h : UInt32) : Call → Option AtlStatus
  | .atlOpenStatus handle is_succ _ _ _ =>
      if handle = h then some (.opened is_succ) else none
  | .atlCloseStatus handle is_succ =>
      if handle = h then some (.closed is_succ) else none
  | _ => none

/-- The statuses for `h` among the calls. -/
def statusesOf (h : UInt32) (cs : List Call) : List AtlStatus :=
  cs.filterMap (atlStatusOf h)

/-- The ATL client of the handle. -/
def isAtl (h : UInt32) : Subscriber → Bool
  | .ATLSubscriber ID _ => ID == h
  | _ => false

/-- The call subscribes that client. -/
def subscribesAtl (h : UInt32) : AgpsAction → Bool
  | .subscribeRsrc s => isAtl h s
  | _ => false

/-- A machine with, for each handle, whether it ever subscribed and the
    statuses issued for it since it last did. -/
structure AnswerLog where
  sm : AgpsStateMachine
  subscribed : UInt32 → Bool
  since : UInt32 → List AtlStatus

/-- The handle is in the list. -/
def AnswerLog.inList (n : AnswerLog) (h : UInt32) : Bool :=
  n.sm.mSubscribers.any (isAtl h)

section Log

variable [SubscriberEquals]

/-- The log behind a call. -/
def AnswerLog.call (n : AnswerLog) (a : AgpsAction) : AnswerLog where
  sm := act n.sm a
  subscribed h := n.subscribed h || subscribesAtl h a
  since h := (if subscribesAtl h a then [] else n.since h)
    ++ statusesOf h (newCalls n.sm (act n.sm a))

/-- A machine with its log, from a new one on. -/
def answerSys : TransSys AnswerLog AgpsAction where
  init n := IsNew n.sm ∧ ∀ h, n.subscribed h = false ∧ n.since h = []
  step n a := some (n.call a)

end Log

/-- Subscriptions are by `pop`, and of an ATL handle only while it is not in
    the list. -/
def NotAgain (pop : Subscriber → Prop) (n : AnswerLog) : AgpsAction → Prop
  | .subscribeRsrc s => pop s ∧ ∀ h, isAtl h s = true → n.inList h = false
  | .unsubscribeRsrc _ => True
  | .onRsrcEvent _ => True

/-- Who a subscriber is: its class, and what `equals` looks at. -/
def identity : Subscriber → Subscriber
  | .BITSubscriber ID v6 => .BITSubscriber ID v6
  | .ATLSubscriber ID _ => .ATLSubscriber ID false
  | .WIFISubscriber ID _ _ _ => .WIFISubscriber ID none none false
  | .DSSubscriber ID _ => .DSSubscriber ID false

/-- `equals` tells different clients apart. -/
def PairwiseDifferent (castIPv6 : Subscriber → List UInt8)
    (pop : Subscriber → Prop) : Prop :=
  ∀ s t, pop s → pop t → (codeEquals castIPv6).equals s t = true →
    identity s = identity t

/-- The list entries of `pop`: copies, active or not. -/
def entriesOf (pop : Subscriber → Prop) (s : Subscriber) : Prop :=
  ∃ t, pop t ∧ identity s = identity t

/-! ## Words and statuses -/

/-- The status of an ATL subscriber for a word. -/
def answerOf : Word → AtlStatus
  | .granted => .opened true
  | .refused => .opened false
  | .ended => .closed true
  | .left => .closed true

theorem statusesOf_statusCalls (h : UInt32) (m : AgpsStateMachine)
    (w : Word) {s : Subscriber} (hs : s.ID = h → isAtl h s = true) :
    statusesOf h (statusCalls m (wordStatus w) s)
      = if isAtl h s then [answerOf w] else [] := by
  cases s with
  | BITSubscriber ID v6 => cases w <;> rfl
  | WIFISubscriber ID ssid pw b => cases w <;> rfl
  | ATLSubscriber ID mode =>
      by_cases hID : ID = h
      · cases w <;> simp [statusCalls, statusesOf, atlStatusOf, classStatus,
          atlStatus, wordStatus, call, isAtl, answerOf, hID]
      · cases w <;> simp [statusCalls, statusesOf, atlStatusOf, classStatus,
          atlStatus, wordStatus, call, isAtl, hID]
  | DSSubscriber ID b =>
      have hID : ID ≠ h := fun hID => by cases hs hID
      cases w <;> simp [statusCalls, statusesOf, atlStatusOf, classStatus,
        dsStatus, informStatus, wordStatus, call, isAtl, hID]

/-- Where only ATL subscribers have the ID `h`, the statuses for `h` are the
    words `h` hears. -/
theorem statusesOf_wordCalls (h : UInt32) (m : AgpsStateMachine)
    (ws : List (Subscriber × Word))
    (hws : ∀ w ∈ ws, w.1.ID = h → isAtl h w.1 = true) :
    statusesOf h (wordCalls m ws) = (heard (isAtl h) ws).map answerOf := by
  induction ws with
  | nil => rfl
  | cons w ws ih =>
      have hw := statusesOf_statusCalls h m w.2 (hws w List.mem_cons_self)
      have hrest := ih (fun v hv => hws v (List.mem_cons_of_mem w hv))
      have hsplit : statusesOf h (wordCalls m (w :: ws))
          = statusesOf h (statusCalls m (wordStatus w.2) w.1)
            ++ statusesOf h (wordCalls m ws) := by
        rw [wordCalls, List.flatMap_cons]
        exact List.filterMap_append
      rw [hsplit, hw, hrest]
      cases ha : isAtl h w.1 <;> simp [heard, ha]

theorem statusesOf_plainCalls [SubscriberEquals] (h : UInt32)
    (action : AGpsStatusValue) (l : List Subscriber) (type : AGpsExtType) :
    statusesOf h (plainCalls action l type) = [] := by
  rw [plainCalls]
  split <;> rfl

theorem statusesOf_event [SubscriberEquals] (h : UInt32)
    (m : AgpsStateMachine) (e : RsrcEvent)
    (hws : ∀ w ∈ told agpsClients (lease m) (leaseEvent e),
      w.1.ID = h → isAtl h w.1 = true) :
    statusesOf h (eventCalls m e)
      = (heard (isAtl h) (told agpsClients (lease m) (leaseEvent e))).map
        answerOf := by
  have hsplit : ∀ cs cs', statusesOf h (cs ++ cs')
      = statusesOf h cs ++ statusesOf h cs' := fun _ _ =>
    List.filterMap_append
  rw [eventCalls, hsplit, statusesOf_wordCalls h m _ hws]
  split
  · exact List.append_nil _
  · rw [statusesOf_plainCalls, List.append_nil]
  · rw [statusesOf_plainCalls, List.append_nil]

/-! ## The population -/

theorem identity_clone (s : Subscriber) : identity s.clone = identity s := by
  cases s <;> rfl

theorem identity_markInactive (s : Subscriber) :
    identity s.markInactive = identity s := by
  cases s <;> rfl

theorem identity_ID (s : Subscriber) : (identity s).ID = s.ID := by
  cases s <;> rfl

theorem isAtl_identity (h : UInt32) (s : Subscriber) :
    isAtl h (identity s) = isAtl h s := by
  cases s <;> rfl

theorem entriesOf_self {pop : Subscriber → Prop} {s : Subscriber}
    (h : pop s) : entriesOf pop s := ⟨s, h, rfl⟩

theorem strncmpEq_self (n : Nat) : ∀ a, strncmpEq n a a = true := by
  induction n with
  | zero => intro a; rfl
  | succ n ih => intro a; simp [strncmpEq, ih]

/-- What a cast reads: a BIT subscriber's own address, and `bytes` of the
    objects that have none. -/
def castReads (bytes : Subscriber → List UInt8) : Subscriber → List UInt8
  | .BITSubscriber _ v6 => v6
  | s => bytes s

/-- A subscriber equals itself. -/
theorem codeEquals_self (bytes : Subscriber → List UInt8) (s : Subscriber) :
    (codeEquals (castReads bytes)).equals s s = true := by
  cases s with
  | BITSubscriber ID v6 =>
      show (ID == ID && (INADDR_NONE != ID || strncmpEq 16 v6 v6)) = true
      rw [strncmpEq_self, Bool.or_true, Bool.and_true]
      exact beq_self_eq_true ID
  | ATLSubscriber ID mode => exact beq_self_eq_true ID
  | WIFISubscriber ID ssid pw b => exact beq_self_eq_true ID
  | DSSubscriber ID b => exact beq_self_eq_true ID

section Population

variable {castIPv6 : Subscriber → List UInt8} {pop : Subscriber → Prop}
  {s t : Subscriber}

/-- What equals has the same ID. -/
theorem ID_of_equals (h : (codeEquals castIPv6).equals s t = true) :
    s.ID = t.ID := by
  cases s with
  | BITSubscriber ID v6 => exact beq_iff_eq.mp (Bool.and_eq_true_iff.mp h).1
  | ATLSubscriber ID mode => exact beq_iff_eq.mp h
  | WIFISubscriber ID ssid pw b => exact beq_iff_eq.mp h
  | DSSubscriber ID b => exact beq_iff_eq.mp h

/-- A BIT subscriber is the same as an entry. -/
theorem identity_eq_bit {ID : UInt32} {v6 : List UInt8}
    (h : identity s = identity (.BITSubscriber ID v6)) :
    s = .BITSubscriber ID v6 := by
  cases s with
  | BITSubscriber ID' v6' => exact h
  | _ => cases h

/-- Entries that are equal are of one client. -/
theorem identity_of_equals (hpop : PairwiseDifferent castIPv6 pop)
    (hs : entriesOf pop s) (ht : entriesOf pop t)
    (h : (codeEquals castIPv6).equals s t = true) : identity s = identity t := by
  obtain ⟨u, hu, hsu⟩ := hs
  obtain ⟨v, hv, htv⟩ := ht
  have hID : (u.ID == v.ID) = true := by
    rw [← identity_ID u, ← hsu, identity_ID, ID_of_equals h,
      ← identity_ID t, htv, identity_ID]
    exact beq_self_eq_true v.ID
  have hID' : (v.ID == u.ID) = true := by
    rw [beq_iff_eq.mp hID]
    exact beq_self_eq_true v.ID
  rw [hsu, htv]
  cases u with
  | ATLSubscriber ID mode => exact hpop _ v hu hv hID
  | WIFISubscriber ID ssid pw b => exact hpop _ v hu hv hID
  | DSSubscriber ID b => exact hpop _ v hu hv hID
  | BITSubscriber ID v6 =>
      cases v with
      | ATLSubscriber ID' mode => exact (hpop _ _ hv hu hID').symm
      | WIFISubscriber ID' ssid pw b => exact (hpop _ _ hv hu hID').symm
      | DSSubscriber ID' b => exact (hpop _ _ hv hu hID').symm
      | BITSubscriber ID' v6' =>
          rw [identity_eq_bit hsu, identity_eq_bit htv] at h
          exact hpop _ _ hu hv h

/-- And those of one client are equal, when a BIT subscriber reads its own
    address. -/
theorem equals_of_identity
    (hcast : ∀ ID v6, castIPv6 (.BITSubscriber ID v6) = v6)
    (h : identity s = identity t) : (codeEquals castIPv6).equals s t = true := by
  have hID : (s.ID == t.ID) = true := by
    rw [← identity_ID s, h, identity_ID]
    exact beq_self_eq_true t.ID
  cases s with
  | ATLSubscriber ID mode => exact hID
  | WIFISubscriber ID ssid pw b => exact hID
  | DSSubscriber ID b => exact hID
  | BITSubscriber ID v6 =>
      obtain rfl := identity_eq_bit h.symm
      show (ID == ID && (INADDR_NONE != ID || strncmpEq 16 v6 (castIPv6 _)))
        = true
      rw [hcast, strncmpEq_self, Bool.or_true, Bool.and_true]
      exact beq_self_eq_true ID

/-- An ATL handle is watched: it does not linger. -/
theorem watched_isAtl (hpop : PairwiseDifferent castIPv6 pop) (h : UInt32) :
    @Watched Subscriber (@agpsClients (codeEquals castIPv6)) (entriesOf pop)
      (isAtl h) := by
  refine ⟨?_, ?_, ?_, ?_⟩
  · intro s hs
    cases s with
    | ATLSubscriber ID mode => rfl
    | BITSubscriber ID v6 => cases hs
    | WIFISubscriber ID ssid pw b => cases hs
    | DSSubscriber ID b => cases hs
  · intro s
    cases s <;> rfl
  · intro s
    cases s <;> rfl
  · intro s t hs ht hts hq
    have hidentity := identity_of_equals hpop ht hs hts
    rw [← isAtl_identity, hidentity, isAtl_identity]
    exact hq

variable (hcast : ∀ ID v6, castIPv6 (.BITSubscriber ID v6) = v6)
  (hpop : PairwiseDifferent castIPv6 pop)

include hcast hpop

theorem lawful_entriesOf :
    @Lawful Subscriber (@agpsClients (codeEquals castIPv6))
      (entriesOf pop) := by
  refine @Lawful.mk _ (@agpsClients (codeEquals castIPv6)) _ ?_ ?_ ?_ ?_ ?_
    ?_ ?_
  · rintro s ⟨t, ht, hst⟩
    exact ⟨t, ht, (identity_clone s).trans hst⟩
  · rintro s ⟨t, ht, hst⟩
    exact ⟨t, ht, (identity_markInactive s).trans hst⟩
  · intro s _
    exact equals_of_identity hcast rfl
  · intro s t hs ht h
    exact equals_of_identity hcast (identity_of_equals hpop hs ht h).symm
  · intro s t u hs ht hu h h'
    exact equals_of_identity hcast ((identity_of_equals hpop hs ht h).trans
      (identity_of_equals hpop ht hu h'))
  · intro s _
    exact equals_of_identity hcast (identity_clone s)
  · intro s _
    exact equals_of_identity hcast (identity_markInactive s)

end Population

/-! ## Runs -/

section Runs

variable {castIPv6 : Subscriber → List UInt8} {pop : Subscriber → Prop}

/-- What holds of the handle `h`: off the list before its first
    subscription, and from then on its statuses tell its story. -/
structure AnswerLaw (pop : Subscriber → Prop) (h : UInt32)
    (n : AnswerLog) : Prop where
  before : n.subscribed h = false →
    n.sm.mSubscribers.filter (isAtl h) = []
  story : n.subscribed h = true → (∃ mode, pop (.ATLSubscriber h mode)) ∧
    ∃ ws, n.since h = ws.map answerOf ∧
      Story (phaseOf n.sm.mStatePtr) (n.sm.mSubscribers.filter (isAtl h)) ws

theorem isAtl_eq {h : UInt32} {s : Subscriber} (hs : isAtl h s = true) :
    ∃ mode, s = .ATLSubscriber h mode := by
  cases s with
  | ATLSubscriber ID mode => exact ⟨mode, by rw [beq_iff_eq.mp hs]⟩
  | BITSubscriber ID v6 => cases hs
  | WIFISubscriber ID ssid pw b => cases hs
  | DSSubscriber ID b => cases hs

/-- Where `pop` has the ATL handle `h`, entries with the ID `h` are its. -/
theorem isAtl_of_ID (hpop : PairwiseDifferent castIPv6 pop) {h : UInt32}
    {mode : Bool} (hatl : pop (.ATLSubscriber h mode)) {s : Subscriber}
    (hs : entriesOf pop s) (hID : s.ID = h) : isAtl h s = true := by
  have hequals : (codeEquals castIPv6).equals (.ATLSubscriber h mode) s
      = true := by
    show (h == s.ID) = true
    rw [hID]
    exact beq_self_eq_true h
  have hidentity := identity_of_equals hpop (entriesOf_self hatl) hs hequals
  rw [← isAtl_identity, ← hidentity]
  exact beq_self_eq_true h

/-- The books of a run. -/
structure LogBooks (castIPv6 : Subscriber → List UInt8)
    (pop : Subscriber → Prop) (n : AnswerLog) : Prop where
  lawabiding : @Lawabiding (codeEquals castIPv6) n.sm
  entries : @Entries Subscriber (@agpsClients (codeEquals castIPv6))
    (entriesOf pop) n.sm.mSubscribers

/-- Where `h` does not subscribe, a client that joins is another one. -/
theorem join_other [SubscriberEquals] {m : AgpsStateMachine} {a : AgpsAction}
    {e : RsrcEvent} {h : UInt32} (hsub : subscribesAtl h a = false)
    (he : eventOf m a = some e) (s : Subscriber)
    (hjoin : leaseEvent e = .join s) : isAtl h s = false := by
  cases a with
  | subscribeRsrc t =>
      cases Option.some.inj he
      cases hjoin
      exact hsub
  | unsubscribeRsrc t =>
      obtain ⟨x, -, rfl⟩ := Option.map_eq_some_iff.mp he
      cases hjoin
  | onRsrcEvent event =>
      cases event with
      | RSRC_GRANTED => cases Option.some.inj he; cases hjoin
      | RSRC_RELEASED => cases Option.some.inj he; cases hjoin
      | RSRC_DENIED => cases Option.some.inj he; cases hjoin
      | RSRC_SUBSCRIBE => cases he
      | RSRC_UNSUBSCRIBE => cases he
      | RSRC_STATUS_MAX => cases he

/-- The calls of a run name subscribers of the population. -/
theorem from_notAgain {n : AnswerLog} {a : AgpsAction}
    (ha : NotAgain pop n a) : From (entriesOf pop) n.sm a := by
  cases a with
  | subscribeRsrc s => exact entriesOf_self ha.1
  | unsubscribeRsrc s => trivial
  | onRsrcEvent event => trivial

/-- The statuses of one event for a handle of the population. -/
theorem statusesOf_named (hpop : PairwiseDifferent castIPv6 pop) {n : AnswerLog}
    (hn : LogBooks castIPv6 pop n) {a : AgpsAction} (ha : NotAgain pop n a)
    {e : RsrcEvent} (he : @eventOf (codeEquals castIPv6) n.sm a = some e)
    {h : UInt32} {mode : Bool} (hatl : pop (.ATLSubscriber h mode)) :
    statusesOf h (@eventCalls (codeEquals castIPv6) n.sm e)
      = (heard (isAtl h) (told (@agpsClients (codeEquals castIPv6))
          (lease n.sm) (leaseEvent e))).map answerOf := by
  let _ : SubscriberEquals := codeEquals castIPv6
  have hnamed := named_eventOf (from_notAgain ha) he
  refine statusesOf_event h n.sm e (fun w hw hID => ?_)
  refine isAtl_of_ID hpop hatl ?_ hID
  rcases told_mem hnamed hw with hmem | hjoin
  · exact hn.entries.all w.1 hmem
  · rw [hjoin] at hnamed
    exact hnamed

variable (hcast : ∀ ID v6, castIPv6 (.BITSubscriber ID v6) = v6)
  (hpop : PairwiseDifferent castIPv6 pop)

include hcast hpop

theorem logBooks_step {n : AnswerLog} (hn : LogBooks castIPv6 pop n)
    {a : AgpsAction} (ha : NotAgain pop n a) :
    LogBooks castIPv6 pop (@AnswerLog.call (codeEquals castIPv6) n a) := by
  let _ : SubscriberEquals := codeEquals castIPv6
  refine ⟨lawabiding_act hn.lawabiding a, ?_⟩
  refine act_keeps (I := fun m => Entries agpsClients (entriesOf pop)
    m.mSubscribers) hn.lawabiding.multiple a hn.entries ?_
  intro e he
  have hstep : Entries agpsClients (entriesOf pop)
      (step agpsClients true (lease n.sm) (leaseEvent e)).1.clients :=
    entries_step (lawful_entriesOf hcast hpop) hn.entries
      (named_eventOf (from_notAgain ha) he)
  have hlist : (n.sm.stateEvent sendRsrcRequest e).mSubscribers
      = (leaseAfter n.sm e).1.clients :=
    congrArg Lease.clients (lease_event n.sm e)
  rw [hlist]
  exact hstep

/-- A handle's first subscription, or its next after it left. -/
theorem answerLaw_subscribe {n : AnswerLog} (hn : LogBooks castIPv6 pop n)
    {h : UInt32} {s : Subscriber} (hs : isAtl h s = true)
    (ha : NotAgain pop n (.subscribeRsrc s)) :
    AnswerLaw pop h
      (@AnswerLog.call (codeEquals castIPv6) n (.subscribeRsrc s)) := by
  let _ : SubscriberEquals := codeEquals castIPv6
  obtain ⟨mode, rfl⟩ := isAtl_eq hs
  have hsub : subscribesAtl h (.subscribeRsrc (.ATLSubscriber h mode)) = true :=
    hs
  have hact : act n.sm (.subscribeRsrc (.ATLSubscriber h mode))
      = n.sm.stateEvent sendRsrcRequest (.subscribe (.ATLSubscriber h mode)) :=
    act_eq hn.lawabiding.multiple _
  have hoff : n.sm.mSubscribers.filter (isAtl h) = [] := by
    rw [List.filter_eq_nil_iff]
    exact List.any_eq_false.mp (ha.2 h hs)
  refine ⟨?_, fun _ => ⟨⟨mode, ha.1⟩, heard (isAtl h) (told agpsClients
    (lease n.sm) (.join (.ATLSubscriber h mode))), ?_, ?_⟩⟩
  · intro hb
    have hb' : (n.subscribed h || subscribesAtl h
        (.subscribeRsrc (.ATLSubscriber h mode))) = false := hb
    rw [hsub, Bool.or_true] at hb'
    cases hb'
  · show (if subscribesAtl h (.subscribeRsrc (.ATLSubscriber h mode)) then []
        else n.since h) ++ statusesOf h (newCalls n.sm (act n.sm _)) = _
    rw [if_pos hsub, hact, newCalls_event, List.nil_append]
    exact statusesOf_named hpop hn ha rfl ha.1
  · show Story (phaseOf (act n.sm _).mStatePtr)
      ((act n.sm _).mSubscribers.filter (isAtl h)) _
    have hbooks := lease_event n.sm (.subscribe (.ATLSubscriber h mode))
    rw [hact, show phaseOf _ = _ from congrArg Lease.phase hbooks,
      show (n.sm.stateEvent sendRsrcRequest _).mSubscribers = _ from
        congrArg Lease.clients hbooks]
    exact story_join (watched_isAtl hpop h) hn.entries.all
      (entriesOf_self ha.1) hs
      ((lawful_entriesOf hcast hpop).refl (entriesOf_self ha.1)) hoff

/-- One call, for one handle. -/
theorem answerLaw_step {n : AnswerLog} (hn : LogBooks castIPv6 pop n)
    {h : UInt32} (hlaw : AnswerLaw pop h n) {a : AgpsAction}
    (ha : NotAgain pop n a) :
    AnswerLaw pop h (@AnswerLog.call (codeEquals castIPv6) n a) := by
  let _ : SubscriberEquals := codeEquals castIPv6
  cases hsub : subscribesAtl h a with
  | true =>
      cases a with
      | subscribeRsrc s => exact answerLaw_subscribe hcast hpop hn hsub ha
      | unsubscribeRsrc s => cases hsub
      | onRsrcEvent event => cases hsub
  | false =>
      have hbefore : (n.call a).subscribed h = n.subscribed h := by
        show (n.subscribed h || subscribesAtl h a) = n.subscribed h
        rw [hsub, Bool.or_false]
      have hsince : (n.call a).since h
          = n.since h ++ statusesOf h (newCalls n.sm (act n.sm a)) := by
        show (if subscribesAtl h a then [] else n.since h) ++ _ = _
        rw [hsub, if_neg Bool.false_ne_true]
      have hsm : (n.call a).sm = act n.sm a := rfl
      cases he : eventOf n.sm a with
      | none =>
          -- no event: neither the list nor the record moves
          have hact : act n.sm a = n.sm := by
            rw [act_eq hn.lawabiding.multiple, he]
          have hnew : statusesOf h (newCalls n.sm n.sm) = [] := by
            rw [newCalls, List.drop_length]
            rfl
          rw [hact, hnew, List.append_nil] at hsince
          rw [hact] at hsm
          constructor
          · rw [hbefore, hsm]
            exact hlaw.before
          · rw [hbefore, hsince, hsm]
            exact hlaw.story
      | some e =>
          have hact : act n.sm a = n.sm.stateEvent sendRsrcRequest e := by
            rw [act_eq hn.lawabiding.multiple, he]
          have hbooks := lease_event n.sm e
          have hphase : phaseOf (n.call a).sm.mStatePtr
              = (leaseAfter n.sm e).1.phase := by
            rw [hsm, hact]
            exact congrArg Lease.phase hbooks
          have hlist : (n.call a).sm.mSubscribers
              = (leaseAfter n.sm e).1.clients := by
            rw [hsm, hact]
            exact congrArg Lease.clients hbooks
          have hq := watched_isAtl hpop h
          have hidle := hn.lawabiding.settled.idle_iff.mp
          have hnamed := named_eventOf (from_notAgain ha) he
          have hother := join_other hsub he
          constructor
          · rw [hbefore, hlist]
            exact fun hb => off_step hq hidle hnamed hother (hlaw.before hb)
          · rw [hbefore, hsince, hphase, hlist, hact, newCalls_event]
            intro hs
            obtain ⟨⟨mode, hatl⟩, ws, hws, hstory⟩ := hlaw.story hs
            refine ⟨⟨mode, hatl⟩, ws ++ heard (isAtl h) (told agpsClients
              (lease n.sm) (leaseEvent e)), ?_,
              story_step hq hidle hnamed hother hstory⟩
            rw [List.map_append, hws, statusesOf_named hpop hn ha he hatl]

/-- **ONE ANSWER**: a handle in the list has been told at most that it is
    open; one that left has been told, last and once, a terminal status. -/
theorem atl_answers {n : AnswerLog}
    (hr : ReachUnder (@answerSys (codeEquals castIPv6)) (NotAgain pop) n)
    (h : UInt32) (hs : n.subscribed h = true) :
    (n.inList h = true → n.since h = [] ∨ n.since h = [.opened true]) ∧
    (n.inList h = false →
      ∃ t, (t = .opened false ∨ t = .closed true) ∧
        (n.since h = [t] ∨ n.since h = [.opened true, t])) := by
  let _ : SubscriberEquals := codeEquals castIPv6
  have hbooks : ∀ n, ReachUnder answerSys (NotAgain pop) n →
      LogBooks castIPv6 pop n := by
    intro n hn
    refine reachUnder_inv (I := LogBooks castIPv6 pop) ?_ ?_ hn
    · intro n hn
      refine ⟨lawabiding_new hn.1, ?_⟩
      rw [hn.1.empty]
      exact entries_nil
    · intro n a n' hn ha hstep
      cases Option.some.inj hstep
      exact logBooks_step hcast hpop hn ha
  have hlaw : AnswerLaw pop h n := by
    refine reachUnder_inv_of (I := AnswerLaw pop h) hbooks ?_ ?_ hr
    · intro n hn
      refine ⟨fun _ => by rw [hn.1.empty]; rfl, fun hsub => ?_⟩
      rw [(hn.2 h).1] at hsub
      cases hsub
    · intro n a n' hJ hn ha hstep
      cases Option.some.inj hstep
      exact answerLaw_step hcast hpop hJ hn ha
  -- the story, read off at its two kinds of end
  obtain ⟨-, ws, hws, hstory⟩ := hlaw.story hs
  constructor
  · intro hin
    obtain ⟨x, hx, hxq⟩ := List.any_eq_true.mp hin
    have hmem : x ∈ n.sm.mSubscribers.filter (isAtl h) :=
      List.mem_filter.mpr ⟨hx, hxq⟩
    match hon : n.sm.mSubscribers.filter (isAtl h), hmem, hstory with
    | [y], _, hstory =>
        have hws' : ws = if phaseOf n.sm.mStatePtr = .held then [.granted]
          else [] := hstory
        rw [hws, hws']
        split
        · exact Or.inr rfl
        · exact Or.inl rfl
  · intro hin
    have hoff : n.sm.mSubscribers.filter (isAtl h) = [] := by
      rw [List.filter_eq_nil_iff]
      exact List.any_eq_false.mp hin
    rw [hoff] at hstory
    obtain ⟨w, hw, hws'⟩ := hstory
    refine ⟨answerOf w, ?_, ?_⟩
    · cases w with
      | granted => exact absurd rfl hw
      | refused => exact Or.inl rfl
      | ended => exact Or.inr rfl
      | left => exact Or.inr rfl
    · rw [hws]
      rcases hws' with hws' | hws'
      · exact Or.inl (by rw [hws']; rfl)
      · exact Or.inr (by rw [hws']; rfl)

end Runs

/-- A cast that reads a BIT subscriber's own address. -/
def ownIPv6 : Subscriber → List UInt8
  | .BITSubscriber _ v6 => v6
  | _ => []

/-- A client of the daemon that is known by its IPv6 address. -/
def byIPv6 (n : UInt8) : Subscriber :=
  .BITSubscriber INADDR_NONE ([0x20, 2] ++ List.replicate 13 1 ++ [n])

/-- An ATL handle, two clients by IPv6 and a WIFI client. -/
def someClients : List Subscriber :=
  [.ATLSubscriber 5 false, byIPv6 1, byIPv6 2,
    .WIFISubscriber 1 (some "ap") none false]

theorem someClients_different :
    PairwiseDifferent ownIPv6 (fun s => s ∈ someClients) := by
  have hall : ∀ s ∈ someClients, ∀ t ∈ someClients,
      (codeEquals ownIPv6).equals s t = true → identity s = identity t := by
    decide +kernel
  exact fun s t hs ht h => hall s hs t ht h

/-- All subscribe, the interface is granted, and handle 5 unsubscribes; then
    the interface is lost. -/
def atlRun : List AgpsAction :=
  someClients.map .subscribeRsrc ++ [.onRsrcEvent .RSRC_GRANTED,
    .unsubscribeRsrc (.ATLSubscriber 5 false), .onRsrcEvent .RSRC_RELEASED]

/-- What is logged of that run. -/
def atlLog : AnswerLog :=
  atlRun.foldl (@AnswerLog.call (codeEquals ownIPv6))
    ⟨newMachine .AGPS_TYPE_SUPL, fun _ => false, fun _ => []⟩

theorem atl_answers_run :
    atlLog.since 5 = [.opened true, .closed true] ∧
      ∃ t, (t = AtlStatus.opened false ∨ t = .closed true) ∧
        (atlLog.since 5 = [t] ∨ atlLog.since 5 = [.opened true, t]) := by
  have hreach : ReachUnder (@answerSys (codeEquals ownIPv6))
      (NotAgain (fun s => s ∈ someClients)) atlLog := by
    have hstart : ReachUnder (@answerSys (codeEquals ownIPv6))
        (NotAgain (fun s => s ∈ someClients))
        ⟨newMachine .AGPS_TYPE_SUPL, fun _ => false, fun _ => []⟩ :=
      .init ⟨isNew_newMachine _, fun _ => ⟨rfl, rfl⟩⟩
    have hatl : ReachUnder (@answerSys (codeEquals ownIPv6))
        (NotAgain (fun s => s ∈ someClients)) _ :=
      .step hstart (a := .subscribeRsrc (.ATLSubscriber 5 false))
        ⟨by decide, fun _ _ => rfl⟩ rfl
    have hfirst : ReachUnder (@answerSys (codeEquals ownIPv6))
        (NotAgain (fun s => s ∈ someClients)) _ :=
      .step hatl (a := .subscribeRsrc (byIPv6 1))
        ⟨by decide, fun _ h => by cases h⟩ rfl
    have hsecond : ReachUnder (@answerSys (codeEquals ownIPv6))
        (NotAgain (fun s => s ∈ someClients)) _ :=
      .step hfirst (a := .subscribeRsrc (byIPv6 2))
        ⟨by decide, fun _ h => by cases h⟩ rfl
    have hwifi : ReachUnder (@answerSys (codeEquals ownIPv6))
        (NotAgain (fun s => s ∈ someClients)) _ :=
      .step hsecond
        (a := .subscribeRsrc (.WIFISubscriber 1 (some "ap") none false))
        ⟨by decide, fun _ h => by cases h⟩ rfl
    exact .step (a := .onRsrcEvent .RSRC_RELEASED)
      (.step (a := .unsubscribeRsrc (.ATLSubscriber 5 false))
        (.step (a := .onRsrcEvent .RSRC_GRANTED) hwifi trivial rfl) trivial
        rfl) trivial rfl
  have hin : atlLog.subscribed 5 = true ∧ atlLog.inList 5 = false ∧
      atlLog.since 5 = [.opened true, .closed true] := by decide +kernel
  exact ⟨hin.2.2, (atl_answers (fun _ _ => rfl) someClients_different hreach 5
    hin.1).2 hin.2.1⟩

end QcomAgps
