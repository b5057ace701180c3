import QcomCommon.AgpsAnswerProofs
import QcomCommon.LeaseIdentityProofs
import Mathlib.Data.List.Find

/-! # The clients of the internet interface

    The list of `internet_nif` has modem clients, which are their handles,
    and clients of the BIT daemon, which are an IPv4 address or, where that
    is `INADDR_NONE`, an IPv6 address of 16 bytes.  `equals` of the entry
    decides: a modem client compares 32 bits with whoever comes, a BIT client
    casts whoever comes to its own class and compares addresses as strings.

    One client is taken for another where their 32 bits agree and they are
    of different classes, and among IPv6 clients where the addresses agree
    up to their first zero byte (`equals_eq`).  In every reachable state a
    call keeps clients apart if and only if no such entry is in its way
    (`clients_apart_iff`), and so in whole runs (`clients_apart_run`). -/

namespace QcomAgps

open QcomTransition QcomLease AgpsStateMachine

/-! ## Clients -/

/-- The subscribers of `internet_nif`. -/
def isClient : Subscriber → Bool
  | .BITSubscriber _ v6 => v6.length == 16
  | .ATLSubscriber _ _ => true
  | .WIFISubscriber _ _ _ _ => false
  | .DSSubscriber _ _ => false

/-- They are one client. -/
def sameClient : Subscriber → Subscriber → Bool
  | .ATLSubscriber ID _, .ATLSubscriber ID' _ => ID == ID'
  | .BITSubscriber ID v6, .BITSubscriber ID' v6' =>
      ID == ID' && (ID != INADDR_NONE || v6 == v6')
  | _, _ => false

/-- What `strncmp` sees of an address: what is before its first NUL. -/
def upToNul (v6 : List UInt8) : List UInt8 :=
  (v6.take 16).takeWhile (· != 0)

/-- The entry is of another client than the caller's and equals it; `bytes`
    are those that a cast reads of a modem client. -/
def mistakenFor (bytes : Subscriber → List UInt8) :
    Subscriber → Subscriber → Bool
  | .ATLSubscriber ID _, .BITSubscriber ID' _ => ID == ID'
  | .BITSubscriber ID v6, .ATLSubscriber ID' mode =>
      ID == ID' && (ID != INADDR_NONE ||
        upToNul v6 == upToNul (bytes (.ATLSubscriber ID' mode)))
  | .BITSubscriber ID v6, .BITSubscriber ID' v6' =>
      ID == ID' && ID == INADDR_NONE && v6 != v6' && upToNul v6 == upToNul v6'
  | _, _ => false

theorem takeWhile_take_succ (n : Nat) (a : List UInt8) :
    (a.take (n + 1)).takeWhile (· != 0)
      = if a.headD 0 = 0 then []
        else a.headD 0 :: (a.tail.take n).takeWhile (· != 0) := by
  cases a with
  | nil => exact (if_pos rfl).symm
  | cons x a =>
      rw [List.take_succ_cons, List.takeWhile_cons, List.headD_cons,
        List.tail_cons]
      by_cases hx : x = 0
      · rw [if_pos hx, hx]
        rfl
      · rw [if_neg hx, if_pos (bne_iff_ne.mpr hx)]

/-- Comparing with `strncmp` is comparing what is before the NUL. -/
theorem strncmpEq_iff (n : Nat) : ∀ a b : List UInt8,
    strncmpEq n a b = true ↔
      (a.take n).takeWhile (· != 0) = (b.take n).takeWhile (· != 0) := by
  induction n with
  | zero => exact fun a b => iff_of_true rfl rfl
  | succ n ih =>
      intro a b
      rw [strncmpEq, Bool.and_eq_true, Bool.or_eq_true, beq_iff_eq, beq_iff_eq,
        takeWhile_take_succ, takeWhile_take_succ]
      by_cases hx : a.headD 0 = 0
      · rw [if_pos hx]
        by_cases hy : b.headD 0 = 0
        · rw [if_pos hy]
          exact iff_of_true ⟨hx.trans hy.symm, Or.inl hx⟩ rfl
        · rw [if_neg hy]
          exact iff_of_false (fun h => hy (h.1.symm.trans hx))
            (fun h => (by cases h))
      · rw [if_neg hx]
        by_cases hy : b.headD 0 = 0
        · rw [if_pos hy]
          exact iff_of_false (fun h => hx (h.1.trans hy))
            (fun h => (by cases h))
        · rw [if_neg hy, List.cons.injEq, ← ih a.tail b.tail]
          exact ⟨fun h => ⟨h.1, h.2.resolve_left hx⟩,
            fun h => ⟨h.1, Or.inr h.2⟩⟩

/-- Addresses that agree before the NUL. -/
theorem strncmpEq_address (v6 v6' : List UInt8) :
    strncmpEq 16 v6 v6' = (upToNul v6 == upToNul v6') := by
  rw [Bool.eq_iff_iff, strncmpEq_iff, beq_iff_eq]
  rfl

/-- **EQUALS** of an entry is that it is the same client, or mistaken for
    it. -/
theorem equals_eq (bytes : Subscriber → List UInt8) {b s : Subscriber}
    (hb : isClient b = true) (hs : isClient s = true) :
    (codeEquals (castReads bytes)).equals b s
      = (sameClient b s || mistakenFor bytes b s) := by
  cases b with
  | WIFISubscriber ID ssid pw i => cases hb
  | DSSubscriber ID i => cases hb
  | ATLSubscriber ID mode =>
      cases s with
      | WIFISubscriber ID' ssid pw i => cases hs
      | DSSubscriber ID' i => cases hs
      | ATLSubscriber ID' mode' => exact (Bool.or_false _).symm
      | BITSubscriber ID' v6' => rfl
  | BITSubscriber ID v6 =>
      have hnone : (INADDR_NONE != ID) = (ID != INADDR_NONE) := bne_comm
      cases s with
      | WIFISubscriber ID' ssid pw i => cases hs
      | DSSubscriber ID' i => cases hs
      | ATLSubscriber ID' mode' =>
          show (ID == ID' && (INADDR_NONE != ID ||
            strncmpEq 16 v6 (bytes (.ATLSubscriber ID' mode')))) = _
          rw [strncmpEq_address, hnone]
          rfl
      | BITSubscriber ID' v6' =>
          show (ID == ID' && (INADDR_NONE != ID || strncmpEq 16 v6 v6')) = _
          rw [strncmpEq_address, hnone, sameClient, mistakenFor]
          cases ID == ID' with
          | false => rfl
          | true =>
              cases hN : ID != INADDR_NONE with
              | true => rfl
              | false =>
                  have hID : (ID == INADDR_NONE) = true := by simpa using hN
                  by_cases hv : v6 = v6'
                  · rw [hID, hv, beq_self_eq_true, beq_self_eq_true]
                    rfl
                  · rw [hID, beq_eq_false_iff_ne.mpr hv, bne_iff_ne.mpr hv]
                    cases upToNul v6 == upToNul v6' <;> rfl

theorem sameClient_self {s : Subscriber} (hs : isClient s = true) :
    sameClient s s = true := by
  cases s with
  | WIFISubscriber ID ssid pw i => cases hs
  | DSSubscriber ID i => cases hs
  | ATLSubscriber ID mode => exact beq_self_eq_true ID
  | BITSubscriber ID v6 => simp [sameClient]

theorem mistakenFor_other {bytes : Subscriber → List UInt8} {b s : Subscriber}
    (h : mistakenFor bytes b s = true) : sameClient b s = false := by
  cases b with
  | WIFISubscriber ID ssid pw i => rfl
  | DSSubscriber ID i => rfl
  | ATLSubscriber ID mode =>
      cases s with
      | ATLSubscriber ID' mode' => cases h
      | BITSubscriber ID' v6' => rfl
      | WIFISubscriber ID' ssid pw i => rfl
      | DSSubscriber ID' i => rfl
  | BITSubscriber ID v6 =>
      cases s with
      | ATLSubscriber ID' mode' => rfl
      | WIFISubscriber ID' ssid pw i => rfl
      | DSSubscriber ID' i => rfl
      | BITSubscriber ID' v6' =>
          have h' : (ID == ID' && ID == INADDR_NONE && v6 != v6'
            && upToNul v6 == upToNul v6') = true := h
          simp only [Bool.and_eq_true, bne_iff_ne, beq_iff_eq] at h'
          obtain ⟨⟨⟨-, hnone⟩, hne⟩, -⟩ := h'
          simp [sameClient, hnone, hne]

/-- Entries of one client are told from others alike. -/
theorem sameClient_congr {b e s : Subscriber} (h : sameClient e s = true) :
    sameClient b e = sameClient b s := by
  cases e with
  | WIFISubscriber ID ssid pw i => cases s <;> cases h
  | DSSubscriber ID i => cases s <;> cases h
  | ATLSubscriber ID mode =>
      cases s with
      | ATLSubscriber ID' mode' =>
          obtain rfl : ID = ID' := beq_iff_eq.mp h
          cases b <;> rfl
      | BITSubscriber ID' v6' => cases h
      | WIFISubscriber ID' ssid pw i => cases h
      | DSSubscriber ID' i => cases h
  | BITSubscriber ID v6 =>
      cases s with
      | ATLSubscriber ID' mode' => cases h
      | WIFISubscriber ID' ssid pw i => cases h
      | DSSubscriber ID' i => cases h
      | BITSubscriber ID' v6' =>
          have h' : (ID == ID' && (ID != INADDR_NONE || v6 == v6')) = true := h
          simp only [Bool.and_eq_true, Bool.or_eq_true, bne_iff_ne,
            beq_iff_eq] at h'
          obtain ⟨rfl, hv⟩ := h'
          cases b with
          | ATLSubscriber ID'' mode'' => rfl
          | WIFISubscriber ID'' ssid pw i => rfl
          | DSSubscriber ID'' i => rfl
          | BITSubscriber ID'' v6'' =>
              rcases hv with hne | rfl
              · show (ID'' == ID && (ID'' != INADDR_NONE || v6'' == v6))
                  = (ID'' == ID && (ID'' != INADDR_NONE || v6'' == v6'))
                by_cases hID : ID'' = ID
                · rw [hID, bne_iff_ne.mpr hne, Bool.true_or, Bool.true_or]
                · rw [beq_eq_false_iff_ne.mpr hID, Bool.false_and,
                    Bool.false_and]
              · rfl

/-! ## Calls -/

/-- A call, with the bytes that its casts read. -/
structure ClientCall where
  bytes : Subscriber → List UInt8
  action : AgpsAction

/-- The `equals` of the call. -/
@[reducible] def ClientCall.equals (c : ClientCall) : SubscriberEquals :=
  codeEquals (castReads c.bytes)

/-- The call on a machine, whose entries are compared as the code does it. -/
def ClientCall.act (m : AgpsStateMachine) (c : ClientCall) :
    AgpsStateMachine :=
  @QcomAgps.act c.equals m c.action

/-- The machine under calls whose casts may read anything. -/
def clientSys : TransSys AgpsStateMachine ClientCall where
  init := IsNew
  step m c := some (c.act m)

/-- Who subscribes and unsubscribes is a client. -/
def ByClient (_ : AgpsStateMachine) (c : ClientCall) : Prop :=
  match c.action with
  | .subscribeRsrc s => isClient s = true
  | .unsubscribeRsrc s => isClient s = true
  | .onRsrcEvent _ => True

/-- The client has an entry. -/
def Admitted (s : Subscriber) (m : AgpsStateMachine) : Prop :=
  ∃ b ∈ m.mSubscribers, sameClient b s = true

/-- The calls that tell a client something. -/
def tellsClient : Call → Bool
  | .atlOpenStatus _ _ _ _ _ => true
  | .atlCloseStatus _ _ => true
  | .data_conn _ _ => true
  | _ => false

/-- From `m` to `m'` the entries of the other clients are as they were, and
    what is told is told to the client's own. -/
structure Spares (s : Subscriber) (m m' : AgpsStateMachine) : Prop where
  kept : m'.mSubscribers.filter (fun b => !sameClient b s)
    = m.mSubscribers.filter (fun b => !sameClient b s)
  told : ∀ c ∈ newCalls m m', tellsClient c = true →
    ∃ b ∈ m.mSubscribers, sameClient b s = true ∧
      c ∈ statusCalls m .RSRC_UNSUBSCRIBE b

/-- The call keeps its client apart from the others. -/
def KeepsApart (m : AgpsStateMachine) (c : ClientCall) : Prop :=
  match c.action with
  | .subscribeRsrc s => Admitted s (c.act m)
  | .unsubscribeRsrc s => Spares s m (c.act m)
  | .onRsrcEvent _ => True

/-- No entry is in its way: a subscription finds one of its own, or none that
    is mistaken for it; the first entry an unsubscription meets that is its
    own or mistaken for it is its own, and no entry is mistaken for that. -/
def NoneMistaken (m : AgpsStateMachine) (c : ClientCall) : Prop :=
  match c.action with
  | .subscribeRsrc s => (∃ b ∈ m.mSubscribers, sameClient b s = true) ∨
      ∀ b ∈ m.mSubscribers, mistakenFor c.bytes b s = false
  | .unsubscribeRsrc s => ∀ e, m.mSubscribers.find? (fun b =>
        sameClient b s || mistakenFor c.bytes b s) = some e →
      sameClient e s = true ∧
        ∀ b ∈ m.mSubscribers, mistakenFor c.bytes b e = false
  | .onRsrcEvent _ => True

/-! ## Reachable states -/

/-- A machine that serves clients only, and has none in Released. -/
structure Serves (m : AgpsStateMachine) : Prop where
  multiple : m.mEnforceSingleSubscriber = false
  released : m.mStatePtr = .Released ↔ m.mSubscribers = []
  wanted : m.mStatePtr = .Pending ∨ m.mStatePtr = .Acquired →
    ∃ s ∈ m.mSubscribers, s.isInactive = false
  clients : ∀ s ∈ m.mSubscribers, isClient s = true

theorem Serves.lawabiding {m : AgpsStateMachine} (h : Serves m)
    [SubscriberEquals] : Lawabiding m := by
  refine ⟨h.multiple, ?_, ?_⟩
  · exact (phaseOf_eq_iff m.mStatePtr .Released).trans h.released
  · intro hp
    have hp' : m.mStatePtr = .Pending ∨ m.mStatePtr = .Acquired := by
      rw [← phaseOf_eq_iff, ← phaseOf_eq_iff m.mStatePtr .Acquired]
      exact hp
    obtain ⟨s, hs, hact⟩ := h.wanted hp'
    exact ⟨s, hs, by simpa [agpsClients] using hact⟩

theorem serves_new {m : AgpsStateMachine} (h : IsNew m) : Serves m := by
  refine ⟨h.multiple, iff_of_true h.released h.empty, ?_, ?_⟩
  · rw [h.released]
    rintro (hp | hp) <;> cases hp
  · rw [h.empty]
    exact fun s hs => (by cases hs)

theorem isClient_clone {s : Subscriber} (h : isClient s = true) :
    isClient s.clone = true := by
  cases s <;> exact h

theorem isClient_markInactive {s : Subscriber} (h : isClient s = true) :
    isClient s.markInactive = true := by
  cases s <;> exact h

theorem serves_act {m : AgpsStateMachine} (h : Serves m) {c : ClientCall}
    (hc : ByClient m c) : Serves (c.act m) := by
  let _ : SubscriberEquals := c.equals
  have hlaw : Lawabiding (act m c.action) := lawabiding_act h.lawabiding c.action
  refine ⟨hlaw.multiple, hlaw.law.1, hlaw.law.2, ?_⟩
  refine act_keeps (I := fun m => ∀ s ∈ m.mSubscribers, isClient s = true)
    h.multiple c.action h.clients fun e he => ?_
  have hfrom : From (fun s => isClient s = true) m c.action := by
    unfold ByClient at hc
    cases ha : c.action with
    | subscribeRsrc s =>
        rw [ha] at hc
        exact hc
    | unsubscribeRsrc s => trivial
    | onRsrcEvent event => trivial
  have hlist : (m.stateEvent sendRsrcRequest e).mSubscribers
      = (leaseAfter m e).1.clients :=
    congrArg Lease.clients (lease_event m e)
  rw [hlist]
  exact all_step (K := agpsClients) (P := fun s => isClient s = true)
    (fun _ hs => isClient_clone hs)
    (fun _ hs => isClient_markInactive hs) h.clients (named_eventOf hfrom he)

theorem serves_reach {m : AgpsStateMachine}
    (h : ReachUnder clientSys ByClient m) : Serves m := by
  refine reachUnder_inv (I := Serves) (fun _ hm => serves_new hm) ?_ h
  intro m c m' hm hc hs
  cases Option.some.inj hs
  exact serves_act hm hc

/-! ## What keeps clients apart -/

/-- A client does not wait for the release. -/
theorem client_leaves {s : Subscriber} (h : isClient s = true) :
    s.waitForCloseComplete = false := by
  cases s with
  | BITSubscriber ID v6 => rfl
  | ATLSubscriber ID mode => rfl
  | WIFISubscriber ID ssid pw i => cases h
  | DSSubscriber ID i => cases h

theorem client_clone {s : Subscriber} (h : isClient s = true) :
    s.clone = s := by
  cases s with
  | BITSubscriber ID v6 => rfl
  | ATLSubscriber ID mode => rfl
  | WIFISubscriber ID ssid pw i => cases h
  | DSSubscriber ID i => cases h

theorem tellsClient_plainCalls [SubscriberEquals] {action : AGpsStatusValue}
    {l : List Subscriber} {type : AGpsExtType} {call : Call}
    (h : call ∈ plainCalls action l type) : tellsClient call = false := by
  rw [plainCalls] at h
  split at h
  · rw [List.mem_singleton.mp h]
    rfl
  · cases h

/-- What an event tells clients are the words of the protocol. -/
theorem mem_wordCalls_of_tells [SubscriberEquals] {m : AgpsStateMachine}
    {e : RsrcEvent} {call : Call} (h : call ∈ eventCalls m e)
    (ht : tellsClient call = true) :
    call ∈ wordCalls m (told agpsClients (lease m) (leaseEvent e)) := by
  rw [eventCalls] at h
  rcases List.mem_append.mp h with hword | hask
  · exact hword
  · have hno : tellsClient call = false := by
      split at hask
      · cases hask
      · exact tellsClient_plainCalls hask
      · exact tellsClient_plainCalls hask
    rw [hno] at ht
    cases ht

section Step

variable {m : AgpsStateMachine} (h : Serves m) (c : ClientCall)
  {s : Subscriber} (hs : isClient s = true)

include h hs

omit hs in
/-- An entry of another client that the code takes for `e`. -/
theorem mistaken_iff {e b : Subscriber} (he : isClient e = true)
    (hes : sameClient e s = true) (hb : b ∈ m.mSubscribers) :
    Mistaken (@agpsClients c.equals) (fun b => sameClient b s) e b ↔
      mistakenFor c.bytes b e = true := by
  have heq : (@agpsClients c.equals).same b e
      = (sameClient b e || mistakenFor c.bytes b e) :=
    equals_eq c.bytes (h.clients b hb) he
  rw [Mistaken, heq, ← sameClient_congr hes]
  constructor
  · rintro ⟨hother, hor⟩
    rw [hother, Bool.false_or] at hor
    exact hor
  · intro hm
    rw [mistakenFor_other hm, hm]
    exact ⟨rfl, rfl⟩

/-- **SUBSCRIBING**. -/
theorem subscribe_iff : KeepsApart m ⟨c.bytes, .subscribeRsrc s⟩ ↔
    NoneMistaken m ⟨c.bytes, .subscribeRsrc s⟩ := by
  let _ : SubscriberEquals := c.equals
  have hact : act m (.subscribeRsrc s)
      = m.stateEvent sendRsrcRequest (.subscribe s) := act_eq h.multiple _
  have hlist : (m.stateEvent sendRsrcRequest (.subscribe s)).mSubscribers
      = add agpsClients s m.mSubscribers :=
    (congrArg Lease.clients (lease_event m (.subscribe s))).trans
      (join_clients true (lease m) s)
  show Admitted s (act m (.subscribeRsrc s)) ↔ (∃ b ∈ m.mSubscribers, _) ∨ _
  have henter : sameClient (agpsClients.enter s) s = true := by
    show sameClient s.clone s = true
    rw [client_clone hs]
    exact sameClient_self hs
  rw [Admitted, hact, hlist,
    join_admits_iff (fun b => sameClient b s) henter]
  refine or_congr_right (forall₂_congr fun b hb => ?_)
  rw [mistaken_iff h c hs (sameClient_self hs) hb, Bool.not_eq_true]

omit hs in
/-- An unsubscription that finds the entry `e`. -/
theorem spares_iff {e : Subscriber} (he : e ∈ m.mSubscribers) :
    Spares s m (@AgpsStateMachine.stateEvent c.equals
        (@sendRsrcRequest c.equals) m (.unsubscribe e)) ↔
      sameClient e s = true ∧
        ∀ b ∈ m.mSubscribers, mistakenFor c.bytes b e = false := by
  let _ : SubscriberEquals := c.equals
  have heclient := h.clients e he
  have hstays : agpsClients.lingers e = false := client_leaves heclient
  have hphase : (lease m).phase ≠ .idle := fun hp => by
    rw [h.released.mp ((phaseOf_eq_iff _ .Released).mp hp)] at he
    cases he
  have hlist : (m.stateEvent sendRsrcRequest (.unsubscribe e)).mSubscribers
      = strike agpsClients e m.mSubscribers :=
    (congrArg Lease.clients (lease_event m (.unsubscribe e))).trans
      (leave_clients hphase true)
  have hkept := leave_spares_iff (K := agpsClients)
    (fun b => sameClient b s) hstays m.mSubscribers
  by_cases hown : sameClient e s = true
  · have hmistaken : (∀ b ∈ m.mSubscribers, ¬ Mistaken agpsClients
        (fun b => sameClient b s) e b) ↔
        ∀ b ∈ m.mSubscribers, mistakenFor c.bytes b e = false :=
      forall₂_congr fun b hb => by
        rw [mistaken_iff h c heclient hown hb, Bool.not_eq_true]
    rw [and_iff_right hown, ← hmistaken]
    refine ⟨fun hspares => hkept.mp (hlist ▸ hspares.kept), fun hno =>
      ⟨hlist.symm ▸ hkept.mpr hno, fun call hcall htells => ?_⟩⟩
    rw [newCalls_event] at hcall
    have hword := mem_wordCalls_of_tells hcall htells
    rw [show told agpsClients (lease m) (leaseEvent (.unsubscribe e))
      = farewell agpsClients e m.mSubscribers from leave_told hphase] at hword
    obtain ⟨w, hw, hcall⟩ := List.mem_flatMap.mp hword
    obtain ⟨hmem, hmine, hleft⟩ := farewell_mine hstays hno w hw
    rw [hleft] at hcall
    exact ⟨w.1, hmem, hmine, hcall⟩
  · -- the entry found goes itself
    refine iff_of_false (fun hspares => ?_) fun hand => hown hand.1
    refine hkept.mp (hlist ▸ hspares.kept) e he ⟨?_, ?_⟩
    · exact Bool.not_eq_true _ ▸ hown
    · exact codeEquals_self c.bytes e

/-- **UNSUBSCRIBING**. -/
theorem unsubscribe_iff : KeepsApart m ⟨c.bytes, .unsubscribeRsrc s⟩ ↔
    NoneMistaken m ⟨c.bytes, .unsubscribeRsrc s⟩ := by
  let _ : SubscriberEquals := c.equals
  have hfind : m.findSubscriber ⟨.rcver s, .RSRC_STATUS_MAX, false⟩
      = m.mSubscribers.find? (fun b =>
        sameClient b s || mistakenFor c.bytes b s) := by
    rw [findSubscriber_eq]
    exact List.find?_congr fun b hb =>
      equals_eq c.bytes (h.clients b hb) hs
  have hact := act_eq h.multiple (.unsubscribeRsrc s)
  rw [eventOf, hfind] at hact
  show Spares s m (act m (.unsubscribeRsrc s)) ↔ ∀ e, _ = some e → _
  cases hf : m.mSubscribers.find? (fun b =>
      sameClient b s || mistakenFor c.bytes b s) with
  | none =>
      rw [hf] at hact
      have hsame : act m (.unsubscribeRsrc s) = m := hact
      rw [hsame]
      refine iff_of_true ⟨rfl, fun call hcall => ?_⟩ fun e he => (by cases he)
      rw [newCalls, List.drop_length] at hcall
      cases hcall
  | some e =>
      rw [hf] at hact
      have hevent : act m (.unsubscribeRsrc s)
          = m.stateEvent sendRsrcRequest (.unsubscribe e) := hact
      rw [hevent, spares_iff h c (List.mem_of_find?_eq_some hf)]
      exact ⟨fun hand e' he' => Option.some.inj he' ▸ hand,
        fun hall => hall e rfl⟩

end Step

/-- One call. -/
theorem keepsApart_iff {m : AgpsStateMachine} (hserves : Serves m)
    {c : ClientCall} (hc : ByClient m c) :
    KeepsApart m c ↔ NoneMistaken m c := by
  obtain ⟨bytes, action⟩ := c
  cases action with
  | subscribeRsrc s => exact subscribe_iff hserves ⟨bytes, .subscribeRsrc s⟩ hc
  | unsubscribeRsrc s =>
      exact unsubscribe_iff hserves ⟨bytes, .unsubscribeRsrc s⟩ hc
  | onRsrcEvent event => exact Iff.rfl

/-- **CLIENTS APART**: in every reachable state a subscription is not
    suppressed by another client's entry, and an unsubscription tells and
    removes no other client, if and only if no entry is mistaken for the
    client's own. -/
theorem clients_apart_iff {m : AgpsStateMachine}
    (h : ReachUnder clientSys ByClient m) {c : ClientCall}
    (hc : ByClient m c) : KeepsApart m c ↔ NoneMistaken m c :=
  keepsApart_iff (serves_reach h) hc

/-- So the runs that keep clients apart at every call are those in which no
    entry is mistaken at any. -/
theorem clients_apart_run {m : AgpsStateMachine} (hm : IsNew m)
    (l : List ClientCall) (hl : ∀ c ∈ l, ∀ m, ByClient m c) :
    StepsMeet clientSys KeepsApart m l
      ↔ StepsMeet clientSys NoneMistaken m l := by
  refine stepsMeet_congr (I := ReachUnder clientSys ByClient)
    (fun _ _ _ hr hc hs => .step hr hc hs)
    (fun _ _ hr hc => keepsApart_iff (serves_reach hr) hc) l (.init hm) hl

/-- The machine after these clients subscribed, with zeros behind the modem
    clients. -/
def clientMachine (l : List Subscriber) : AgpsStateMachine :=
  l.foldl (fun m s => ClientCall.act m ⟨fun _ => [], .subscribeRsrc s⟩)
    (newMachine .AGPS_TYPE_WWAN_ANY)

theorem reach_clientMachine (l : List Subscriber)
    (hl : ∀ s ∈ l, isClient s = true) :
    ReachUnder clientSys ByClient (clientMachine l) := by
  have hrun : ∀ (l : List Subscriber), (∀ s ∈ l, isClient s = true) →
      ∀ {m : AgpsStateMachine}, ReachUnder clientSys ByClient m →
        ReachUnder clientSys ByClient (l.foldl (fun m s =>
          ClientCall.act m ⟨fun _ => [], .subscribeRsrc s⟩) m) := by
    intro l
    induction l with
    | nil => exact fun _ _ hm => hm
    | cons s l ih =>
        intro hl m hm
        have hs : isClient s = true := hl s List.mem_cons_self
        exact ih (fun t ht => hl t (List.mem_cons_of_mem s ht))
          (.step hm (a := ⟨fun _ => [], .subscribeRsrc s⟩) hs rfl)
  exact hrun l hl (.init (isNew_newMachine _))

/-- A modem client and one of the daemon, with different numbers. -/
theorem clients_apart_two : KeepsApart
    (clientMachine [.ATLSubscriber 1 false,
      .BITSubscriber 2 (List.replicate 16 0)])
    ⟨fun _ => [], .unsubscribeRsrc (.ATLSubscriber 1 false)⟩ := by
  have hlist : (clientMachine [.ATLSubscriber 1 false,
      .BITSubscriber 2 (List.replicate 16 0)]).mSubscribers
        = [.BITSubscriber 2 (List.replicate 16 0), .ATLSubscriber 1 false] := by
    decide +kernel
  refine (clients_apart_iff (reach_clientMachine _ (by decide))
    (c := ⟨fun _ => [], .unsubscribeRsrc (.ATLSubscriber 1 false)⟩)
    rfl).mpr fun e he => ?_
  rw [hlist] at he ⊢
  obtain rfl : Subscriber.ATLSubscriber 1 false = e := Option.some.inj he
  exact ⟨rfl, by decide⟩

/-- An address that begins with `2001:0` and ends with `n`. -/
def teredo (n : UInt8) : Subscriber :=
  .BITSubscriber INADDR_NONE ([0x20, 1] ++ List.replicate 13 0 ++ [n])

/-- The second address is suppressed by the first. -/
theorem clients_mistaken :
    ¬ (∀ m, ReachUnder clientSys ByClient m → ∀ c, ByClient m c →
      KeepsApart m c) := by
  intro hall
  obtain ⟨b, hb, hsame⟩ := hall (clientMachine [teredo 1])
    (reach_clientMachine _ (by decide))
    ⟨fun _ => [], .subscribeRsrc (teredo 2)⟩ rfl
  have hlist : (ClientCall.act (clientMachine [teredo 1])
      ⟨fun _ => [], .subscribeRsrc (teredo 2)⟩).mSubscribers = [teredo 1] := by
    decide +kernel
  rw [hlist] at hb
  obtain rfl := List.mem_singleton.mp hb
  exact absurd hsame (by decide)

end QcomAgps
