import QcomCommon.LeaseStoryProofs
import QcomCommon.DsMachineProofs

/-! # Where the modem's handles come from

    Statuses to the modem carry a connection handle, and the modem knows the
    handles it passed itself.  The entries of a machine are not all the
    modem's: daemons are known by sender ids and addresses, which are another
    kind of number.

    A machine never leaves the handles it was given: entries, status calls
    and the requests it posts through the adapter all carry one of them
    (`Vouched`, `vouched_act`). -/

namespace QcomAgps

open QcomTransition QcomLease AgpsStateMachine

/-! ## Handles of a machine -/

/-- The handle of a status to the modem. -/
def statusHandle : Call → Option UInt32
  | .atlOpenStatus handle _ _ _ _ => some handle
  | .atlCloseStatus handle _ => some handle
  | _ => none

/-- The handle a call speaks for, in a status or in a request that the
    adapter posts again. -/
def handleOf : Call → Option UInt32
  | .atlOpenStatus handle _ _ _ _ => some handle
  | .atlCloseStatus handle _ => some handle
  | .requestATL connHandle _ => some connHandle
  | .requestSuplES connHandle => some connHandle
  | _ => none

/-- A status speaks for its handle. -/
theorem handleOf_status {c : Call} {h : UInt32}
    (hc : statusHandle c = some h) : handleOf c = some h := by
  cases c with
  | atlOpenStatus handle ok apn bearer type => exact hc
  | atlCloseStatus handle ok => exact hc
  | data_conn sender result => cases hc
  | requestRsrc nifRequest => cases hc
  | dataCall action => cases hc
  | closeDataCall => cases hc
  | requestATL connHandle type => cases hc
  | requestSuplES connHandle => cases hc
  | loc_timer_start msec => cases hc

/-- Every handle of the calls is in `G`. -/
def Within (G : List UInt32) (cs : List Call) : Prop :=
  ∀ c ∈ cs, ∀ h, handleOf c = some h → h ∈ G

theorem within_nil {G : List UInt32} : Within G [] :=
  fun c hc => by cases hc

/-- Calls behind calls keep to the handles. -/
theorem Within.append {G : List UInt32} {cs cs' : List Call}
    (h : Within G cs) (h' : Within G cs') : Within G (cs ++ cs') := by
  intro c hc
  rcases List.mem_append.mp hc with hc | hc
  · exact h c hc
  · exact h' c hc

/-- More handles leave calls within them. -/
theorem Within.mono {G G' : List UInt32} (hG : ∀ h ∈ G, h ∈ G')
    {cs : List Call} (h : Within G cs) : Within G' cs :=
  fun c hc ID hID => hG ID (h c hc ID hID)

/-- The classes whose `ID` is a handle of the modem. -/
def Subscriber.ofModem : Subscriber → Bool
  | .BITSubscriber _ _ => false
  | .ATLSubscriber _ _ => true
  | .WIFISubscriber _ _ _ _ => false
  | .DSSubscriber _ _ => true

/-- A DS machine takes handles of the modem only: it may hand over the `ID`
    of any entry. -/
def Known (c : MachineClass) (G : List UInt32) (s : Subscriber) : Prop :=
  c = .DSStateMachine ∨ s.ofModem = true → s.ID ∈ G

/-- A known entry stays known with more handles. -/
theorem Known.mono {c : MachineClass} {G G' : List UInt32}
    (hG : ∀ h ∈ G, h ∈ G') {s : Subscriber} (h : Known c G s) :
    Known c G' s :=
  fun hs => hG _ (h hs)

/-- So does its clone. -/
theorem Known.clone {c : MachineClass} {G : List UInt32} {s : Subscriber}
    (h : Known c G s) : Known c G s.clone := by
  cases s <;> exact h

/-- So it does when it is made inactive. -/
theorem Known.markInactive {c : MachineClass} {G : List UInt32}
    {s : Subscriber} (h : Known c G s) : Known c G s.markInactive := by
  cases s <;> exact h

/-- What a known subscriber is told names no other handle. -/
theorem Known.statusCalls {c : MachineClass} {G : List UInt32}
    {s : Subscriber} (h : Known c G s) (m : AgpsStateMachine)
    (status : AgpsRsrcStatus) : Within G (statusCalls m status s) := by
  have hown : ∀ call ∈ QcomAgps.statusCalls m status s, ∀ ID,
      handleOf call = some ID → s.ofModem = true ∧ s.ID = ID := by
    cases s <;> cases status <;>
      simp [QcomAgps.statusCalls, classStatus, bitStatus, atlStatus,
        wifiStatus, dsStatus, informStatus, AgpsStateMachine.call, handleOf,
        Subscriber.ofModem, Subscriber.ID]
  intro call hcall ID hID
  obtain ⟨hmodem, hs⟩ := hown call hcall ID hID
  exact hs ▸ h (Or.inr hmodem)

/-- What a machine of class `c` keeps, with the handles `G` passed so far:
    its entries and calls name no others, and a DS machine in Released has
    active entries only. -/
structure Vouched (c : MachineClass) (G : List UInt32)
    (m : AgpsStateMachine) : Prop where
  entries : ∀ s ∈ m.mSubscribers, Known c G s
  active : m.mStatePtr = .Released →
    ∀ s ∈ m.mSubscribers, s.isInactive = false
  calls : Within G m.calls

/-- A new machine has no handle at all. -/
theorem vouched_new (c : MachineClass) (G : List UInt32)
    (type : AGpsExtType) : Vouched c G (newMachine type) :=
  ⟨fun s hs => (by cases hs), fun _ s hs => (by cases hs), within_nil⟩

/-- More handles leave a machine vouched for. -/
theorem Vouched.mono {c : MachineClass} {G G' : List UInt32}
    (hG : ∀ h ∈ G, h ∈ G') {m : AgpsStateMachine} (h : Vouched c G m) :
    Vouched c G' m :=
  ⟨fun s hs => (h.entries s hs).mono hG, h.active, h.calls.mono hG⟩

section Machine

variable [SubscriberEquals]

/-- The requests of a machine of class `c` speak for the first active
    entry. -/
def forConnHandle (c : MachineClass) : RequestCalls := fun action l _ cs =>
  ∀ call ∈ cs, ∀ h, handleOf call = some h →
    c = .DSStateMachine ∧ action = .GPS_REQUEST_AGPS_DATA_CONN ∧
      h = connHandle l

/-- The requests of either class are such. -/
theorem sends_forConnHandle (c : MachineClass) (o : Outside) :
    Sends (classSend c o) (forConnHandle c) := by
  intro action m
  cases c with
  | AgpsStateMachine =>
      obtain ⟨cs, hcs, hl⟩ := sends_plain action m
      refine ⟨cs, ?_, hl⟩
      rw [hcs, plainCalls]
      intro call hcall h hh
      split at hcall
      · rw [List.mem_singleton.mp hcall] at hh
        cases hh
      · cases hcall
  | DSStateMachine =>
      cases action with
      | GPS_RELEASE_AGPS_DATA_CONN =>
          refine ⟨[.dataCall .GPS_RELEASE_AGPS_DATA_CONN], ?_, m.mRetries,
            dsStop_eq o.openResult o.timer m⟩
          intro call hcall h hh
          rw [List.mem_singleton.mp hcall] at hh
          cases hh
      | GPS_REQUEST_AGPS_DATA_CONN =>
          show ∃ cs, _ ∧ Leads m (dsSendRsrcRequest o.openResult o.timer
            .GPS_REQUEST_AGPS_DATA_CONN m).2 m.mSubscribers cs
          cases hf : fallsBack o.openResult m.mRetries with
          | true =>
              rw [dsStart_fallback hf o.timer]
              refine ⟨_, ?_, withCalls_leads m _ _⟩
              intro call hcall h hh
              rcases List.mem_cons.mp hcall with rfl | hcall
              · cases hh
              · rw [List.mem_singleton.mp hcall] at hh
                exact ⟨rfl, rfl, (Option.some.inj hh).symm⟩
          | false =>
              rw [dsStart_kept hf o.timer]
              split
              · refine ⟨[.dataCall .GPS_REQUEST_AGPS_DATA_CONN,
                  .loc_timer_start DATA_CALL_RETRY_DELAY_MSEC], ?_,
                  m.mRetries + 1, rfl⟩
                intro call hcall h hh
                rcases List.mem_cons.mp hcall with rfl | hcall
                · cases hh
                · rw [List.mem_singleton.mp hcall] at hh
                  cases hh
              · refine ⟨[.dataCall .GPS_REQUEST_AGPS_DATA_CONN], ?_,
                  m.mRetries, rfl⟩
                intro call hcall h hh
                rw [List.mem_singleton.mp hcall] at hh
                cases hh

omit [SubscriberEquals] in
/-- With an active entry that is the handle of an entry. -/
theorem connHandle_mem {l : List Subscriber}
    (h : ∃ s ∈ l, s.isInactive = false) :
    ∃ s ∈ l, connHandle l = s.ID := by
  obtain ⟨s, hs, hact⟩ := h
  have hsome : (l.find? (fun s => !s.isInactive)).isSome := by
    rw [List.find?_isSome]
    exact ⟨s, hs, by rw [hact]; rfl⟩
  obtain ⟨t, ht⟩ := Option.isSome_iff_exists.mp hsome
  exact ⟨t, List.mem_of_find?_eq_some ht, by rw [connHandle, ht]; rfl⟩

/-- **ONE EVENT** leaves the handles passed so far to none. -/
theorem vouched_event {c : MachineClass} {G : List UInt32}
    {m : AgpsStateMachine} (h : Vouched c G m) (o : Outside) {e : RsrcEvent}
    (hn : Named (Known c G) (lease m) (leaseEvent e)) :
    Vouched c G (m.stateEvent (classSend c o) e) := by
  have hactive : (lease m).phase = .idle →
      ∀ s ∈ (lease m).clients, agpsClients.active s = true := by
    intro hp s hs
    have hs := h.active ((phaseOf_eq_iff _ .Released).mp hp) s hs
    simp [agpsClients, hs]
  have hlease := lease_stateEvent (sends_forConnHandle c o) m e
  obtain ⟨cs, r, hask, hev⟩ := stateEvent_spec (sends_forConnHandle c o) m e
  have hentries : ∀ s ∈ (step agpsClients (sendOk (classSend c o) m e)
      (lease m) (leaseEvent e)).1.clients, Known c G s :=
    all_step (K := agpsClients) (fun _ hs => Known.clone hs)
      (fun _ hs => Known.markInactive hs) h.entries hn
  have hclients := congrArg Lease.clients hlease
  have hphase := congrArg Lease.phase hlease
  refine ⟨?_, ?_, ?_⟩
  · show ∀ s ∈ (lease (m.stateEvent (classSend c o) e)).clients, Known c G s
    rw [hclients]
    exact hentries
  · intro hrel
    have hidle := (phaseOf_eq_iff _ .Released).mpr hrel
    show ∀ s ∈ (lease (m.stateEvent (classSend c o) e)).clients,
      s.isInactive = false
    rw [hclients]
    intro s hs
    simpa [agpsClients] using
      active_of_idle_step hactive (hphase.symm.trans hidle) s hs
  · rw [hev]
    refine h.calls.append (Within.append ?_ ?_)
    · -- words go to entries and to the one who joins
      intro call hcall
      obtain ⟨w, hw, hcall⟩ := List.mem_flatMap.mp hcall
      have hknown : Known c G w.1 := by
        rcases told_mem hn hw with hmem | hjoin
        · exact h.entries w.1 hmem
        · rw [hjoin] at hn
          exact hn
      exact hknown.statusCalls m _ call hcall
    · -- a start is made for an active entry, whose handle is known
      intro call hcall ID hID
      cases hr : (step agpsClients (sendOk (classSend c o) m e) (lease m)
          (leaseEvent e)).2 with
      | none =>
          rw [hr] at hask
          rw [show cs = [] from hask] at hcall
          cases hcall
      | some ask =>
          cases ask with
          | giveBack =>
              rw [hr] at hask
              obtain ⟨-, hact, -⟩ := hask call hcall ID hID
              cases hact
          | request =>
              rw [hr] at hask
              obtain ⟨hds, -, hconn⟩ := hask call hcall ID hID
              obtain ⟨s, hs, hact⟩ := active_of_request hactive hr
              obtain ⟨t, ht, htID⟩ := connHandle_mem ⟨s, hs, by
                simpa [agpsClients] using hact⟩
              rw [hconn, htID]
              exact hentries t ht (Or.inl hds)

/-- The subscriber of a subscription is known. -/
def KnownAct (c : MachineClass) (G : List UInt32) : ClassAction → Prop
  | .subscribeRsrc s => Known c G s
  | _ => True

/-- **A CALL** of a machine keeps to the handles it was given. -/
theorem vouched_act {c : MachineClass} {G : List UInt32}
    {m : AgpsStateMachine} (h : Vouched c G m) (o : Outside)
    {a : ClassAction} (ha : KnownAct c G a) :
    Vouched c G (classAct c o m a) := by
  refine classAct_keeps h ?_ ?_ ?_
  · intro m' e h' he
    refine vouched_event h' o (he.named ?_)
    rintro s rfl
    exact ha
  · rintro s rfl
    rw [notifySubscriber, notifyRsrcStatus_eq]
    refine ⟨h.entries, h.active, h.calls.append ?_⟩
    split
    · exact Known.statusCalls ha m _
    · exact within_nil
  · -- a retry names an entry of a DS machine
    intro hds s hs
    refine ⟨h.entries, h.active, h.calls.append ?_⟩
    intro call hcall ID hID
    rw [List.mem_singleton.mp hcall] at hID
    rw [← Option.some.inj hID]
    exact h.entries s hs (Or.inl hds)

end Machine

end QcomAgps
