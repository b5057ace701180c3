import Mathlib.Data.List.Nodup
import QcomCommon.NiSessionProofs

/-! # The payload of a request

    Who frees the payload of a network-initiated request.  It is given to
    `loc_eng_ni_request_handler`, kept as the session's `rawRequest`, and
    either moved into a message to the modem, whose destructor frees it, or
    freed: by the handler for a request it ignores, by the request thread for
    a response that is to be ignored, by the restart of the modem.

    The handler and the restart run on the same thread and are cut here at
    each of their reads and writes of `rawRequest`, none of which holds the
    lock; the locked sections of the request threads and the responses are
    those of the session.  `given`, `freed` and `moved` are history
    variables. -/

namespace QcomNi

open QcomTransition

/-- Where the thread is that runs the handler and the restart.  The handler
    reads the slot of the request's type, for an ordinary request also the
    other one, and writes the slot; the restart tests a slot, frees what it
    holds, clears it and signals its thread. -/
inductive MsgPc where
  | idle
  | check (r : NiRequest)
  | checkEs (r : NiRequest)
  | save (w : SessionName) (r : NiRequest)
  | resetCheck (w : SessionName)
  | resetFree (w : SessionName)
  | resetNull (w : SessionName)
  | resetSignal (w : SessionName)
deriving DecidableEq, Repr

/-- The requests, with where the handler is and what became of each payload. -/
structure PayloadState where
  ni : NiData
  pc : MsgPc
  given : List Nat
  freed : List Nat
  moved : List Nat
deriving DecidableEq, Repr

/-- The session a request of this type looks at first. -/
def ownSession (r : NiRequest) : SessionName :=
  if r.notif.ni_type = .GPS_NI_TYPE_EMERGENCY_SUPL then .sessionEs
  else .session

/-- `passThrough`, named by the order the requests come in. -/
def payload (n : NiData) (r : NiRequest) : Option Nat :=
  if r.passThrough then some n.log.payloads else none

/-- The next request gets the next name. -/
def nextPayload (n : NiData) : NiData :=
  { n with log := { n.log with payloads := n.log.payloads + 1 } }

/-- The handler returns without a session, `freed` or not. -/
def dropRequest (s : PayloadState) (freed : Option Nat) : PayloadState :=
  { s with ni := nextPayload s.ni, pc := .idle,
           freed := s.freed ++ freed.toList }

/-- The entry of `loc_eng_ni_request_handler`. -/
def request (s : PayloadState) (r : NiRequest) : PayloadState :=
  let s' := { s with given := s.given ++ (payload s.ni r).toList }
  if s.ni.ni_notify_cb then { s' with pc := .check r }
  else dropRequest s' none

/-- `free(rawRequest)` of the restart: the slot is read again, and
    `free(NULL)` does nothing. -/
def freeSlot (s : PayloadState) (w : SessionName) : PayloadState :=
  { s with pc := .resetNull w,
           freed := s.freed ++ (s.ni.get w).rawRequest.toList }

/-- `rawRequest = NULL` of the restart. -/
def nullSlot (s : PayloadState) (w : SessionName) : PayloadState :=
  { s with ni := s.ni.set w { s.ni.get w with rawRequest := none }
           pc := .resetSignal w }

/-- The next step of the handler or of the restart. -/
def msgThread (s : PayloadState) : Option PayloadState :=
  match s.pc with
  | .idle => none
  | .check r =>
      if (s.ni.get (ownSession r)).rawRequest.isSome then
        some (dropRequest s (payload s.ni r))
      else if r.notif.ni_type = .GPS_NI_TYPE_EMERGENCY_SUPL then
        some { s with pc := .save .sessionEs r }
      else some { s with pc := .checkEs r }
  | .checkEs r =>
      if s.ni.sessionEs.rawRequest.isSome then
        some (dropRequest s (payload s.ni r))
      else some { s with pc := .save .session r }
  | .save w r => some { s with ni := acceptRequest s.ni w r, pc := .idle }
  | .resetCheck w =>
      if (s.ni.get w).rawRequest.isSome then
        some { s with pc := .resetFree w }
      else
        some { s with
          pc := if w = .sessionEs then .resetCheck .session else .idle }
  | .resetFree w => some (freeSlot s w)
  | .resetNull w => some (nullSlot s w)
  | .resetSignal w =>
      some { s with
        ni := s.ni.set w { s.ni.get w with respRecvd := true }
        pc := if w = .sessionEs then .resetCheck .session else .idle }

/-- The payload of the message that thread `i` has built. -/
def movedBy (n' : NiData) (i : Nat) : Option Nat :=
  (n'.threads[i]?).bind (fun t =>
    match t.pc with
    | .tail msg => msg.map Prod.snd
    | _ => none)

/-- `free(pSession->rawRequest)` at the end of the wait, for a response that is
    to be ignored. -/
def freeIgnored (s : Session) : Option Nat :=
  if s.resp = .GPS_NI_RESPONSE_IGNORE then s.rawRequest else none

/-- What thread `i` frees in a locked section: nothing while it goes on
    waiting, and behind a timeout the response is `NORESP`. -/
def freedBy (n : NiData) (i : Nat) (timedOut : Bool) : Option Nat :=
  (n.threads[i]?).bind (fun t =>
    let s := n.get t.pSession
    if timedOut then freeIgnored { s with resp := .GPS_NI_RESPONSE_NORESP }
    else if s.respRecvd then freeIgnored s
    else none)

/-- The state after a locked section of thread `i`. -/
def afterSection (s : PayloadState) (n : NiData) (i : Nat) (timedOut : Bool) :
    PayloadState :=
  { s with ni := n, freed := s.freed ++ (freedBy s.ni i timedOut).toList,
           moved := s.moved ++ (movedBy n i).toList }

/-- A step of the user, of the engine or of a thread. -/
inductive PayloadAction where
  | init
  | request (r : NiRequest)
  | respond (notif_id : Int) (user_response : GpsUserResponseType)
  | respondStep (i : Nat)
  | reset
  | msgThread
  | threadStart (i : Nat)
  | threadWake (i : Nat)
  | threadTimeout (i : Nat)
  | threadTail (i : Nat)
deriving DecidableEq, Repr

/-- A step of one of them. -/
def payloadStep (s : PayloadState) : PayloadAction → Option PayloadState
  | .init => some { s with ni := niInit s.ni }
  | .request r => if s.pc = .idle then some (request s r) else none
  | .respond notif_id user_response =>
      some { s with ni := niRespond s.ni notif_id user_response }
  | .respondStep i => (respondStep s.ni i).map (fun n => { s with ni := n })
  | .reset =>
      if s.pc = .idle then
        some { s with
          pc := if s.ni.ni_notify_cb then .resetCheck .sessionEs else .idle }
      else none
  | .msgThread => msgThread s
  | .threadStart i =>
      (threadStart s.ni i).map (fun n => afterSection s n i false)
  | .threadWake i =>
      (threadWake s.ni i).map (fun n => afterSection s n i false)
  | .threadTimeout i =>
      (threadTimeout s.ni i).map (fun n => afterSection s n i true)
  | .threadTail i => (threadTail s.ni i).map (fun n => { s with ni := n })

/-- No payload was given yet. -/
def newPayloads (resp respEs : GpsUserResponseType) : PayloadState :=
  ⟨zeroNiData resp respEs, .idle, [], [], []⟩

/-- The requests with their payloads, from the start on. -/
def payloadSys : TransSys PayloadState PayloadAction where
  init s := ∃ resp respEs, s = newPayloads resp respEs
  step := payloadStep

/-! ## The account -/

/-- The payload in a session. -/
def slot (s : PayloadState) (w : SessionName) : Option Nat :=
  (s.ni.get w).rawRequest

/-- The request the handler has in hand. -/
def MsgPc.request : MsgPc → Option NiRequest
  | .check r | .checkEs r | .save _ r => some r
  | _ => none

/-- The payload in the hands of the handler. -/
def hand (s : PayloadState) : Option Nat :=
  s.pc.request.bind (payload s.ni)

/-- How often the payload was consumed. -/
def consumed (s : PayloadState) (p : Nat) : Nat :=
  s.freed.count p + s.moved.count p

/-- **THE ACCOUNT**: no payload is consumed twice, and one that is not
    consumed is in the handler's hands or in a session. -/
def Accounted (s : PayloadState) : Prop :=
  ∀ p ∈ s.given, consumed s p ≤ 1 ∧
    (consumed s p = 0 → hand s = some p ∨ ∃ w, slot s w = some p)

/-- How often a place names the payload. -/
def counts (o : Option Nat) (p : Nat) : Nat := if o = some p then 1 else 0

theorem eq_of_counts {o : Option Nat} {p : Nat} (h : counts o p ≠ 0) :
    o = some p := by
  by_contra hne
  exact h (if_neg hne)

theorem count_toList (o : Option Nat) (p : Nat) :
    o.toList.count p = counts o p := by
  cases o with
  | none => rfl
  | some q =>
      by_cases h : q = p
      · simp [counts, h]
      · simp [counts, h]

theorem count_append_toList (l : List Nat) (o : Option Nat) (p : Nat) :
    (l ++ o.toList).count p = l.count p + counts o p := by
  rw [List.count_append, count_toList]

/-- What a slot owes; between the restart's free and its write the slot
    names a payload that is gone. -/
def owed (s : PayloadState) (w : SessionName) : Option Nat :=
  if s.pc = .resetNull w then none else slot s w

/-- The slot the handler has found free and will write. -/
def MsgPc.claims : MsgPc → Option SessionName
  | .checkEs _ => some .session
  | .save w _ => some w
  | _ => none

/-- Every payload given is in one place, or consumed. -/
structure PayloadLaw (s : PayloadState) : Prop where
  account : ∀ p, consumed s p + counts (owed s .session) p +
    counts (owed s .sessionEs) p + counts (hand s) p = s.given.count p
  once : s.given.Nodup
  named : ∀ p ∈ s.given, p < s.ni.log.payloads ∨ hand s = some p
  claimed : ∀ w ∈ s.pc.claims, slot s w = none
  gone : ∀ w, s.pc = .resetNull w → ∀ p, slot s w = some p →
    consumed s p = 1
  closed : s.ni.ni_notify_cb = false →
    s.pc = .idle ∧ ∀ w, slot s w = none

theorem payloadLaw_init (resp respEs : GpsUserResponseType) :
    PayloadLaw (newPayloads resp respEs) where
  account := fun _ => rfl
  once := List.nodup_nil
  named := fun _ h => by (cases h)
  claimed := fun _ h => by (cases h)
  gone := fun _ h => by (cases h)
  closed := fun _ => ⟨rfl, fun w => by cases w <;> rfl⟩

/-- The law gives the account. -/
theorem PayloadLaw.accounted {s : PayloadState} (hl : PayloadLaw s) :
    Accounted s := by
  intro p hp
  have hsum := hl.account p
  rw [List.count_eq_one_of_mem hl.once hp] at hsum
  refine ⟨by omega, fun hzero => ?_⟩
  have howed : ∀ w, counts (owed s w) p ≠ 0 → slot s w = some p := by
    intro w hne
    have hsome := eq_of_counts hne
    unfold owed at hsome
    split at hsome
    · cases hsome
    · exact hsome
  by_cases hhand : counts (hand s) p = 0
  · by_cases hsession : counts (owed s .session) p = 0
    · exact Or.inr ⟨.sessionEs, howed .sessionEs (by omega)⟩
    · exact Or.inr ⟨.session, howed .session hsession⟩
  · exact Or.inl (eq_of_counts hhand)

/-! ## The steps on the account -/

theorem owed_eq_slot {s : PayloadState} {w : SessionName}
    (h : s.pc ≠ .resetNull w) : owed s w = slot s w := if_neg h

/-- The law reads the slots, the names and the callback of the sessions. -/
theorem PayloadLaw.congr {s : PayloadState} (hl : PayloadLaw s) {n : NiData}
    (hslot : ∀ w, (n.get w).rawRequest = (s.ni.get w).rawRequest)
    (hlog : n.log.payloads = s.ni.log.payloads)
    (hcb : n.ni_notify_cb = s.ni.ni_notify_cb) :
    PayloadLaw { s with ni := n } := by
  have hslot' : ∀ w, slot { s with ni := n } w = slot s w := hslot
  have howed : ∀ w, owed { s with ni := n } w = owed s w := by
    intro w
    unfold owed
    rw [hslot']
  have hhand : hand { s with ni := n } = hand s := by
    unfold hand payload
    show s.pc.request.bind (fun r => if r.passThrough = true then
      some n.log.payloads else none) = _
    rw [hlog]
  refine ⟨?_, hl.once, ?_, ?_, ?_, ?_⟩
  · intro p
    rw [howed, howed, hhand]
    exact hl.account p
  · intro p hp
    rw [hhand]
    show p < n.log.payloads ∨ _
    rw [hlog]
    exact hl.named p hp
  · intro w hw
    rw [hslot']
    exact hl.claimed w hw
  · intro w hpc p hp
    rw [hslot'] at hp
    exact hl.gone w hpc p hp
  · intro hno
    have hno : n.ni_notify_cb = false := hno
    rw [hcb] at hno
    obtain ⟨hpc, hnone⟩ := hl.closed hno
    exact ⟨hpc, fun w => (hslot' w).trans (hnone w)⟩

/-- A step of the handler or the restart that only moves on. -/
theorem PayloadLaw.goto {s : PayloadState} (hl : PayloadLaw s) {pc : MsgPc}
    (hopen : s.ni.ni_notify_cb = true ∨ pc = .idle)
    (hnull : ∀ w, s.pc ≠ .resetNull w) (hnull' : ∀ w, pc ≠ .resetNull w)
    (hreq : pc.request = s.pc.request)
    (hclaim : ∀ w ∈ pc.claims, slot s w = none) :
    PayloadLaw { s with pc := pc } := by
  have hhand : hand { s with pc := pc } = hand s := by
    unfold hand
    rw [hreq]
  have howed : ∀ w, owed { s with pc := pc } w = owed s w := by
    intro w
    rw [owed_eq_slot (hnull w), owed_eq_slot (hnull' w)]
    rfl
  refine ⟨?_, hl.once, ?_, hclaim, fun w hpc => absurd hpc (hnull' w), ?_⟩
  · intro p
    rw [howed, howed, hhand]
    exact hl.account p
  · intro p hp
    rw [hhand]
    exact hl.named p hp
  · intro hno
    obtain ⟨-, hnone⟩ := hl.closed hno
    rcases hopen with h | rfl
    · cases hno.symm.trans h
    · exact ⟨rfl, hnone⟩

theorem PayloadLaw.hand_idle {s : PayloadState} (h : s.pc = .idle) :
    hand s = none := by
  unfold hand
  rw [h]
  rfl

theorem payloadLaw_niInit {s : PayloadState} (hl : PayloadLaw s) :
    PayloadLaw { s with ni := niInit s.ni } := by
  unfold niInit
  cases hcb : s.ni.ni_notify_cb with
  | true => exact hl
  | false =>
      obtain ⟨hpc, hnone⟩ := hl.closed hcb
      rw [if_neg (by decide)]
      have hslot : ∀ w, (({ s.ni with
          session := initSession s.ni.session
          sessionEs := initSession s.ni.sessionEs }).get w).rawRequest
          = (s.ni.get w).rawRequest := by
        intro w
        cases w
        · exact (hnone .session).symm
        · exact (hnone .sessionEs).symm
      have hlaw := hl.congr hslot rfl rfl
      exact { hlaw with closed := fun h => by cases h }

/-- The handler gives up its request, with the payload freed if there is
    one. -/
theorem payloadLaw_drop {s : PayloadState} {r : NiRequest} (hl : PayloadLaw s)
    (hreq : s.pc.request = some r) (hnull : ∀ w, s.pc ≠ .resetNull w) :
    PayloadLaw (dropRequest s (payload s.ni r)) := by
  have hhand : hand s = payload s.ni r := by
    unfold hand
    rw [hreq]
    rfl
  have howed : ∀ w, owed (dropRequest s (payload s.ni r)) w = owed s w := by
    intro w
    rw [owed_eq_slot (hnull w), owed_eq_slot (fun h => by cases h)]
    cases w <;> rfl
  refine ⟨?_, hl.once, ?_, fun w hw => by (cases hw),
    fun w hpc => by (cases hpc), ?_⟩
  · intro p
    have hsum := hl.account p
    rw [howed, howed, PayloadLaw.hand_idle rfl]
    have hfreed : consumed (dropRequest s (payload s.ni r)) p
        = consumed s p + counts (hand s) p := by
      show (s.freed ++ (payload s.ni r).toList).count p + s.moved.count p = _
      rw [count_append_toList, hhand]
      unfold consumed
      omega
    show _ = s.given.count p
    rw [hfreed, ← hsum]
    show _ + 0 = _
    omega
  · intro p hp
    refine Or.inl ?_
    show p < s.ni.log.payloads + 1
    rcases hl.named p hp with h | h
    · omega
    · rw [hhand] at h
      unfold payload at h
      split at h
      · cases h
        omega
      · cases h
  · intro hno
    obtain ⟨hpc, -⟩ := hl.closed hno
    rw [hpc] at hreq
    cases hreq

theorem payload_eq {n : NiData} {r : NiRequest} {p : Nat}
    (h : payload n r = some p) : p = n.log.payloads := by
  unfold payload at h
  split at h
  · exact (Option.some.inj h).symm
  · cases h

/-- A name not yet given is not among those given. -/
theorem PayloadLaw.fresh {s : PayloadState} (hl : PayloadLaw s)
    (hpc : s.pc = .idle) : s.ni.log.payloads ∉ s.given := by
  intro hm
  rcases hl.named _ hm with h | h
  · omega
  · rw [PayloadLaw.hand_idle hpc] at h
    cases h

theorem payloadLaw_request {s : PayloadState} {r : NiRequest}
    (hl : PayloadLaw s) (hpc : s.pc = .idle)
    (hok : r.passThrough = true → s.ni.ni_notify_cb = true) :
    PayloadLaw (request s r) := by
  have hhand := PayloadLaw.hand_idle hpc
  have howed : ∀ w, owed s w = slot s w :=
    fun w => owed_eq_slot (by rw [hpc]; exact fun h => by cases h)
  have hfresh := hl.fresh hpc
  unfold request
  cases hcb : s.ni.ni_notify_cb with
  | true =>
      rw [if_pos rfl]
      refine ⟨?_, ?_, ?_, fun w hw => by (cases hw),
        fun w hpc => by (cases hpc),
        fun hno => by (cases hcb.symm.trans hno)⟩
      · intro p
        have hsum := hl.account p
        rw [howed, howed, hhand] at hsum
        rw [owed_eq_slot (fun h => by cases h),
          owed_eq_slot (fun h => by cases h)]
        show consumed s p + counts (slot s .session) p +
          counts (slot s .sessionEs) p + counts (payload s.ni r) p
          = (s.given ++ (payload s.ni r).toList).count p
        rw [count_append_toList, ← hsum]
        show _ = _ + 0 + _
        omega
      · show (s.given ++ (payload s.ni r).toList).Nodup
        unfold payload
        split
        · refine List.nodup_append.mpr ⟨hl.once, List.nodup_singleton _, ?_⟩
          rintro a ha b hb rfl
          exact hfresh (List.mem_singleton.mp hb ▸ ha)
        · rw [Option.toList_none, List.append_nil]
          exact hl.once
      · intro p hp
        rcases List.mem_append.mp hp with hp | hp
        · rcases hl.named p hp with h | h
          · exact Or.inl h
          · rw [hhand] at h
            cases h
        · exact Or.inr (Option.mem_toList.mp hp)
  | false =>
      -- without a callback the request comes without payload
      have hnone : payload s.ni r = none := by
        unfold payload
        rw [if_neg (fun h => by cases hcb.symm.trans (hok h))]
      obtain ⟨-, hslots⟩ := hl.closed hcb
      rw [if_neg (by decide), hnone, Option.toList_none, List.append_nil]
      refine ⟨?_, hl.once, ?_, fun w hw => by (cases hw),
        fun w hpc => by (cases hpc), fun _ => ⟨rfl, ?_⟩⟩
      · intro p
        have hsum := hl.account p
        rw [howed, howed, hhand] at hsum
        rw [owed_eq_slot (fun h => by cases h),
          owed_eq_slot (fun h => by cases h)]
        unfold consumed at hsum ⊢
        show (s.freed ++ []).count p + s.moved.count p + _ + _ + _ = _
        rw [List.append_nil]
        exact hsum
      · intro p hp
        refine Or.inl ?_
        show p < s.ni.log.payloads + 1
        rcases hl.named p hp with h | h
        · omega
        · rw [hhand] at h
          cases h
      · intro w
        have hw := hslots w
        cases w <;> exact hw

/-- The request is written to the slot that was found free. -/
theorem payloadLaw_save {s : PayloadState} {w : SessionName} {r : NiRequest}
    (hl : PayloadLaw s) (hpc : s.pc = .save w r) :
    PayloadLaw { s with ni := acceptRequest s.ni w r, pc := .idle } := by
  have hfree : slot s w = none := hl.claimed w (by rw [hpc]; rfl)
  have hhand : hand s = payload s.ni r := by
    unfold hand
    rw [hpc]
    rfl
  have howed : ∀ v, owed s v = slot s v :=
    fun v => owed_eq_slot (by rw [hpc]; exact fun h => by cases h)
  have hself : ((acceptRequest s.ni w r).get w).rawRequest
      = payload s.ni r := by
    rw [acceptRequest_get_self]
    rfl
  have hother : ∀ v, v ≠ w →
      ((acceptRequest s.ni w r).get v).rawRequest = slot s v := by
    intro v hv
    rw [acceptRequest_get_of_ne _ _ hv]
    rfl
  refine ⟨?_, hl.once, ?_, fun v hv => by (cases hv),
    fun v hpc => by (cases hpc), ?_⟩
  · intro p
    have hsum := hl.account p
    rw [howed, howed, hhand] at hsum
    rw [owed_eq_slot (fun h => by cases h), owed_eq_slot (fun h => by cases h),
      PayloadLaw.hand_idle rfl]
    have hnone : counts (none : Option Nat) p = 0 := rfl
    show consumed s p +
      counts ((acceptRequest s.ni w r).get .session).rawRequest p +
      counts ((acceptRequest s.ni w r).get .sessionEs).rawRequest p +
      counts none p = s.given.count p
    cases w with
    | session =>
        rw [hself, hother .sessionEs (by decide)]
        rw [hfree] at hsum
        omega
    | sessionEs =>
        rw [hself, hother .session (by decide)]
        rw [hfree] at hsum
        omega
  · intro p hp
    refine Or.inl ?_
    show p < s.ni.log.payloads + 1
    rcases hl.named p hp with h | h
    · omega
    · rw [hhand] at h
      rw [payload_eq h]
      omega
  · intro hno
    have hno : s.ni.ni_notify_cb = false := by
      cases w <;> exact hno
    cases hpc.symm.trans (hl.closed hno).1

/-- The restart frees what the slot holds. -/
theorem payloadLaw_free {s : PayloadState} {w : SessionName}
    (hl : PayloadLaw s) (hpc : s.pc = .resetFree w) :
    PayloadLaw (freeSlot s w) := by
  have hhand : hand s = none := by
    unfold hand
    rw [hpc]
    rfl
  have howed : ∀ v, owed s v = slot s v :=
    fun v => owed_eq_slot (by rw [hpc]; exact fun h => by cases h)
  have hfreed : ∀ p, consumed (freeSlot s w) p
      = consumed s p + counts (slot s w) p := by
    intro p
    show (s.freed ++ (slot s w).toList).count p + s.moved.count p = _
    rw [count_append_toList]
    unfold consumed
    omega
  have hself : owed (freeSlot s w) w = none := if_pos rfl
  have hother : ∀ v, v ≠ w → owed (freeSlot s w) v = slot s v := by
    intro v hv
    exact owed_eq_slot (fun h => hv (by injection h with h; exact h.symm))
  refine ⟨?_, hl.once, ?_, fun v hv => by (cases hv), ?_, ?_⟩
  · intro p
    have hsum := hl.account p
    rw [howed, howed, hhand] at hsum
    rw [hfreed]
    have hnone : counts (none : Option Nat) p = 0 := rfl
    show _ + counts none p = s.given.count p
    cases w with
    | session =>
        rw [hself, hother .sessionEs (by decide)]
        omega
    | sessionEs =>
        rw [hself, hother .session (by decide)]
        omega
  · intro p hp
    rcases hl.named p hp with h | h
    · exact Or.inl h
    · rw [hhand] at h
      cases h
  · rintro v hv p hp
    obtain rfl : w = v := by injection hv
    have hp : slot s w = some p := hp
    rw [hfreed, hp]
    have hsum := hl.account p
    rw [howed, howed] at hsum
    have hle := List.nodup_iff_count_le_one.mp hl.once p
    have hone : counts (some p) p = 1 := if_pos rfl
    cases w with
    | session =>
        rw [hp] at hsum
        omega
    | sessionEs =>
        rw [hp] at hsum
        omega
  · intro hno
    cases hpc.symm.trans (hl.closed hno).1

/-- The restart clears the slot; what it held is freed. -/
theorem payloadLaw_null {s : PayloadState} {w : SessionName}
    (hl : PayloadLaw s) (hpc : s.pc = .resetNull w) :
    PayloadLaw (nullSlot s w) := by
  have hhand : hand s = none := by
    unfold hand
    rw [hpc]
    rfl
  have howed : ∀ v, owed (nullSlot s w) v = owed s v := by
    intro v
    rw [owed_eq_slot (fun h => by cases h)]
    unfold owed
    rw [hpc]
    by_cases hv : v = w
    · subst hv
      rw [if_pos rfl]
      unfold slot nullSlot
      rw [NiData.get_set_self]
    · rw [if_neg (fun h => hv (by injection h with h; exact h.symm))]
      unfold slot nullSlot
      rw [NiData.get_set_of_ne _ _ hv]
  refine ⟨?_, hl.once, ?_, fun v hv => by (cases hv),
    fun v hv => by (cases hv), ?_⟩
  · intro p
    have hsum := hl.account p
    rw [hhand] at hsum
    rw [howed, howed]
    exact hsum
  · intro p hp
    rcases hl.named p hp with h | h
    · refine Or.inl ?_
      show p < (s.ni.set w _).log.payloads
      rw [NiData.set_log]
      exact h
    · rw [hhand] at h
      cases h
  · intro hno
    have hno : s.ni.ni_notify_cb = false := by
      cases w <;> exact hno
    cases hpc.symm.trans (hl.closed hno).1

/-! ## The locked sections of a request thread -/

/-- A section of thread `i` on session `w`: if it ends the wait it takes what
    the slot holds, if not it leaves the slots alone. -/
structure Section (n n' : NiData) (i : Nat) (timedOut : Bool)
    (w : SessionName) (ended : Bool) : Prop where
  payloads : n'.log.payloads = n.log.payloads
  cb : n'.ni_notify_cb = n.ni_notify_cb
  other : ∀ v, v ≠ w → (n'.get v).rawRequest = (n.get v).rawRequest
  slot : (n'.get w).rawRequest
    = if ended then none else (n.get w).rawRequest
  taken : ∀ p, counts (freedBy n i timedOut) p + counts (movedBy n' i) p
    = if ended then counts (n.get w).rawRequest p else 0

/-- The end of the wait: the payload goes into the message, or is freed. -/
theorem finish_section {n : NiData} {i : Nat} {timedOut : Bool} {t : NiThread}
    {s : Session} (ht : n.threads[i]? = some t)
    (hraw : s.rawRequest = (n.get t.pSession).rawRequest)
    (hfreed : freedBy n i timedOut = freeIgnored s) :
    Section n (finishThread n i t s) i timedOut t.pSession true := by
  have hi : i < n.threads.length := (List.getElem?_eq_some_iff.mp ht).1
  have hget : ∀ v, (finishThread n i t s).get v
      = (n.set t.pSession (finishWait s).1).get v := by
    intro v
    cases v <;> rfl
  have hslot : ((finishThread n i t s).get t.pSession).rawRequest = none := by
    rw [hget, NiData.get_set_self]
    rfl
  have hmoved : movedBy (finishThread n i t s) i
      = (finishWait s).2.map Prod.snd := by
    unfold movedBy finishThread
    rw [List.getElem?_set_self hi]
    rfl
  refine ⟨?_, ?_, ?_, hslot, ?_⟩
  · unfold finishThread
    cases t.pSession <;> rfl
  · unfold finishThread
    cases t.pSession <;> rfl
  · intro v hv
    rw [hget, NiData.get_set_of_ne _ _ hv]
  · intro p
    rw [hfreed, hmoved, ← hraw, if_pos rfl, freeIgnored]
    cases hr : s.rawRequest with
    | none => simp [finishWait, hr, counts]
    | some q =>
        by_cases hresp : s.resp = .GPS_NI_RESPONSE_IGNORE
        · simp [finishWait, hr, hresp, counts]
        · simp [finishWait, hr, hresp, counts]

theorem loop_section {n : NiData} {i timeout : Nat} {t : NiThread}
    (ht : n.threads[i]? = some t) :
    Section n (threadLoop n i t timeout) i false t.pSession
      (n.get t.pSession).respRecvd := by
  have hi : i < n.threads.length := (List.getElem?_eq_some_iff.mp ht).1
  have hfreed : freedBy n i false
      = if (n.get t.pSession).respRecvd then freeIgnored (n.get t.pSession)
        else none := by
    rw [freedBy, ht]
    rfl
  unfold threadLoop
  cases hresp : (n.get t.pSession).respRecvd with
  | true =>
      rw [hresp, if_pos rfl] at hfreed
      rw [if_pos rfl]
      exact finish_section ht rfl hfreed
  | false =>
      rw [hresp, if_neg (by decide)] at hfreed
      rw [if_neg (by decide)]
      have hget : ∀ v, NiData.get { n with
          threads := n.threads.set i { t with pc := .waiting timeout } } v
          = n.get v := by
        intro v
        cases v <;> rfl
      have hmoved : movedBy { n with
          threads := n.threads.set i { t with pc := .waiting timeout } } i
          = none := by
        unfold movedBy
        rw [List.getElem?_set_self hi]
        rfl
      refine ⟨rfl, rfl, fun v _ => by rw [hget], by rw [hget]; rfl, ?_⟩
      intro p
      rw [hfreed, hmoved]
      rfl

/-- The section of a thread that starts or wakes. -/
theorem threadStart_section {n n' : NiData} {i : Nat}
    (h : threadStart n i = some n') :
    ∃ t ∈ n.threads[i]?,
      Section n n' i false t.pSession (n.get t.pSession).respRecvd := by
  obtain ⟨t, ht, timeout, rfl⟩ := threadStart_eq h
  exact ⟨t, ht, loop_section ht⟩

theorem threadWake_section {n n' : NiData} {i : Nat}
    (h : threadWake n i = some n') :
    ∃ t ∈ n.threads[i]?,
      Section n n' i false t.pSession (n.get t.pSession).respRecvd := by
  obtain ⟨t, ht, timeout, rfl⟩ := threadWake_eq h
  exact ⟨t, ht, loop_section ht⟩

/-- A section that also notes something in the log. -/
theorem Section.logged {n n' : NiData} {i : Nat} {timedOut : Bool}
    {w : SessionName} {ended : Bool} (h : Section n n' i timedOut w ended)
    {log : NiLog} (hlog : log.payloads = n.log.payloads) :
    Section n { n' with log := log } i timedOut w ended := by
  have hget : ∀ v, NiData.get { n' with log := log } v = n'.get v := by
    intro v
    cases v <;> rfl
  refine ⟨hlog, h.cb, ?_, ?_, h.taken⟩
  · intro v hv
    rw [hget]
    exact h.other v hv
  · rw [hget]
    exact h.slot

theorem threadTimeout_section {n n' : NiData} {i : Nat}
    (h : threadTimeout n i = some n') :
    ∃ t ∈ n.threads[i]?, Section n n' i true t.pSession true := by
  obtain ⟨t, ht, rfl⟩ := threadTimeout_eq h
  have hfreed : freedBy n i true = freeIgnored { n.get t.pSession with
      resp := .GPS_NI_RESPONSE_NORESP } := by
    rw [freedBy, ht]
    rfl
  have hsec : Section n (finishThread n i t { n.get t.pSession with
      resp := .GPS_NI_RESPONSE_NORESP }) i true t.pSession true :=
    finish_section ht rfl hfreed
  exact ⟨t, ht, hsec.logged rfl⟩

theorem Section.consumed_eq {s : PayloadState} {n : NiData} {i : Nat}
    {timedOut : Bool} {w : SessionName} {ended : Bool}
    (h : Section s.ni n i timedOut w ended) (p : Nat) :
    consumed (afterSection s n i timedOut) p
      = consumed s p + if ended then counts (QcomNi.slot s w) p else 0 := by
  have htaken := h.taken p
  show (s.freed ++ (freedBy s.ni i timedOut).toList).count p +
    (s.moved ++ (movedBy n i).toList).count p = _
  rw [count_append_toList, count_append_toList]
  unfold consumed QcomNi.slot
  omega

/-- An empty slot stays empty. -/
theorem Section.slot_none {s : PayloadState} {n : NiData} {i : Nat}
    {timedOut : Bool} {w : SessionName} {ended : Bool}
    (h : Section s.ni n i timedOut w ended) {v : SessionName}
    (hv : QcomNi.slot s v = none) :
    QcomNi.slot (afterSection s n i timedOut) v = none := by
  by_cases hvw : v = w
  · subst hvw
    rw [show QcomNi.slot (afterSection s n i timedOut) v = _ from h.slot]
    cases ended with
    | true => rfl
    | false => exact hv
  · rw [show QcomNi.slot (afterSection s n i timedOut) v = _ from
      h.other v hvw]
    exact hv

/-- What a section of a thread takes out of its session is no longer owed. -/
theorem counts_owed_section {s : PayloadState} {n : NiData} {i : Nat}
    {timedOut : Bool} {w : SessionName} {ended : Bool}
    (h : Section s.ni n i timedOut w ended)
    (hok : ended = true → s.pc = .resetNull w → slot s w = none) (p : Nat) :
    counts (owed (afterSection s n i timedOut) w) p +
      (if ended then counts (slot s w) p else 0) = counts (owed s w) p := by
  have hslot : slot (afterSection s n i timedOut) w
      = if ended then none else slot s w := h.slot
  have hnone : counts (none : Option Nat) p = 0 := rfl
  by_cases hpc : s.pc = .resetNull w
  · have hpc' : (afterSection s n i timedOut).pc = .resetNull w := hpc
    rw [owed, if_pos hpc', owed, if_pos hpc]
    cases ended with
    | true =>
        rw [if_pos rfl, hok rfl hpc]
        rfl
    | false => rfl
  · have hpc' : (afterSection s n i timedOut).pc ≠ .resetNull w := hpc
    rw [owed_eq_slot hpc, owed_eq_slot hpc', hslot]
    cases ended with
    | true =>
        rw [if_pos rfl, if_pos rfl, hnone]
        omega
    | false => rfl

/-- A thread may end its wait, unless the restart has just freed what the
    slot still names. -/
theorem payloadLaw_section {s : PayloadState} {n : NiData} {i : Nat}
    {timedOut : Bool} {w : SessionName} {ended : Bool} (hl : PayloadLaw s)
    (h : Section s.ni n i timedOut w ended)
    (hok : ended = true → s.pc = .resetNull w → slot s w = none) :
    PayloadLaw (afterSection s n i timedOut) := by
  have hhand : hand (afterSection s n i timedOut) = hand s := by
    unfold hand payload
    show s.pc.request.bind (fun r => if r.passThrough = true then
      some n.log.payloads else none) = _
    rw [h.payloads]
  have hother : ∀ v, v ≠ w →
      slot (afterSection s n i timedOut) v = slot s v := h.other
  have howed : ∀ v, v ≠ w →
      owed (afterSection s n i timedOut) v = owed s v := by
    intro v hv
    unfold owed
    rw [hother v hv]
    rfl
  have hself := counts_owed_section h hok
  refine ⟨?_, hl.once, ?_, ?_, ?_, ?_⟩
  · intro p
    have hsum := hl.account p
    have hw := hself p
    rw [h.consumed_eq, hhand]
    show _ = s.given.count p
    cases w with
    | session =>
        rw [howed .sessionEs (by decide)]
        omega
    | sessionEs =>
        rw [howed .session (by decide)]
        omega
  · intro p hp
    rw [hhand]
    show p < n.log.payloads ∨ _
    rw [h.payloads]
    exact hl.named p hp
  · exact fun v hv => h.slot_none (hl.claimed v hv)
  · intro v hpc p hp
    rw [h.consumed_eq]
    by_cases hvw : v = w
    · subst hvw
      rw [show slot (afterSection s n i timedOut) v = _ from h.slot] at hp
      cases ended with
      | true => cases hp
      | false => exact hl.gone v hpc p hp
    · rw [hother v hvw] at hp
      have hone := hl.gone v hpc p hp
      -- the payload is gone, so the other slot does not name it
      have hzero : counts (slot s w) p = 0 := by
        have hsum := hl.account p
        have hle := List.nodup_iff_count_le_one.mp hl.once p
        have hpc' : s.pc ≠ .resetNull w := by
          rw [show s.pc = .resetNull v from hpc]
          exact fun h => hvw (by injection h)
        rw [← owed_eq_slot hpc']
        cases w <;> omega
      rw [hone, hzero]
      cases ended <;> rfl
  · intro hno
    rw [show (afterSection s n i timedOut).ni.ni_notify_cb
      = n.ni_notify_cb from rfl, h.cb] at hno
    obtain ⟨hpc, hnone⟩ := hl.closed hno
    exact ⟨hpc, fun v => h.slot_none (hnone v)⟩

/-- The race of the restart: a thread takes what was just freed. -/
theorem not_accounted_section {s : PayloadState} {n : NiData} {i p : Nat}
    {timedOut : Bool} {w : SessionName} (hl : PayloadLaw s)
    (h : Section s.ni n i timedOut w true) (hpc : s.pc = .resetNull w)
    (hp : slot s w = some p) :
    ¬ Accounted (afterSection s n i timedOut) := by
  intro hall
  have hone := hl.gone w hpc p hp
  have hgiven : p ∈ s.given := by
    have hsum := hl.account p
    exact List.count_pos_iff.mp (by omega)
  have htwo := (hall p hgiven).1
  rw [h.consumed_eq, hone, hp] at htwo
  simp [counts] at htwo

/-! ## The steps that leave the payloads alone -/

theorem set_rawRequest {n : NiData} {w : SessionName} {s : Session}
    (h : s.rawRequest = (n.get w).rawRequest) (v : SessionName) :
    ((n.set w s).get v).rawRequest = (n.get v).rawRequest := by
  by_cases hv : v = w
  · subst hv
    rw [NiData.get_set_self]
    exact h
  · rw [NiData.get_set_of_ne _ _ hv]

theorem payloadLaw_respond {s : PayloadState} (hl : PayloadLaw s)
    (notif_id : Int) (user_response : GpsUserResponseType) :
    PayloadLaw { s with ni := niRespond s.ni notif_id user_response } := by
  refine hl.congr ?_ ?_ ?_ <;> unfold niRespond
  · intro w
    split <;> cases w <;> rfl
  · split <;> rfl
  · split <;> rfl

theorem payloadLaw_respondStep {s : PayloadState} {n : NiData} {i : Nat}
    (hl : PayloadLaw s) (h : respondStep s.ni i = some n) :
    PayloadLaw { s with ni := n } := by
  obtain ⟨c, -, ⟨-, rfl⟩ | ⟨-, rfl⟩⟩ := respondStep_eq h
  · exact hl.congr (fun w => by cases w <;> rfl) rfl rfl
  · cases hw : c.pSession <;>
      exact hl.congr (fun w => by cases w <;> rfl) rfl rfl

theorem payloadLaw_tail {s : PayloadState} {n : NiData} {i : Nat}
    (hl : PayloadLaw s) (h : threadTail s.ni i = some n) :
    PayloadLaw { s with ni := n } := by
  obtain ⟨t, -, msg, -, rfl⟩ := threadTail_eq h
  cases t.pSession <;>
    exact hl.congr (fun w => by cases w <;> rfl) rfl rfl

/-- The restart signals the thread of a session. -/
theorem payloadLaw_signal {s : PayloadState} {w : SessionName} {pc : MsgPc}
    (hl : PayloadLaw s) (hpc : s.pc = .resetSignal w)
    (hpc' : pc = .resetCheck .session ∨ pc = .idle) :
    PayloadLaw { s with
      ni := s.ni.set w { s.ni.get w with respRecvd := true }, pc := pc } := by
  have hlaw : PayloadLaw { s with
      ni := s.ni.set w { s.ni.get w with respRecvd := true } } :=
    hl.congr (set_rawRequest rfl) (by rw [NiData.set_log])
      (by cases w <;> rfl)
  have hopen : s.ni.ni_notify_cb = true := by
    by_contra hno
    cases hpc.symm.trans (hl.closed (Bool.not_eq_true _ ▸ hno)).1
  refine hlaw.goto (Or.inl ?_) ?_ ?_ ?_ ?_
  · cases w <;> exact hopen
  · intro v h
    cases hpc.symm.trans h
  · rintro v rfl
    rcases hpc' with h | h <;> cases h
  · show pc.request = s.pc.request
    rw [hpc]
    rcases hpc' with rfl | rfl <;> rfl
  · rcases hpc' with rfl | rfl <;> exact fun v hv => by cases hv

theorem payloadLaw_msgThread {s s' : PayloadState} (hl : PayloadLaw s)
    (h : msgThread s = some s') : PayloadLaw s' := by
  have hopen : s.pc ≠ .idle → s.ni.ni_notify_cb = true := by
    intro hpc
    by_contra hno
    exact hpc (hl.closed (Bool.not_eq_true _ ▸ hno)).1
  unfold msgThread at h
  split at h
  · cases h
  · rename_i r hpc
    have hnull : ∀ w, s.pc ≠ .resetNull w := by simp [hpc]
    have hcb := hopen (by simp [hpc])
    split at h
    · cases h
      exact payloadLaw_drop hl (by rw [hpc]; rfl) hnull
    · rename_i hfree
      have hfree : slot s (ownSession r) = none := by
        unfold slot
        simpa using hfree
      unfold ownSession at hfree
      split at h <;> cases h
      · rename_i hes
        rw [if_pos hes] at hfree
        refine hl.goto (Or.inl hcb) hnull (fun w h => by cases h)
          (by rw [hpc]; rfl) ?_
        rintro w hw
        cases hw
        exact hfree
      · rename_i hes
        rw [if_neg hes] at hfree
        refine hl.goto (Or.inl hcb) hnull (fun w h => by cases h)
          (by rw [hpc]; rfl) ?_
        rintro w hw
        cases hw
        exact hfree
  · rename_i r hpc
    have hnull : ∀ w, s.pc ≠ .resetNull w := by simp [hpc]
    split at h <;> cases h
    · exact payloadLaw_drop hl (by rw [hpc]; rfl) hnull
    · refine hl.goto (Or.inl (hopen (by simp [hpc]))) hnull
        (fun w h => by cases h) (by rw [hpc]; rfl) ?_
      rintro w hw
      cases hw
      exact hl.claimed .session (by rw [hpc]; rfl)
  · rename_i w r hpc
    cases h
    exact payloadLaw_save hl hpc
  · rename_i w hpc
    have hnull : ∀ w, s.pc ≠ .resetNull w := by simp [hpc]
    have hcb := hopen (by simp [hpc])
    split at h <;> cases h
    · exact hl.goto (Or.inl hcb) hnull (fun w h => by cases h)
        (by rw [hpc]; rfl) (fun w hw => by cases hw)
    · cases w <;>
        exact hl.goto (Or.inl hcb) hnull (fun w h => by cases h)
          (by rw [hpc]; rfl) (fun w hw => by cases hw)
  · rename_i w hpc
    cases h
    exact payloadLaw_free hl hpc
  · rename_i w hpc
    cases h
    exact payloadLaw_null hl hpc
  · rename_i w hpc
    cases h
    refine payloadLaw_signal hl hpc ?_
    cases w
    · exact Or.inr rfl
    · exact Or.inl rfl

/-! ## The exact condition -/

/-- No payload comes before `loc_eng_ni_init`, and no thread ends its wait on
    a session between the restart's free and its write, with the freed
    payload still in the slot. -/
def InOrder (s : PayloadState) : PayloadAction → Prop
  | .request r => r.passThrough = true → s.ni.ni_notify_cb = true
  | .threadStart i | .threadWake i =>
      ∀ t ∈ s.ni.threads[i]?, (s.ni.get t.pSession).respRecvd = true →
        s.pc = .resetNull t.pSession → slot s t.pSession = none
  | .threadTimeout i =>
      ∀ t ∈ s.ni.threads[i]?,
        s.pc = .resetNull t.pSession → slot s t.pSession = none
  | _ => True

instance decidableInOrder (s : PayloadState) :
    ∀ a : PayloadAction, Decidable (InOrder s a)
  | .init => isTrue trivial
  | .request r => inferInstanceAs
      (Decidable (r.passThrough = true → s.ni.ni_notify_cb = true))
  | .respond _ _ => isTrue trivial
  | .respondStep _ => isTrue trivial
  | .reset => isTrue trivial
  | .msgThread => isTrue trivial
  | .threadStart _ => Option.decidableForallMem _
  | .threadWake _ => Option.decidableForallMem _
  | .threadTimeout _ => Option.decidableForallMem _
  | .threadTail _ => isTrue trivial

/-- **STEP LEMMA**: in order, every step keeps the account. -/
theorem payloadLaw_step {s s' : PayloadState} {a : PayloadAction}
    (hl : PayloadLaw s) (hok : InOrder s a) (h : payloadStep s a = some s') :
    PayloadLaw s' := by
  cases a with
  | init =>
      cases h
      exact payloadLaw_niInit hl
  | request r =>
      simp only [payloadStep] at h
      split at h <;> cases h
      rename_i hpc
      exact payloadLaw_request hl hpc hok
  | respond notif_id user_response =>
      cases h
      exact payloadLaw_respond hl notif_id user_response
  | respondStep i =>
      obtain ⟨n, hn, rfl⟩ := Option.map_eq_some_iff.mp h
      exact payloadLaw_respondStep hl hn
  | reset =>
      simp only [payloadStep] at h
      split at h <;> cases h
      rename_i hpc
      have hnull : ∀ w, s.pc ≠ .resetNull w := by simp [hpc]
      cases hcb : s.ni.ni_notify_cb with
      | true =>
          exact hl.goto (Or.inl hcb) hnull (fun w h => by cases h)
            (by rw [hpc]; rfl) (fun w hw => by cases hw)
      | false =>
          exact hl.goto (Or.inr rfl) hnull (fun w h => by cases h)
            (by rw [hpc]; rfl) (fun w hw => by cases hw)
  | msgThread => exact payloadLaw_msgThread hl h
  | threadStart i =>
      obtain ⟨n, hn, rfl⟩ := Option.map_eq_some_iff.mp h
      obtain ⟨t, ht, hsec⟩ := threadStart_section hn
      exact payloadLaw_section hl hsec (hok t ht)
  | threadWake i =>
      obtain ⟨n, hn, rfl⟩ := Option.map_eq_some_iff.mp h
      obtain ⟨t, ht, hsec⟩ := threadWake_section hn
      exact payloadLaw_section hl hsec (hok t ht)
  | threadTimeout i =>
      obtain ⟨n, hn, rfl⟩ := Option.map_eq_some_iff.mp h
      obtain ⟨t, ht, hsec⟩ := threadTimeout_section hn
      exact payloadLaw_section hl hsec (fun _ => hok t ht)
  | threadTail i =>
      obtain ⟨n, hn, rfl⟩ := Option.map_eq_some_iff.mp h
      exact payloadLaw_tail hl hn

/-- A payload that comes before `loc_eng_ni_init` is dropped by the handler's
    first return. -/
theorem not_accounted_early {s : PayloadState} {r : NiRequest}
    (hl : PayloadLaw s) (hpc : s.pc = .idle)
    (hpay : r.passThrough = true) (hcb : s.ni.ni_notify_cb = false) :
    ¬ Accounted (request s r) := by
  intro hall
  have hfresh := hl.fresh hpc
  obtain ⟨-, hnone⟩ := hl.closed hcb
  have hgiven : (request s r).given = s.given ++ [s.ni.log.payloads] := by
    unfold request payload
    rw [hpay, hcb]
    rfl
  have hzero : consumed (request s r) s.ni.log.payloads = 0 := by
    have hsum := hl.account s.ni.log.payloads
    rw [List.count_eq_zero_of_not_mem hfresh] at hsum
    unfold request
    rw [hcb, if_neg (by decide)]
    show (s.freed ++ []).count _ + s.moved.count _ = 0
    rw [List.append_nil]
    unfold consumed at hsum
    omega
  rcases (hall s.ni.log.payloads (by rw [hgiven]; simp)).2 hzero with
    hhand | ⟨w, hw⟩
  · unfold request at hhand
    rw [hcb, if_neg (by decide)] at hhand
    cases hhand
  · have hslot := hnone w
    unfold request at hw
    rw [hcb, if_neg (by decide)] at hw
    cases w <;> cases hslot.symm.trans hw

/-- A thread that finds a response ends a session with a freed payload. -/
theorem not_accounted_loop {s : PayloadState} {n : NiData} {i : Nat}
    {t : NiThread} (hl : PayloadLaw s) (ht : t ∈ s.ni.threads[i]?)
    (h : Section s.ni n i false t.pSession (s.ni.get t.pSession).respRecvd)
    (hno : ¬ InOrder s (.threadStart i)) :
    ¬ Accounted (afterSection s n i false) := by
  simp only [InOrder, not_forall] at hno
  obtain ⟨t', ht', hresp, hpc, hslot⟩ := hno
  obtain rfl := Option.some.inj (ht.symm.trans ht')
  obtain ⟨p, hp⟩ := Option.ne_none_iff_exists'.mp hslot
  rw [hresp] at h
  exact not_accounted_section hl h hpc hp

/-- Any other step loses a payload or consumes it twice. -/
theorem not_accounted_step {s s' : PayloadState} {a : PayloadAction}
    (hl : PayloadLaw s) (hno : ¬ InOrder s a)
    (h : payloadStep s a = some s') : ¬ Accounted s' := by
  cases a with
  | init => exact absurd trivial hno
  | request r =>
      simp only [InOrder, not_forall, Bool.not_eq_true] at hno
      obtain ⟨hpay, hcb⟩ := hno
      simp only [payloadStep] at h
      split at h <;> cases h
      rename_i hpc
      exact not_accounted_early hl hpc hpay hcb
  | respond notif_id user_response => exact absurd trivial hno
  | respondStep i => exact absurd trivial hno
  | reset => exact absurd trivial hno
  | msgThread => exact absurd trivial hno
  | threadStart i =>
      obtain ⟨n, hn, rfl⟩ := Option.map_eq_some_iff.mp h
      obtain ⟨t, ht, hsec⟩ := threadStart_section hn
      exact not_accounted_loop hl ht hsec hno
  | threadWake i =>
      obtain ⟨n, hn, rfl⟩ := Option.map_eq_some_iff.mp h
      obtain ⟨t, ht, hsec⟩ := threadWake_section hn
      exact not_accounted_loop hl ht hsec hno
  | threadTimeout i =>
      obtain ⟨n, hn, rfl⟩ := Option.map_eq_some_iff.mp h
      obtain ⟨t, ht, hsec⟩ := threadTimeout_section hn
      simp only [InOrder, not_forall] at hno
      obtain ⟨t', ht', hpc, hslot⟩ := hno
      obtain rfl := Option.some.inj (ht.symm.trans ht')
      obtain ⟨p, hp⟩ := Option.ne_none_iff_exists'.mp hslot
      exact not_accounted_section hl hsec hpc hp
  | threadTail i => exact absurd trivial hno

/-- **EVERY PAYLOAD ONCE**: along a run every payload is consumed at most
    once, and is in the handler's hands or in a session until then, if and
    only if the run is in order. -/
theorem payloads_accounted_iff (resp respEs : GpsUserResponseType)
    (l : List PayloadAction) :
    HoldsAlong payloadSys Accounted (newPayloads resp respEs) l ↔
      StepsMeet payloadSys InOrder (newPayloads resp respEs) l :=
  holdsAlong_iff_stepsMeet (fun _ hl => hl.accounted)
    (fun _ _ _ => payloadLaw_step) (fun _ _ _ => not_accounted_step) l
    (payloadLaw_init resp respEs)

/-- A request comes before `loc_eng_ni_init`. -/
def earlyPayloadRun : List PayloadAction := [.request voiceRequest]

/-- The restart frees the payload of a session, and before it clears the slot
    the session's thread times out. -/
def racePayloadRun : List PayloadAction :=
  [.init, .request voiceRequest, .msgThread, .msgThread, .msgThread,
    .threadStart 0, .reset, .msgThread, .msgThread, .msgThread,
    .threadTimeout 0]

/-- The first payload is never consumed, the second one is freed and moved
    into a message as well. -/
theorem payload_lost_or_twice :
    (∃ s, exec payloadSys
        (newPayloads .GPS_NI_RESPONSE_ACCEPT .GPS_NI_RESPONSE_ACCEPT)
        earlyPayloadRun = some s ∧ s.pc = .idle ∧ s.given = [0] ∧
        consumed s 0 = 0 ∧ slot s .session = none ∧
        slot s .sessionEs = none ∧ s.ni.threads.length = 0) ∧
    (∃ s, exec payloadSys
        (newPayloads .GPS_NI_RESPONSE_ACCEPT .GPS_NI_RESPONSE_ACCEPT)
        racePayloadRun = some s ∧ s.given = [0] ∧ s.freed = [0] ∧
        s.moved = [0]) := by
  have hrace : (exec payloadSys
      (newPayloads .GPS_NI_RESPONSE_ACCEPT .GPS_NI_RESPONSE_ACCEPT)
      racePayloadRun).map (fun s => (s.given, s.freed, s.moved))
      = some ([0], [0], [0]) := by decide +kernel
  obtain ⟨s, hs, hend⟩ := Option.map_eq_some_iff.mp hrace
  simp only [Prod.mk.injEq] at hend
  exact ⟨⟨_, rfl, rfl, rfl, rfl, rfl, rfl, rfl⟩, s, hs, hend⟩

end QcomNi
