import QcomCommon.NiSessionProofs

/-! # Responses to outstanding requests

    The tail of a request thread clears the session's `reqID` after it gave
    the session away.  A tail that runs late clears the id of the next
    request, whose response is then rejected (`tail_drops_response`).

    That is the only way to lose it: along a run, whatever its requests,
    responses, time-outs and restarts, every outstanding request can be
    answered exactly if every tail finds its session free
    (`outstanding_answerable_iff`). -/

namespace QcomNi

open QcomTransition NiData

/-! ## Outstanding requests -/

/-- A response to an outstanding request, under an id its user was notified
    with, finds the request's session. -/
def Answerable (n : NiData) : Prop :=
  ∀ w p id, (n.get w).rawRequest = some p →
    (id, some p) ∈ n.log.notified →
    (n.get w).reqID = id ∧ n.ni_notify_cb = true ∧
      lookupSession n id = some w

/-- The tail of a thread runs while its session is free. -/
def TailOfFree (n : NiData) : NiAction → Prop
  | .threadTail i => ∀ t ∈ n.threads[i]?,
      (n.get t.pSession).rawRequest = none
  | _ => True

/-! ## The invariant -/

/-- What a session with a request knows: the callbacks are in, and `reqID`
    is the one id its user was notified with. -/
structure ActiveLaw (n : NiData) (s : Session) (p : Nat) : Prop where
  inited : n.ni_notify_cb = true
  reqID : s.reqID = s.owner
  owner_pos : 0 < s.owner
  notified : ∀ id, (id, some p) ∈ n.log.notified ↔ id = s.owner

/-- The invariant of the two sessions. -/
structure SlotsLaw (n : NiData) : Prop where
  active : ∀ w p, (n.get w).rawRequest = some p → ActiveLaw n (n.get w) p
  counter : ∀ w, 0 ≤ (n.get w).owner ∧ (n.get w).owner ≤ n.reqIDCounter
  payloads : ∀ id p, (id, some p) ∈ n.log.notified → p < n.log.payloads
  apart : n.session.owner = n.sessionEs.owner → n.session.owner = 0

/-- Two sessions with a request have different ids. -/
theorem SlotsLaw.reqID_ne {n : NiData} (h : SlotsLaw n) {p : Nat}
    (hp : n.session.rawRequest = some p)
    (hes : n.sessionEs.rawRequest.isSome = true) :
    n.session.reqID ≠ n.sessionEs.reqID := by
  intro heq
  obtain ⟨q, hq⟩ := Option.isSome_iff_exists.mp hes
  have hs := h.active .session p hp
  have he := h.active .sessionEs q hq
  have howner : n.session.owner = n.sessionEs.owner := by
    rw [show n.session.owner = n.session.reqID from hs.reqID.symm, heq]
    exact he.reqID
  have hpos : 0 < n.session.owner := hs.owner_pos
  have hzero := h.apart howner
  omega

theorem SlotsLaw.answerable {n : NiData} (h : SlotsLaw n) :
    Answerable n := by
  intro w p id hp hid
  have hactive := h.active w p hp
  have hreq : (n.get w).reqID = id := by
    rw [hactive.reqID]
    exact ((hactive.notified id).mp hid).symm
  refine ⟨hreq, hactive.inited, ?_⟩
  cases w with
  | session =>
      have hp' : n.session.rawRequest = some p := hp
      have hreq' : n.session.reqID = id := hreq
      rw [lookupSession, if_neg, if_pos]
      · simp [hreq', hp']
      · intro hes
        simp only [Bool.and_eq_true, decide_eq_true_eq] at hes
        exact h.reqID_ne hp' hes.2 (hreq'.trans hes.1)
  | sessionEs =>
      have hp' : n.sessionEs.rawRequest = some p := hp
      have hreq' : n.sessionEs.reqID = id := hreq
      rw [lookupSession, if_pos]
      simp [hreq', hp']

/-! ## The steps -/

/-- A step that leaves what the law reads as in `n`, and may count payloads. -/
theorem SlotsLaw.congr {n n' : NiData} (h : SlotsLaw n)
    (hs : n'.session = n.session) (he : n'.sessionEs = n.sessionEs)
    (hcb : n'.ni_notify_cb = n.ni_notify_cb)
    (hcount : n'.reqIDCounter = n.reqIDCounter)
    (hnotified : n'.log.notified = n.log.notified)
    (hpayloads : n.log.payloads ≤ n'.log.payloads) : SlotsLaw n' := by
  have hget : ∀ w, n'.get w = n.get w := by
    intro w
    cases w with
    | session => exact hs
    | sessionEs => exact he
  refine ⟨?_, ?_, ?_, ?_⟩
  · intro w p hp
    rw [hget] at hp ⊢
    have hw := h.active w p hp
    refine ⟨hcb.trans hw.inited, hw.reqID, hw.owner_pos, ?_⟩
    rw [hnotified]
    exact hw.notified
  · intro w
    rw [hget, hcount]
    exact h.counter w
  · intro id p hp
    rw [hnotified] at hp
    exact Nat.lt_of_lt_of_le (h.payloads id p hp) hpayloads
  · rw [hs, he]
    exact h.apart

/-- A session keeps its owner, and its request or none; with a request it
    keeps its id. -/
structure Session.Keeps (s s' : Session) : Prop where
  owner : s'.owner = s.owner
  rawRequest : ∀ p, s'.rawRequest = some p → s.rawRequest = some p
  reqID : s'.rawRequest.isSome = true → s'.reqID = s.reqID

theorem SlotsLaw.set {n : NiData} (h : SlotsLaw n) {w : SessionName}
    {s : Session} (hk : (n.get w).Keeps s) : SlotsLaw (n.set w s) := by
  have hcb : (n.set w s).ni_notify_cb = n.ni_notify_cb := by
    cases w <;> rfl
  refine ⟨?_, ?_, ?_, ?_⟩
  · intro v p hp
    by_cases hvw : v = w
    · subst hvw
      rw [get_set_self] at hp ⊢
      have hv := h.active v p (hk.rawRequest p hp)
      refine ⟨hcb.trans hv.inited, ?_, ?_, ?_⟩
      · rw [hk.reqID (by rw [hp]; rfl), hk.owner]
        exact hv.reqID
      · rw [hk.owner]
        exact hv.owner_pos
      · intro id
        rw [set_log, hk.owner]
        exact hv.notified id
    · rw [get_set_of_ne n s hvw] at hp ⊢
      have hv := h.active v p hp
      exact ⟨hcb.trans hv.inited, hv.reqID, hv.owner_pos, fun id => by
        rw [set_log]
        exact hv.notified id⟩
  · rw [set_reqIDCounter]
    refine forall_get_set
      (Q := fun s => 0 ≤ s.owner ∧ s.owner ≤ n.reqIDCounter) w h.counter ?_
    rw [hk.owner]
    exact h.counter w
  · rw [set_log]
    exact h.payloads
  · have hown : ∀ v, ((n.set w s).get v).owner = (n.get v).owner := by
      intro v
      by_cases hvw : v = w
      · rw [hvw, get_set_self]
        exact hk.owner
      · rw [get_set_of_ne n s hvw]
    rw [show (n.set w s).session.owner = n.session.owner from hown .session,
      show (n.set w s).sessionEs.owner = n.sessionEs.owner from
        hown .sessionEs]
    exact h.apart

/-- A session that gives its request up. -/
theorem Session.keeps_none {s s' : Session} (howner : s'.owner = s.owner)
    (hnone : s'.rawRequest = none) : s.Keeps s' := by
  refine ⟨howner, ?_, ?_⟩
  · intro p hp
    rw [hnone] at hp
    cases hp
  · intro hp
    rw [hnone] at hp
    cases hp

/-- A session whose request, id and owner stay. -/
theorem Session.keeps_same {s s' : Session} (howner : s'.owner = s.owner)
    (hraw : s'.rawRequest = s.rawRequest) (hid : s'.reqID = s.reqID) :
    s.Keeps s' :=
  ⟨howner, fun _ hp => hraw.symm.trans hp, fun _ => hid⟩

/-- The session that took a request knows it under its id only. -/
theorem activeLaw_accepted {n : NiData} (h : SlotsLaw n)
    (hcb : n.ni_notify_cb = true) (w : SessionName) {r : NiRequest} {p : Nat}
    (hp : (saveRequest n r (n.get w)).rawRequest = some p) :
    ActiveLaw (acceptRequest n w r) (saveRequest n r (n.get w)) p := by
  obtain ⟨hpass, rfl⟩ := saveRequest_rawRequest.mp hp
  have hpos := (h.counter w).1
  have hle := (h.counter w).2
  refine ⟨?_, rfl, ?_, ?_⟩
  · cases w <;> exact hcb
  · show 0 < n.reqIDCounter + 1
    omega
  · intro id
    show _ ↔ id = n.reqIDCounter + 1
    rw [mem_notified_accept]
    constructor
    -- no earlier notification has the new payload
    · rintro (hm | ⟨hid, -⟩)
      · exact absurd (h.payloads _ _ hm) (Nat.lt_irrefl _)
      · exact hid
    · exact fun hid => Or.inr ⟨hid, hpass, rfl⟩

/-- The other session knows its own as before. -/
theorem activeLaw_other {n : NiData} (h : SlotsLaw n) (w : SessionName)
    (r : NiRequest) {v : SessionName} {p : Nat}
    (hp : (n.get v).rawRequest = some p) :
    ActiveLaw (acceptRequest n w r) (n.get v) p := by
  have hv := h.active v p hp
  -- its payload is older, so the new notification does not name it
  have hlt := h.payloads _ _ ((hv.notified _).mpr rfl)
  refine ⟨?_, hv.reqID, hv.owner_pos, ?_⟩
  · cases w <;> exact hv.inited
  · intro id
    rw [mem_notified_accept, hv.notified id]
    constructor
    · rintro (hid | ⟨-, -, hpp⟩)
      · exact hid
      · omega
    · exact Or.inl

/-- The new request is known under its own id only. -/
theorem slotsLaw_accept {n : NiData} (h : SlotsLaw n)
    (hcb : n.ni_notify_cb = true) (w : SessionName) (r : NiRequest) :
    SlotsLaw (acceptRequest n w r) := by
  have hpos := (h.counter w).1
  have hle := (h.counter w).2
  refine ⟨?_, ?_, ?_, ?_⟩
  · intro v p hp
    by_cases hvw : v = w
    · rw [hvw, acceptRequest_get_self] at hp ⊢
      exact activeLaw_accepted h hcb w hp
    · rw [acceptRequest_get_of_ne n r hvw] at hp ⊢
      exact activeLaw_other h w r hp
  · intro v
    show _ ∧ _ ≤ n.reqIDCounter + 1
    by_cases hvw : v = w
    · rw [hvw, acceptRequest_get_self]
      show 0 ≤ n.reqIDCounter + 1 ∧ n.reqIDCounter + 1 ≤ n.reqIDCounter + 1
      omega
    · rw [acceptRequest_get_of_ne n r hvw]
      have hv := h.counter v
      omega
  · intro id p hm
    show p < n.log.payloads + 1
    rcases mem_notified_accept.mp hm with hm | ⟨-, -, rfl⟩
    · have hlt := h.payloads id p hm
      omega
    · exact Nat.lt_succ_self _
  · have hs := h.counter .session
    have he := h.counter .sessionEs
    intro heq
    cases w with
    | session =>
        have hlt : (n.get .sessionEs).owner = n.reqIDCounter + 1 := heq.symm
        omega
    | sessionEs =>
        have hlt : (n.get .session).owner = n.reqIDCounter + 1 := heq
        omega

theorem slotsLaw_request {n : NiData} (h : SlotsLaw n) (r : NiRequest) :
    SlotsLaw (niRequestHandler n r) := by
  rw [niRequestHandler]
  split
  · rename_i hcb
    split
    · exact slotsLaw_accept h hcb _ r
    · exact h.congr rfl rfl rfl rfl rfl (Nat.le_succ _)
  · exact h

theorem slotsLaw_respond {n : NiData} (h : SlotsLaw n) (notif_id : Int)
    (user_response : GpsUserResponseType) :
    SlotsLaw (niRespond n notif_id user_response) := by
  rw [niRespond]
  split
  · exact h.congr rfl rfl rfl rfl rfl (Nat.le_refl _)
  · exact h

/-- A step that replaces one session and moves a thread, a response or a
    restart. -/
theorem SlotsLaw.move {n n' : NiData} (h : SlotsLaw n) {w : SessionName}
    {s : Session} (hk : (n.get w).Keeps s)
    (hs : n'.session = (n.set w s).session)
    (he : n'.sessionEs = (n.set w s).sessionEs)
    (hcb : n'.ni_notify_cb = (n.set w s).ni_notify_cb)
    (hcount : n'.reqIDCounter = (n.set w s).reqIDCounter)
    (hnotified : n'.log.notified = n.log.notified)
    (hpayloads : n'.log.payloads = n.log.payloads) : SlotsLaw n' := by
  refine (h.set hk).congr hs he hcb hcount ?_ ?_
  · rw [set_log]
    exact hnotified
  · rw [set_log]
    exact Nat.le_of_eq hpayloads.symm

theorem slotsLaw_respondStep {n n' : NiData} (h : SlotsLaw n) {i : Nat}
    (hs : respondStep n i = some n') : SlotsLaw n' := by
  obtain ⟨c, -, ⟨-, rfl⟩ | ⟨-, rfl⟩⟩ := respondStep_eq hs
  · exact h.move (w := .session)
      (s := writeResponse n.session .GPS_NI_RESPONSE_IGNORE)
      (Session.keeps_same rfl rfl rfl) rfl rfl rfl rfl rfl rfl
  · refine h.move (w := c.pSession)
      (s := writeResponse (n.get c.pSession) c.user_response)
      (Session.keeps_same rfl rfl rfl) rfl rfl rfl rfl ?_ ?_ <;> simp

theorem slotsLaw_resetStep {n n' : NiData} (h : SlotsLaw n) {i : Nat}
    (hs : resetStep n i = some n') : SlotsLaw n' := by
  rcases resetStep_eq hs with ⟨w, found, next, rfl⟩ | ⟨-, -, w, -, next, rfl⟩
  · rw [resetCheck]
    split
    · refine h.move (w := w) (s := { n.get w with rawRequest := none })
        (Session.keeps_none rfl rfl) rfl rfl rfl rfl ?_ ?_ <;> simp
    · exact h.congr rfl rfl rfl rfl rfl (Nat.le_refl _)
  · refine h.move (w := w) (s := { n.get w with respRecvd := true })
      (Session.keeps_same rfl rfl rfl) rfl rfl rfl rfl ?_ ?_ <;>
      simp [resetSignal]

theorem slotsLaw_finish {n : NiData} (h : SlotsLaw n) (i : Nat)
    (t : NiThread) {s : Session} (howner : s.owner = (n.get t.pSession).owner) :
    SlotsLaw (finishThread n i t s) := by
  refine h.move (w := t.pSession) (s := (finishWait s).1)
    (Session.keeps_none howner rfl) rfl rfl rfl rfl ?_ ?_ <;>
    simp [finishThread]

theorem slotsLaw_loop {n : NiData} (h : SlotsLaw n) (i : Nat)
    (t : NiThread) (timeout : Nat) : SlotsLaw (threadLoop n i t timeout) := by
  rw [threadLoop]
  split
  · exact slotsLaw_finish h i t rfl
  · exact h.congr rfl rfl rfl rfl rfl (Nat.le_refl _)

theorem slotsLaw_timeout {n n' : NiData} (h : SlotsLaw n) {i : Nat}
    (hs : threadTimeout n i = some n') : SlotsLaw n' := by
  obtain ⟨t, -, rfl⟩ := threadTimeout_eq hs
  have hfin := slotsLaw_finish h i t
    (s := { n.get t.pSession with resp := .GPS_NI_RESPONSE_NORESP }) rfl
  refine hfin.congr rfl rfl rfl rfl ?_ ?_ <;> simp [finishThread]

theorem slotsLaw_tail {n n' : NiData} (h : SlotsLaw n) {i : Nat}
    (hg : TailOfFree n (.threadTail i)) (hs : threadTail n i = some n') :
    SlotsLaw n' := by
  obtain ⟨t, ht, msg, -, rfl⟩ := threadTail_eq hs
  refine h.move (w := t.pSession)
    (s := { n.get t.pSession with respTimeLeft := 0, reqID := 0 })
    (Session.keeps_none rfl (hg t ht)) rfl rfl rfl rfl ?_ ?_ <;> simp

theorem slotsLaw_init {n : NiData} (h : SlotsLaw n) :
    SlotsLaw (niInit n) := by
  rw [niInit]
  split
  · exact h
  · refine ⟨?_, ?_, h.payloads, h.apart⟩
    · intro w p hp
      cases w <;> cases hp
    · intro w
      have hw := h.counter w
      cases w <;> exact hw

theorem slotsLaw_zero (resp respEs : GpsUserResponseType) :
    SlotsLaw (zeroNiData resp respEs) where
  active w p hp := by
    cases w <;> cases hp
  counter w := by
    cases w <;> exact ⟨Int.le_refl _, Int.le_refl _⟩
  payloads _ _ hp := by cases hp
  apart _ := rfl

theorem slotsLaw_step {n : NiData} {a : NiAction} {n' : NiData} (h : SlotsLaw n)
    (hg : TailOfFree n a) (hs : niStep n a = some n') : SlotsLaw n' := by
  cases a with
  | init =>
      injection hs with hs
      exact hs ▸ slotsLaw_init h
  | request r =>
      injection hs with hs
      exact hs ▸ slotsLaw_request h r
  | respond notif_id user_response =>
      injection hs with hs
      exact hs ▸ slotsLaw_respond h notif_id user_response
  | respondStep i => exact slotsLaw_respondStep h hs
  | reset =>
      injection hs with hs
      subst hs
      rw [niReset]
      split
      · exact h.congr rfl rfl rfl rfl rfl (Nat.le_refl _)
      · exact h
  | resetStep i => exact slotsLaw_resetStep h hs
  | threadStart i =>
      obtain ⟨t, -, timeout, rfl⟩ := threadStart_eq hs
      exact slotsLaw_loop h i t timeout
  | threadWake i =>
      obtain ⟨t, -, timeout, rfl⟩ := threadWake_eq hs
      exact slotsLaw_loop h i t timeout
  | threadTimeout i => exact slotsLaw_timeout h hs
  | threadTail i => exact slotsLaw_tail h hg hs

/-- A tail that finds a request in its session makes it unanswerable. -/
theorem not_answerable_tail {n : NiData} {a : NiAction} {n' : NiData}
    (h : SlotsLaw n)
    (hg : ¬ TailOfFree n a) (hs : niStep n a = some n') :
    ¬ Answerable n' := by
  cases a with
  | threadTail i =>
      obtain ⟨t, ht, msg, -, rfl⟩ := threadTail_eq hs
      intro hall
      apply hg
      intro t' ht'
      cases Option.mem_unique ht ht'
      cases hp : (n.get t.pSession).rawRequest with
      | none => rfl
      | some p =>
          have hactive := h.active _ p hp
          have hid := (hactive.notified _).mpr rfl
          have hnext : NiData.get { n.set t.pSession
                { n.get t.pSession with respTimeLeft := 0, reqID := 0 } with
              threads := n.threads.set i { t with pc := .exited }
              sent := n.sent ++ msg.toList } t.pSession =
              { n.get t.pSession with respTimeLeft := 0, reqID := 0 } := by
            cases t.pSession <;> rfl
          -- reqID is 0 now, and the id that was notified is positive
          have hzero := (hall t.pSession p (n.get t.pSession).owner
            (by rw [hnext]; exact hp) (by simpa using hid)).1
          rw [hnext] at hzero
          have hpos := hactive.owner_pos
          change 0 = (n.get t.pSession).owner at hzero
          omega
  | _ => exact absurd trivial hg

/-! ## Runs -/

/-- **RESPONSES ARE NOT DROPPED**, exactly: all outstanding requests are
    answerable in every state of a run if and only if each tail in it finds
    its session free. -/
theorem outstanding_answerable_iff (resp respEs : GpsUserResponseType)
    (l : List NiAction) :
    HoldsAlong niSys Answerable (zeroNiData resp respEs) l ↔
      StepsMeet niSys TailOfFree (zeroNiData resp respEs) l :=
  holdsAlong_iff_stepsMeet (I := SlotsLaw) (fun _ h => h.answerable)
    (fun _ _ _ => slotsLaw_step) (fun _ _ _ => not_answerable_tail) l
    (slotsLaw_zero resp respEs)

/-! ## A late tail -/

/-- The engine does not restart. -/
def NoRestart (_ : NiData) (a : NiAction) : Prop := a ≠ .reset

instance (n : NiData) (a : NiAction) : Decidable (NoRestart n a) :=
  inferInstanceAs (Decidable (a ≠ .reset))

/-- Thread 1 gives the session away, request 2 takes it, and only then the
    tail of thread 1 runs. -/
def lateTailRun : List NiAction :=
  [.init, .request voiceRequest, .threadStart 0,
   .respond 1 .GPS_NI_RESPONSE_ACCEPT, .respondStep 0, .threadWake 0,
   .request voiceRequest, .threadTail 0]

/-- Request 2 is outstanding, its user was notified, and its response finds
    no session. -/
theorem tail_drops_response :
    ¬ (∀ n, ReachUnder niSys NoRestart n → Answerable n) := by
  intro hall
  have hmeet : StepsMeet niSys NoRestart newNiData lateTailRun := by
    decide +kernel
  have hrun : (exec niSys newNiData lateTailRun).map
      (fun n => (n.session.rawRequest, n.log.notified, lookupSession n 2))
        = some (some 1, [(1, some 0), (2, some 1)], none) := by
    decide +kernel
  obtain ⟨n, hexec, hn⟩ := Option.map_eq_some_iff.mp hrun
  obtain ⟨hraw, hnotified, hlookup⟩ : n.session.rawRequest = some 1 ∧
      n.log.notified = [(1, some 0), (2, some 1)] ∧
      lookupSession n 2 = none := by simpa using hn
  have hanswer := hall n
    (reachUnder_exec _ (.init init_newNiData) hmeet hexec) .session 1 2 hraw
    (by rw [hnotified]; decide)
  rw [hlookup] at hanswer
  cases hanswer.2.2

end QcomNi
