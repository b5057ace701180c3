import QcomCommon.NiSessionProofs

/-! # Consent to network-initiated requests

    A response is sent for a request with the value the user gave for that
    request's notification, or `NORESP` after its own time-out.  The slots
    do not know whose response they hold, so four races break this: a request
    accepted while a response is still recorded, a response written for a
    request that is gone, a restart's signal that reaches the next request,
    and a thread that times out on another's request.  `late_accept` is the
    second.

    In every run without the four (`NoStaleResponse`) every message sent is
    consented to (`ni_consent`). -/

namespace QcomNi

open QcomTransition NiData

/-! ## Consent -/

/-- The message `m` is for a request the user was notified of, and carries
    the user's response to it or `NORESP` after its time-out. -/
def Consented (log : NiLog) (m : NiResponse) : Prop :=
  ∃ id, (id, some m.2) ∈ log.notified ∧
    ((id, m.1) ∈ log.responses ∨
      m.1 = .GPS_NI_RESPONSE_NORESP ∧ id ∈ log.timeouts)

/-- The log grows. -/
structure NiLog.Le (log log' : NiLog) : Prop where
  notified : ∀ e ∈ log.notified, e ∈ log'.notified
  responses : ∀ e ∈ log.responses, e ∈ log'.responses
  timeouts : ∀ e ∈ log.timeouts, e ∈ log'.timeouts

/-- A consent stays in a longer log. -/
theorem Consented.mono {log log' : NiLog} (h : log.Le log')
    {m : NiResponse} (hm : Consented log m) : Consented log' m := by
  obtain ⟨id, hn, hr | ⟨hr, ht⟩⟩ := hm
  · exact ⟨id, h.notified _ hn, Or.inl (h.responses _ hr)⟩
  · exact ⟨id, h.notified _ hn, Or.inr ⟨hr, h.timeouts _ ht⟩⟩

/-- No step records or takes a response, `IGNORE` apart, for another request
    than its own: a request is not accepted into a session that still holds a
    response, a response is not written over another's request, a restart
    does not signal a session with a request that has no response yet, and a
    thread times out on its own request only. -/
def NoStaleResponse (n : NiData) : NiAction → Prop
  | .request r => r.passThrough = true →
      ∀ w ∈ selectSession n r.notif.ni_type,
        (n.get w).respRecvd = true →
        (n.get w).resp = .GPS_NI_RESPONSE_IGNORE
  | .respondStep i => ∀ c ∈ n.responds[i]?, c.pc = .write →
      (n.get c.pSession).rawRequest.isSome = true →
      (n.get c.pSession).owner = c.notif_id ∨
      c.user_response = .GPS_NI_RESPONSE_IGNORE
  | .resetStep i => ∀ pc ∈ n.resets[i]?, ∀ w ∈ signalled pc,
      (n.get w).rawRequest.isSome = true →
      (n.get w).respRecvd = true ∨
      (n.get w).resp = .GPS_NI_RESPONSE_IGNORE
  | .threadTimeout i => ∀ t ∈ n.threads[i]?,
      (n.get t.pSession).rawRequest.isSome = true →
      (n.get t.pSession).owner = t.own
  | _ => True

instance (n : NiData) (a : NiAction) : Decidable (NoStaleResponse n a) := by
  cases a <;> unfold NoStaleResponse <;> infer_instance

/-! ## The invariant -/

/-- A session's request is known to its owner, and so is a response that is
    recorded for it. -/
structure SessionLaw (log : NiLog) (s : Session) : Prop where
  held : ∀ p, s.rawRequest = some p → (s.owner, some p) ∈ log.notified
  answered : s.respRecvd = true → s.rawRequest.isSome = true →
    s.resp = .GPS_NI_RESPONSE_IGNORE ∨ (s.owner, s.resp) ∈ log.responses

/-- A call of `loc_eng_ni_respond` passes on what was answered. -/
def RespondLaw (log : NiLog) (c : RespondCall) : Prop :=
  (c.notif_id, c.user_response) ∈ log.responses

/-- What a thread sends has the consent for it. -/
def ThreadLaw (log : NiLog) (t : NiThread) : Prop :=
  ∀ m, t.pc = .tail (some m) → Consented log m

/-- The invariant of the requests. -/
structure ConsentLaw (n : NiData) : Prop where
  sessions : ∀ w, SessionLaw n.log (n.get w)
  responds : ∀ c ∈ n.responds, RespondLaw n.log c
  threads : ∀ t ∈ n.threads, ThreadLaw n.log t
  sent : ∀ m ∈ n.sent, Consented n.log m

/-- A longer log keeps the law of a session. -/
theorem SessionLaw.mono {log log' : NiLog} (h : log.Le log') {s : Session}
    (hs : SessionLaw log s) : SessionLaw log' s := by
  refine ⟨fun p hp => h.notified _ (hs.held p hp), fun hr hp => ?_⟩
  rcases hs.answered hr hp with hi | hm
  · exact Or.inl hi
  · exact Or.inr (h.responses _ hm)

/-- The law under a grown log, sessions apart. -/
theorem ConsentLaw.grow {n : NiData} (h : ConsentLaw n) {log : NiLog}
    (hle : n.log.Le log) : ConsentLaw { n with log := log } where
  sessions w := by
    have hw := (h.sessions w).mono hle
    cases w <;> exact hw
  responds c hc := hle.responses _ (h.responds c hc)
  threads t ht m hm := (h.threads t ht m hm).mono hle
  sent m hm := (h.sent m hm).mono hle

/-- A session without request has nothing to answer for. -/
theorem sessionLaw_none {log : NiLog} {s : Session}
    (h : s.rawRequest = none) : SessionLaw log s := by
  refine ⟨?_, ?_⟩
  · intro p hp
    rw [h] at hp
    cases hp
  · intro _ hp
    rw [h] at hp
    cases hp

/-- Changing one session. -/
theorem ConsentLaw.set {n : NiData} (h : ConsentLaw n) (w : SessionName)
    {s : Session} (hs : SessionLaw n.log s) : ConsentLaw (n.set w s) where
  sessions := by
    rw [set_log]
    exact forall_get_set w h.sessions hs
  responds := by
    rw [set_log, set_responds]
    exact h.responds
  threads := by
    rw [set_log, set_threads]
    exact h.threads
  sent := by
    rw [set_log, set_sent]
    exact h.sent

/-- Moving one thread. -/
theorem ConsentLaw.setThread {n : NiData} (h : ConsentLaw n) (i : Nat)
    {t : NiThread} (ht : ThreadLaw n.log t) :
    ConsentLaw { n with threads := n.threads.set i t } where
  sessions w := by
    have hw := h.sessions w
    cases w <;> exact hw
  responds := h.responds
  threads := forall_mem_set h.threads ht
  sent := h.sent

/-- Moving one response. -/
theorem ConsentLaw.setRespond {n : NiData} (h : ConsentLaw n) (i : Nat)
    {c : RespondCall} (hc : RespondLaw n.log c) :
    ConsentLaw { n with responds := n.responds.set i c } where
  sessions w := by
    have hw := h.sessions w
    cases w <;> exact hw
  responds := forall_mem_set h.responds hc
  threads := h.threads
  sent := h.sent

theorem ConsentLaw.setResets {n : NiData} (h : ConsentLaw n)
    (l : List ResetPc) : ConsentLaw { n with resets := l } where
  sessions w := by
    have hw := h.sessions w
    cases w <;> exact hw
  responds := h.responds
  threads := h.threads
  sent := h.sent

/-! ## The steps -/

/-- A request is accepted, without an answer that is left over. -/
theorem consentLaw_accept {n : NiData} (h : ConsentLaw n) {r : NiRequest}
    {w : SessionName} (hg : r.passThrough = true →
      (n.get w).respRecvd = true →
      (n.get w).resp = .GPS_NI_RESPONSE_IGNORE) :
    ConsentLaw (acceptRequest n w r) := by
  have hle : n.log.Le { n.log with
      payloads := n.log.payloads + 1
      notified := n.log.notified ++ [(n.reqIDCounter + 1,
        if r.passThrough then some n.log.payloads else none)] } :=
    ⟨fun e he => List.mem_append_left _ he, fun e he => he, fun e he => he⟩
  have hnew : SessionLaw { n.log with
      payloads := n.log.payloads + 1
      notified := n.log.notified ++ [(n.reqIDCounter + 1,
        if r.passThrough then some n.log.payloads else none)] }
      (saveRequest n r (n.get w)) := by
    cases hp : r.passThrough with
    | false => exact sessionLaw_none (by simp [saveRequest, hp])
    | true =>
        refine ⟨?_, ?_⟩
        · intro p hraw
          have hpp : some n.log.payloads = some p := by
            simpa [saveRequest, hp] using hraw
          rw [← hpp]
          exact List.mem_append_right _ List.mem_cons_self
        · intro hr _
          exact Or.inl (hg hp hr)
  have hset := (h.grow hle).set w hnew
  refine ⟨?_, ?_, ?_, ?_⟩
  · intro v
    have hv := hset.sessions v
    cases w <;> cases v <;> exact hv
  · intro c hc
    have hc' : c ∈ n.responds := by
      cases w <;> exact hc
    exact hle.responses _ (h.responds c hc')
  · intro t ht
    have hold : ∀ t ∈ n.threads, ThreadLaw _ t :=
      fun t ht m hm => (h.threads t ht m hm).mono hle
    have ht' : t ∈ if r.threadCreated then
        n.threads ++ [⟨w, n.reqIDCounter + 1, .created⟩] else n.threads := ht
    split at ht'
    · rcases List.mem_append.mp ht' with hm | hm
      · exact hold t hm
      · rw [List.mem_singleton.mp hm]
        exact fun m hm => by cases hm
    · exact hold t ht'
  · intro m hm
    have hm' : m ∈ n.sent := by
      cases w <;> exact hm
    exact (h.sent m hm').mono hle

/-- A request comes. -/
theorem consentLaw_request {n : NiData} (h : ConsentLaw n) {r : NiRequest}
    (hg : NoStaleResponse n (.request r)) :
    ConsentLaw (niRequestHandler n r) := by
  rw [niRequestHandler]
  split
  · split
    · rename_i w hw
      exact consentLaw_accept h (fun hp hr => hg hp w hw hr)
    · exact h.grow ⟨fun _ he => he, fun _ he => he, fun _ he => he⟩
  · exact h

/-- The user answers. -/
theorem consentLaw_respond {n : NiData} (h : ConsentLaw n) (notif_id : Int)
    (user_response : GpsUserResponseType) :
    ConsentLaw (niRespond n notif_id user_response) := by
  rw [niRespond]
  split
  · have hle : n.log.Le { n.log with
        responses := n.log.responses ++ [(notif_id, user_response)] } :=
      ⟨fun e he => he, fun e he => List.mem_append_left _ he, fun e he => he⟩
    have hgrow := h.grow hle
    refine ⟨?_, ?_, hgrow.threads, hgrow.sent⟩
    · intro w
      have hw := hgrow.sessions w
      cases w <;> exact hw
    · intro c hc
      rcases List.mem_append.mp hc with hc | hc
      · exact hgrow.responds c hc
      · have hcall : c.notif_id = notif_id ∧
            c.user_response = user_response := by
          split at hc
          · rw [List.mem_singleton.mp hc]
            exact ⟨rfl, rfl⟩
          · rw [List.mem_singleton.mp hc]
            exact ⟨rfl, rfl⟩
          · cases hc
        rw [RespondLaw, hcall.1, hcall.2]
        exact List.mem_append_right _ List.mem_cons_self
  · exact h

/-- Recording a response for the session's own request. -/
theorem sessionLaw_write {log : NiLog} {s : Session}
    (hs : SessionLaw log s) {resp : GpsUserResponseType}
    (hr : s.rawRequest.isSome = true → resp = .GPS_NI_RESPONSE_IGNORE ∨
      (s.owner, resp) ∈ log.responses) :
    SessionLaw log (writeResponse s resp) :=
  ⟨hs.held, fun _ hp => hr hp⟩

/-- The answer is passed on. -/
theorem consentLaw_respondStep {n n' : NiData} (h : ConsentLaw n) {i : Nat}
    (hg : NoStaleResponse n (.respondStep i))
    (hs : respondStep n i = some n') : ConsentLaw n' := by
  obtain ⟨c, hc, ⟨-, rfl⟩ | ⟨hpc, rfl⟩⟩ := respondStep_eq hs
  -- IGNORE is never sent
  · have hset := h.set .session (sessionLaw_write (h.sessions .session)
      (fun _ => Or.inl rfl))
    exact hset.setRespond i (h.responds c (List.mem_of_getElem? hc))
  · have hlaw := h.responds c (List.mem_of_getElem? hc)
    have hwrite : SessionLaw n.log
        (writeResponse (n.get c.pSession) c.user_response) := by
      -- the condition: the session still holds the request responded to
      refine sessionLaw_write (h.sessions c.pSession) (fun hp => ?_)
      rcases hg c hc hpc hp with ho | hi
      · rw [ho]
        exact Or.inr hlaw
      · exact Or.inl hi
    have hmove := (h.set c.pSession hwrite).setRespond
      (c := { c with pc := .done }) i (by rw [set_log]; exact hlaw)
    rw [set_responds] at hmove
    exact hmove

/-- A restart looks at a session. -/
theorem consentLaw_resetCheck {n : NiData} (h : ConsentLaw n)
    (w : SessionName) (i : Nat) (found next : ResetPc) :
    ConsentLaw (resetCheck n w i found next) := by
  rw [resetCheck]
  split
  · have hnone : SessionLaw n.log { n.get w with rawRequest := none } :=
      sessionLaw_none rfl
    exact (h.set w hnone).setResets _
  · exact h.setResets _

/-- It signals the thread of a session. -/
theorem consentLaw_resetSignal {n : NiData} (h : ConsentLaw n)
    {w : SessionName} (i : Nat) (next : ResetPc)
    (hg : (n.get w).rawRequest.isSome = true →
      (n.get w).respRecvd = true ∨
      (n.get w).resp = .GPS_NI_RESPONSE_IGNORE) :
    ConsentLaw (resetSignal n w i next) := by
  have hsig : SessionLaw n.log { n.get w with respRecvd := true } := by
    refine ⟨(h.sessions w).held, ?_⟩
    intro _ hp
    rcases hg hp with hr | hi
    · exact (h.sessions w).answered hr hp
    · exact Or.inl hi
  exact (h.set w hsig).setResets _

/-- A step of a restart. -/
theorem consentLaw_resetStep {n n' : NiData} (h : ConsentLaw n) {i : Nat}
    (hg : NoStaleResponse n (.resetStep i))
    (hs : resetStep n i = some n') : ConsentLaw n' := by
  rcases resetStep_eq hs with ⟨w, found, next, rfl⟩ | ⟨pc, hpc, w, hw, next, rfl⟩
  · exact consentLaw_resetCheck h w i found next
  · exact consentLaw_resetSignal h i next (hg pc hpc w hw)

/-- A thread that leaves its locked section with a request answered for takes
    a consented message. -/
theorem consentLaw_finish {n : NiData} (h : ConsentLaw n) (i : Nat)
    (t : NiThread) {s : Session}
    (hm : ∀ p, s.rawRequest = some p →
      s.resp ≠ .GPS_NI_RESPONSE_IGNORE → Consented n.log (s.resp, p)) :
    ConsentLaw (finishThread n i t s) := by
  have hnone : SessionLaw n.log (finishWait s).1 := sessionLaw_none rfl
  have htail : ThreadLaw n.log { t with pc := .tail (finishWait s).2 } := by
    intro m heq
    cases hp : s.rawRequest with
    | none => simp [finishWait, hp] at heq
    | some p =>
        by_cases hi : s.resp = .GPS_NI_RESPONSE_IGNORE
        · simp [finishWait, hp, hi] at heq
        · have hmsg : (s.resp, p) = m := by
            simpa [finishWait, hp, hi] using heq
          rw [← hmsg]
          exact hm p hp hi
  have hmove := (h.set t.pSession hnone).setThread i
    (t := { t with pc := .tail (finishWait s).2 })
    (by rw [set_log]; exact htail)
  rw [set_threads] at hmove
  exact hmove

/-- The test of the wait loop takes the recorded response of the session's
    own request. -/
theorem consentLaw_loop {n : NiData} (h : ConsentLaw n) (i : Nat)
    (t : NiThread) (timeout : Nat) :
    ConsentLaw (threadLoop n i t timeout) := by
  rw [threadLoop]
  split
  · rename_i hr
    refine consentLaw_finish h i t ?_
    intro p hp hne
    have hlaw := h.sessions t.pSession
    -- a recorded response is the owner's, or IGNORE
    rcases hlaw.answered hr (by rw [hp]; rfl) with hi | hm
    · exact absurd hi hne
    · exact ⟨_, hlaw.held p hp, Or.inl hm⟩
  · exact h.setThread i (fun m hm => by cases hm)

/-- The end of a thread has nothing to do with the log. -/
theorem finishThread_log (n : NiData) (log : NiLog) (i : Nat)
    (t : NiThread) (s : Session) :
    finishThread { n with log := log } i t s =
      { finishThread n i t s with log := log } := by
  obtain ⟨w, own, pc⟩ := t
  cases w <;> rfl

/-- A thread that times out on its own request takes `NORESP` for it. -/
theorem consentLaw_timeout {n n' : NiData} (h : ConsentLaw n) {i : Nat}
    (hg : NoStaleResponse n (.threadTimeout i))
    (hs : threadTimeout n i = some n') : ConsentLaw n' := by
  obtain ⟨t, ht, rfl⟩ := threadTimeout_eq hs
  have hle : n.log.Le { n.log with
      timeouts := n.log.timeouts ++ [t.own] } :=
    ⟨fun e he => he, fun e he => he, fun e he => List.mem_append_left _ he⟩
  have hfin := consentLaw_finish (h.grow hle) i t
    (s := { n.get t.pSession with resp := .GPS_NI_RESPONSE_NORESP })
    (by
      intro p hp _
      -- the condition: the payload is of the thread's own request
      have hown := hg t ht (by rw [hp]; rfl)
      refine ⟨t.own, ?_, Or.inr ⟨rfl, ?_⟩⟩
      · rw [← hown]
        exact (h.sessions t.pSession).held p hp
      · exact List.mem_append_right _ List.mem_cons_self)
  rw [finishThread_log] at hfin
  exact hfin

/-- A thread sends what it has the consent for. -/
theorem consentLaw_tail {n n' : NiData} (h : ConsentLaw n) {i : Nat}
    (hs : threadTail n i = some n') : ConsentLaw n' := by
  obtain ⟨t, ht, msg, hpc, rfl⟩ := threadTail_eq hs
  have hclear : SessionLaw n.log
      { n.get t.pSession with respTimeLeft := 0, reqID := 0 } :=
    ⟨(h.sessions t.pSession).held, (h.sessions t.pSession).answered⟩
  have hmove := (h.set t.pSession hclear).setThread i
    (t := { t with pc := .exited }) (fun m hm => by cases hm)
  rw [set_threads] at hmove
  refine ⟨hmove.sessions, hmove.responds, hmove.threads, ?_⟩
  intro m hm
  rcases List.mem_append.mp hm with hm | hm
  · exact hmove.sent m (by rw [set_sent]; exact hm)
  · have htail := h.threads t (List.mem_of_getElem? ht) m (by
      rw [hpc, Option.mem_toList.mp hm])
    change Consented (n.set _ _).log m
    rw [set_log]
    exact htail

/-- The requests are set up again. -/
theorem consentLaw_init {n : NiData} (h : ConsentLaw n) :
    ConsentLaw (niInit n) := by
  rw [niInit]
  split
  · exact h
  · refine ⟨?_, h.responds, h.threads, h.sent⟩
    intro w
    cases w <;> exact sessionLaw_none rfl

theorem consentLaw_zero (resp respEs : GpsUserResponseType) :
    ConsentLaw (zeroNiData resp respEs) where
  sessions w := by
    cases w <;> exact sessionLaw_none rfl
  responds _ hc := by cases hc
  threads _ ht := by cases ht
  sent _ hm := by cases hm

/-- Every step that meets the condition keeps the law. -/
theorem consentLaw_step {n n' : NiData} {a : NiAction} (h : ConsentLaw n)
    (hg : NoStaleResponse n a) (hs : niStep n a = some n') :
    ConsentLaw n' := by
  cases a with
  | init =>
      injection hs with hs
      exact hs ▸ consentLaw_init h
  | request r =>
      injection hs with hs
      exact hs ▸ consentLaw_request h hg
  | respond notif_id user_response =>
      injection hs with hs
      exact hs ▸ consentLaw_respond h notif_id user_response
  | respondStep i => exact consentLaw_respondStep h hg hs
  | reset =>
      injection hs with hs
      subst hs
      rw [niReset]
      split
      · exact h.setResets _
      · exact h
  | resetStep i => exact consentLaw_resetStep h hg hs
  | threadStart i =>
      obtain ⟨t, -, timeout, rfl⟩ := threadStart_eq hs
      exact consentLaw_loop h i t timeout
  | threadWake i =>
      obtain ⟨t, -, timeout, rfl⟩ := threadWake_eq hs
      exact consentLaw_loop h i t timeout
  | threadTimeout i => exact consentLaw_timeout h hg hs
  | threadTail i => exact consentLaw_tail h hs

/-! ## Consent over runs -/

/-- In a run that records and takes no response for another request, every
    message to the modem carries its own request's response. -/
theorem ni_consent {n : NiData} (h : ReachUnder niSys NoStaleResponse n) :
    ∀ m ∈ n.sent, Consented n.log m := by
  have hlaw : ConsentLaw n := by
    refine reachUnder_inv (I := ConsentLaw) ?_ ?_ h
    · rintro n ⟨resp, respEs, rfl⟩
      exact consentLaw_zero resp respEs
    · intro n a n' hI hg hs
      exact consentLaw_step hI hg hs
  exact hlaw.sent

/-! ## A late response -/

/-- A request, denied by the user. -/
def deniedRun : List NiAction :=
  [.init, .request voiceRequest, .threadStart 0,
   .respond 1 .GPS_NI_RESPONSE_DENY, .respondStep 0, .threadWake 0,
   .threadTail 0]

theorem ni_consent_denied :
    ∃ n, exec niSys newNiData deniedRun = some n ∧
      n.sent = [(.GPS_NI_RESPONSE_DENY, 0)] ∧
      ∀ m ∈ n.sent, Consented n.log m := by
  have hmeet : StepsMeet niSys NoStaleResponse newNiData deniedRun := by
    decide +kernel
  have hrun : (exec niSys newNiData deniedRun).map NiData.sent
      = some [(.GPS_NI_RESPONSE_DENY, 0)] := by decide +kernel
  obtain ⟨n, hexec, hsent⟩ := Option.map_eq_some_iff.mp hrun
  exact ⟨n, hexec, hsent,
    ni_consent (reachUnder_exec _ (.init init_newNiData) hmeet hexec)⟩

/-- The user accepts request 1, whose thread times out before the response
    is written; it is written over request 2. -/
def lateRun : List NiAction :=
  [.init, .request voiceRequest, .threadStart 0,
   .respond 1 .GPS_NI_RESPONSE_ACCEPT, .threadTimeout 0, .threadTail 0,
   .request voiceRequest, .respondStep 0, .threadStart 1, .threadTail 1]

/-- The modem is told that the user accepts request 2. -/
theorem late_accept :
    ¬ (∀ n, Reach niSys n → ∀ m ∈ n.sent, Consented n.log m) := by
  intro hall
  have hrun : (exec niSys newNiData lateRun).map (fun n => (n.sent, n.log)) =
      some ([(.GPS_NI_RESPONSE_NORESP, 0), (.GPS_NI_RESPONSE_ACCEPT, 1)],
        ⟨2, [(1, some 0), (2, some 1)], [(1, .GPS_NI_RESPONSE_ACCEPT)],
          [1]⟩) := by decide +kernel
  obtain ⟨n, hexec, hn⟩ := Option.map_eq_some_iff.mp hrun
  obtain ⟨hsent, hlog⟩ := Prod.mk.inj hn
  have hreach : Reach niSys n := reach_exec _ (.init init_newNiData) hexec
  have hm : (.GPS_NI_RESPONSE_ACCEPT, 1) ∈ n.sent := by
    rw [hsent]
    decide
  obtain ⟨id, hnotified, hresp | ⟨hresp, _⟩⟩ := hall n hreach _ hm
  · rw [hlog] at hnotified hresp
    have hid : id = 2 := by simpa using hnotified
    subst hid
    simp at hresp
  · cases hresp

end QcomNi
