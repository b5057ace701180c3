import QcomCommon.TransitionProofs

/-! # Network-initiated requests

    `loc_eng_ni.cpp`: two session slots, one for emergency SUPL, are reused by
    successive requests.  Each request gets a detached thread that waits for
    the user's response and sends it to the modem; `loc_eng_ni_respond` and
    the restart of the modem write the slots from other threads, in part
    outside the lock.

    The file is the code, cut into its atomic steps: the request handler, the
    lookup of a response and its locked writes, the two halves of the reset
    of a session, the locked sections of a request thread and its unlocked
    tail.  `owner`, `own` and the log are history variables: whose request a
    slot was last given to, whose thread a thread is, and what the user and
    the clock did. -/

namespace QcomNi

open QcomTransition

/-- The types of a request. -/
inductive GpsNiType where
  | GPS_NI_TYPE_VOICE
  | GPS_NI_TYPE_UMTS_SUPL
  | GPS_NI_TYPE_UMTS_CTRL_PLANE
  | GPS_NI_TYPE_EMERGENCY_SUPL
deriving DecidableEq, Repr

/-- `GpsUserResponseType`, with the value the file adds. -/
inductive GpsUserResponseType where
  | GPS_NI_RESPONSE_ACCEPT
  | GPS_NI_RESPONSE_DENY
  | GPS_NI_RESPONSE_NORESP
  | GPS_NI_RESPONSE_IGNORE
deriving DecidableEq, Repr

/-- The members of `GpsNiNotification` the handler reads. -/
structure GpsNiNotification where
  ni_type : GpsNiType
  notify_flags : UInt32
  timeout : Nat
deriving DecidableEq, Repr

/-- `LOC_NI_NO_RESPONSE_TIME`, in seconds. -/
def LOC_NI_NO_RESPONSE_TIME : Nat := 20

/-- A message to the modem: the response and the payload it is for. -/
abbrev NiResponse := GpsUserResponseType × Nat

/-- `loc_eng_ni_session_s_type`.  A payload is named by the order its request
    came in; `owner` is the notification id of the request last accepted. -/
structure Session where
  respTimeLeft : Nat
  respRecvd : Bool
  rawRequest : Option Nat
  reqID : Int
  resp : GpsUserResponseType
  owner : Int
deriving DecidableEq, Repr

/-- The two sessions. -/
inductive SessionName where
  | session
  | sessionEs
deriving DecidableEq, Repr

/-- Where a request thread is: about to run, waiting with the time-out it
    computed, past its unlock with the message it built, or gone. -/
inductive ThreadPc where
  | created
  | waiting (timeout : Nat)
  | tail (msg : Option NiResponse)
  | exited
deriving DecidableEq, Repr

/-- A thread of a request, with its session and the request that it was made
    for. -/
structure NiThread where
  pSession : SessionName
  own : Int
  pc : ThreadPc
deriving DecidableEq, Repr

/-- Where a call of `loc_eng_ni_respond` is once it found its session. -/
inductive RespondPc where
  | ignoreSession
  | write
  | done
deriving DecidableEq, Repr

/-- A call of `loc_eng_ni_respond` on its way. -/
structure RespondCall where
  notif_id : Int
  user_response : GpsUserResponseType
  pSession : SessionName
  pc : RespondPc
deriving DecidableEq, Repr

/-- Where a call of `loc_eng_ni_reset_on_engine_restart` is. -/
inductive ResetPc where
  | checkEs
  | signalEs
  | check
  | signal
  | done
deriving DecidableEq, Repr

/-- What happened: the requests received, the notifications given to the
    user with their payloads, the responses the user passed, and the requests
    whose thread timed out. -/
structure NiLog where
  payloads : Nat
  notified : List (Int × Option Nat)
  responses : List (Int × GpsUserResponseType)
  timeouts : List Int
deriving DecidableEq, Repr

/-- `loc_eng_ni_data_s_type` with everything that runs on it. -/
structure NiData where
  session : Session
  sessionEs : Session
  reqIDCounter : Int
  ni_notify_cb : Bool
  threads : List NiThread
  responds : List RespondCall
  resets : List ResetPc
  sent : List NiResponse
  log : NiLog
deriving DecidableEq, Repr

namespace NiData

/-- A session by its name. -/
def get (n : NiData) : SessionName → Session
  | .session => n.session
  | .sessionEs => n.sessionEs

/-- The session of a name has changed. -/
def set (n : NiData) (w : SessionName) (s : Session) : NiData :=
  match w with
  | .session => { n with session := s }
  | .sessionEs => { n with sessionEs := s }

end NiData

/-! ## The request handler -/

/-- A request: its notification, whether it comes with a payload and whether
    `pthread_create` succeeds. -/
structure NiRequest where
  notif : GpsNiNotification
  passThrough : Bool
  threadCreated : Bool
deriving DecidableEq, Repr

/-- The session a request gets, if its type's is free. -/
def selectSession (n : NiData) (ni_type : GpsNiType) : Option SessionName :=
  if ni_type = .GPS_NI_TYPE_EMERGENCY_SUPL then
    if n.sessionEs.rawRequest.isSome then none else some .sessionEs
  else if n.session.rawRequest.isSome || n.sessionEs.rawRequest.isSome then
    none
  else some .session

/-- The session as a request leaves it. -/
def saveRequest (n : NiData) (r : NiRequest) (s : Session) : Session :=
  { s with
    rawRequest := if r.passThrough then some n.log.payloads else none
    reqID := n.reqIDCounter + 1
    respTimeLeft := 5 + (if r.notif.timeout ≠ 0 then r.notif.timeout
      else LOC_NI_NO_RESPONSE_TIME)
    owner := n.reqIDCounter + 1 }

/-- The request is given to session `w`. -/
def acceptRequest (n : NiData) (w : SessionName) (r : NiRequest) : NiData :=
  { n.set w (saveRequest n r (n.get w)) with
    reqIDCounter := n.reqIDCounter + 1
    threads := if r.threadCreated then
        n.threads ++ [⟨w, n.reqIDCounter + 1, .created⟩]
      else n.threads
    log := { n.log with
      payloads := n.log.payloads + 1
      notified := n.log.notified ++ [(n.reqIDCounter + 1,
        if r.passThrough then some n.log.payloads else none)] } }

/-- `loc_eng_ni_request_handler`: a request whose session is taken is
    ignored. -/
def niRequestHandler (n : NiData) (r : NiRequest) : NiData :=
  if n.ni_notify_cb then
    match selectSession n r.notif.ni_type with
    | some w => acceptRequest n w r
    | none => { n with log := { n.log with payloads := n.log.payloads + 1 } }
  else n

/-! ## Responses and restarts -/

/-- The unlocked lookup of `loc_eng_ni_respond`. -/
def lookupSession (n : NiData) (notif_id : Int) : Option SessionName :=
  if notif_id = n.sessionEs.reqID && n.sessionEs.rawRequest.isSome then
    some .sessionEs
  else if notif_id = n.session.reqID && n.session.rawRequest.isSome then
    some .session
  else none

/-- `loc_eng_ni_respond` up to its first lock.  An accepted emergency request
    will first have the other session's ignored. -/
def niRespond (n : NiData) (notif_id : Int)
    (user_response : GpsUserResponseType) : NiData :=
  if n.ni_notify_cb then
    let calls := match lookupSession n notif_id with
      | some .sessionEs =>
          -- the other session is first told to ignore its request
          [⟨notif_id, user_response, .sessionEs,
            if user_response = .GPS_NI_RESPONSE_ACCEPT &&
                n.session.rawRequest.isSome then .ignoreSession
            else .write⟩]
      | some .session => [⟨notif_id, user_response, .session, .write⟩]
      | none => []
    { n with
      responds := n.responds ++ calls
      log := { n.log with
        responses := n.log.responses ++ [(notif_id, user_response)] } }
  else n

/-- A locked write of a response. -/
def writeResponse (s : Session) (resp : GpsUserResponseType) : Session :=
  { s with resp := resp, respRecvd := true }

/-- The next locked section of a response. -/
def respondStep (n : NiData) (i : Nat) : Option NiData :=
  match n.responds[i]? with
  | some c =>
      match c.pc with
      | .ignoreSession =>
          some { n.set .session
              (writeResponse n.session .GPS_NI_RESPONSE_IGNORE) with
            responds := n.responds.set i { c with pc := .write } }
      | .write =>
          some { n.set c.pSession
              (writeResponse (n.get c.pSession) c.user_response) with
            responds := n.responds.set i { c with pc := .done } }
      | .done => none
  | none => none

/-- The entry of `loc_eng_ni_reset_on_engine_restart`. -/
def niReset (n : NiData) : NiData :=
  if n.ni_notify_cb then { n with resets := n.resets ++ [.checkEs] } else n

/-- The check-and-free of session `w`; a session without request is left
    alone. -/
def resetCheck (n : NiData) (w : SessionName) (i : Nat)
    (found next : ResetPc) : NiData :=
  if (n.get w).rawRequest.isSome then
    { n.set w { n.get w with rawRequest := none } with
      resets := n.resets.set i found }
  else { n with resets := n.resets.set i next }

/-- The locked signal of session `w`. -/
def resetSignal (n : NiData) (w : SessionName) (i : Nat) (next : ResetPc) :
    NiData :=
  { n.set w { n.get w with respRecvd := true } with
    resets := n.resets.set i next }

/-- The next step of `loc_eng_ni_reset_on_engine_restart`. -/
def resetStep (n : NiData) (i : Nat) : Option NiData :=
  match n.resets[i]? with
  | some .checkEs => some (resetCheck n .sessionEs i .signalEs .check)
  | some .signalEs => some (resetSignal n .sessionEs i .check)
  | some .check => some (resetCheck n .session i .signal .done)
  | some .signal => some (resetSignal n .session i .done)
  | some .done => none
  | none => none

/-! ## The request thread -/

/-- From the end of the wait to the unlock: the session after it and the
    message built. -/
def finishWait (s : Session) : Session × Option NiResponse :=
  ({ s with respRecvd := false, rawRequest := none },
    -- no payload: the request had none, or the modem has restarted
    match s.rawRequest with
    | some p => if s.resp ≠ .GPS_NI_RESPONSE_IGNORE then some (s.resp, p)
        else none
    | none => none)

/-- Thread `i` leaves its locked section with session `s`. -/
def finishThread (n : NiData) (i : Nat) (t : NiThread) (s : Session) :
    NiData :=
  { n.set t.pSession (finishWait s).1 with
    threads := n.threads.set i { t with pc := .tail (finishWait s).2 } }

/-- The test of the wait loop, at the start and after each wake-up. -/
def threadLoop (n : NiData) (i : Nat) (t : NiThread) (timeout : Nat) :
    NiData :=
  -- a response may have come before the thread ran, or before this request
  if (n.get t.pSession).respRecvd then
    finishThread n i t (n.get t.pSession)
  else { n with threads := n.threads.set i { t with pc := .waiting timeout } }

/-- A thread takes the lock for the first time. -/
def threadStart (n : NiData) (i : Nat) : Option NiData :=
  match n.threads[i]? with
  | some t =>
      match t.pc with
      | .created => some (threadLoop n i t (n.get t.pSession).respTimeLeft)
      | _ => none
  | none => none

/-- `pthread_cond_timedwait` returns, signalled or not. -/
def threadWake (n : NiData) (i : Nat) : Option NiData :=
  match n.threads[i]? with
  | some t =>
      match t.pc with
      | .waiting timeout => some (threadLoop n i t timeout)
      | _ => none
  | none => none

/-- `pthread_cond_timedwait` returns `ETIMEDOUT`. -/
def threadTimeout (n : NiData) (i : Nat) : Option NiData :=
  match n.threads[i]? with
  | some t =>
      match t.pc with
      | .waiting _ =>
          some { finishThread n i t { n.get t.pSession with
              resp := .GPS_NI_RESPONSE_NORESP } with
            log := { n.log with timeouts := n.log.timeouts ++ [t.own] } }
      | _ => none
  | none => none

/-- What follows the unlock. -/
def threadTail (n : NiData) (i : Nat) : Option NiData :=
  match n.threads[i]? with
  | some t =>
      match t.pc with
      | .tail msg =>
          some { n.set t.pSession
              { n.get t.pSession with respTimeLeft := 0, reqID := 0 } with
            threads := n.threads.set i { t with pc := .exited }
            sent := n.sent ++ msg.toList }
      | _ => none
  | none => none

/-! ## Runs -/

/-- The members `loc_eng_ni_init` sets. -/
def initSession (s : Session) : Session :=
  { s with respTimeLeft := 0, respRecvd := false, rawRequest := none
           reqID := 0 }

/-- `loc_eng_ni_init`, with a callback. -/
def niInit (n : NiData) : NiData :=
  if n.ni_notify_cb then n
  else { n with
    session := initSession n.session
    sessionEs := initSession n.sessionEs
    ni_notify_cb := true }

/-- A step of the user, of the engine or of a thread. -/
inductive NiAction where
  | init
  | request (r : NiRequest)
  | respond (notif_id : Int) (user_response : GpsUserResponseType)
  | respondStep (i : Nat)
  | reset
  | resetStep (i : Nat)
  | threadStart (i : Nat)
  | threadWake (i : Nat)
  | threadTimeout (i : Nat)
  | threadTail (i : Nat)
deriving DecidableEq, Repr

/-- A step of one of them. -/
def niStep (n : NiData) : NiAction → Option NiData
  | .init => some (niInit n)
  | .request r => some (niRequestHandler n r)
  | .respond notif_id user_response => some (niRespond n notif_id user_response)
  | .respondStep i => respondStep n i
  | .reset => some (niReset n)
  | .resetStep i => resetStep n i
  | .threadStart i => threadStart n i
  | .threadWake i => threadWake n i
  | .threadTimeout i => threadTimeout n i
  | .threadTail i => threadTail n i

/-- A session before `loc_eng_ni_init`; `resp` is never initialised. -/
def zeroSession (resp : GpsUserResponseType) : Session where
  respTimeLeft := 0
  respRecvd := false
  rawRequest := none
  reqID := 0
  resp := resp
  owner := 0

/-- The requests before the first one; a response of a session is what is in
    memory. -/
def zeroNiData (resp respEs : GpsUserResponseType) : NiData where
  session := zeroSession resp
  sessionEs := zeroSession respEs
  reqIDCounter := 0
  ni_notify_cb := false
  threads := []
  responds := []
  resets := []
  sent := []
  log := ⟨0, [], [], []⟩

/-- The requests from their start on. -/
def niSys : TransSys NiData NiAction where
  init n := ∃ resp respEs, n = zeroNiData resp respEs
  step := niStep

/-- A request of an ordinary session, with a payload. -/
def voiceRequest : NiRequest := ⟨⟨.GPS_NI_TYPE_VOICE, 0, 0⟩, true, true⟩

/-- Requests that start with accepted responses in memory. -/
def newNiData : NiData :=
  zeroNiData .GPS_NI_RESPONSE_ACCEPT .GPS_NI_RESPONSE_ACCEPT

theorem init_newNiData : niSys.init newNiData := ⟨_, _, rfl⟩

/-! ## Sessions and lists -/

namespace NiData

@[simp] theorem get_set_self (n : NiData) (w : SessionName) (s : Session) :
    (n.set w s).get w = s := by
  cases w <;> rfl

/-- The other session stays as it is. -/
theorem get_set_of_ne (n : NiData) {w v : SessionName} (s : Session)
    (h : v ≠ w) : (n.set w s).get v = n.get v := by
  cases w <;> cases v <;> first | rfl | exact absurd rfl h

@[simp] theorem set_log (n : NiData) (w : SessionName) (s : Session) :
    (n.set w s).log = n.log := by
  cases w <;> rfl

@[simp] theorem set_threads (n : NiData) (w : SessionName) (s : Session) :
    (n.set w s).threads = n.threads := by
  cases w <;> rfl

@[simp] theorem set_responds (n : NiData) (w : SessionName) (s : Session) :
    (n.set w s).responds = n.responds := by
  cases w <;> rfl

@[simp] theorem set_sent (n : NiData) (w : SessionName) (s : Session) :
    (n.set w s).sent = n.sent := by
  cases w <;> rfl

@[simp] theorem set_reqIDCounter (n : NiData) (w : SessionName)
    (s : Session) : (n.set w s).reqIDCounter = n.reqIDCounter := by
  cases w <;> rfl

end NiData

/-- What every session has after one of them changed. -/
theorem forall_get_set {Q : Session → Prop} {n : NiData} (w : SessionName)
    {s : Session} (h : ∀ v, Q (n.get v)) (hs : Q s) :
    ∀ v, Q ((n.set w s).get v) := by
  intro v
  by_cases hvw : v = w
  · subst hvw
    rw [NiData.get_set_self]
    exact hs
  · rw [NiData.get_set_of_ne n s hvw]
    exact h v

/-! ## Accepted requests -/

/-- A request that is accepted is saved in its session. -/
theorem acceptRequest_get_self (n : NiData) (w : SessionName)
    (r : NiRequest) :
    (acceptRequest n w r).get w = saveRequest n r (n.get w) := by
  cases w <;> rfl

/-- The other session has nothing to do with it. -/
theorem acceptRequest_get_of_ne (n : NiData) {w v : SessionName}
    (r : NiRequest) (h : v ≠ w) : (acceptRequest n w r).get v = n.get v := by
  rw [← NiData.get_set_of_ne n (saveRequest n r (n.get w)) h]
  cases w <;> cases v <;> rfl

/-- The payload a session takes is the newest. -/
theorem saveRequest_rawRequest {n : NiData} {r : NiRequest} {s : Session}
    {p : Nat} : (saveRequest n r s).rawRequest = some p ↔
      r.passThrough = true ∧ p = n.log.payloads := by
  unfold saveRequest
  cases r.passThrough with
  | false => simp
  | true => simp [eq_comm]

/-- And only the notification of its request names it. -/
theorem mem_notified_accept {n : NiData} {w : SessionName} {r : NiRequest}
    {id : Int} {p : Nat} :
    (id, some p) ∈ (acceptRequest n w r).log.notified ↔
      (id, some p) ∈ n.log.notified ∨ id = n.reqIDCounter + 1 ∧
        r.passThrough = true ∧ p = n.log.payloads := by
  show (id, some p) ∈ n.log.notified ++ _ ↔ _
  rw [List.mem_append, List.mem_singleton, Prod.mk.injEq]
  cases r.passThrough with
  | false => simp
  | true => simp

/-- What holds of all elements holds behind an update. -/
theorem forall_mem_set {α : Type} {Q : α → Prop} {l : List α} {i : Nat}
    {x : α} (h : ∀ a ∈ l, Q a) (hx : Q x) : ∀ a ∈ l.set i x, Q a := by
  intro a ha
  rcases List.mem_or_eq_of_mem_set ha with hl | hax
  · exact h a hl
  · exact hax ▸ hx

/-! ## What a step does -/

/-- The locked sections of a response. -/
theorem respondStep_eq {n n' : NiData} {i : Nat}
    (hs : respondStep n i = some n') :
    ∃ c ∈ n.responds[i]?,
      c.pc = .ignoreSession ∧
        n' = { n.set .session
            (writeResponse n.session .GPS_NI_RESPONSE_IGNORE) with
          responds := n.responds.set i { c with pc := .write } } ∨
      c.pc = .write ∧
        n' = { n.set c.pSession
            (writeResponse (n.get c.pSession) c.user_response) with
          responds := n.responds.set i { c with pc := .done } } := by
  rw [respondStep] at hs
  split at hs
  · rename_i c hc
    refine ⟨c, hc, ?_⟩
    split at hs
    · rename_i hpc
      exact Or.inl ⟨hpc, (Option.some.inj hs).symm⟩
    · rename_i hpc
      exact Or.inr ⟨hpc, (Option.some.inj hs).symm⟩
    · cases hs
  · cases hs

/-- The session a reset is about to signal. -/
def signalled : ResetPc → Option SessionName
  | .signal => some .session
  | .signalEs => some .sessionEs
  | _ => none

/-- A reset checks a session or signals it. -/
theorem resetStep_eq {n n' : NiData} {i : Nat}
    (hs : resetStep n i = some n') :
    (∃ w found next, n' = resetCheck n w i found next) ∨
      ∃ pc ∈ n.resets[i]?, ∃ w ∈ signalled pc, ∃ next,
        n' = resetSignal n w i next := by
  rw [resetStep] at hs
  split at hs
  · exact Or.inl ⟨_, _, _, (Option.some.inj hs).symm⟩
  · rename_i hpc
    exact Or.inr ⟨_, hpc, _, rfl, _, (Option.some.inj hs).symm⟩
  · exact Or.inl ⟨_, _, _, (Option.some.inj hs).symm⟩
  · rename_i hpc
    exact Or.inr ⟨_, hpc, _, rfl, _, (Option.some.inj hs).symm⟩
  · cases hs
  · cases hs

/-- A request thread starts by testing its wait loop. -/
theorem threadStart_eq {n n' : NiData} {i : Nat}
    (hs : threadStart n i = some n') :
    ∃ t ∈ n.threads[i]?, ∃ timeout, n' = threadLoop n i t timeout := by
  rw [threadStart] at hs
  split at hs
  · rename_i t ht
    split at hs
    · exact ⟨t, ht, _, (Option.some.inj hs).symm⟩
    · cases hs
  · cases hs

/-- A thread that wakes goes on with its loop. -/
theorem threadWake_eq {n n' : NiData} {i : Nat}
    (hs : threadWake n i = some n') :
    ∃ t ∈ n.threads[i]?, ∃ timeout, n' = threadLoop n i t timeout := by
  rw [threadWake] at hs
  split at hs
  · rename_i t ht
    split at hs
    · exact ⟨t, ht, _, (Option.some.inj hs).symm⟩
    · cases hs
  · cases hs

/-- A thread that times out takes `NORESP`. -/
theorem threadTimeout_eq {n n' : NiData} {i : Nat}
    (hs : threadTimeout n i = some n') :
    ∃ t ∈ n.threads[i]?,
      n' = { finishThread n i t { n.get t.pSession with
          resp := .GPS_NI_RESPONSE_NORESP } with
        log := { n.log with timeouts := n.log.timeouts ++ [t.own] } } := by
  rw [threadTimeout] at hs
  split at hs
  · rename_i t ht
    split at hs
    · exact ⟨t, ht, (Option.some.inj hs).symm⟩
    · cases hs
  · cases hs

/-- The tail of a thread clears its session's id and sends its message. -/
theorem threadTail_eq {n n' : NiData} {i : Nat}
    (hs : threadTail n i = some n') :
    ∃ t ∈ n.threads[i]?, ∃ msg, t.pc = .tail msg ∧
      n' = { n.set t.pSession
          { n.get t.pSession with respTimeLeft := 0, reqID := 0 } with
        threads := n.threads.set i { t with pc := .exited }
        sent := n.sent ++ msg.toList } := by
  rw [threadTail] at hs
  split at hs
  · rename_i t ht
    split at hs
    · rename_i msg hpc
      exact ⟨t, ht, msg, hpc, (Option.some.inj hs).symm⟩
    · cases hs
  · cases hs

end QcomNi
