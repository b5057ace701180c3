import QcomCommon.AgpsOriginProofs

/-! # The engine's data connections

    `loc_eng.cpp` with the daemons' handlers of
    `loc_eng_dmn_conn_handler.cpp`: the three network interface machines, the
    queue of the engine's message task and what each message does to them.
    The modem passes its handles through the adapter, which posts a message
    for each; the daemons and the framework post theirs.  A DS machine posts
    through the adapter too.

    Every status to the modem carries a handle that the modem passed before,
    and so does everything that is posted for one (`Within`, `vouched_step`).
    The exception is `LocEngReqRelWifi`: the run keeps to the modem's handles
    exactly when each sender id it is handled with happens to be one of them
    (`modem_handles_iff`). -/

namespace QcomAgps

open QcomTransition QcomLease AgpsStateMachine

/-! ## Messages -/

/-- The messages about data connections, with the members `proc` reads. -/
inductive LocMsg where
  | LocEngRequestATL (mID : UInt32) (mType : AGpsExtType)
  | LocEngReleaseATL (mID : UInt32)
  | LocEngRequestSuplEs (mID : UInt32)
  | LocEngReqRelWifi (mType : AGpsExtType) (mSenderId : UInt32)
  | LocEngReqRelBIT (mType : AGpsExtType) (mIPv4Addr : UInt32)
      (mIPv6Addr : List UInt8) (mIsReq : Bool)
  | LocEngAtlOpenSuccess (mAgpsType : AGpsExtType) (mAPN : String)
      (mBearerType : AGpsBearerType)
  | LocEngAtlClosed (mAgpsType : AGpsExtType)
  | LocEngAtlOpenFailed (mAgpsType : AGpsExtType)
  | LocEngSuplEsOpened
  | LocEngSuplEsClosed
  | LocEngAgnssNifInit
deriving DecidableEq, Repr

/-! ## The daemons -/

/-- A request for SUPL. -/
def IF_REQUEST_TYPE_SUPL : UInt32 := 0

/-- A request for the Wi-Fi connection. -/
def IF_REQUEST_TYPE_WIFI : UInt32 := 1

/-- A request for any connection. -/
def IF_REQUEST_TYPE_ANY : UInt32 := 2

/-- The first of the senders, as the daemons number them. -/
def IF_REQUEST_SENDER_ID_QUIPC : UInt32 := 0

/-- The second one. -/
def IF_REQUEST_SENDER_ID_MSAPM : UInt32 := 1

/-- The third one. -/
def IF_REQUEST_SENDER_ID_MSAPU : UInt32 := 2

/-- The fourth one. -/
def IF_REQUEST_SENDER_ID_GPSONE_DAEMON : UInt32 := 3

/-- The first of the senders, as the engine numbers them. -/
def LOC_ENG_IF_REQUEST_SENDER_ID_QUIPC : UInt32 := 0

/-- The second one there. -/
def LOC_ENG_IF_REQUEST_SENDER_ID_MSAPM : UInt32 := 1

/-- The third one there. -/
def LOC_ENG_IF_REQUEST_SENDER_ID_MSAPU : UInt32 := 2

/-- `ctrl_msg_if_request`, without the ssid and password, which nothing but
    the log reads. -/
structure IfRequest where
  type : UInt32
  sender_id : UInt32
  ipv4_addr : UInt32
  ipv6_addr : List UInt8
deriving DecidableEq, Repr

/-- The type a daemon asks for. -/
def ifRequestType (type : UInt32) : Option AGpsExtType :=
  if type = IF_REQUEST_TYPE_SUPL then some .AGPS_TYPE_SUPL
  else if type = IF_REQUEST_TYPE_WIFI then some .AGPS_TYPE_WIFI
  else if type = IF_REQUEST_TYPE_ANY then some .AGPS_TYPE_ANY
  else none

/-- The two switches the handlers share: the result and the message sent. -/
def ifMessage (pmsg : IfRequest) (isReq : Bool) : Int × Option LocMsg :=
  match ifRequestType pmsg.type with
  | none => (-1, none)
  | some type =>
      let wifi := fun sender => (0, some (.LocEngReqRelWifi type sender))
      if pmsg.sender_id = IF_REQUEST_SENDER_ID_QUIPC then
        wifi LOC_ENG_IF_REQUEST_SENDER_ID_QUIPC
      else if pmsg.sender_id = IF_REQUEST_SENDER_ID_MSAPM then
        wifi LOC_ENG_IF_REQUEST_SENDER_ID_MSAPM
      else if pmsg.sender_id = IF_REQUEST_SENDER_ID_MSAPU then
        wifi LOC_ENG_IF_REQUEST_SENDER_ID_MSAPU
      else if pmsg.sender_id = IF_REQUEST_SENDER_ID_GPSONE_DAEMON then
        (0, some (.LocEngReqRelBIT type pmsg.ipv4_addr pmsg.ipv6_addr isReq))
      else (-1, none)

/-- A request of a daemon; without an engine it is refused. -/
def loc_eng_dmn_conn_loc_api_server_if_request_handler
    (loc_api_handle : Bool) (pmsg : IfRequest) : Int × Option LocMsg :=
  if loc_api_handle then ifMessage pmsg true else (1, none)

/-- A release of a daemon; no engine is asked for. -/
def loc_eng_dmn_conn_loc_api_server_if_release_handler (pmsg : IfRequest) :
    Int × Option LocMsg :=
  ifMessage pmsg false

/-! ## The engine -/

/-- The machines of `loc_eng_data_s_type`. -/
inductive Nif where
  | agnss_nif
  | internet_nif
  | ds_nif
deriving DecidableEq, Repr

/-- The class of a machine, by the pointer to it. -/
def Nif.machineClass : Nif → MachineClass
  | .agnss_nif => .AgpsStateMachine
  | .internet_nif => .AgpsStateMachine
  | .ds_nif => .DSStateMachine

/-- The machines that exist, the calls the messages make without one, the
    queue of the message task, and the handles the modem passed. -/
structure LocEng where
  nif : Nif → Option AgpsStateMachine
  calls : List Call
  msgQ : List LocMsg
  given : List UInt32

/-- `loc_eng_data` as it is set up. -/
def locEngNew : LocEng := ⟨fun _ => none, [], [], []⟩

/-- What a step finds: `mSupportsAgpsRequests` of the adapter, whether
    `CAPABILITIES` has MSA or MSB, the configuration, whether the data
    service client starts, and the answers to a machine. -/
structure Config where
  mSupportsAgpsRequests : Bool
  agpsCapable : Bool
  USE_EMERGENCY_PDN_FOR_EMERGENCY_SUPL : Bool
  initDataServiceClient : Bool
  outside : Outside
deriving DecidableEq, Repr

namespace LocEng

/-- The engine with a machine behind the pointer. -/
def put (locEng : LocEng) (n : Nif) (m : AgpsStateMachine) : LocEng :=
  { locEng with nif := fun k => if k = n then some m else locEng.nif k }

/-- A call that leaves the engine. -/
def call (locEng : LocEng) (c : Call) : LocEng :=
  { locEng with calls := locEng.calls ++ [c] }

/-- A message goes behind the others of the queue. -/
def sendMsg (locEng : LocEng) (msg : LocMsg) : LocEng :=
  { locEng with msgQ := locEng.msgQ ++ [msg] }

/-- The machine `n` is made unless it exists. -/
def create (locEng : LocEng) (n : Nif) (type : AGpsExtType) : LocEng :=
  if (locEng.nif n).isNone then locEng.put n (newMachine type) else locEng

end LocEng

section Proc

variable (conf : Config)

/-- The machines that the configuration asks for; those there are stay. -/
def createAgnssNifs (locEng : LocEng) : LocEng :=
  if conf.mSupportsAgpsRequests then
    let locEng := locEng.create .internet_nif .AGPS_TYPE_WWAN_ANY
    if conf.agpsCapable then
      let locEng := locEng.create .agnss_nif .AGPS_TYPE_SUPL
      if conf.USE_EMERGENCY_PDN_FOR_EMERGENCY_SUPL
          && conf.initDataServiceClient then
        locEng.create .ds_nif .AGPS_TYPE_INVALID
      else locEng
    else locEng
  else locEng

/-- The engine, which may have made its machines, and the machine. -/
def getAgpsStateMachine (locEng : LocEng) (agpsType : AGpsExtType) :
    LocEng × Nif :=
  match agpsType with
  | .AGPS_TYPE_INVALID => (locEng, .agnss_nif)
  | .AGPS_TYPE_SUPL => (locEng, .agnss_nif)
  | .AGPS_TYPE_SUPL_ES =>
      if conf.USE_EMERGENCY_PDN_FOR_EMERGENCY_SUPL then
        (if (locEng.nif .ds_nif).isNone then createAgnssNifs conf locEng
          else locEng, .ds_nif)
      else (locEng, .agnss_nif)
  | _ => (locEng, .internet_nif)

/-- The message a request of a machine becomes in the adapter. -/
def adapterMsg : Call → Option LocMsg
  | .requestATL connHandle type => some (.LocEngRequestATL connHandle type)
  | .requestSuplES connHandle => some (.LocEngRequestSuplEs connHandle)
  | _ => none

variable [SubscriberEquals]

/-- One call of the machine `n`, which is `m`: what it asks of the adapter is
    posted. -/
def LocEng.act (locEng : LocEng) (n : Nif) (m : AgpsStateMachine)
    (a : ClassAction) : LocEng :=
  let m' := classAct n.machineClass conf.outside m a
  { locEng.put n m' with
    msgQ := locEng.msgQ ++
      if conf.mSupportsAgpsRequests then
        (newCalls m m').filterMap adapterMsg
      else [] }

/-- `unsubscribeRsrc` of the machine `n` if it exists, with its answer. -/
def LocEng.unsubscribe (locEng : LocEng) (n : Nif) (s : Subscriber) :
    Bool × LocEng :=
  match locEng.nif n with
  | some m =>
      ((m.unsubscribeRsrc (classSend n.machineClass conf.outside) s).1,
        locEng.act conf n m (.unsubscribeRsrc s))
  | none => (false, locEng)

/-- `proc` of a message.  The messages of the framework and of the daemons
    call their machine without a look whether it exists; there is no step
    where it does not. -/
def LocMsg.proc (locEng : LocEng) : LocMsg → Option LocEng
  | .LocEngRequestATL mID mType =>
      let r := getAgpsStateMachine conf locEng mType
      match r.1.nif r.2 with
      | some sm => some (r.1.act conf r.2 sm
          (.subscribeRsrc (.ATLSubscriber mID (mType == .AGPS_TYPE_INVALID))))
      | none => some (r.1.call
          (.atlOpenStatus mID false none .AGPS_APN_BEARER_INVALID mType))
  | .LocEngReleaseATL mID =>
      let r1 := locEng.unsubscribe conf .agnss_nif (.ATLSubscriber mID false)
      if r1.1 then some r1.2
      else
        let r2 := r1.2.unsubscribe conf .internet_nif
          (.ATLSubscriber mID false)
        if r2.1 then some r2.2
        else
          let r3 := r2.2.unsubscribe conf .ds_nif (.DSSubscriber mID false)
          if r3.1 then some r3.2
          else some (r3.2.call (.atlCloseStatus mID false))
  | .LocEngRequestSuplEs mID =>
      match locEng.nif .ds_nif, conf.USE_EMERGENCY_PDN_FOR_EMERGENCY_SUPL with
      | some sm, true => some (locEng.act conf .ds_nif sm
          (.subscribeRsrc (.DSSubscriber mID false)))
      | _, _ =>
          match locEng.nif .agnss_nif with
          | some sm => some (locEng.act conf .agnss_nif sm
              (.subscribeRsrc (.ATLSubscriber mID false)))
          | none => some (locEng.call
              (.atlOpenStatus mID false none .AGPS_APN_BEARER_INVALID
                .AGPS_TYPE_INVALID))
  | .LocEngReqRelWifi mType mSenderId =>
      -- the modem is answered, under the id of the daemon
      some (locEng.call
        (.atlOpenStatus mSenderId false none .AGPS_APN_BEARER_INVALID mType))
  | .LocEngReqRelBIT mType mIPv4Addr mIPv6Addr mIsReq =>
      let r := getAgpsStateMachine conf locEng mType
      let s := Subscriber.BITSubscriber mIPv4Addr mIPv6Addr
      (r.1.nif r.2).map (fun sm => r.1.act conf r.2 sm
        (if mIsReq then .subscribeRsrc s else .unsubscribeRsrc s))
  | .LocEngAtlOpenSuccess mAgpsType mAPN mBearerType =>
      let r := getAgpsStateMachine conf locEng mAgpsType
      (r.1.nif r.2).map (fun sm => r.1.act conf r.2
        { sm with mBearer := mBearerType, mAPN := some mAPN }
        (.onRsrcEvent .RSRC_GRANTED))
  | .LocEngAtlClosed mAgpsType =>
      let r := getAgpsStateMachine conf locEng mAgpsType
      (r.1.nif r.2).map (fun sm =>
        r.1.act conf r.2 sm (.onRsrcEvent .RSRC_RELEASED))
  | .LocEngAtlOpenFailed mAgpsType =>
      let r := getAgpsStateMachine conf locEng mAgpsType
      (r.1.nif r.2).map (fun sm =>
        r.1.act conf r.2 sm (.onRsrcEvent .RSRC_DENIED))
  | .LocEngSuplEsOpened =>
      match locEng.nif .ds_nif with
      | some sm => some (locEng.act conf .ds_nif sm
          (.onRsrcEvent .RSRC_GRANTED))
      | none => some locEng
  | .LocEngSuplEsClosed =>
      match locEng.nif .ds_nif with
      | some sm => some (locEng.act conf .ds_nif sm
          (.onRsrcEvent .RSRC_RELEASED))
      | none => some locEng
  | .LocEngAgnssNifInit => some (createAgnssNifs conf locEng)

/-! ## Runs of the engine -/

/-- What reaches the engine: requests of the modem, requests of the daemons,
    messages of the framework, the task that handles the first message of
    its queue, and a retry timer. -/
inductive EngAction where
  | requestATL (connHandle : UInt32) (agps_type : AGpsExtType)
  | releaseATL (connHandle : UInt32)
  | requestSuplES (connHandle : UInt32)
  | if_request (loc_api_handle : Bool) (pmsg : IfRequest)
  | if_release (pmsg : IfRequest)
  | agps_open (agpsType : AGpsExtType) (apn : String)
      (bearerType : AGpsBearerType)
  | agps_closed (agpsType : AGpsExtType)
  | agps_open_failed (agpsType : AGpsExtType)
  | reportDataCallOpened
  | reportDataCallClosed
  | nif_init
  | proc
  | delay_callback
deriving DecidableEq, Repr

omit [SubscriberEquals] in
/-- A handle the modem passes; the adapter posts its message if it handles
    such requests. -/
def LocEng.pass (locEng : LocEng) (connHandle : UInt32) (msg : LocMsg) :
    LocEng :=
  let locEng := { locEng with given := locEng.given ++ [connHandle] }
  if conf.mSupportsAgpsRequests then locEng.sendMsg msg else locEng

omit [SubscriberEquals] in
/-- What a handler of the daemons sends. -/
def LocEng.hearDaemon (locEng : LocEng) (r : Int × Option LocMsg) : LocEng :=
  match r.2 with
  | some msg => locEng.sendMsg msg
  | none => locEng

omit [SubscriberEquals] in
/-- What the adapter posts of the data call. -/
def LocEng.report (locEng : LocEng) (msg : LocMsg) : LocEng :=
  if conf.mSupportsAgpsRequests then locEng.sendMsg msg else locEng

/-- A step of the engine; without the machine it needs there is none. -/
def engStep (locEng : LocEng) : EngAction → Option LocEng
  | .requestATL h type => some (locEng.pass conf h (.LocEngRequestATL h type))
  | .releaseATL h => some (locEng.pass conf h (.LocEngReleaseATL h))
  | .requestSuplES h => some (locEng.pass conf h (.LocEngRequestSuplEs h))
  | .if_request loc_api_handle pmsg => some (locEng.hearDaemon
      (loc_eng_dmn_conn_loc_api_server_if_request_handler loc_api_handle pmsg))
  | .if_release pmsg => some (locEng.hearDaemon
      (loc_eng_dmn_conn_loc_api_server_if_release_handler pmsg))
  | .agps_open type apn bearer =>
      some (locEng.sendMsg (.LocEngAtlOpenSuccess type apn bearer))
  | .agps_closed type => some (locEng.sendMsg (.LocEngAtlClosed type))
  | .agps_open_failed type => some (locEng.sendMsg (.LocEngAtlOpenFailed type))
  | .reportDataCallOpened => some (locEng.report conf .LocEngSuplEsOpened)
  | .reportDataCallClosed => some (locEng.report conf .LocEngSuplEsClosed)
  | .nif_init => some (locEng.sendMsg .LocEngAgnssNifInit)
  | .proc =>
      match locEng.msgQ with
      | [] => none
      | msg :: rest => msg.proc conf { locEng with msgQ := rest }
  | .delay_callback =>
      (locEng.nif .ds_nif).map (fun sm =>
        locEng.act conf .ds_nif sm .retryCallback)

/-- The engine under any order of what reaches it. -/
def engSys : TransSys LocEng (EngAction × Config) where
  init locEng := locEng = locEngNew
  step locEng a := engStep a.2 locEng a.1

end Proc

/-! ## The handles of the engine -/

/-- The calls made so far. -/
def LocEng.Made (locEng : LocEng) (c : Call) : Prop :=
  c ∈ locEng.calls ∨ ∃ n m, locEng.nif n = some m ∧ c ∈ m.calls

/-- Every status to the modem carries a handle that it passed. -/
def OwnHandles (locEng : LocEng) : Prop :=
  ∀ c, locEng.Made c → ∀ h, statusHandle c = some h → h ∈ locEng.given

/-- A message in the queue is about a handle in `G`, and the daemons do not
    ask for emergency SUPL. -/
def LocMsg.Known (G : List UInt32) : LocMsg → Prop
  | .LocEngRequestATL mID _ => mID ∈ G
  | .LocEngReleaseATL mID => mID ∈ G
  | .LocEngRequestSuplEs mID => mID ∈ G
  | .LocEngReqRelBIT mType _ _ _ => mType ≠ .AGPS_TYPE_SUPL_ES
  | _ => True

/-- A handle that was given stays given. -/
theorem LocMsg.Known.mono {G G' : List UInt32} (hG : ∀ h ∈ G, h ∈ G')
    {msg : LocMsg} (h : msg.Known G) : msg.Known G' := by
  cases msg with
  | LocEngRequestATL mID mType => exact hG _ h
  | LocEngReleaseATL mID => exact hG _ h
  | LocEngRequestSuplEs mID => exact hG _ h
  | LocEngReqRelBIT mType v4 v6 isReq => exact h
  | LocEngReqRelWifi mType sender => trivial
  | LocEngAtlOpenSuccess type apn bearer => trivial
  | LocEngAtlClosed type => trivial
  | LocEngAtlOpenFailed type => trivial
  | LocEngSuplEsOpened => trivial
  | LocEngSuplEsClosed => trivial
  | LocEngAgnssNifInit => trivial

/-- With the handles `G` passed, nothing in the engine names another. -/
structure Vouching (G : List UInt32) (locEng : LocEng) : Prop where
  given : locEng.given = G
  nif : ∀ n m, locEng.nif n = some m → Vouched n.machineClass G m
  calls : Within G locEng.calls
  posted : ∀ msg ∈ locEng.msgQ, msg.Known G

theorem vouching_new : Vouching [] locEngNew :=
  ⟨rfl, fun _ _ h => (by cases h), within_nil, fun _ h => by cases h⟩

/-- An engine that vouches for its handles keeps to them. -/
theorem Vouching.own {G : List UInt32} {locEng : LocEng}
    (h : Vouching G locEng) : OwnHandles locEng := by
  intro c hc ID hID
  rw [h.given]
  rcases hc with hc | ⟨n, m, hm, hc⟩
  · exact h.calls c hc ID (handleOf_status hID)
  · exact (h.nif n m hm).calls c hc ID (handleOf_status hID)

/-- A machine that is vouched for. -/
theorem Vouching.put {G : List UInt32} {locEng : LocEng}
    (h : Vouching G locEng) {n : Nif} {m : AgpsStateMachine}
    (hm : Vouched n.machineClass G m) : Vouching G (locEng.put n m) := by
  refine ⟨h.given, ?_, h.calls, h.posted⟩
  intro k m' hm'
  by_cases hk : k = n
  · subst hk
    have hput : (if k = k then some m else locEng.nif k) = some m' := hm'
    rw [if_pos rfl] at hput
    exact Option.some.inj hput ▸ hm
  · have hput : (if k = n then some m else locEng.nif k) = some m' := hm'
    rw [if_neg hk] at hput
    exact h.nif k m' hput

/-- A call with a handle that was given, or without one. -/
theorem Vouching.call {G : List UInt32} {locEng : LocEng}
    (h : Vouching G locEng) {c : Call}
    (hc : ∀ ID, handleOf c = some ID → ID ∈ G) :
    Vouching G (locEng.call c) := by
  refine ⟨h.given, h.nif, h.calls.append ?_, h.posted⟩
  intro d hd
  rw [List.mem_singleton.mp hd]
  exact hc

/-- A message with such a handle. -/
theorem Vouching.sendMsg {G : List UInt32} {locEng : LocEng}
    (h : Vouching G locEng) {msg : LocMsg}
    (hmsg : msg.Known G) : Vouching G (locEng.sendMsg msg) := by
  refine ⟨h.given, h.nif, h.calls, ?_⟩
  intro msg' hmem
  rcases List.mem_append.mp hmem with hmem | hmem
  · exact h.posted msg' hmem
  · rw [List.mem_singleton.mp hmem]
    exact hmsg

/-- A new machine has no handles. -/
theorem Vouching.create {G : List UInt32} {locEng : LocEng}
    (h : Vouching G locEng) (n : Nif) (type : AGpsExtType) :
    Vouching G (locEng.create n type) := by
  rw [LocEng.create]
  split
  · exact h.put (vouched_new _ G type)
  · exact h

/-- Nor have several of them. -/
theorem Vouching.createAgnssNifs {G : List UInt32} {locEng : LocEng}
    (h : Vouching G locEng) (conf : Config) :
    Vouching G (createAgnssNifs conf locEng) := by
  have hinternet := h.create .internet_nif .AGPS_TYPE_WWAN_ANY
  have hagnss := hinternet.create .agnss_nif .AGPS_TYPE_SUPL
  rw [QcomAgps.createAgnssNifs]
  split
  · dsimp only
    split
    · split
      · exact hagnss.create .ds_nif .AGPS_TYPE_INVALID
      · exact hagnss
    · exact hinternet
  · exact h

/-- A machine is looked for. -/
theorem Vouching.getAgpsStateMachine {G : List UInt32} {locEng : LocEng}
    (h : Vouching G locEng) (conf : Config) (type : AGpsExtType) :
    Vouching G (getAgpsStateMachine conf locEng type).1 := by
  cases type with
  | AGPS_TYPE_SUPL_ES =>
      rw [QcomAgps.getAgpsStateMachine]
      split
      · dsimp only
        split
        · exact h.createAgnssNifs conf
        · exact h
      · exact h
  | AGPS_TYPE_INVALID => exact h
  | AGPS_TYPE_ANY => exact h
  | AGPS_TYPE_SUPL => exact h
  | AGPS_TYPE_C2K => exact h
  | AGPS_TYPE_WWAN_ANY => exact h
  | AGPS_TYPE_WIFI => exact h

/-- Only a request for the modem's own emergency SUPL finds the DS
    machine. -/
theorem getAgpsStateMachine_ds {conf : Config} {locEng : LocEng}
    {type : AGpsExtType}
    (h : (getAgpsStateMachine conf locEng type).2 = .ds_nif) :
    type = .AGPS_TYPE_SUPL_ES := by
  cases type with
  | AGPS_TYPE_SUPL_ES => rfl
  | AGPS_TYPE_INVALID => cases h
  | AGPS_TYPE_ANY => cases h
  | AGPS_TYPE_SUPL => cases h
  | AGPS_TYPE_C2K => cases h
  | AGPS_TYPE_WWAN_ANY => cases h
  | AGPS_TYPE_WIFI => cases h

/-- The adapter posts what asks for a connection. -/
theorem adapterMsg_eq_some {c : Call} {msg : LocMsg}
    (h : adapterMsg c = some msg) :
    (∃ connHandle type, c = .requestATL connHandle type ∧
      msg = .LocEngRequestATL connHandle type) ∨
    ∃ connHandle, c = .requestSuplES connHandle ∧
      msg = .LocEngRequestSuplEs connHandle := by
  cases c with
  | requestATL connHandle type =>
      exact Or.inl ⟨connHandle, type, rfl, (Option.some.inj h).symm⟩
  | requestSuplES connHandle =>
      exact Or.inr ⟨connHandle, rfl, (Option.some.inj h).symm⟩
  | atlOpenStatus handle ok apn bearer type => cases h
  | atlCloseStatus handle ok => cases h
  | data_conn sender result => cases h
  | requestRsrc nifRequest => cases h
  | dataCall action => cases h
  | closeDataCall => cases h
  | loc_timer_start msec => cases h

/-- What the adapter posts for a call is about the call's handle. -/
theorem adapterMsg_known {G : List UInt32} {c : Call} {msg : LocMsg}
    (hc : ∀ ID, handleOf c = some ID → ID ∈ G)
    (h : adapterMsg c = some msg) : msg.Known G := by
  rcases adapterMsg_eq_some h with ⟨connHandle, type, rfl, rfl⟩ |
    ⟨connHandle, rfl, rfl⟩
  · exact hc connHandle rfl
  · exact hc connHandle rfl

section Proc

variable [SubscriberEquals]

/-- **ONE CALL** of a machine, and what it posts. -/
theorem Vouching.act {G : List UInt32} {locEng : LocEng}
    (h : Vouching G locEng) (conf : Config) {n : Nif} {m : AgpsStateMachine}
    (hm : Vouched n.machineClass G m) {a : ClassAction}
    (ha : KnownAct n.machineClass G a) :
    Vouching G (locEng.act conf n m a) := by
  have hm' := vouched_act hm conf.outside ha
  refine ⟨h.given, (h.put hm').nif, h.calls, ?_⟩
  intro msg hmem
  rcases List.mem_append.mp hmem with hmem | hmem
  · exact h.posted msg hmem
  · split at hmem
    · obtain ⟨c, hc, hmsg⟩ := List.mem_filterMap.mp hmem
      exact adapterMsg_known (hm'.calls c (List.mem_of_mem_drop hc)) hmsg
    · cases hmem

/-- A client is unsubscribed. -/
theorem Vouching.unsubscribe {G : List UInt32} {locEng : LocEng}
    (h : Vouching G locEng) (conf : Config) (n : Nif) (s : Subscriber) :
    Vouching G (locEng.unsubscribe conf n s).2 := by
  rw [LocEng.unsubscribe]
  cases hm : locEng.nif n with
  | none => exact h
  | some m => exact h.act conf (h.nif n m hm) trivial

/-- Where a message has no machine to call, there is no step. -/
theorem Vouching.mapAct {G : List UInt32} {locEng locEng' : LocEng}
    (h : Vouching G locEng) (conf : Config) {n : Nif}
    {f : AgpsStateMachine → AgpsStateMachine} {a : ClassAction}
    (hf : ∀ m, Vouched n.machineClass G m → Vouched n.machineClass G (f m))
    (hs : (locEng.nif n).map (fun sm => locEng.act conf n (f sm) a)
      = some locEng') (ha : KnownAct n.machineClass G a) :
    Vouching G locEng' := by
  obtain ⟨sm, hsm, rfl⟩ := Option.map_eq_some_iff.mp hs
  exact h.act conf (hf sm (h.nif n sm hsm)) ha

omit [SubscriberEquals] in
/-- So a BIT subscriber is no entry of the DS machine. -/
theorem knownAct_bit {G : List UInt32} {conf : Config} {locEng : LocEng}
    {type : AGpsExtType} (ht : type ≠ .AGPS_TYPE_SUPL_ES) (ID : UInt32)
    (v6 : List UInt8) :
    Known (getAgpsStateMachine conf locEng type).2.machineClass G
      (.BITSubscriber ID v6) := by
  rintro (hc | hc)
  · exfalso
    have hds : (getAgpsStateMachine conf locEng type).2 = .ds_nif := by
      cases hn : (getAgpsStateMachine conf locEng type).2 with
      | ds_nif => rfl
      | agnss_nif =>
          rw [hn] at hc
          cases hc
      | internet_nif =>
          rw [hn] at hc
          cases hc
    exact ht (getAgpsStateMachine_ds hds)
  · cases hc

/-- **ONE MESSAGE**: only `LocEngReqRelWifi` brings in a handle of its
    own. -/
theorem vouching_proc {G : List UInt32} {locEng locEng' : LocEng}
    (h : Vouching G locEng) (conf : Config) {msg : LocMsg}
    (hmsg : msg.Known G)
    (hwifi : ∀ type sender, msg = .LocEngReqRelWifi type sender →
      sender ∈ G)
    (hs : msg.proc conf locEng = some locEng') : Vouching G locEng' := by
  have hkeep : ∀ {n : Nif} (m : AgpsStateMachine),
      Vouched n.machineClass G m → Vouched n.machineClass G m :=
    fun _ hm => hm
  have hown : ∀ {ID : UInt32} {c : Call}, ID ∈ G → handleOf c = some ID →
      ∀ ID', handleOf c = some ID' → ID' ∈ G := by
    intro ID c hID hc ID' hc'
    rw [hc] at hc'
    exact Option.some.inj hc' ▸ hID
  cases msg with
  | LocEngRequestATL mID mType =>
      have hget := h.getAgpsStateMachine conf mType
      rw [LocMsg.proc] at hs
      split at hs
      · next sm hsm =>
          obtain rfl := Option.some.inj hs
          exact hget.act conf (hget.nif _ sm hsm) (fun _ => hmsg)
      · obtain rfl := Option.some.inj hs
        exact hget.call (hown hmsg rfl)
  | LocEngReleaseATL mID =>
      have h1 := h.unsubscribe conf .agnss_nif (.ATLSubscriber mID false)
      have h2 := h1.unsubscribe conf .internet_nif (.ATLSubscriber mID false)
      have h3 := h2.unsubscribe conf .ds_nif (.DSSubscriber mID false)
      rw [LocMsg.proc] at hs
      split at hs
      · exact Option.some.inj hs ▸ h1
      · dsimp only at hs
        split at hs
        · exact Option.some.inj hs ▸ h2
        · split at hs
          · exact Option.some.inj hs ▸ h3
          · exact Option.some.inj hs ▸ h3.call (hown hmsg rfl)
  | LocEngRequestSuplEs mID =>
      rw [LocMsg.proc] at hs
      split at hs
      · next sm hsm _ =>
          exact Option.some.inj hs ▸
            h.act conf (h.nif .ds_nif sm hsm) (fun _ => hmsg)
      · split at hs
        · next sm hsm =>
            exact Option.some.inj hs ▸
              h.act conf (h.nif .agnss_nif sm hsm) (fun _ => hmsg)
        · exact Option.some.inj hs ▸ h.call (hown hmsg rfl)
  | LocEngReqRelWifi mType mSenderId =>
      exact Option.some.inj hs ▸
        h.call (hown (hwifi mType mSenderId rfl) rfl)
  | LocEngReqRelBIT mType v4 v6 isReq =>
      refine (h.getAgpsStateMachine conf mType).mapAct conf hkeep hs ?_
      cases isReq with
      | true => exact knownAct_bit hmsg v4 v6
      | false => trivial
  | LocEngAtlOpenSuccess type apn bearer =>
      -- the bearer and the APN are no handles
      exact (h.getAgpsStateMachine conf type).mapAct conf
        (f := fun sm => { sm with mBearer := bearer, mAPN := some apn })
        (fun _ hm => ⟨hm.entries, hm.active, hm.calls⟩) hs trivial
  | LocEngAtlClosed type =>
      exact (h.getAgpsStateMachine conf type).mapAct conf hkeep hs trivial
  | LocEngAtlOpenFailed type =>
      exact (h.getAgpsStateMachine conf type).mapAct conf hkeep hs trivial
  | LocEngSuplEsOpened =>
      rw [LocMsg.proc] at hs
      split at hs
      · next sm hsm =>
          exact Option.some.inj hs ▸
            h.act conf (h.nif .ds_nif sm hsm) trivial
      · exact Option.some.inj hs ▸ h
  | LocEngSuplEsClosed =>
      rw [LocMsg.proc] at hs
      split at hs
      · next sm hsm =>
          exact Option.some.inj hs ▸
            h.act conf (h.nif .ds_nif sm hsm) trivial
      · exact Option.some.inj hs ▸ h
  | LocEngAgnssNifInit => exact Option.some.inj hs ▸ h.createAgnssNifs conf

end Proc

/-! ## The daemons' messages -/

/-- No daemon asks for SUPL ES. -/
theorem ifRequestType_ne {type : UInt32} {t : AGpsExtType}
    (h : ifRequestType type = some t) : t ≠ .AGPS_TYPE_SUPL_ES := by
  rw [ifRequestType] at h
  split at h
  · cases h
    exact fun h => by cases h
  · split at h
    · cases h
      exact fun h => by cases h
    · split at h
      · cases h
        exact fun h => by cases h
      · cases h

/-- What a daemon posts carries no handle. -/
theorem ifMessage_known {G : List UInt32} {pmsg : IfRequest} {isReq : Bool}
    {msg : LocMsg} (h : (ifMessage pmsg isReq).2 = some msg) :
    msg.Known G := by
  rw [ifMessage] at h
  cases ht : ifRequestType pmsg.type with
  | none =>
      rw [ht] at h
      cases h
  | some type =>
      rw [ht] at h
      dsimp only at h
      split at h
      · cases h
        trivial
      · split at h
        · cases h
          trivial
        · split at h
          · cases h
            trivial
          · split at h
            · cases h
              exact ifRequestType_ne ht
            · cases h

/-- A daemon is heard. -/
theorem Vouching.hearDaemon {G : List UInt32} {locEng : LocEng}
    (h : Vouching G locEng) {r : Int × Option LocMsg}
    (hr : ∀ msg, r.2 = some msg → msg.Known G) :
    Vouching G (locEng.hearDaemon r) := by
  rw [LocEng.hearDaemon]
  split
  · next msg hmsg => exact h.sendMsg (hr msg hmsg)
  · exact h

/-- A handle passed is one more in the books. -/
theorem Vouching.pass {G : List UInt32} {locEng : LocEng}
    (h : Vouching G locEng) (conf : Config) {ID : UInt32} {msg : LocMsg}
    (hmsg : msg.Known (G ++ [ID])) :
    Vouching (G ++ [ID]) (locEng.pass conf ID msg) := by
  have hG : ∀ ID' ∈ G, ID' ∈ G ++ [ID] :=
    fun _ hmem => List.mem_append_left [ID] hmem
  have hmore : Vouching (G ++ [ID])
      { locEng with given := locEng.given ++ [ID] } :=
    ⟨congrArg (· ++ [ID]) h.given, fun n m hm => (h.nif n m hm).mono hG,
      h.calls.mono hG, fun msg hmem => (h.posted msg hmem).mono hG⟩
  rw [LocEng.pass]
  split
  · exact hmore.sendMsg hmsg
  · exact hmore

/-- The framework reports. -/
theorem Vouching.report {G : List UInt32} {locEng : LocEng}
    (h : Vouching G locEng) (conf : Config) {msg : LocMsg}
    (hmsg : msg.Known G) : Vouching G (locEng.report conf msg) := by
  rw [LocEng.report]
  split
  · exact h.sendMsg hmsg
  · exact h

/-! ## Runs -/

/-- A wifi request is handled with a sender id that is among the handles the
    modem passed. -/
def SenderGiven (locEng : LocEng) : EngAction × Config → Prop
  | (.proc, _) =>
      match locEng.msgQ with
      | .LocEngReqRelWifi _ mSenderId :: _ => mSenderId ∈ locEng.given
      | _ => True
  | _ => True

section Runs

variable [SubscriberEquals]

/-- A step keeps the law, if its sender was given. -/
theorem vouching_step {locEng locEng' : LocEng} {a : EngAction × Config}
    (h : Vouching locEng.given locEng) (ha : SenderGiven locEng a)
    (hs : engSys.step locEng a = some locEng') :
    Vouching locEng'.given locEng' := by
  -- the handles passed may become more
  have hgiven : ∀ {G s}, Vouching G s → Vouching s.given s :=
    fun hG => hG.given.symm ▸ hG
  obtain ⟨a, conf⟩ := a
  have hstep : engStep conf locEng a = some locEng' := hs
  cases a with
  | requestATL ID type =>
      exact Option.some.inj hstep ▸ hgiven (h.pass conf (by
        exact List.mem_append_right _ List.mem_cons_self))
  | releaseATL ID =>
      exact Option.some.inj hstep ▸ hgiven (h.pass conf (by
        exact List.mem_append_right _ List.mem_cons_self))
  | requestSuplES ID =>
      exact Option.some.inj hstep ▸ hgiven (h.pass conf (by
        exact List.mem_append_right _ List.mem_cons_self))
  | if_request handle pmsg =>
      refine Option.some.inj hstep ▸ hgiven (h.hearDaemon ?_)
      intro msg hmsg
      rw [loc_eng_dmn_conn_loc_api_server_if_request_handler] at hmsg
      split at hmsg
      · exact ifMessage_known hmsg
      · cases hmsg
  | if_release pmsg =>
      exact Option.some.inj hstep ▸
        hgiven (h.hearDaemon (fun _ hmsg => ifMessage_known hmsg))
  | agps_open type apn bearer =>
      exact Option.some.inj hstep ▸ hgiven (h.sendMsg trivial)
  | agps_closed type =>
      exact Option.some.inj hstep ▸ hgiven (h.sendMsg trivial)
  | agps_open_failed type =>
      exact Option.some.inj hstep ▸ hgiven (h.sendMsg trivial)
  | reportDataCallOpened =>
      exact Option.some.inj hstep ▸ hgiven (h.report conf trivial)
  | reportDataCallClosed =>
      exact Option.some.inj hstep ▸ hgiven (h.report conf trivial)
  | nif_init => exact Option.some.inj hstep ▸ hgiven (h.sendMsg trivial)
  | proc =>
      rw [engStep] at hstep
      cases hq : locEng.msgQ with
      | nil =>
          rw [hq] at hstep
          cases hstep
      | cons msg rest =>
          rw [hq] at hstep
          have hmem : ∀ msg' ∈ rest, msg' ∈ locEng.msgQ := by
            rw [hq]
            exact fun _ hmem => List.mem_cons_of_mem msg hmem
          have hrest : Vouching locEng.given { locEng with msgQ := rest } :=
            ⟨rfl, h.nif, h.calls, fun msg' hm => h.posted msg' (hmem msg' hm)⟩
          refine hgiven (vouching_proc hrest conf (h.posted msg ?_) ?_ hstep)
          · rw [hq]
            exact List.mem_cons_self
          · rintro type sender rfl
            rw [SenderGiven, hq] at ha
            exact ha
  | delay_callback =>
      exact hgiven (h.mapAct conf (fun _ hm => hm) hstep trivial)

/-- A wifi request handled with any other sender id is a status under
    it. -/
theorem sender_not_given {locEng locEng' : LocEng} {a : EngAction × Config}
    (ha : ¬ SenderGiven locEng a)
    (hs : engSys.step locEng a = some locEng') : ¬ OwnHandles locEng' := by
  obtain ⟨a, conf⟩ := a
  cases a with
  | proc =>
      have hstep : engStep conf locEng .proc = some locEng' := hs
      rw [SenderGiven] at ha
      rw [engStep] at hstep
      split at ha
      · next type sender rest hq =>
          rw [hq] at hstep
          obtain rfl := Option.some.inj hstep
          intro hown
          exact ha (hown (.atlOpenStatus sender false none
            .AGPS_APN_BEARER_INVALID type)
            (Or.inl (List.mem_append_right _ List.mem_cons_self)) sender rfl)
      · exact absurd trivial ha
  | requestATL ID type => exact absurd trivial ha
  | releaseATL ID => exact absurd trivial ha
  | requestSuplES ID => exact absurd trivial ha
  | if_request handle pmsg => exact absurd trivial ha
  | if_release pmsg => exact absurd trivial ha
  | agps_open type apn bearer => exact absurd trivial ha
  | agps_closed type => exact absurd trivial ha
  | agps_open_failed type => exact absurd trivial ha
  | reportDataCallOpened => exact absurd trivial ha
  | reportDataCallClosed => exact absurd trivial ha
  | nif_init => exact absurd trivial ha
  | delay_callback => exact absurd trivial ha

end Runs

/-- **THE MODEM'S HANDLES**: along a run every status to the modem carries a
    handle that it passed before, exactly when every wifi request of a daemon
    is handled with a sender id that is one. -/
theorem modem_handles_iff (castIPv6 : Subscriber → List UInt8)
    (l : List (EngAction × Config)) :
    HoldsAlong (@engSys (codeEquals castIPv6)) OwnHandles locEngNew l ↔
      StepsMeet (@engSys (codeEquals castIPv6)) SenderGiven locEngNew l := by
  let _ : SubscriberEquals := codeEquals castIPv6
  exact holdsAlong_iff_stepsMeet
    (I := fun locEng => Vouching locEng.given locEng)
    (fun _ h => h.own) (fun _ _ _ h ha hs => vouching_step h ha hs)
    (fun _ _ _ _ ha hs => sender_not_given ha hs) l vouching_new

/-- The adapter handles the requests, without emergency PDN. -/
def plainConfig : Config := ⟨true, true, false, false, started⟩

/-- A daemon asks for wifi before the modem has passed any handle. -/
def wifiRun : List (EngAction × Config) :=
  [(.if_request true ⟨IF_REQUEST_TYPE_WIFI, IF_REQUEST_SENDER_ID_MSAPM, 0, []⟩,
      plainConfig),
   (.proc, plainConfig)]

/-- The modem is told that its connection 1 did not open. -/
theorem wifi_answers_modem :
    ¬ (∀ l, HoldsAlong (@engSys (codeEquals (fun _ => []))) OwnHandles
      locEngNew l) := by
  intro hall
  let _ : SubscriberEquals := codeEquals (fun _ => [])
  obtain ⟨-, hrun⟩ := hall wifiRun
  obtain ⟨-, hrun⟩ := hrun _ rfl
  have hcall := hrun _ rfl (.atlOpenStatus 1 false none
    .AGPS_APN_BEARER_INVALID .AGPS_TYPE_WIFI)
    (Or.inl List.mem_cons_self) 1 rfl
  cases hcall

end QcomAgps
