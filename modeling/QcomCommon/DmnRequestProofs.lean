import QcomCommon.MsgRcvProofs

/-! # What a daemon's request takes from the buffer

    `loc_api_server_proc` receives a frame into memory fresh from `malloc`
    and hands it to a handler with its length, which no handler looks at: the
    fields of `struct ctrl_msgbuf` are read whether the frame reaches them or
    not.

    What is dispatched is the same whatever was in the buffer before if and
    only if every field that the handler comes to is decided by the bytes of
    the frame (`dispatch_determined_iff`).  A frame that reaches the end of
    the password is (`requestReceived_of_whole`). -/

namespace QcomDmnConn

open QcomFraming QcomByteMemory QcomAgps

/-! ## The request -/

/-- The bytes of an SSID and of a password. -/
def SSID_BUF_SIZE : Nat := 33

/-- `struct ctrl_msg_if_request` with its texts. -/
structure CtrlMsgIfRequest extends IfRequest where
  ssid : List UInt8
  password : List UInt8
deriving DecidableEq, Repr

/-- Where `ssid` is in the buffer. -/
def offset_ssid (abi : Abi) : Nat := offset_cmsg abi + 8 + sizeof_size_t abi + 16

/-- Where the password begins. -/
def offset_password (abi : Abi) : Nat := offset_ssid abi + SSID_BUF_SIZE

/-- The request with the network it names, as it is read from the buffer. -/
def ctrl_msg_if_request (abi : Abi) (buf : List UInt8) : CtrlMsgIfRequest where
  toIfRequest := cmsg_if_request abi buf
  ssid := (buf.drop (offset_ssid abi)).take SSID_BUF_SIZE
  password := (buf.drop (offset_password abi)).take SSID_BUF_SIZE

/-- The string `strlcpy` makes of `src` in a buffer of `size` bytes. -/
def strlcpy (src : List UInt8) (size : Nat) : List UInt8 :=
  (src.take (size - 1)).takeWhile (· != 0)

/-- The messages of the handlers, with all that their constructors copy. -/
inductive DaemonMsg where
  | LocEngReqRelWifi (mType : AGpsExtType) (mSenderId : UInt32)
      (mSSID mPassword : List UInt8) (mIsReq : Bool)
  | LocEngReqRelBIT (mType : AGpsExtType) (mIPv4Addr : UInt32)
      (mIPv6Addr : List UInt8) (mIsReq : Bool)
deriving DecidableEq, Repr

/-- Without the members that `proc` does not read. -/
def DaemonMsg.toLocMsg : DaemonMsg → LocMsg
  | LocEngReqRelWifi mType mSenderId _ _ _ => .LocEngReqRelWifi mType mSenderId
  | LocEngReqRelBIT mType mIPv4Addr mIPv6Addr mIsReq =>
      .LocEngReqRelBIT mType mIPv4Addr mIPv6Addr mIsReq

/-- The two switches of the handlers. -/
def daemonMessage (pmsg : CtrlMsgIfRequest) (isReq : Bool) :
    Int × Option DaemonMsg :=
  match ifRequestType pmsg.type with
  | none => (-1, none)
  | some type =>
      let wifi := fun sender => (0, some (.LocEngReqRelWifi type sender
        (strlcpy pmsg.ssid SSID_BUF_SIZE)
        (strlcpy pmsg.password SSID_BUF_SIZE) isReq))
      if pmsg.sender_id = IF_REQUEST_SENDER_ID_QUIPC then
        wifi LOC_ENG_IF_REQUEST_SENDER_ID_QUIPC
      else if pmsg.sender_id = IF_REQUEST_SENDER_ID_MSAPM then
        wifi LOC_ENG_IF_REQUEST_SENDER_ID_MSAPM
      else if pmsg.sender_id = IF_REQUEST_SENDER_ID_MSAPU then
        wifi LOC_ENG_IF_REQUEST_SENDER_ID_MSAPU
      else if pmsg.sender_id = IF_REQUEST_SENDER_ID_GPSONE_DAEMON then
        (0, some (.LocEngReqRelBIT type pmsg.ipv4_addr pmsg.ipv6_addr isReq))
      else (-1, none)

/-- What `loc_api_server_proc` dispatches to, with what the handler returns
    and sends. -/
inductive DaemonDispatch where
  | if_request (handled : Int × Option DaemonMsg)
  | if_release (handled : Int × Option DaemonMsg)
  | unblock
  | unsupported
deriving DecidableEq, Repr

/-- What the handler of a request gives. -/
def DaemonDispatch.handled : DaemonDispatch → Option (Int × Option DaemonMsg)
  | if_request handled => some handled
  | if_release handled => some handled
  | unblock => none
  | unsupported => none

/-- The switch on `ctrl_type`; neither handler looks at the length. -/
def daemonDispatch (abi : Abi) (loc_api_handle : Bool) (buf : List UInt8) :
    DaemonDispatch :=
  let ctrl_type := UInt8.ofNat (field buf (offset_ctrl_type abi) 1)
  let pmsg := ctrl_msg_if_request abi buf
  if ctrl_type = GPSONE_LOC_API_IF_REQUEST then
    .if_request (if loc_api_handle then daemonMessage pmsg true else (1, none))
  else if ctrl_type = GPSONE_LOC_API_IF_RELEASE then
    .if_release (daemonMessage pmsg false)
  else if ctrl_type = GPSONE_UNBLOCK then .unblock
  else .unsupported

/-- `loc_api_server_proc` with the memory that `malloc` returns, if it does,
    and the reads of its `msgrcv`. -/
def loc_api_server_procRun (abi : Abi) (loc_api_handle : Bool)
    (p_cmsgbuf : Option Memory) (read₁ : ReadResult (sizeof_size_t abi))
    (read₂ : ∀ sz, ReadResult sz) : Int × Option DaemonDispatch :=
  match p_cmsgbuf with
  | none => (-1, none)
  | some mem =>
      let rcv := msgrcvRun abi (sz abi) read₁ read₂ mem
      if rcv.result ≤ 0 then (-1, none)
      else (0, some (daemonDispatch abi loc_api_handle
        (load rcv.mem 0 (sz abi))))

/-! ## The same dispatch as before -/

variable {abi : Abi} {loc_api_handle : Bool}

theorem daemonMessage_toLocMsg (pmsg : CtrlMsgIfRequest) (isReq : Bool) :
    ifMessage pmsg.toIfRequest isReq =
      ((daemonMessage pmsg isReq).1,
        (daemonMessage pmsg isReq).2.map DaemonMsg.toLocMsg) := by
  rw [ifMessage, daemonMessage]
  cases ifRequestType pmsg.type with
  | none => rfl
  | some type =>
      dsimp only
      split_ifs <;> rfl

/-- **WITHOUT THE TEXTS** it is the dispatch of the server's model. -/
theorem dispatch_daemonDispatch (buf : List UInt8) :
    dispatch abi loc_api_handle buf =
      ⟨UInt8.ofNat (field buf (offset_ctrl_type abi) 1),
        (daemonDispatch abi loc_api_handle buf).handled.map
          (fun r => (r.1, r.2.map DaemonMsg.toLocMsg))⟩ := by
  have hmsg : ∀ isReq, ifMessage (cmsg_if_request abi buf) isReq = _ :=
    daemonMessage_toLocMsg (ctrl_msg_if_request abi buf)
  rw [dispatch, daemonDispatch, loc_eng_dmn_conn_loc_api_server_if_request_handler,
    loc_eng_dmn_conn_loc_api_server_if_release_handler, hmsg, hmsg]
  cases loc_api_handle <;> split_ifs <;> rfl

/-! ## The cases of a handler -/

theorem ifRequestType_eq_none {type : UInt32} (h : 3 ≤ type.toNat) :
    ifRequestType type = none := by
  have hne : ∀ c : UInt32, c.toNat < 3 → type ≠ c := fun c hc heq => by
    subst heq
    omega
  rw [ifRequestType, if_neg (hne _ (by decide)), if_neg (hne _ (by decide)),
    if_neg (hne _ (by decide))]

theorem ifRequestType_eq_some {type : UInt32} (h : type.toNat < 3) :
    ∃ t, ifRequestType type = some t := by
  have hcases : type = IF_REQUEST_TYPE_SUPL ∨ type = IF_REQUEST_TYPE_WIFI ∨
      type = IF_REQUEST_TYPE_ANY := by
    simp only [← UInt32.toNat_inj]
    have hval : type.toNat = 0 ∨ type.toNat = 1 ∨ type.toNat = 2 := by omega
    exact hval
  rcases hcases with rfl | rfl | rfl
  · exact ⟨_, rfl⟩
  · exact ⟨_, rfl⟩
  · exact ⟨_, rfl⟩

section Cases

variable {pmsg : CtrlMsgIfRequest} {t : AGpsExtType} (isReq : Bool)

theorem daemonMessage_type (h : 3 ≤ pmsg.type.toNat) :
    daemonMessage pmsg isReq = (-1, none) := by
  rw [daemonMessage, ifRequestType_eq_none h]

theorem daemonMessage_sender (h : 4 ≤ pmsg.sender_id.toNat) :
    daemonMessage pmsg isReq = (-1, none) := by
  have hne : ∀ c : UInt32, c.toNat < 4 → pmsg.sender_id ≠ c :=
    fun c hc heq => by
      rw [heq] at h
      omega
  rw [daemonMessage]
  cases ifRequestType pmsg.type with
  | none => rfl
  | some type =>
      dsimp only
      rw [if_neg (hne _ (by decide)), if_neg (hne _ (by decide)),
        if_neg (hne _ (by decide)), if_neg (hne _ (by decide))]

/-- The daemon of the modem. -/
theorem daemonMessage_bit (ht : ifRequestType pmsg.type = some t)
    (h : pmsg.sender_id.toNat = 3) :
    daemonMessage pmsg isReq =
      (0, some (.LocEngReqRelBIT t pmsg.ipv4_addr pmsg.ipv6_addr isReq)) := by
  have hsender : pmsg.sender_id = IF_REQUEST_SENDER_ID_GPSONE_DAEMON :=
    UInt32.toNat_inj.mp h
  rw [daemonMessage, ht, hsender]
  rfl

/-- One of the others: its number is that of the engine's. -/
theorem daemonMessage_wifi (ht : ifRequestType pmsg.type = some t)
    (h : pmsg.sender_id.toNat < 3) :
    daemonMessage pmsg isReq =
      (0, some (.LocEngReqRelWifi t pmsg.sender_id
        (strlcpy pmsg.ssid SSID_BUF_SIZE)
        (strlcpy pmsg.password SSID_BUF_SIZE) isReq)) := by
  have hcases : pmsg.sender_id = IF_REQUEST_SENDER_ID_QUIPC ∨
      pmsg.sender_id = IF_REQUEST_SENDER_ID_MSAPM ∨
      pmsg.sender_id = IF_REQUEST_SENDER_ID_MSAPU := by
    simp only [← UInt32.toNat_inj]
    have hval : pmsg.sender_id.toNat = 0 ∨ pmsg.sender_id.toNat = 1 ∨
        pmsg.sender_id.toNat = 2 := by omega
    exact hval
  rw [daemonMessage, ht]
  rcases hcases with hs | hs | hs <;> rw [hs] <;> rfl

/-- A message is sent for a type and a sender that are known. -/
theorem daemonMessage_isSome_iff :
    (daemonMessage pmsg isReq).2.isSome = true ↔
      pmsg.type.toNat < 3 ∧ pmsg.sender_id.toNat < 4 := by
  by_cases htype : pmsg.type.toNat < 3
  · obtain ⟨t, ht⟩ := ifRequestType_eq_some htype
    rcases Nat.lt_trichotomy pmsg.sender_id.toNat 3 with hs | hs | hs
    · rw [daemonMessage_wifi isReq ht hs]
      exact iff_of_true rfl ⟨htype, by omega⟩
    · rw [daemonMessage_bit isReq ht hs]
      exact iff_of_true rfl ⟨htype, by omega⟩
    · rw [daemonMessage_sender isReq hs]
      exact iff_of_false (fun h => (by cases h)) (by omega)
  · rw [daemonMessage_type isReq (Nat.le_of_not_lt htype)]
    exact iff_of_false (fun h => (by cases h)) (by omega)

end Cases

/-! ## The fields in the memory -/

/-- The request in the memory, whose buffer begins at address 0. -/
def requestAt (abi : Abi) (mem : Memory) : CtrlMsgIfRequest :=
  ctrl_msg_if_request abi (load mem 0 (sz abi))

/-- A field of the buffer. -/
theorem field_load (mem : Memory) {offset n : Nat} (h : offset + n ≤ sz abi) :
    field (load mem 0 (sz abi)) offset n = leVal (load mem offset n) :=
  congrArg leVal (take_drop_load mem h)

theorem offset_password_le (abi : Abi) :
    offset_password abi + SSID_BUF_SIZE ≤ sz abi := by
  cases abi <;> decide

theorem offset_ssid_eq (abi : Abi) :
    offset_ssid abi = offset_cmsg abi + 8 + sizeof_size_t abi + 16 := rfl

theorem offset_password_eq (abi : Abi) :
    offset_password abi = offset_ssid abi + 33 := rfl

theorem offset_cmsg_le (abi : Abi) :
    offset_cmsg abi + 8 + sizeof_size_t abi + 16 ≤ sz abi := by
  cases abi <;> decide

/-- A number of 4 bytes is itself in 32 bits. -/
theorem toNat_ofNat_load (mem : Memory) (a : Nat) :
    (UInt32.ofNat (leVal (load mem a 4))).toNat = leVal (load mem a 4) := by
  have hlt := leVal_lt (load mem a 4)
  rw [length_load] at hlt
  exact UInt32.toNat_ofNat_of_lt hlt

theorem requestAt_type (mem : Memory) :
    (requestAt abi mem).type.toNat = leVal (load mem (offset_cmsg abi) 4) := by
  have hle := offset_cmsg_le abi
  show (UInt32.ofNat (field (load mem 0 (sz abi)) (offset_cmsg abi) 4)).toNat
    = _
  rw [field_load mem (by omega), toNat_ofNat_load]

theorem requestAt_sender (mem : Memory) :
    (requestAt abi mem).sender_id.toNat
      = leVal (load mem (offset_cmsg abi + 4) 4) := by
  have hle := offset_cmsg_le abi
  show (UInt32.ofNat (field (load mem 0 (sz abi))
    (offset_cmsg abi + 4) 4)).toNat = _
  rw [field_load mem (by omega), toNat_ofNat_load]

theorem requestAt_ipv4 (mem : Memory) :
    (requestAt abi mem).ipv4_addr = UInt32.ofNat
      (leVal (load mem (offset_cmsg abi + 8) (sizeof_size_t abi))) := by
  have hle := offset_cmsg_le abi
  show UInt32.ofNat (field (load mem 0 (sz abi)) (offset_cmsg abi + 8)
    (sizeof_size_t abi)) = _
  rw [field_load mem (by omega)]

theorem requestAt_ipv6 (mem : Memory) :
    (requestAt abi mem).ipv6_addr
      = load mem (offset_cmsg abi + 8 + sizeof_size_t abi) 16 :=
  take_drop_load mem (offset_cmsg_le abi)

/-- What is copied of a text of the buffer. -/
theorem strlcpy_load (mem : Memory) {a : Nat}
    (h : a + SSID_BUF_SIZE ≤ sz abi) :
    strlcpy (((load mem 0 (sz abi)).drop a).take SSID_BUF_SIZE) SSID_BUF_SIZE
      = text mem a 32 := by
  have hle : a + 32 ≤ sz abi := by
    rw [SSID_BUF_SIZE] at h
    omega
  rw [strlcpy, List.take_take, text, ← take_drop_load mem hle]
  rfl

theorem requestAt_ssid (mem : Memory) :
    strlcpy (requestAt abi mem).ssid SSID_BUF_SIZE
      = text mem (offset_ssid abi) 32 :=
  strlcpy_load mem (by cases abi <;> decide)

theorem requestAt_password (mem : Memory) :
    strlcpy (requestAt abi mem).password SSID_BUF_SIZE
      = text mem (offset_password abi) 32 :=
  strlcpy_load mem (offset_password_le abi)

/-! ## What a frame decides -/

/-- All that may be copied of the text at `a` has come, or an end of it. -/
def TextReceived (bytes : List UInt8) (a : Nat) : Prop :=
  a + 32 ≤ bytes.length ∨ 0 ∈ part bytes a 32

/-- A number below the bound has come whole, or what has come of it is not
    below the bound. -/
def NumberReceived (bytes : List UInt8) (a bound : Nat) : Prop :=
  a + 4 ≤ bytes.length ∨ bound ≤ field bytes a 4

/-- What a handler comes to has been received: the type, for a type that is
    known the sender, and for a sender that is known the addresses or the
    texts. -/
structure MessageReceived (abi : Abi) (bytes : List UInt8) : Prop where
  type : NumberReceived bytes (offset_cmsg abi) 3
  sender : field bytes (offset_cmsg abi) 4 < 3 →
    NumberReceived bytes (offset_cmsg abi + 4) 4
  addresses : field bytes (offset_cmsg abi) 4 < 3 →
    field bytes (offset_cmsg abi + 4) 4 = 3 → offset_ssid abi ≤ bytes.length
  texts : field bytes (offset_cmsg abi) 4 < 3 →
    field bytes (offset_cmsg abi + 4) 4 < 3 →
    TextReceived bytes (offset_ssid abi) ∧
      TextReceived bytes (offset_password abi)

/-- A handler looks at the request. -/
def LooksAtRequest (abi : Abi) (loc_api_handle : Bool) (bytes : List UInt8) :
    Prop :=
  (field bytes (offset_ctrl_type abi) 1 = 0xF0 ∧ loc_api_handle = true) ∨
    field bytes (offset_ctrl_type abi) 1 = 0xF1

/-- The control type has been received, and where a handler looks at the
    request what it comes to. -/
structure RequestReceived (abi : Abi) (loc_api_handle : Bool)
    (bytes : List UInt8) : Prop where
  ctrl_type : offset_ctrl_type abi < bytes.length
  message : LooksAtRequest abi loc_api_handle bytes → MessageReceived abi bytes

section Determined

variable {bytes : List UInt8}

/-- A number received whole is the same in every memory. -/
theorem leVal_load_covered (mem : Memory) {a n : Nat}
    (h : a + n ≤ bytes.length) :
    leVal (load (store mem 0 bytes) a n) = field bytes a n :=
  congrArg leVal (load_store_covered mem h)

/-- One too large is so in every memory. -/
theorem le_leVal_load {a bound : Nat} (hle : bound ≤ field bytes a 4)
    (mem : Memory) : bound ≤ leVal (load (store mem 0 bytes) a 4) :=
  Nat.le_trans hle (leVal_part_le mem bytes a 4)

theorem covered_of_numberReceived {a bound : Nat}
    (h : NumberReceived bytes a bound) (hlt : field bytes a 4 < bound) :
    a + 4 ≤ bytes.length :=
  h.resolve_right (Nat.not_le.mpr hlt)

theorem requestAt_type_covered (mem : Memory)
    (h : offset_cmsg abi + 4 ≤ bytes.length) :
    (requestAt abi (store mem 0 bytes)).type.toNat
      = field bytes (offset_cmsg abi) 4 := by
  rw [requestAt_type, leVal_load_covered mem h]

theorem requestAt_sender_covered (mem : Memory)
    (h : offset_cmsg abi + 4 + 4 ≤ bytes.length) :
    (requestAt abi (store mem 0 bytes)).sender_id.toNat
      = field bytes (offset_cmsg abi + 4) 4 := by
  rw [requestAt_sender, leVal_load_covered mem h]

section Known

variable (hcov : offset_cmsg abi + 4 + 4 ≤ bytes.length)
  (htype : field bytes (offset_cmsg abi) 4 < 3) (isReq : Bool)

include hcov htype

/-- The type a frame asks for, in every memory. -/
theorem type_known : ∃ t, ∀ mem,
    ifRequestType (requestAt abi (store mem 0 bytes)).type = some t := by
  have htypes : ∀ mem, (requestAt abi (store mem 0 bytes)).type.toNat
      = field bytes (offset_cmsg abi) 4 := fun mem =>
    requestAt_type_covered mem (by omega)
  obtain ⟨t, ht⟩ :=
    ifRequestType_eq_some ((htypes (fun _ => 0)).symm ▸ htype)
  refine ⟨t, fun mem => ?_⟩
  rw [← ht, UInt32.toNat_inj.mp ((htypes mem).trans (htypes _).symm)]

/-- The message for the daemon of the modem, in every memory. -/
theorem bit_known (hbit : field bytes (offset_cmsg abi + 4) 4 = 3) :
    ∃ t, ∀ mem, daemonMessage (requestAt abi (store mem 0 bytes)) isReq =
      (0, some (.LocEngReqRelBIT t
        (requestAt abi (store mem 0 bytes)).ipv4_addr
        (load (store mem 0 bytes)
          (offset_cmsg abi + 8 + sizeof_size_t abi) 16) isReq)) := by
  obtain ⟨t, ht⟩ := type_known hcov htype
  refine ⟨t, fun mem => ?_⟩
  have hsender := requestAt_sender_covered mem hcov
  rw [daemonMessage_bit isReq (ht mem) (hsender.trans hbit), requestAt_ipv6]

/-- The message for another daemon. -/
theorem wifi_known (hwifi : field bytes (offset_cmsg abi + 4) 4 < 3) :
    ∃ t sender, ∀ mem,
      daemonMessage (requestAt abi (store mem 0 bytes)) isReq =
        (0, some (.LocEngReqRelWifi t sender
          (text (store mem 0 bytes) (offset_ssid abi) 32)
          (text (store mem 0 bytes) (offset_password abi) 32) isReq)) := by
  obtain ⟨t, ht⟩ := type_known hcov htype
  have hsenders : ∀ mem, (requestAt abi (store mem 0 bytes)).sender_id.toNat
      = field bytes (offset_cmsg abi + 4) 4 := fun mem =>
    requestAt_sender_covered mem hcov
  refine ⟨t, (requestAt abi (store (fun _ => 0) 0 bytes)).sender_id,
    fun mem => ?_⟩
  rw [daemonMessage_wifi isReq (ht mem) ((hsenders mem).symm ▸ hwifi),
    requestAt_ssid, requestAt_password,
    UInt32.toNat_inj.mp ((hsenders mem).trans (hsenders _).symm)]

end Known

/-- **ENOUGH**: what a handler does is the same in every memory. -/
theorem message_determined (h : MessageReceived abi bytes) (isReq : Bool) :
    Determined bytes
      (fun mem => daemonMessage (requestAt abi mem) isReq) := by
  intro mem mem'
  dsimp only
  by_cases htype : field bytes (offset_cmsg abi) 4 < 3
  · by_cases hsender : field bytes (offset_cmsg abi + 4) 4 < 4
    · have hcov := covered_of_numberReceived (h.sender htype) hsender
      by_cases hwifi : field bytes (offset_cmsg abi + 4) 4 < 3
      · obtain ⟨hssid, hpassword⟩ := h.texts htype hwifi
        obtain ⟨t, sender, hmsg⟩ := wifi_known hcov htype isReq hwifi
        have htext₁ := (determined_text_iff (by decide)).mpr hssid mem mem'
        have htext₂ := (determined_text_iff (by decide)).mpr hpassword mem mem'
        dsimp only at htext₁ htext₂
        rw [hmsg, hmsg, htext₁, htext₂]
      · have hbit : field bytes (offset_cmsg abi + 4) 4 = 3 := by omega
        have hlen := h.addresses htype hbit
        rw [offset_ssid_eq] at hlen
        obtain ⟨t, hmsg⟩ := bit_known hcov htype isReq hbit
        rw [hmsg, hmsg, requestAt_ipv4, requestAt_ipv4,
          leVal_load_covered mem (by omega), leVal_load_covered mem' (by omega),
          load_store_covered mem hlen, load_store_covered mem' hlen]
    · have hlarge := le_leVal_load (Nat.le_of_not_lt hsender)
      rw [daemonMessage_sender isReq (by rw [requestAt_sender]; exact hlarge mem),
        daemonMessage_sender isReq
          (by rw [requestAt_sender]; exact hlarge mem')]
  · have hlarge := le_leVal_load (Nat.le_of_not_lt htype)
    rw [daemonMessage_type isReq (by rw [requestAt_type]; exact hlarge mem),
      daemonMessage_type isReq (by rw [requestAt_type]; exact hlarge mem')]

/-- Where nothing but zeros was, the numbers are what has come of them. -/
theorem isSome_zero_iff (isReq : Bool) :
    (daemonMessage (requestAt abi (store (fun _ => 0) 0 bytes)) isReq).2.isSome
        = true ↔
      field bytes (offset_cmsg abi) 4 < 3 ∧
        field bytes (offset_cmsg abi + 4) 4 < 4 := by
  rw [daemonMessage_isSome_iff, requestAt_type, requestAt_sender,
    leVal_load_zero, leVal_load_zero]
  rfl

/-- Nothing of a number is zero. -/
theorem field_none {a n : Nat} (h : bytes.length ≤ a) :
    field bytes a n = 0 := by
  rw [field, List.drop_eq_nil_of_le h, List.take_nil]
  rfl

/-- **NEEDED**: what the handler comes to has been received, or it does
    otherwise in another memory. -/
theorem messageReceived_of_determined (isReq : Bool)
    (h : Determined bytes
      (fun mem => daemonMessage (requestAt abi mem) isReq)) :
    MessageReceived abi bytes := by
  have hsome : ∀ mem, field bytes (offset_cmsg abi) 4 < 3 →
      field bytes (offset_cmsg abi + 4) 4 < 4 →
      leVal (load (store mem 0 bytes) (offset_cmsg abi) 4) < 3 ∧
        leVal (load (store mem 0 bytes) (offset_cmsg abi + 4) 4) < 4 := by
    intro mem htype hsender
    have hzero := (@isSome_zero_iff abi bytes isReq).mpr ⟨htype, hsender⟩
    have heq := h (fun _ => 0) mem
    dsimp only at heq
    rw [heq, daemonMessage_isSome_iff, requestAt_type, requestAt_sender] at hzero
    exact hzero
  have htypecov : NumberReceived bytes (offset_cmsg abi) 3 := by
    by_contra hnot
    obtain ⟨hshort, hlow⟩ := not_or.mp hnot
    -- nothing of the sender has come
    have hsender : field bytes (offset_cmsg abi + 4) 4 = 0 :=
      field_none (by omega)
    have hmax := @le_leVal_load_max bytes (offset_cmsg abi) 4 (by decide)
      (by omega)
    have hlt := (hsome (fun _ => 255) (by omega) (by omega)).1
    omega
  have hsendercov : field bytes (offset_cmsg abi) 4 < 3 →
      NumberReceived bytes (offset_cmsg abi + 4) 4 := by
    intro htype
    by_contra hnot
    obtain ⟨hshort, hlow⟩ := not_or.mp hnot
    have hmax := @le_leVal_load_max bytes (offset_cmsg abi + 4) 4 (by decide)
      (by omega)
    have hlt := (hsome (fun _ => 255) (by omega) (by omega)).2
    omega
  refine ⟨htypecov, hsendercov, fun htype hbit => ?_, fun htype hwifi => ?_⟩
  · have hcov := covered_of_numberReceived (hsendercov htype) (by omega)
    obtain ⟨t, hmsg⟩ := bit_known hcov htype isReq hbit
    refine (determined_load_iff (by decide)).mp fun mem mem' => ?_
    have heq := h mem mem'
    dsimp only at heq
    rw [hmsg, hmsg] at heq
    simp only [Prod.mk.injEq, Option.some.injEq,
      DaemonMsg.LocEngReqRelBIT.injEq] at heq
    exact heq.2.2.2.1
  · have hcov := covered_of_numberReceived (hsendercov htype) (by omega)
    obtain ⟨t, sender, hmsg⟩ := wifi_known hcov htype isReq hwifi
    have htexts : ∀ mem mem', _ ∧ _ := fun mem mem' => by
      have heq := h mem mem'
      dsimp only at heq
      rw [hmsg, hmsg] at heq
      simp only [Prod.mk.injEq, Option.some.injEq,
        DaemonMsg.LocEngReqRelWifi.injEq] at heq
      exact ⟨heq.2.2.2.1, heq.2.2.2.2.1⟩
    exact ⟨(determined_text_iff (by decide)).mp
        fun mem mem' => (htexts mem mem').1,
      (determined_text_iff (by decide)).mp fun mem mem' => (htexts mem mem').2⟩

end Determined

/-! ## The dispatch -/

/-- `ctrl_type` in the memory. -/
def ctrlTypeAt (abi : Abi) (mem : Memory) : UInt8 :=
  UInt8.ofNat (leVal (load mem (offset_ctrl_type abi) 1))

theorem offset_ctrl_type_le (abi : Abi) : offset_ctrl_type abi + 1 ≤ sz abi := by
  cases abi <;> decide

theorem daemonDispatch_load (mem : Memory) :
    daemonDispatch abi loc_api_handle (load mem 0 (sz abi)) =
      if ctrlTypeAt abi mem = GPSONE_LOC_API_IF_REQUEST then
        .if_request (if loc_api_handle then
          daemonMessage (requestAt abi mem) true else (1, none))
      else if ctrlTypeAt abi mem = GPSONE_LOC_API_IF_RELEASE then
        .if_release (daemonMessage (requestAt abi mem) false)
      else if ctrlTypeAt abi mem = GPSONE_UNBLOCK then .unblock
      else .unsupported := by
  rw [daemonDispatch, field_load mem (offset_ctrl_type_le abi)]
  rfl

theorem load_one (mem : Memory) (a : Nat) : load mem a 1 = [mem a] := rfl

theorem ctrlTypeAt_eq (mem : Memory) :
    ctrlTypeAt abi mem = mem (offset_ctrl_type abi) := by
  rw [ctrlTypeAt, load_one, leVal, leVal, Nat.mul_zero, Nat.add_zero]
  exact UInt8.ofNat_toNat

section Dispatch

variable {bytes : List UInt8}

theorem ctrlTypeAt_covered (mem : Memory)
    (h : offset_ctrl_type abi < bytes.length) :
    (ctrlTypeAt abi (store mem 0 bytes)).toNat
      = field bytes (offset_ctrl_type abi) 1 := by
  have hlt := leVal_lt (load (store mem 0 bytes) (offset_ctrl_type abi) 1)
  rw [length_load, Nat.pow_one] at hlt
  rw [ctrlTypeAt, UInt8.toNat_ofNat', Nat.mod_eq_of_lt hlt,
    leVal_load_covered mem h]

/-- What was there is the control type of a frame that does not reach it. -/
theorem ctrlTypeAt_short (b : UInt8) (h : bytes.length ≤ offset_ctrl_type abi) :
    ctrlTypeAt abi (store (fun _ => b) 0 bytes) = b := by
  rw [ctrlTypeAt_eq, store_outside _ (Or.inr (by omega))]

/-- **THE DISPATCH** is the same whatever was in the buffer if and only if
    the frame has all that it comes to. -/
theorem dispatch_determined_iff :
    Determined bytes (fun mem =>
        daemonDispatch abi loc_api_handle (load mem 0 (sz abi))) ↔
      RequestReceived abi loc_api_handle bytes := by
  by_cases hcov : offset_ctrl_type abi < bytes.length
  · have hctrl : ∀ mem, ctrlTypeAt abi (store mem 0 bytes)
        = ctrlTypeAt abi (store (fun _ => 0) 0 bytes) := fun mem =>
      UInt8.toNat_inj.mp ((ctrlTypeAt_covered mem hcov).trans
        (ctrlTypeAt_covered _ hcov).symm)
    have hval := ctrlTypeAt_covered (fun _ => 0) hcov
    have hiff : RequestReceived abi loc_api_handle bytes ↔
        (LooksAtRequest abi loc_api_handle bytes →
          MessageReceived abi bytes) :=
      ⟨fun h => h.message, fun h => ⟨hcov, h⟩⟩
    rw [hiff, LooksAtRequest, ← hval]
    simp only [Determined, daemonDispatch_load, hctrl]
    by_cases hreq : ctrlTypeAt abi (store (fun _ => 0) 0 bytes)
        = GPSONE_LOC_API_IF_REQUEST
    · rw [hreq]
      cases loc_api_handle with
      | false =>
          refine iff_of_true (fun _ _ => rfl) ?_
          rintro (⟨-, h⟩ | h)
          · cases h
          · exact absurd h (by decide)
      | true =>
          refine ⟨fun h _ => ?_, fun h mem mem' => ?_⟩
          · refine messageReceived_of_determined true
              fun mem mem' => ?_
            exact DaemonDispatch.if_request.inj (h mem mem')
          · exact congrArg DaemonDispatch.if_request
              (message_determined (h (Or.inl ⟨rfl, rfl⟩)) true mem mem')
    · by_cases hrel : ctrlTypeAt abi (store (fun _ => 0) 0 bytes)
          = GPSONE_LOC_API_IF_RELEASE
      · rw [hrel]
        refine ⟨fun h _ => ?_, fun h mem mem' => ?_⟩
        · refine messageReceived_of_determined false
            fun mem mem' => ?_
          exact DaemonDispatch.if_release.inj (h mem mem')
        · exact congrArg DaemonDispatch.if_release
            (message_determined (h (Or.inr rfl)) false mem mem')
      · -- no handler is called
        refine iff_of_true (fun mem mem' => ?_) (fun hlooks => ?_)
        · rw [if_neg hreq, if_neg hrel, if_neg hreq, if_neg hrel]
        · rcases hlooks with ⟨h, -⟩ | h
          · exact absurd (UInt8.toNat_inj.mp h) hreq
          · exact absurd (UInt8.toNat_inj.mp h) hrel
  · refine iff_of_false (fun h => ?_) (fun h => hcov h.ctrl_type)
    have heq := h (fun _ => GPSONE_UNBLOCK) (fun _ => 0)
    dsimp only at heq
    have hshort := Nat.le_of_not_lt hcov
    rw [daemonDispatch_load, daemonDispatch_load, ctrlTypeAt_short _ hshort,
      ctrlTypeAt_short _ hshort] at heq
    have hunblock : DaemonDispatch.unblock = .unsupported := heq
    cases hunblock

/-- A frame that reaches the end of the password has everything. -/
theorem requestReceived_of_whole
    (h : offset_password abi + 32 ≤ bytes.length) :
    RequestReceived abi loc_api_handle bytes := by
  rw [offset_password_eq, offset_ssid_eq] at h
  have hctrl : offset_ctrl_type abi < offset_cmsg abi := by
    cases abi <;> decide
  refine ⟨by omega, fun _ => ⟨Or.inl (by omega), fun _ => Or.inl (by omega),
    fun _ _ => ?_, fun _ _ => ⟨Or.inl ?_, Or.inl ?_⟩⟩⟩
  · rw [offset_ssid_eq]
    omega
  · rw [offset_ssid_eq]
    omega
  · rw [offset_password_eq, offset_ssid_eq]
    omega

end Dispatch

/-! ## The frame received -/

/-- The bytes that a call of `msgrcv` which does not fail has put into the
    buffer. -/
def received (abi : Abi) (read₁ : ReadResult (sizeof_size_t abi))
    (read₂ : ∀ sz, ReadResult sz) : Option (List UInt8) :=
  (header abi read₁).bind (fun msgsz =>
    if 0 < msgsz ∧ msgsz ≤ sz abi ∧
        (read₂ (secondCount abi msgsz)).len = toInt (secondCount abi msgsz) then
      some (read₁.written ++ (read₂ (secondCount abi msgsz)).written)
    else none)

theorem header_length {read₁ : ReadResult (sizeof_size_t abi)} {msgsz : Nat}
    (h : header abi read₁ = some msgsz) :
    read₁.written.length = sizeof_size_t abi := by
  cases read₁ with
  | error => cases h
  | done bytes le =>
      by_contra hne
      have hnone : header abi (.done bytes le) = none := if_neg hne
      rw [hnone] at h
      cases h

theorem sz_lt (abi : Abi) : sz abi < 2 ^ 31 := by
  cases abi <;> decide

/-- The two reads of a message are one write of its bytes. -/
theorem msgrcvRun_received {msgsz : Nat}
    {read₁ : ReadResult (sizeof_size_t abi)} (read₂ : ∀ sz, ReadResult sz)
    (mem : Memory) (h : header abi read₁ = some msgsz)
    (hle : msgsz ≤ sz abi)
    (hlen : (read₂ (secondCount abi msgsz)).len
      = toInt (secondCount abi msgsz)) :
    (msgrcvRun abi (sz abi) read₁ read₂ mem).result = msgsz ∧
      (msgrcvRun abi (sz abi) read₁ read₂ mem).mem = store mem 0
        (read₁.written ++ (read₂ (secondCount abi msgsz)).written) := by
  have hsz := sz_lt abi
  rw [msgrcvRun_header h, if_neg (Nat.not_lt.mpr hle), if_pos hlen,
    toInt_of_lt (by omega), store_append, header_length h, Nat.zero_add]
  exact ⟨rfl, rfl⟩

theorem msgrcvRun_fails {read₁ : ReadResult (sizeof_size_t abi)}
    {read₂ : ∀ sz, ReadResult sz} (mem : Memory)
    (h : received abi read₁ read₂ = none) :
    (msgrcvRun abi (sz abi) read₁ read₂ mem).result ≤ 0 := by
  have hneg : (-1 : Int) ≤ 0 := by decide
  cases hheader : header abi read₁ with
  | none =>
      rw [msgrcvRun_none hheader]
      exact hneg
  | some msgsz =>
      rw [received, hheader, Option.bind_some] at h
      rw [msgrcvRun_header hheader]
      by_cases hsmall : sz abi < msgsz
      · rw [if_pos hsmall]
        exact hneg
      · rw [if_neg hsmall]
        show (if _ then _ else _ : Int) ≤ 0
        by_cases hlen : (read₂ (secondCount abi msgsz)).len
            = toInt (secondCount abi msgsz)
        · have hzero : msgsz = 0 := by
            by_contra hne
            rw [if_pos ⟨Nat.pos_of_ne_zero hne, Nat.le_of_not_lt hsmall, hlen⟩]
              at h
            cases h
          rw [if_pos hlen, hzero, toInt_of_lt (by decide)]
          exact Int.le_refl 0
        · rw [if_neg hlen]
          exact hneg

/-- **ONE CALL** of the server on memory from `malloc`. -/
theorem loc_api_server_procRun_eq (read₁ : ReadResult (sizeof_size_t abi))
    (read₂ : ∀ sz, ReadResult sz) (mem : Memory) :
    loc_api_server_procRun abi loc_api_handle (some mem) read₁ read₂ =
      match received abi read₁ read₂ with
      | none => (-1, none)
      | some bytes => (0, some (daemonDispatch abi loc_api_handle
          (load (store mem 0 bytes) 0 (sz abi)))) := by
  rw [loc_api_server_procRun]
  cases hrcv : received abi read₁ read₂ with
  | none => exact if_pos (msgrcvRun_fails mem hrcv)
  | some bytes =>
      obtain ⟨msgsz, hheader, hif⟩ := Option.bind_eq_some_iff.mp hrcv
      by_cases hok : 0 < msgsz ∧ msgsz ≤ sz abi ∧
          (read₂ (secondCount abi msgsz)).len = toInt (secondCount abi msgsz)
      · rw [if_pos hok] at hif
        obtain ⟨hresult, hmem⟩ :=
          msgrcvRun_received read₂ mem hheader hok.2.1 hok.2.2
        rw [Option.some.inj hif] at hmem
        dsimp only
        rw [hresult, hmem, if_neg (by omega)]
      · rw [if_neg hok] at hif
        cases hif

/-- **ONLY THE BYTES RECEIVED**: whatever the reads bring, two calls on
    memory with different contents do the same if and only if the frame, if
    one is received, has all that its handler comes to. -/
theorem loc_api_server_proc_determined_iff (abi : Abi) (loc_api_handle : Bool)
    (read₁ : ReadResult (sizeof_size_t abi)) (read₂ : ∀ sz, ReadResult sz) :
    (∀ mem mem', loc_api_server_procRun abi loc_api_handle (some mem) read₁
        read₂ = loc_api_server_procRun abi loc_api_handle (some mem') read₁
          read₂) ↔
      ∀ bytes, received abi read₁ read₂ = some bytes →
        RequestReceived abi loc_api_handle bytes := by
  simp only [loc_api_server_procRun_eq]
  cases received abi read₁ read₂ with
  | none => exact iff_of_true (fun _ _ => rfl) (fun _ h => (by cases h))
  | some bytes =>
      have hone : (∀ bytes', some bytes = some bytes' →
          RequestReceived abi loc_api_handle bytes') ↔
          RequestReceived abi loc_api_handle bytes :=
        ⟨fun h => h bytes rfl, fun h _ he => Option.some.inj he ▸ h⟩
      rw [hone, ← dispatch_determined_iff]
      simp only [Determined, Prod.mk.injEq, Option.some.injEq, true_and]

/-- A request that ends behind its control type. -/
theorem short_request_reads_malloc :
    ¬ (∀ abi loc_api_handle read₁ read₂ mem mem',
      loc_api_server_procRun abi loc_api_handle (some mem) read₁ read₂ =
        loc_api_server_procRun abi loc_api_handle (some mem') read₁ read₂) := by
  intro hall
  have heq := hall .lp64 true (.done [17, 0, 0, 0, 0, 0, 0, 0] (by decide))
    (pipeRead (List.replicate 8 0 ++ [GPSONE_LOC_API_IF_REQUEST]))
    (fun _ => 0) (fun _ => 255)
  exact absurd heq (by decide +kernel)

/-! ## Frames in the pipe -/

/-- A frame at the head of the pipe that fits the buffer is received. -/
theorem received_pipe (f : Frame abi) (rest : List UInt8)
    (hle : f.msgsz ≤ sz abi) :
    received abi (pipeRead (f.bytes ++ rest) (sizeof_size_t abi))
      (pipeRead ((f.bytes ++ rest).drop (sizeof_size_t abi)))
        = some f.bytes := by
  have hsize : (f.bytes ++ rest).take (sizeof_size_t abi)
      = leBytes (sizeof_size_t abi) f.msgsz := by
    rw [Frame.bytes, List.append_assoc, List.take_left' (length_leBytes _ _)]
  have hbody : (f.bytes ++ rest).drop (sizeof_size_t abi)
      = f.body ++ rest := by
    rw [Frame.bytes, List.append_assoc, List.drop_left' (length_leBytes _ _)]
  have hheader : header abi (pipeRead (f.bytes ++ rest) (sizeof_size_t abi))
      = some f.msgsz := by
    have hlen : ((f.bytes ++ rest).take (sizeof_size_t abi)).length
        = sizeof_size_t abi := by
      rw [hsize, length_leBytes]
    have hval : leVal (leBytes (sizeof_size_t abi) f.msgsz) = f.msgsz :=
      leVal_leBytes f.lt_range
    refine (if_pos hlen).trans ?_
    rw [hsize, hval]
  have hcount : secondCount abi f.msgsz = f.body.length :=
    (sub_sizeof f).trans f.length_body.symm
  have hpos : 0 < f.msgsz := by
    have hsizeof : 0 < sizeof_size_t abi := by cases abi <;> decide
    exact Nat.lt_of_lt_of_le hsizeof f.sizeof_le
  have hlen : (pipeRead (f.body ++ rest) (secondCount abi f.msgsz)).len
      = toInt (secondCount abi f.msgsz) := by
    refine pipeRead_len ?_
    rw [hcount, List.length_append]
    exact Nat.le_add_right _ _
  rw [received, hheader, Option.bind_some, hbody, if_pos ⟨hpos, hle, hlen⟩]
  have hwritten : (pipeRead (f.body ++ rest)
      (secondCount abi f.msgsz)).written = f.body := by
    rw [hcount]
    exact List.take_left
  rw [hwritten]
  exact congrArg (fun l => some (l ++ f.body)) hsize

/-- **ON THE PIPE** the server's model does the same, but for the texts. -/
theorem loc_api_server_proc_pipe (f : Frame abi) (rest : List UInt8)
    (mem : Memory) (hle : f.msgsz ≤ sz abi) :
    ∃ d, loc_api_server_procRun abi loc_api_handle (some mem)
        (pipeRead (f.bytes ++ rest) (sizeof_size_t abi))
        (pipeRead ((f.bytes ++ rest).drop (sizeof_size_t abi)))
          = (0, some d) ∧
      loc_api_server_proc abi loc_api_handle true
        (load mem f.msgsz (sz abi - f.msgsz)) (f.bytes ++ rest)
          = some (0, some ⟨ctrlTypeAt abi (store mem 0 f.bytes),
              d.handled.map (fun r => (r.1, r.2.map DaemonMsg.toLocMsg))⟩,
            rest) := by
  refine ⟨daemonDispatch abi loc_api_handle
    (load (store mem 0 f.bytes) 0 (sz abi)), ?_, ?_⟩
  · rw [loc_api_server_procRun_eq, received_pipe f rest hle]
  · have hpart : part f.bytes 0 (sz abi) = f.bytes := by
      rw [part, List.drop_zero, List.take_of_length_le]
      rw [f.length_bytes]
      exact hle
    have hbuf : f.bytes ++ load mem f.msgsz (sz abi - f.msgsz)
        = load (store mem 0 f.bytes) 0 (sz abi) := by
      rw [load_store_part, hpart, f.length_bytes, Nat.zero_add]
    rw [server_proc_frame, if_pos hle, hbuf, dispatch_daemonDispatch,
      field_load _ (offset_ctrl_type_le abi)]
    rfl

end QcomDmnConn
