import QcomCommon.BinderProofs
import QcomCommon.SessionProofs

/-! # The camera device behind the binder

    `ICameraDeviceUser.cpp` of `libshims`: the proxy in the application writes
    a call into a parcel, the stub in the service reads it, calls the device
    and writes the answer, and the proxy reads that.

    A session with the proxy is one with the device, call by call with the
    same arguments and the same states (`device_remote`); but a stream without
    a producer never gets to the device, and where the caller asks for no frame
    number, the proxy always answers `FAILED_TRANSACTION`.  And a call that
    gets no reply is answered as if it went well, by all methods but five. -/

namespace QcomCameraDevice

open QcomBinder QcomSession

/-- The transactions. -/
inductive Transaction where
  | DISCONNECT
  | SUBMIT_REQUEST
  | SUBMIT_REQUEST_LIST
  | CANCEL_REQUEST
  | BEGIN_CONFIGURE
  | END_CONFIGURE
  | DELETE_STREAM
  | CREATE_STREAM
  | CREATE_INPUT_STREAM
  | GET_INPUT_SURFACE
  | CREATE_DEFAULT_REQUEST
  | GET_CAMERA_INFO
  | WAIT_UNTIL_IDLE
  | FLUSH
  | PREPARE
  | TEAR_DOWN
  | PREPARE2

/-- `ICameraDeviceUser`, with a state `σ`; what is stored through a pointer
    starts with what was there. -/
structure ICameraDeviceUser (σ B : Type) where
  disconnect : σ → σ
  submitRequest : Option (CaptureRequest B) → Bool → BitVec 64 → σ →
    (Word × BitVec 64) × σ
  submitRequestList : List (Option (CaptureRequest B)) → Bool → BitVec 64 →
    σ → (Word × BitVec 64) × σ
  cancelRequest : Word → BitVec 64 → σ → (Word × BitVec 64) × σ
  beginConfigure : σ → Word × σ
  endConfigure : Bool → σ → Word × σ
  deleteStream : Word → σ → Word × σ
  createStream : OutputConfiguration B → σ → Word × σ
  createInputStream : Word → Word → Word → σ → Word × σ
  getInputBufferProducer : Option B → σ → (Word × Option B) × σ
  createDefaultRequest : Word → CameraMetadata → σ →
    (Word × CameraMetadata) × σ
  getCameraInfo : CameraMetadata → σ → (Word × CameraMetadata) × σ
  waitUntilIdle : σ → Word × σ
  flush : BitVec 64 → σ → (Word × BitVec 64) × σ
  prepare : Word → σ → Word × σ
  prepare2 : Word → Word → σ → Word × σ
  tearDown : Word → σ → Word × σ

/-- What a caller gets: the result, and what was stored through the pointer of
    the call, if anything was. -/
structure Answer (B : Type) where
  result : Word
  lastFrameNumber : Option (BitVec 64) := none
  producer : Option (Option B) := none
  metadata : Option CameraMetadata := none

variable {σ W B : Type} (P : Binder W B) (L : MetadataLib)

/-- How a call gets to the other side: what it replies, and its state. -/
abbrev Transact (σ W : Type) := Transaction → List W → σ → List W × σ

/-! ## The stub -/

/-- A request, or the mark that there is none. -/
def writeMaybeRequest : Option (CaptureRequest B) → List W
  | some request => P.int32.write 1 ++ writeRequest P L request
  | none => P.int32.write 0

/-- The loop over the requests; `none` where one cannot be read. -/
def readRequests : Nat → List W →
    Option (List (Option (CaptureRequest B)) × List W)
  | 0, p => some ([], p)
  | n + 1, p =>
      let present := P.readInt32 p
      if present.1 ≠ 0 then
        let request := readRequest P L present.2
        if request.1 then
          (readRequests n request.2.2).map fun others =>
            (some request.2.1 :: others.1, others.2)
        else none
      else
        (readRequests n present.2).map fun others =>
          (none :: others.1, others.2)

/-- The reply of a method with a frame number. -/
def replyFrame (r : (Word × BitVec 64) × σ) : List W × σ :=
  (P.writeNoException ++ (P.int32.write r.1.1
    ++ (P.int32.write 1 ++ P.int64.write r.1.2)), r.2)

/-- The reply of a method with nothing but a result. -/
def replyResult (r : Word × σ) : List W × σ :=
  (P.writeNoException ++ P.int32.write r.1, r.2)

/-- The reply of a method with metadata. -/
def replyMetadata (r : (Word × CameraMetadata) × σ) : List W × σ :=
  (P.writeNoException ++ (P.int32.write r.1.1
    ++ (P.int32.write 1 ++ writeMetadata P L r.1.2)), r.2)

/-- The `switch` of `BnCameraDeviceUser::onTransact`, behind the check of the
    interface. -/
def dispatch (device : ICameraDeviceUser σ B) (code : Transaction)
    (data : List W) (s : σ) : List W × σ :=
  match code with
  | .DISCONNECT => (P.writeNoException, device.disconnect s)
  | .SUBMIT_REQUEST =>
      let present := P.readInt32 data
      let request :=
        if present.1 ≠ 0 then
          let request := readRequest P L present.2
          (some request.2.1, request.2.2)
        else (none, present.2)
      let repeating := P.readInt32 request.2
      replyFrame P
        (device.submitRequest request.1 (repeating.1 ≠ 0) (-1) s)
  | .SUBMIT_REQUEST_LIST =>
      let size := P.readInt32 data
      match readRequests P L size.1.toInt.toNat size.2 with
      | none => ([], s)
      | some requestList =>
          let repeating := P.readInt32 requestList.2
          replyFrame P
            (device.submitRequestList requestList.1 (repeating.1 ≠ 0) (-1) s)
  | .CANCEL_REQUEST =>
      replyFrame P (device.cancelRequest (P.readInt32 data).1 (-1) s)
  | .DELETE_STREAM =>
      replyResult P (device.deleteStream (P.readInt32 data).1 s)
  | .CREATE_STREAM =>
      let present := P.readInt32 data
      if present.1 ≠ 0 then
        replyResult P
          (device.createStream (readConfiguration P present.2).1 s)
      else replyResult P (BAD_VALUE, s)
  | .CREATE_INPUT_STREAM =>
      let width := P.readInt32 data
      let height := P.readInt32 width.2
      let format := P.readInt32 height.2
      replyResult P (device.createInputStream width.1 height.1 format.1 s)
  | .GET_INPUT_SURFACE =>
      let r := device.getInputBufferProducer none s
      let b := if r.1.1 = NO_ERROR then r.1.2 else none
      (P.writeNoException ++ (P.int32.write r.1.1 ++ (P.int32.write 1
        ++ (P.string16.write "camera input" ++ P.strongBinder.write b))), r.2)
  | .CREATE_DEFAULT_REQUEST =>
      replyMetadata P L
        (device.createDefaultRequest (P.readInt32 data).1 none s)
  | .GET_CAMERA_INFO => replyMetadata P L (device.getCameraInfo none s)
  | .WAIT_UNTIL_IDLE => replyResult P (device.waitUntilIdle s)
  | .FLUSH => replyFrame P (device.flush (-1) s)
  | .BEGIN_CONFIGURE => replyResult P (device.beginConfigure s)
  | .END_CONFIGURE =>
      replyResult P (device.endConfigure ((P.readInt32 data).1 ≠ 0) s)
  | .PREPARE => replyResult P (device.prepare (P.readInt32 data).1 s)
  | .TEAR_DOWN => replyResult P (device.tearDown (P.readInt32 data).1 s)
  | .PREPARE2 =>
      let maxCount := P.readInt32 data
      let streamId := P.readInt32 maxCount.2
      replyResult P (device.prepare2 maxCount.1 streamId.1 s)

/-- `BnCameraDeviceUser::onTransact`: without the token of the interface there
    is no reply. -/
def onTransact (device : ICameraDeviceUser σ B) : Transact σ W :=
  fun code data s =>
    match P.interfaceToken.read data with
    | none => ([], s)
    | some (_, data) => dispatch P L device code data s

/-! ## The proxy -/

/-- A call with its arguments, and whether the caller wants what can be stored
    through a pointer. -/
inductive Call (B : Type) where
  | disconnect
  | submitRequest (request : Option (CaptureRequest B)) (repeating : Bool)
      (wanted : Bool)
  | submitRequestList (requestList : List (Option (CaptureRequest B)))
      (repeating : Bool) (wanted : Bool)
  | cancelRequest (requestId : Word) (wanted : Bool)
  | beginConfigure
  | endConfigure (isConstrainedHighSpeed : Bool)
  | deleteStream (streamId : Word)
  | createStream (outputConfiguration : OutputConfiguration B)
  | createInputStream (width height format : Word)
  | getInputBufferProducer (wanted : Bool)
  | createDefaultRequest (templateId : Word) (wanted : Bool)
  | getCameraInfo (wanted : Bool)
  | waitUntilIdle
  | flush (wanted : Bool)
  | prepare (streamId : Word)
  | prepare2 (maxCount streamId : Word)
  | tearDown (streamId : Word)

/-- The result and the frame number in a reply; `fails` is what the method
    takes for a failure of the device. -/
def readFrameReply (fails : Word → Bool) (wanted : Bool) (reply : List W) :
    Answer B :=
  let res := P.readInt32 (P.readExceptionCode reply).2
  let present := P.readInt32 res.2
  let frame :=
    if present.1 ≠ 0 ∧ wanted then (P.int64.read present.2).map Prod.fst
    else none
  { result :=
      if fails res.1 ∨ frame = none then FAILED_TRANSACTION else res.1
    lastFrameNumber := frame }

/-- The result in a reply. -/
def readResultReply (reply : List W) : Answer B :=
  { result := (P.readInt32 (P.readExceptionCode reply).2).1 }

/-- The result and the metadata in a reply. -/
def readMetadataReply (wanted : Bool) (reply : List W) : Answer B :=
  let result := P.readInt32 (P.readExceptionCode reply).2
  let present := P.readInt32 result.2
  let out :=
    if present.1 ≠ 0 then (readMetadata P L present.2).1.getD none else none
  { result := result.1, metadata := if wanted then some out else none }

/-- The producer in a reply. -/
def readProducerReply (reply : List W) : Answer B :=
  let result := P.readInt32 (P.readExceptionCode reply).2
  if result.1 ≠ NO_ERROR then { result := result.1 }
  else
    let present := P.readInt32 result.2
    let bp :=
      if present.1 ≠ 0 then
        (P.readStrongBinder (P.readString16Inplace present.2).2).1
      else none
    { result := if bp = none then INVALID_OPERATION else NO_ERROR
      producer := some bp }

/-- A negative result. -/
def negative (res : Word) : Bool := res.toInt < 0

/-- A result that is an error. -/
def isError (res : Word) : Bool := res ≠ NO_ERROR

/-- A method of `BpCameraDeviceUser` that writes `args` behind the token of
    the interface. -/
def transactWith (remote : Transact σ W) (code : Transaction) (args : List W)
    (read : List W → Answer B) (s : σ) : Answer B × σ :=
  let r := remote code (P.interfaceToken.write () ++ args) s
  (read r.1, r.2)

/-- The methods of `BpCameraDeviceUser`. -/
def proxy (remote : Transact σ W) : Call B → σ → Answer B × σ
  | .disconnect, s =>
      transactWith P remote .DISCONNECT [] (fun _ => { result := NO_ERROR }) s
  | .submitRequest request repeating wanted, s =>
      transactWith P remote .SUBMIT_REQUEST
        (writeMaybeRequest P L request ++ P.writeBool repeating)
        (readFrameReply P negative wanted) s
  | .submitRequestList requestList repeating wanted, s =>
      transactWith P remote .SUBMIT_REQUEST_LIST
        (P.int32.write (.ofNat 32 requestList.length)
          ++ (requestList.flatMap (writeMaybeRequest P L)
            ++ P.writeBool repeating))
        (readFrameReply P negative wanted) s
  | .cancelRequest requestId wanted, s =>
      transactWith P remote .CANCEL_REQUEST (P.int32.write requestId)
        (readFrameReply P isError wanted) s
  | .beginConfigure, s =>
      transactWith P remote .BEGIN_CONFIGURE [] (readResultReply P) s
  | .endConfigure isConstrainedHighSpeed, s =>
      transactWith P remote .END_CONFIGURE
        (P.writeBool isConstrainedHighSpeed) (readResultReply P) s
  | .deleteStream streamId, s =>
      transactWith P remote .DELETE_STREAM (P.int32.write streamId)
        (readResultReply P) s
  | .createStream outputConfiguration, s =>
      transactWith P remote .CREATE_STREAM
        (if outputConfiguration.mGbp.isSome then
          P.int32.write 1 ++ writeConfiguration P outputConfiguration
        else P.int32.write 0) (readResultReply P) s
  | .createInputStream width height format, s =>
      transactWith P remote .CREATE_INPUT_STREAM
        (P.int32.write width ++ (P.int32.write height ++ P.int32.write format))
        (readResultReply P) s
  | .getInputBufferProducer wanted, s =>
      if wanted then
        transactWith P remote .GET_INPUT_SURFACE [] (readProducerReply P) s
      else ({ result := BAD_VALUE }, s)
  | .createDefaultRequest templateId wanted, s =>
      transactWith P remote .CREATE_DEFAULT_REQUEST (P.int32.write templateId)
        (readMetadataReply P L wanted) s
  | .getCameraInfo wanted, s =>
      transactWith P remote .GET_CAMERA_INFO [] (readMetadataReply P L wanted) s
  | .waitUntilIdle, s =>
      transactWith P remote .WAIT_UNTIL_IDLE [] (readResultReply P) s
  | .flush wanted, s =>
      transactWith P remote .FLUSH [] (readFrameReply P isError wanted) s
  | .prepare streamId, s =>
      transactWith P remote .PREPARE (P.int32.write streamId)
        (readResultReply P) s
  | .prepare2 maxCount streamId, s =>
      transactWith P remote .PREPARE2
        (P.int32.write maxCount ++ P.int32.write streamId)
        (readResultReply P) s
  | .tearDown streamId, s =>
      transactWith P remote .TEAR_DOWN (P.int32.write streamId)
        (readResultReply P) s

/-! ## What a caller gets -/

/-- The device itself, called in its own process with places for all that it
    stores: what it gives, and what it stores. -/
def called (device : ICameraDeviceUser σ B) : Call B → σ → Answer B × σ
  | .disconnect, s => ({ result := NO_ERROR }, device.disconnect s)
  | .submitRequest request repeating _, s =>
      frameOf (device.submitRequest request repeating (-1) s)
  | .submitRequestList requestList repeating _, s =>
      frameOf (device.submitRequestList requestList repeating (-1) s)
  | .cancelRequest requestId _, s =>
      frameOf (device.cancelRequest requestId (-1) s)
  | .beginConfigure, s => resultOf (device.beginConfigure s)
  | .endConfigure isConstrainedHighSpeed, s =>
      resultOf (device.endConfigure isConstrainedHighSpeed s)
  | .deleteStream streamId, s => resultOf (device.deleteStream streamId s)
  | .createStream outputConfiguration, s =>
      resultOf (device.createStream outputConfiguration s)
  | .createInputStream width height format, s =>
      resultOf (device.createInputStream width height format s)
  | .getInputBufferProducer _, s =>
      let r := device.getInputBufferProducer none s
      ({ result := r.1.1, producer := some r.1.2 }, r.2)
  | .createDefaultRequest templateId _, s =>
      metadataOf (device.createDefaultRequest templateId none s)
  | .getCameraInfo _, s => metadataOf (device.getCameraInfo none s)
  | .waitUntilIdle, s => resultOf (device.waitUntilIdle s)
  | .flush _, s => frameOf (device.flush (-1) s)
  | .prepare streamId, s => resultOf (device.prepare streamId s)
  | .prepare2 maxCount streamId, s =>
      resultOf (device.prepare2 maxCount streamId s)
  | .tearDown streamId, s => resultOf (device.tearDown streamId s)
where
  resultOf (r : Word × σ) : Answer B × σ := ({ result := r.1 }, r.2)
  frameOf (r : (Word × BitVec 64) × σ) : Answer B × σ :=
    ({ result := r.1.1, lastFrameNumber := some r.1.2 }, r.2)
  metadataOf (r : (Word × CameraMetadata) × σ) : Answer B × σ :=
    ({ result := r.1.1, metadata := some r.1.2 }, r.2)

/-- The answer to a call that does not get to the device: the stub refuses a
    configuration without a producer, and the proxy a call without a place for
    one. -/
def refused : Call B → Option (Answer B)
  | .createStream outputConfiguration =>
      if outputConfiguration.mGbp.isSome then none
      else some { result := BAD_VALUE }
  | .getInputBufferProducer wanted =>
      if wanted then none else some { result := BAD_VALUE }
  | _ => none

/-- The device behind the two. -/
def reached (device : ICameraDeviceUser σ B) : Call B → σ → Answer B × σ :=
  guarded refused (called device)

/-- The answer of a method with a frame number: without a place for the number
    it is a failure. -/
def seenFrame (fails : Word → Bool) (wanted : Bool) (a : Answer B) :
    Answer B :=
  if wanted then
    { a with result := if fails a.result then FAILED_TRANSACTION else a.result }
  else { result := FAILED_TRANSACTION }

/-- What the caller sees of the answer of the device. -/
def seen : Call B → Answer B → Answer B
  | .submitRequest _ _ wanted, a => seenFrame negative wanted a
  | .submitRequestList _ _ wanted, a => seenFrame negative wanted a
  | .cancelRequest _ wanted, a => seenFrame isError wanted a
  | .flush wanted, a => seenFrame isError wanted a
  | .getInputBufferProducer _, a =>
      if a.result ≠ NO_ERROR then { result := a.result }
      else if a.producer.join = none then { a with result := INVALID_OPERATION }
      else a
  | .createDefaultRequest _ wanted, a =>
      if wanted then a else { result := a.result }
  | .getCameraInfo wanted, a => if wanted then a else { result := a.result }
  | _, a => a

/-- The requests of a call can be written. -/
def CallFits : Call B → Prop
  | .submitRequest request _ _ => ∀ r ∈ request, RequestFits L r
  | .submitRequestList requestList _ _ =>
      requestList.length < 2 ^ 31
        ∧ ∀ request ∈ requestList, ∀ r ∈ request, RequestFits L r
  | _ => True

/-- The metadata that the device gives can be written. -/
structure DeviceFits (device : ICameraDeviceUser σ B) : Prop where
  createDefaultRequest : ∀ templateId s,
    MetadataFits L (device.createDefaultRequest templateId none s).1.2
  getCameraInfo : ∀ s, MetadataFits L (device.getCameraInfo none s).1.2

/-! ## Each call -/

variable {P L}

/-- A transaction is the dispatch of the stub, behind the check of the
    interface. -/
theorem transactWith_onTransact (device : ICameraDeviceUser σ B)
    (code : Transaction) (args : List W) (read : List W → Answer B) (s : σ) :
    transactWith P (onTransact P L device) code args read s
      = (read (dispatch P L device code args s).1,
          (dispatch P L device code args s).2) := by
  simp only [transactWith, onTransact, P.read_interfaceToken]

theorem writeBool_ne_zero (b : Bool) :
    decide ((if b then 1 else 0 : Word) ≠ 0) = b := by
  cases b <;> rfl

/-- A reply with the number of a frame is read as it was written. -/
theorem readFrameReply_replyFrame (fails : Word → Bool) (wanted : Bool)
    (r : (Word × BitVec 64) × σ) :
    readFrameReply P fails wanted (replyFrame P r).1
      = seenFrame (B := B) fails wanted
          { result := r.1.1, lastFrameNumber := some r.1.2 } := by
  have hread := P.read_int64 [] r.1.2
  rw [List.append_nil] at hread
  cases wanted <;> simp [readFrameReply, replyFrame, seenFrame, hread]

/-- So is one with a result alone. -/
theorem readResultReply_replyResult (r : Word × σ) :
    readResultReply P (replyResult P r).1 = { result := r.1 } := by
  simp [readResultReply, replyResult]

/-- And one with metadata that fits. -/
theorem readMetadataReply_replyMetadata (wanted : Bool)
    {r : (Word × CameraMetadata) × σ} (h : MetadataFits L r.1.2) :
    readMetadataReply P L wanted (replyMetadata P L r).1
      = if wanted then { result := r.1.1, metadata := some r.1.2 }
        else { result := r.1.1 } := by
  have hread := readMetadata_write P L h []
  rw [List.append_nil] at hread
  cases wanted <;> simp [readMetadataReply, replyMetadata, hread]

/-- The requests come back as they were written. -/
theorem readRequests_write {requestList : List (Option (CaptureRequest B))}
    (h : ∀ request ∈ requestList, ∀ r ∈ request, RequestFits L r)
    (rest : List W) :
    readRequests P L requestList.length
        (requestList.flatMap (writeMaybeRequest P L) ++ rest)
      = some (requestList, rest) := by
  induction requestList with
  | nil => rfl
  | cons request requestList ih =>
      have htail := ih fun request' h' => h request' (List.mem_cons_of_mem _ h')
      rw [List.flatMap_cons, List.length_cons, readRequests, List.append_assoc]
      cases request with
      | none => simp [writeMaybeRequest, htail]
      | some r =>
          have hr := readRequest_write P L (h _ List.mem_cons_self r rfl)
          simp [writeMaybeRequest, hr, htail]

variable {device : ICameraDeviceUser σ B}

/-- A call that is written, read and answered. -/
theorem proxy_submitRequest {request : Option (CaptureRequest B)}
    (h : ∀ r ∈ request, RequestFits L r) (repeating wanted : Bool) (s : σ) :
    proxy P L (onTransact P L device) (.submitRequest request repeating wanted) s
      = (seen (.submitRequest request repeating wanted)
            (reached device (.submitRequest request repeating wanted) s).1,
          (reached device (.submitRequest request repeating wanted) s).2) := by
  rw [proxy, transactWith_onTransact]
  cases request with
  | none =>
      have hzero : ¬ (0 : Word) ≠ 0 := by decide
      simp only [dispatch, writeMaybeRequest, P.readInt32_write, hzero,
        if_false, P.readInt32_writeBool_last, readFrameReply_replyFrame,
        writeBool_ne_zero]
      rfl
  | some r =>
      have hr := readRequest_write P L (h r rfl) (P.writeBool repeating)
      have hone : (1 : Word) ≠ 0 := by decide
      simp only [dispatch, writeMaybeRequest, List.append_assoc,
        P.readInt32_write, hr, P.readInt32_writeBool_last, if_pos hone,
        readFrameReply_replyFrame, writeBool_ne_zero]
      rfl

/-- A list of requests that fit reaches the device, with the answer seen of
    it. -/
theorem proxy_submitRequestList
    {requestList : List (Option (CaptureRequest B))}
    (hlen : requestList.length < 2 ^ 31)
    (h : ∀ request ∈ requestList, ∀ r ∈ request, RequestFits L r)
    (repeating wanted : Bool) (s : σ) :
    proxy P L (onTransact P L device)
        (.submitRequestList requestList repeating wanted) s
      = (seen (.submitRequestList requestList repeating wanted)
            (reached device (.submitRequestList requestList repeating wanted) s).1,
          (reached device (.submitRequestList requestList repeating wanted) s).2) := by
  have hsize : (BitVec.ofNat 32 requestList.length).toInt.toNat
      = requestList.length := by
    rw [toInt_ofNat hlen, Int.toNat_natCast]
  have hread := readRequests_write (P := P) h (P.writeBool repeating)
  rw [proxy, transactWith_onTransact]
  simp only [dispatch, P.readInt32_write, hsize, hread,
    P.readInt32_writeBool_last, writeBool_ne_zero, readFrameReply_replyFrame]
  rfl

/-- So does a stream; one without a producer is refused on the way. -/
theorem proxy_createStream (c : OutputConfiguration B) (s : σ) :
    proxy P L (onTransact P L device) (.createStream c) s
      = reached device (.createStream c) s := by
  have hone : (1 : Word) ≠ 0 := by decide
  have hread := readConfiguration_write P c []
  rw [List.append_nil] at hread
  rw [proxy, transactWith_onTransact]
  by_cases hc : c.mGbp.isSome
  · simp only [reached, guarded, refused, hc, if_true, dispatch,
      P.readInt32_write, hone, hread, readResultReply_replyResult, ne_eq,
      not_false_eq_true]
    rfl
  · simp only [reached, guarded, refused, hc, dispatch,
      P.readInt32_write_last, ne_eq, not_true_eq_false, if_false,
      readResultReply_replyResult, Bool.false_eq_true]
    rfl

/-- The producer of the device is answered. -/
theorem proxy_getInputBufferProducer (wanted : Bool) (s : σ) :
    proxy P L (onTransact P L device) (.getInputBufferProducer wanted) s
      = (seen (.getInputBufferProducer wanted)
            (reached device (.getInputBufferProducer wanted) s).1,
          (reached device (.getInputBufferProducer wanted) s).2) := by
  have hname : ("camera input").length < QcomParcel.INT32_MAX := by decide
  have hone : (1 : Word) ≠ 0 := by decide
  cases wanted with
  | false => rfl
  | true =>
      simp only [proxy, if_true, transactWith_onTransact, dispatch,
        readProducerReply, Binder.readExceptionCode_writeNoException,
        P.readInt32_write, reached, guarded, refused, Option.elim_none, called,
        seen]
      by_cases hres : (device.getInputBufferProducer none s).1.1 = NO_ERROR
      · simp only [hres, ne_eq, not_true_eq_false, if_false, hone,
          not_false_eq_true, if_true, P.readString16Inplace_write _ hname,
          P.readStrongBinder_write_last, Option.join_some]
        split <;> simp_all
      · simp only [hres, ne_eq, not_false_eq_true, if_true]

/-- **A CALL** over the binder is one of the device. -/
theorem proxy_onTransact (hdevice : DeviceFits L device) (call : Call B)
    (s : σ) (h : CallFits L call) :
    proxy P L (onTransact P L device) call s
      = (seen call (reached device call s).1, (reached device call s).2) := by
  cases call with
  | disconnect =>
      rw [proxy, transactWith_onTransact]
      rfl
  | submitRequest request repeating wanted =>
      exact proxy_submitRequest h repeating wanted s
  | submitRequestList requestList repeating wanted =>
      exact proxy_submitRequestList h.1 h.2 repeating wanted s
  | createStream c => exact proxy_createStream c s
  | getInputBufferProducer wanted =>
      exact proxy_getInputBufferProducer wanted s
  | createDefaultRequest templateId wanted =>
      rw [proxy, transactWith_onTransact]
      simp only [dispatch, P.readInt32_write_last,
        readMetadataReply_replyMetadata _ (hdevice.createDefaultRequest _ _)]
      rfl
  | getCameraInfo wanted =>
      rw [proxy, transactWith_onTransact]
      simp only [dispatch,
        readMetadataReply_replyMetadata _ (hdevice.getCameraInfo _)]
      rfl
  | cancelRequest requestId wanted =>
      rw [proxy, transactWith_onTransact]
      simp only [dispatch, P.readInt32_write_last, readFrameReply_replyFrame]
      rfl
  | flush wanted =>
      rw [proxy, transactWith_onTransact]
      simp only [dispatch, readFrameReply_replyFrame]
      rfl
  | endConfigure isConstrainedHighSpeed =>
      rw [proxy, transactWith_onTransact]
      simp only [dispatch, P.readInt32_writeBool_last, writeBool_ne_zero,
        readResultReply_replyResult]
      rfl
  | createInputStream width height format =>
      rw [proxy, transactWith_onTransact]
      simp only [dispatch, P.readInt32_write, P.readInt32_write_last,
        readResultReply_replyResult]
      rfl
  | prepare2 maxCount streamId =>
      rw [proxy, transactWith_onTransact]
      simp only [dispatch, P.readInt32_write, P.readInt32_write_last,
        readResultReply_replyResult]
      rfl
  | beginConfigure | waitUntilIdle =>
      rw [proxy, transactWith_onTransact]
      simp only [dispatch, readResultReply_replyResult]
      rfl
  | deleteStream streamId | prepare streamId | tearDown streamId =>
      rw [proxy, transactWith_onTransact]
      simp only [dispatch, P.readInt32_write_last, readResultReply_replyResult]
      rfl

/-! ## A device that counts its requests -/

/-- The state is the number of requests; a surface is a number. -/
def counting : ICameraDeviceUser Nat Nat where
  disconnect _ := 0
  submitRequest request _ _ n :=
    if request.isSome then ((BitVec.ofNat 32 n, BitVec.ofNat 64 n), n + 1)
    else ((BAD_VALUE, -1), n)
  submitRequestList requestList _ _ n :=
    ((BitVec.ofNat 32 n, BitVec.ofNat 64 n), n + requestList.length)
  cancelRequest _ frame n := ((NO_ERROR, frame), n)
  beginConfigure n := (NO_ERROR, n)
  endConfigure _ n := (NO_ERROR, n)
  deleteStream streamId n :=
    (if streamId = 0 then NO_ERROR else BAD_VALUE, n)
  createStream c n := (if c.mRotation = 0 then NO_ERROR else BAD_VALUE, n)
  createInputStream _ _ _ n := (INVALID_OPERATION, n)
  getInputBufferProducer _ n := ((NO_ERROR, some 5), n)
  createDefaultRequest _ _ n := ((NO_ERROR, some [1, 2]), n)
  getCameraInfo _ n := ((NO_ERROR, some [7]), n)
  waitUntilIdle n := (NO_ERROR, n)
  flush _ n := ((NO_ERROR, BitVec.ofNat 64 n), n)
  prepare _ n := (NO_ERROR, n)
  prepare2 _ _ n := (NO_ERROR, n)
  tearDown _ n := (NO_ERROR, n)

/-- The device that counts answers with what fits. -/
theorem counting_fits : DeviceFits aligned counting where
  createDefaultRequest _ _ := ⟨by decide, rfl, by decide⟩
  getCameraInfo _ := ⟨by decide, rfl, by decide⟩

/-- A request with metadata and a surface. -/
def oneRequest : CaptureRequest Nat := ⟨some [1, 2], [some 5], false⟩

/-- Calls of all kinds, refused ones among them. -/
def someCalls : List (Call Nat) :=
  [.createStream ⟨some 5, 0⟩, .createStream ⟨none, 0⟩,
    .submitRequest (some oneRequest) true true, .submitRequest none false true,
    .submitRequest (some oneRequest) true false, .getInputBufferProducer true,
    .getCameraInfo true]

/-- The calls fit. -/
theorem someCalls_fit : ∀ call ∈ someCalls, CallFits aligned call := by
  have hone : RequestFits aligned oneRequest :=
    ⟨⟨by decide, rfl, by decide⟩, by decide⟩
  intro call hcall
  simp only [someCalls, List.mem_cons, List.not_mem_nil, or_false] at hcall
  rcases hcall with rfl | rfl | rfl | rfl | rfl | rfl | rfl
  · trivial
  · trivial
  · rintro _ ⟨⟩
    exact hone
  · rintro _ ⟨⟩
  · rintro _ ⟨⟩
    exact hone
  · trivial
  · trivial

/-! ## Sessions -/

/-- **THE REMOTE DEVICE**: a session with the proxy leaves the device as one
    with the device does, but for the calls that are refused; and its answers
    are those of the device as the caller sees them. -/
theorem device_remote (P : Binder W B) (L : MetadataLib)
    (device : ICameraDeviceUser σ B) (hdevice : DeviceFits L device)
    (calls : List (Call B)) (s : σ) (h : ∀ call ∈ calls, CallFits L call) :
    session (proxy P L (onTransact P L device)) calls s
      = (List.zipWith seen calls (session (reached device) calls s).1,
          (session (called device)
            (calls.filter fun call => (refused call).isNone) s).2) := by
  rw [← session_guarded]
  exact session_view (fun call s => proxy_onTransact hdevice call s) calls s h

theorem device_remote_counting :
    session (proxy (objects Nat) aligned
        (onTransact (objects Nat) aligned counting)) someCalls 0
      = ([{ result := NO_ERROR }, { result := BAD_VALUE },
          { result := 0, lastFrameNumber := some 0 },
          { result := FAILED_TRANSACTION, lastFrameNumber := some (-1) },
          { result := FAILED_TRANSACTION },
          { result := NO_ERROR, producer := some (some 5) },
          { result := NO_ERROR, metadata := some (some [7]) }], 2) :=
  (device_remote (objects Nat) aligned counting counting_fits someCalls 0
    someCalls_fit).trans rfl

/-- A service that is there for some transactions only; behind them a
    transaction gives no reply. -/
def mortal (remote : Transact σ W) : Transact (σ × Nat) W :=
  fun code data s =>
    match s.2 with
    | 0 => ([], s)
    | n + 1 =>
        let r := remote code data s.1
        (r.1, (r.2, n))

/-- Whether a call gets as far as a transaction. -/
def transacts : Call B → Bool
  | .getInputBufferProducer wanted => wanted
  | _ => true

/-- What a caller gets of a service that is not there. -/
def unanswered : Call B → Answer B
  | .submitRequest _ _ _ | .submitRequestList _ _ _ | .cancelRequest _ _
  | .flush _ => { result := FAILED_TRANSACTION }
  | .getInputBufferProducer wanted =>
      if wanted then { result := INVALID_OPERATION, producer := some none }
      else { result := BAD_VALUE }
  | .createDefaultRequest _ wanted | .getCameraInfo wanted =>
      { result := NO_ERROR, metadata := if wanted then some none else none }
  | _ => { result := NO_ERROR }

/-- An empty reply tells no number of a frame. -/
theorem readFrameReply_nil (fails : Word → Bool) (wanted : Bool) :
    readFrameReply P fails wanted [] = { result := FAILED_TRANSACTION } := by
  simp [readFrameReply, P.readExceptionCode_nil]

theorem readResultReply_nil :
    readResultReply P [] = { result := NO_ERROR } := by
  simp [readResultReply, P.readExceptionCode_nil, NO_ERROR]

/-- An empty reply reads as metadata that is not there, with no error. -/
theorem readMetadataReply_nil (wanted : Bool) :
    readMetadataReply P L wanted []
      = { result := NO_ERROR,
          metadata := if wanted then some none else none } := by
  simp [readMetadataReply, P.readExceptionCode_nil, NO_ERROR]

/-- And as a producer that is not there, with an error. -/
theorem readProducerReply_nil :
    readProducerReply P []
      = { result := INVALID_OPERATION, producer := some none } := by
  simp [readProducerReply, P.readExceptionCode_nil, NO_ERROR]

/-- A call to a service that has died. -/
theorem proxy_mortal_zero (remote : Transact σ W) (call : Call B) (s : σ) :
    proxy P L (mortal remote) call (s, 0) = (unanswered call, (s, 0)) := by
  cases call with
  | submitRequest | submitRequestList | cancelRequest | flush =>
      simp only [proxy, transactWith, mortal, readFrameReply_nil, unanswered]
  | createDefaultRequest | getCameraInfo =>
      simp only [proxy, transactWith, mortal, readMetadataReply_nil, unanswered]
  | getInputBufferProducer wanted =>
      cases wanted with
      | false => rfl
      | true =>
          simp only [proxy, transactWith, mortal, readProducerReply_nil,
            unanswered, if_true]
  | disconnect => rfl
  | _ =>
      simp only [proxy, transactWith, mortal, readResultReply_nil, unanswered]

/-- A call to a service that has transactions left. -/
theorem proxy_mortal_succ (remote : Transact σ W) (call : Call B) (s : σ)
    (n : Nat) :
    proxy P L (mortal remote) call (s, n + 1)
      = ((proxy P L remote call s).1,
          ((proxy P L remote call s).2, if transacts call then n else n + 1)) := by
  cases call with
  | getInputBufferProducer wanted => cases wanted <;> rfl
  | _ => rfl

/-- **A SERVICE THAT DIES** after `n` transactions: the calls before are
    answered as by one that lives; all calls behind leave the device as it is,
    and only those for a frame number or a producer tell. -/
theorem device_mortal (P : Binder W B) (L : MetadataLib)
    (device : ICameraDeviceUser σ B) (hdevice : DeviceFits L device)
    (calls : List (Call B)) (s : σ) (n : Nat)
    (h : ∀ call ∈ calls, CallFits L call) :
    ∃ before behind, calls = before ++ behind
      ∧ before.countP transacts ≤ n
      ∧ (behind = [] ∨ before.countP transacts = n)
      ∧ (session (proxy P L (mortal (onTransact P L device))) calls (s, n)).1
        = List.zipWith seen before (session (reached device) before s).1
          ++ behind.map unanswered
      ∧ (session (proxy P L (mortal (onTransact P L device))) calls
          (s, n)).2.1
        = (session (called device)
            (before.filter fun call => (refused call).isNone) s).2 := by
  obtain ⟨before, behind, hsplit, hle, hcut, hanswers, hstate⟩ :=
    session_cut (fun call s => proxy_mortal_zero _ call s)
      (fun call s n hfits => by
        rw [proxy_mortal_succ, proxy_onTransact hdevice call s hfits])
      calls s n h
  exact ⟨before, behind, hsplit, hle, hcut, hanswers,
    hstate.trans (session_guarded refused (called device) before s)⟩

theorem device_mortal_counting :
    ∃ before behind, someCalls = before ++ behind
      ∧ before.countP transacts ≤ 3
      ∧ (behind = [] ∨ before.countP transacts = 3)
      ∧ (session (proxy (objects Nat) aligned (mortal
          (onTransact (objects Nat) aligned counting))) someCalls (0, 3)).1
        = List.zipWith seen before (session (reached counting) before 0).1
          ++ behind.map unanswered
      ∧ (session (proxy (objects Nat) aligned (mortal
          (onTransact (objects Nat) aligned counting))) someCalls
          (0, 3)).2.1
        = (session (called counting)
            (before.filter fun call => (refused call).isNone) 0).2 :=
  device_mortal (objects Nat) aligned counting counting_fits someCalls 0 3
    someCalls_fit

end QcomCameraDevice
