import QcomCommon.BinderProofs
import QcomCommon.ChannelProofs

/-! # The callbacks of the camera

    `ICameraDeviceCallbacks.cpp` and `ICameraClient.cpp` of `libshims`: the
    camera service writes what happens into one-way transactions, and the
    application gets it in that order (`callbacks_inOrder`,
    `client_inOrder`); only the descriptor of a preview frame is another one
    in the application. -/

namespace QcomCameraCallbacks

open QcomCodec QcomBinder QcomChannel QcomTransition

variable {W B : Type}

/-! ## The device -/

/-- The transactions of `ICameraDeviceCallbacks`. -/
inductive Transaction where
  | CAMERA_ERROR
  | CAMERA_IDLE
  | CAPTURE_STARTED
  | RESULT_RECEIVED
  | PREPARED

/-- A call of `ICameraDeviceCallbacks`. -/
inductive Callback where
  | onDeviceError (errorCode : Word) (resultExtras : CaptureResultExtras)
  | onDeviceIdle
  | onCaptureStarted (result : CaptureResultExtras) (timestamp : BitVec 64)
  | onResultReceived (metadata : CameraMetadata)
      (resultExtras : CaptureResultExtras)
  | onPrepared (streamId : Word)

section Device

variable (P : Binder W B) (L : MetadataLib)

/-- What the methods of `BpCameraDeviceCallbacks` write behind the token. -/
def writeCallback : Callback → Transaction × List W
  | .onDeviceError errorCode resultExtras =>
      (.CAMERA_ERROR, P.int32.write errorCode
        ++ (P.int32.write 1 ++ writeExtras P resultExtras))
  | .onDeviceIdle => (.CAMERA_IDLE, [])
  | .onCaptureStarted result timestamp =>
      (.CAPTURE_STARTED, P.int32.write 1
        ++ (writeExtras P result ++ P.int64.write timestamp))
  | .onResultReceived metadata resultExtras =>
      (.RESULT_RECEIVED, P.int32.write 1 ++ (writeMetadata P L metadata
        ++ (P.int32.write 1 ++ writeExtras P resultExtras)))
  | .onPrepared streamId => (.PREPARED, P.int32.write streamId)

/-- The transaction of a callback. -/
def sendCallback (callback : Callback) : Transaction × List W :=
  ((writeCallback P L callback).1,
    P.interfaceToken.write () ++ (writeCallback P L callback).2)

/-- `CaptureResultExtras` behind the mark that it is there. -/
def readMaybeExtras (p : List W) : CaptureResultExtras × List W :=
  let present := P.readInt32 p
  if present.1 ≠ 0 then readExtras P CaptureResultExtras.new present.2
  else (CaptureResultExtras.new, present.2)

/-- The `switch` of `BnCameraDeviceCallbacks::onTransact`, behind the check of
    the interface. -/
def readCallback (code : Transaction) (data : List W) : Callback :=
  match code with
  | .CAMERA_ERROR =>
      let errorCode := P.readInt32 data
      .onDeviceError errorCode.1 (readMaybeExtras P errorCode.2).1
  | .CAMERA_IDLE => .onDeviceIdle
  | .CAPTURE_STARTED =>
      let result := readMaybeExtras P data
      .onCaptureStarted result.1 ((P.int64.read result.2).getD (0, result.2)).1
  | .RESULT_RECEIVED =>
      let present := P.readInt32 data
      let metadata :=
        if present.1 ≠ 0 then
          let metadata := readMetadata P L present.2
          (metadata.1.getD none, metadata.2)
        else (none, present.2)
      .onResultReceived metadata.1 (readMaybeExtras P metadata.2).1
  | .PREPARED => .onPrepared (P.readInt32 data).1

/-- `BnCameraDeviceCallbacks::onTransact`: the call that is made. -/
def onTransact (code : Transaction) (data : List W) : Option Callback :=
  (P.interfaceToken.read data).map fun q => readCallback P L code q.2

/-- The metadata of a callback can be written. -/
def CallbackFits : Callback → Prop
  | .onResultReceived metadata _ => MetadataFits L metadata
  | _ => True

variable {P L}

theorem readMaybeExtras_write (e : CaptureResultExtras) (rest : List W) :
    readMaybeExtras P (P.int32.write 1 ++ (writeExtras P e ++ rest))
      = (e, rest) := by
  have hone : (1 : Word) ≠ 0 := by decide
  simp only [readMaybeExtras, P.readInt32_write, if_pos hone,
    readExtras_write]

/-- A callback is read as it was written. -/
theorem onTransact_sendCallback {callback : Callback}
    (h : CallbackFits L callback) :
    onTransact P L (sendCallback P L callback).1 (sendCallback P L callback).2
      = some callback := by
  have hone : (1 : Word) ≠ 0 := by decide
  have hextras : ∀ e, readMaybeExtras P (P.int32.write 1 ++ writeExtras P e)
      = (e, []) := fun e => by
    have h := readMaybeExtras_write (P := P) e []
    rwa [List.append_nil] at h
  rw [onTransact, sendCallback, P.read_interfaceToken, Option.map_some]
  refine congrArg some ?_
  cases callback with
  | onDeviceError errorCode resultExtras =>
      simp only [writeCallback, readCallback, P.readInt32_write, hextras]
  | onDeviceIdle => rfl
  | onCaptureStarted result timestamp =>
      have htime := P.read_int64 [] timestamp
      rw [List.append_nil] at htime
      simp only [writeCallback, readCallback, readMaybeExtras_write, htime,
        Option.getD_some]
  | onResultReceived metadata resultExtras =>
      have hread := readMetadata_write P L h
        (P.int32.write 1 ++ writeExtras P resultExtras)
      simp only [writeCallback, readCallback, P.readInt32_write, if_pos hone,
        hread, hextras, Option.getD_some]
  | onPrepared streamId =>
      simp only [writeCallback, readCallback, P.readInt32_write_last]

variable (P L)

/-- The two ends of `ICameraDeviceCallbacks`. -/
def callbacks : Interface Callback Callback Transaction W where
  Fits := CallbackFits L
  send := sendCallback P L
  receive := onTransact P L
  seen := some
  receive_send _ h := onTransact_sendCallback h

/-- **THE CALLBACKS** that the application has got are the first that the
    device made, and while it lives the rest is on its way. -/
theorem callbacks_inOrder {s : Channel Callback Callback Transaction W}
    (h : ReachUnder (channel (callbacks P L)) (SendsFit (callbacks P L)) s) :
    s.received <+: s.sent
      ∧ (s.alive = true →
        s.received = s.sent.take (s.sent.length - s.queue.length)) := by
  have hfirst : s.received <+: s.sent.filterMap some := (channel_inOrder h).1
  rw [List.filterMap_some] at hfirst
  refine ⟨hfirst, fun halive => ?_⟩
  exact ((channel_inOrder h).2 halive).trans List.filterMap_some

/-- A result that has been received, and a second that is on its way. -/
def twoResults : Channel Callback Callback Transaction (Item Nat) where
  sent := [.onDeviceIdle, .onResultReceived (some [7]) .new]
  queue := [sendCallback (objects Nat) aligned
    (.onResultReceived (some [7]) .new)]
  received := [.onDeviceIdle]
  alive := true

theorem callbacks_inOrder_twoResults :
    twoResults.received <+: twoResults.sent
      ∧ (twoResults.alive = true → twoResults.received
        = twoResults.sent.take
          (twoResults.sent.length - twoResults.queue.length)) := by
  have hfits : CallbackFits aligned (.onResultReceived (some [7]) .new) :=
    ⟨by decide, rfl, by decide⟩
  exact callbacks_inOrder (objects Nat) aligned
    (.step (a := .deliver)
      (.step (a := .send (.onResultReceived (some [7]) .new))
        (.step (a := .send .onDeviceIdle) (.init rfl) trivial rfl) hfits rfl)
      trivial rfl)

end Device

/-! ## The client -/

/-- `camera_frame_metadata_t`, with the faces as they are in memory. -/
structure FrameMetadata where
  number_of_faces : Word
  faces : Option (List UInt8)

/-- A class `Parcel` with file descriptors and raw bytes, and the constants of
    the camera's headers.  The descriptor that is read is one of the process
    that reads. -/
structure ClientBinder (W B : Type) extends Binder W B where
  CAMERA_MSG_PREVIEW_FRAME : Word
  CAMERA_FRAME_DATA_FD : Word
  faceSize : Nat
  writeFileDescriptor : Word → List W
  readFileDescriptor : List W → Word × List W
  duplicate : Word → Word
  raw : Nat → Codec W (List UInt8)
  readFileDescriptor_write : ∀ fd rest,
    readFileDescriptor (writeFileDescriptor fd ++ rest) = (duplicate fd, rest)
  raw_fits : ∀ bytes, (raw bytes.length).Fits bytes

/-- The transactions of `ICameraClient`. -/
inductive ClientTransaction where
  | NOTIFY_CALLBACK
  | DATA_CALLBACK
  | DATA_CALLBACK_TIMESTAMP

/-- A call of `ICameraClient`; an image is the binder of its memory. -/
inductive ClientCallback (B : Type) where
  | notifyCallback (msgType ext1 ext2 : Word)
  | dataCallback (msgType : Word) (imageData : Option B)
      (metadata : Option FrameMetadata)
  | dataCallbackTimestamp (timestamp : BitVec 64) (msgType : Word)
      (imageData : Option B)

section Client

variable (P : ClientBinder W B)

/-- Whether `ext2` is a file descriptor. -/
def isDescriptor (msgType ext1 : Word) : Prop :=
  msgType = P.CAMERA_MSG_PREVIEW_FRAME ∧ ext1 = P.CAMERA_FRAME_DATA_FD

instance (msgType ext1 : Word) : Decidable (isDescriptor P msgType ext1) :=
  inferInstanceAs (Decidable (_ ∧ _))

/-- The bytes of that many faces, `sizeof(camera_face_t)` each. -/
def facesSize (number_of_faces : Word) : Nat :=
  P.faceSize * toSize number_of_faces

/-- The faces of a preview frame behind their number; no metadata is nothing. -/
def writeFrameMetadata : Option FrameMetadata → List W
  | none => []
  | some metadata =>
      P.int32.write metadata.number_of_faces
        ++ (P.raw (facesSize P metadata.number_of_faces)).write
          (metadata.faces.getD [])

/-- What the methods of `BpCameraClient` write behind the token. -/
def writeClient : ClientCallback B → ClientTransaction × List W
  | .notifyCallback msgType ext1 ext2 =>
      (.NOTIFY_CALLBACK, P.int32.write msgType ++ (P.int32.write ext1
        ++ if isDescriptor P msgType ext1 then P.writeFileDescriptor ext2
          else P.int32.write ext2))
  | .dataCallback msgType imageData metadata =>
      (.DATA_CALLBACK, P.int32.write msgType
        ++ (P.strongBinder.write imageData ++ writeFrameMetadata P metadata))
  | .dataCallbackTimestamp timestamp msgType imageData =>
      (.DATA_CALLBACK_TIMESTAMP, P.int64.write timestamp
        ++ (P.int32.write msgType ++ P.strongBinder.write imageData))

/-- A callback with the token of its interface. -/
def sendClient (callback : ClientCallback B) : ClientTransaction × List W :=
  ((writeClient P callback).1,
    P.interfaceToken.write () ++ (writeClient P callback).2)

/-- The metadata of a frame is there if anything is left. -/
def readFrameMetadata (p : List W) : Option FrameMetadata :=
  if p.isEmpty then none
  else
    let number_of_faces := P.readInt32 p
    some ⟨number_of_faces.1,
      ((P.raw (facesSize P number_of_faces.1)).read number_of_faces.2).map
        Prod.fst⟩

/-- The `switch` of `BnCameraClient::onTransact`, behind the check of the
    interface. -/
def readClient (code : ClientTransaction) (data : List W) :
    ClientCallback B :=
  match code with
  | .NOTIFY_CALLBACK =>
      let msgType := P.readInt32 data
      let ext1 := P.readInt32 msgType.2
      .notifyCallback msgType.1 ext1.1
        (if isDescriptor P msgType.1 ext1.1 then
          (P.readFileDescriptor ext1.2).1
        else (P.readInt32 ext1.2).1)
  | .DATA_CALLBACK =>
      let msgType := P.readInt32 data
      let imageData := P.readStrongBinder msgType.2
      .dataCallback msgType.1 imageData.1 (readFrameMetadata P imageData.2)
  | .DATA_CALLBACK_TIMESTAMP =>
      let timestamp := (P.int64.read data).getD (0, data)
      let msgType := P.readInt32 timestamp.2
      .dataCallbackTimestamp timestamp.1 msgType.1
        (P.readStrongBinder msgType.2).1

/-- `BnCameraClient::onTransact`: the call that is made. -/
def onClientTransact (code : ClientTransaction) (data : List W) :
    Option (ClientCallback B) :=
  (P.interfaceToken.read data).map fun q => readClient P code q.2

/-- There are as many faces as the metadata says. -/
def ClientFits : ClientCallback B → Prop
  | .dataCallback _ _ (some metadata) =>
      ∃ bytes, metadata.faces = some bytes
        ∧ bytes.length = facesSize P metadata.number_of_faces
  | _ => True

/-- The descriptor of a preview frame is another one in the application. -/
def seenByClient : ClientCallback B → ClientCallback B
  | .notifyCallback msgType ext1 ext2 =>
      .notifyCallback msgType ext1
        (if isDescriptor P msgType ext1 then P.duplicate ext2 else ext2)
  | callback => callback

variable {P}

theorem write_int32_ne_nil (x : Word) : P.int32.write x ≠ [] := by
  intro h
  have hread := P.read_int32 [] x
  rw [h, List.append_nil, P.int32_nil] at hread
  exact nomatch hread

/-- The metadata of a frame is there if it was written. -/
theorem readFrameMetadata_write {metadata : Option FrameMetadata}
    (h : ∀ m ∈ metadata, ∃ bytes, m.faces = some bytes
      ∧ bytes.length = facesSize P m.number_of_faces) :
    readFrameMetadata P (writeFrameMetadata P metadata) = metadata := by
  cases metadata with
  | none => rfl
  | some m =>
      obtain ⟨bytes, hfaces, hlen⟩ := h m rfl
      have hraw := (P.raw bytes.length).read_append (P.raw_fits bytes) []
      rw [List.append_nil, hlen] at hraw
      have hsome : ¬ (writeFrameMetadata P (some m)).isEmpty := by
        rw [writeFrameMetadata, List.isEmpty_iff, List.append_eq_nil_iff]
        exact fun hnil => write_int32_ne_nil m.number_of_faces hnil.1
      rw [readFrameMetadata, if_neg hsome]
      simp only [writeFrameMetadata, P.readInt32_write, hfaces,
        Option.getD_some, hraw, Option.map_some]
      rw [← hfaces]

/-- A call is read as it was written, up to the descriptor. -/
theorem onClientTransact_sendClient {callback : ClientCallback B}
    (h : ClientFits P callback) :
    onClientTransact P (sendClient P callback).1 (sendClient P callback).2
      = some (seenByClient P callback) := by
  rw [onClientTransact, sendClient, P.read_interfaceToken, Option.map_some]
  refine congrArg some ?_
  cases callback with
  | notifyCallback msgType ext1 ext2 =>
      simp only [writeClient, readClient, P.readInt32_write, seenByClient]
      split
      · have hfd := P.readFileDescriptor_write ext2 []
        rw [List.append_nil] at hfd
        rw [hfd]
      · rw [P.readInt32_write_last]
  | dataCallback msgType imageData metadata =>
      have hframe : readFrameMetadata P (writeFrameMetadata P metadata)
          = metadata := by
        refine readFrameMetadata_write fun m hm => ?_
        obtain rfl := hm
        exact h
      simp only [writeClient, readClient, P.readInt32_write,
        P.readStrongBinder_write, hframe, seenByClient]
  | dataCallbackTimestamp timestamp msgType imageData =>
      simp only [writeClient, readClient, P.read_int64, Option.getD_some,
        P.readInt32_write, P.readStrongBinder_write_last, seenByClient]

variable (P)

/-- The two ends of `ICameraClient`. -/
def client :
    Interface (ClientCallback B) (ClientCallback B) ClientTransaction W where
  Fits := ClientFits P
  send := sendClient P
  receive := onClientTransact P
  seen := some ∘ seenByClient P
  receive_send _ h := onClientTransact_sendClient h

/-- **THE CLIENT** gets the notifications and the frames in their order, each
    with its faces. -/
theorem client_inOrder
    {s : Channel (ClientCallback B) (ClientCallback B) ClientTransaction W}
    (h : ReachUnder (channel (client P)) (SendsFit (client P)) s) :
    s.received <+: s.sent.map (seenByClient P)
      ∧ (s.alive = true → s.received
        = (s.sent.take (s.sent.length - s.queue.length)).map
          (seenByClient P)) := by
  have hmap := List.filterMap_eq_map (f := seenByClient P)
  obtain ⟨hfirst, hlive⟩ := channel_inOrder h
  exact ⟨hmap ▸ hfirst, fun halive => hmap ▸ hlive halive⟩

/-- Descriptors that are one higher in the process that reads. -/
def clientObjects (B : Type) : ClientBinder (Item B) B where
  toBinder := objects B
  CAMERA_MSG_PREVIEW_FRAME := 16
  CAMERA_FRAME_DATA_FD := 1
  faceSize := 2
  writeFileDescriptor fd := [.int32 fd]
  readFileDescriptor p := ((wordItem (-2) p).1 + 1, (wordItem (-2) p).2)
  duplicate fd := fd + 1
  raw _ := blobItem B
  readFileDescriptor_write _ _ := rfl
  raw_fits _ := trivial

/-- A preview frame in a file and one with a face, both received. -/
def twoFrames :
    Channel (ClientCallback Nat) (ClientCallback Nat) ClientTransaction
      (Item Nat) where
  sent := [.notifyCallback 16 1 40, .dataCallback 2 (some 9)
    (some ⟨1, some [3, 4]⟩)]
  queue := []
  received := [.notifyCallback 16 1 41, .dataCallback 2 (some 9)
    (some ⟨1, some [3, 4]⟩)]
  alive := true

theorem client_inOrder_twoFrames :
    twoFrames.received <+: twoFrames.sent.map (seenByClient (clientObjects Nat))
      ∧ (twoFrames.alive = true → twoFrames.received
        = (twoFrames.sent.take
          (twoFrames.sent.length - twoFrames.queue.length)).map
            (seenByClient (clientObjects Nat))) := by
  have hfits : ClientFits (clientObjects Nat)
      (.dataCallback 2 (some 9) (some ⟨1, some [3, 4]⟩)) :=
    ⟨[3, 4], rfl, by decide⟩
  exact client_inOrder (clientObjects Nat)
    (.step (a := .deliver)
      (.step (a := .send (.dataCallback 2 (some 9) (some ⟨1, some [3, 4]⟩)))
        (.step (a := .deliver)
          (.step (a := .send (.notifyCallback 16 1 40)) (.init rfl) trivial rfl)
          trivial rfl)
        hfits rfl)
      trivial rfl)

end Client

end QcomCameraCallbacks
