import QcomCommon.BinderProofs
import QcomCommon.SessionProofs

/-! # A camera over the binder

    `ICamera.cpp` of `libshims`, the proxy in the application and the stub at
    the camera, under the methods of `Camera.cpp` that call a camera.  An
    application cannot tell a camera behind the proxy from one of its own
    process (`camera_transparent`).

    Nor do the answers of its calls tell that the camera has died: the proxy
    looks at no status, so that a dead camera does nothing, with success
    (`camera_silent`).  What does tell is `binderDied`, which passes
    CAMERA_ERROR_SERVER_DIED to the listener and is not part of the calls. -/

namespace QcomICamera

open QcomCodec QcomBinder QcomSession

/-- The answer to a transaction of another interface. -/
def PERMISSION_DENIED : Word := -1

/-- The answer of a `Camera` that has no camera. -/
def NO_INIT : Word := -19

/-- The status of a transaction to a process that has died. -/
def DEAD_OBJECT : Word := -32

/-- The codes of the transactions. -/
inductive Transaction where
  | DISCONNECT
  | SET_PREVIEW_TARGET
  | SET_PREVIEW_CALLBACK_FLAG
  | SET_PREVIEW_CALLBACK_TARGET
  | START_PREVIEW
  | STOP_PREVIEW
  | AUTO_FOCUS
  | CANCEL_AUTO_FOCUS
  | TAKE_PICTURE
  | SET_PARAMETERS
  | GET_PARAMETERS
  | SEND_COMMAND
  | CONNECT
  | LOCK
  | UNLOCK
  | PREVIEW_ENABLED
  | START_RECORDING
  | STOP_RECORDING
  | RECORDING_ENABLED
  | RELEASE_RECORDING_FRAME
  | STORE_META_DATA_IN_BUFFERS

/-- `ICamera`, with a state `σ`: a camera, or a proxy and what is behind it. -/
@[ext] structure ICamera (σ B : Type) where
  disconnect : σ → σ
  setPreviewTarget : Option B → σ → Word × σ
  setPreviewCallbackFlag : Word → σ → σ
  setPreviewCallbackTarget : Option B → σ → Word × σ
  startPreview : σ → Word × σ
  startRecording : σ → Word × σ
  stopPreview : σ → σ
  stopRecording : σ → σ
  releaseRecordingFrame : Option B → σ → σ
  storeMetaDataInBuffers : Bool → σ → Word × σ
  previewEnabled : σ → Bool × σ
  recordingEnabled : σ → Bool × σ
  autoFocus : σ → Word × σ
  cancelAutoFocus : σ → Word × σ
  takePicture : Word → σ → Word × σ
  setParameters : String → σ → Word × σ
  getParameters : σ → String × σ
  sendCommand : Word → Word → Word → σ → Word × σ
  connect : Option B → σ → Word × σ
  lock : σ → Word × σ
  unlock : σ → Word × σ

/-- A class `Parcel` with strings of bytes. -/
structure TextBinder (W B : Type) extends Binder W B where
  string8 : Codec W String
  string8_nil : string8.read [] = none

variable {σ τ W B : Type} (P : TextBinder W B)

/-- `readString8()`. -/
def readString8 (p : List W) : String × List W :=
  (P.string8.read p).getD ("", p)

/-- How a call gets to the other side: the status of the transaction, the
    reply, and the state. -/
abbrev Transact (σ W : Type) :=
  Transaction → List W → σ → Word × List W × σ

/-! ## The stub -/

/-- A reply that is a number. -/
def replyInt32 (r : Word × σ) : List W × σ := (P.int32.write r.1, r.2)

/-- A reply that is a flag. -/
def replyBool (r : Bool × σ) : List W × σ := (P.writeBool r.1, r.2)

/-- The `switch` of `BnCamera::onTransact`, behind the check of the
    interface. -/
def dispatch (camera : ICamera σ B) (code : Transaction) (data : List W)
    (s : σ) : List W × σ :=
  match code with
  | .DISCONNECT => (P.writeNoException, camera.disconnect s)
  | .SET_PREVIEW_TARGET =>
      replyInt32 P (camera.setPreviewTarget (P.readStrongBinder data).1 s)
  | .SET_PREVIEW_CALLBACK_FLAG =>
      ([], camera.setPreviewCallbackFlag (P.readInt32 data).1 s)
  | .SET_PREVIEW_CALLBACK_TARGET =>
      replyInt32 P
        (camera.setPreviewCallbackTarget (P.readStrongBinder data).1 s)
  | .START_PREVIEW => replyInt32 P (camera.startPreview s)
  | .START_RECORDING => replyInt32 P (camera.startRecording s)
  | .STOP_PREVIEW => ([], camera.stopPreview s)
  | .STOP_RECORDING => ([], camera.stopRecording s)
  | .RELEASE_RECORDING_FRAME =>
      ([], camera.releaseRecordingFrame (P.readStrongBinder data).1 s)
  | .STORE_META_DATA_IN_BUFFERS =>
      replyInt32 P
        (camera.storeMetaDataInBuffers ((P.readInt32 data).1 ≠ 0) s)
  | .PREVIEW_ENABLED => replyBool P (camera.previewEnabled s)
  | .RECORDING_ENABLED => replyBool P (camera.recordingEnabled s)
  | .AUTO_FOCUS => replyInt32 P (camera.autoFocus s)
  | .CANCEL_AUTO_FOCUS => replyInt32 P (camera.cancelAutoFocus s)
  | .TAKE_PICTURE => replyInt32 P (camera.takePicture (P.readInt32 data).1 s)
  | .SET_PARAMETERS =>
      replyInt32 P (camera.setParameters (readString8 P data).1 s)
  | .GET_PARAMETERS =>
      let r := camera.getParameters s
      (P.string8.write r.1, r.2)
  | .SEND_COMMAND =>
      let command := P.readInt32 data
      let arg1 := P.readInt32 command.2
      let arg2 := P.readInt32 arg1.2
      replyInt32 P (camera.sendCommand command.1 arg1.1 arg2.1 s)
  | .CONNECT => replyInt32 P (camera.connect (P.readStrongBinder data).1 s)
  | .LOCK => replyInt32 P (camera.lock s)
  | .UNLOCK => replyInt32 P (camera.unlock s)

/-- `BnCamera::onTransact`. -/
def onTransact (camera : ICamera σ B) : Transact σ W :=
  fun code data s =>
    match P.interfaceToken.read data with
    | none => (PERMISSION_DENIED, [], s)
    | some (_, data) => (NO_ERROR, dispatch P camera code data s)

/-! ## The proxy -/

/-- A transaction, with what is read of its reply; its status is dropped. -/
def transact {A : Type} (remote : Transact τ W) (code : Transaction)
    (args : List W) (read : List W → A) (s : τ) : A × τ :=
  let r := remote code (P.interfaceToken.write () ++ args) s
  (read r.2.1, r.2.2)

/-- `return reply.readInt32()`. -/
def transactInt32 (remote : Transact τ W) (code : Transaction)
    (args : List W) : τ → Word × τ :=
  transact P remote code args fun reply => (P.readInt32 reply).1

/-- `return reply.readInt32()` of a method that returns `bool`. -/
def transactBool (remote : Transact τ W) (code : Transaction) : τ → Bool × τ :=
  transact P remote code [] fun reply => (P.readInt32 reply).1 ≠ 0

/-- A transaction whose reply is not read. -/
def transactVoid (remote : Transact τ W) (code : Transaction)
    (args : List W) (s : τ) : τ :=
  (transact P remote code args (fun _ => ()) s).2

/-- `BpCamera`. -/
def BpCamera (remote : Transact τ W) : ICamera τ B where
  disconnect := transactVoid P remote .DISCONNECT []
  setPreviewTarget bufferProducer :=
    transactInt32 P remote .SET_PREVIEW_TARGET
      (P.strongBinder.write bufferProducer)
  setPreviewCallbackFlag flag :=
    transactVoid P remote .SET_PREVIEW_CALLBACK_FLAG (P.int32.write flag)
  setPreviewCallbackTarget callbackProducer :=
    transactInt32 P remote .SET_PREVIEW_CALLBACK_TARGET
      (P.strongBinder.write callbackProducer)
  startPreview := transactInt32 P remote .START_PREVIEW []
  startRecording := transactInt32 P remote .START_RECORDING []
  stopPreview := transactVoid P remote .STOP_PREVIEW []
  stopRecording := transactVoid P remote .STOP_RECORDING []
  releaseRecordingFrame mem :=
    transactVoid P remote .RELEASE_RECORDING_FRAME (P.strongBinder.write mem)
  storeMetaDataInBuffers enabled :=
    transactInt32 P remote .STORE_META_DATA_IN_BUFFERS (P.writeBool enabled)
  previewEnabled := transactBool P remote .PREVIEW_ENABLED
  recordingEnabled := transactBool P remote .RECORDING_ENABLED
  autoFocus := transactInt32 P remote .AUTO_FOCUS []
  cancelAutoFocus := transactInt32 P remote .CANCEL_AUTO_FOCUS []
  takePicture msgType :=
    transactInt32 P remote .TAKE_PICTURE (P.int32.write msgType)
  setParameters params :=
    transactInt32 P remote .SET_PARAMETERS (P.string8.write params)
  getParameters :=
    transact P remote .GET_PARAMETERS [] fun reply => (readString8 P reply).1
  sendCommand cmd arg1 arg2 :=
    transactInt32 P remote .SEND_COMMAND
      (P.int32.write cmd ++ (P.int32.write arg1 ++ P.int32.write arg2))
  connect cameraClient :=
    transactInt32 P remote .CONNECT (P.strongBinder.write cameraClient)
  lock := transactInt32 P remote .LOCK []
  unlock := transactInt32 P remote .UNLOCK []

/-! ## The application's object -/

/-- `Camera`, as an `ICameraClient` the binder `self`; `mCamera` tells whether
    it has a camera. -/
structure Camera (B : Type) where
  self : B
  mStatus : Word
  mCamera : Bool

namespace Camera

/-- `sp<ICamera> c = mCamera`, and the call if there is one. -/
def ifCamera {A : Type} (c : Camera B) (otherwise : A) (call : τ → A × τ)
    (s : τ) : A × τ :=
  if c.mCamera then call s else (otherwise, s)

/-- `Camera::create`; `present` tells whether the argument is not `NULL`. -/
def create (camera : ICamera τ B) (present : Bool) (self : B) (s : τ) :
    Option (Camera B) × τ :=
  if present then
    let r := camera.connect (some self) s
    (if r.1 = NO_ERROR then some ⟨self, NO_ERROR, true⟩ else none, r.2)
  else (none, s)

/-- `CameraBase::disconnect`. -/
def disconnect (camera : ICamera τ B) (c : Camera B) (s : τ) :
    Camera B × τ :=
  if c.mCamera then ({ c with mCamera := false }, camera.disconnect s)
  else (c, s)

end Camera

/-- A call of the application. -/
inductive Call (B : Type) where
  | create (present : Bool) (self : B)
  | disconnect
  | getStatus
  | reconnect
  | lock
  | unlock
  | setPreviewTarget (bufferProducer : Option B)
  | startPreview
  | storeMetaDataInBuffers (enabled : Bool)
  | startRecording
  | stopPreview
  | stopRecording
  | releaseRecordingFrame (mem : Option B)
  | previewEnabled
  | recordingEnabled
  | autoFocus
  | cancelAutoFocus
  | takePicture (msgType : Word)
  | setParameters (params : String)
  | getParameters
  | sendCommand (cmd arg1 arg2 : Word)
  | setPreviewCallbackFlags (flag : Word)
  | setPreviewCallbackTarget (callbackProducer : Option B)

/-- What a caller gets. -/
inductive Answer where
  | nothing
  | object (created : Bool)
  | status (x : Word)
  | flag (b : Bool)
  | text (s : String)
  deriving DecidableEq

/-- A method of an object that is there, but for `disconnect`. -/
def invoke (camera : ICamera τ B) (c : Camera B) : Call B → τ → Answer × τ
  | .create _ _, s | .disconnect, s => (.nothing, s)
  | .getStatus, s => (.status c.mStatus, s)
  | .reconnect, s => status (camera.connect (some c.self)) s
  | .lock, s => status camera.lock s
  | .unlock, s => status camera.unlock s
  | .setPreviewTarget bufferProducer, s =>
      status (camera.setPreviewTarget bufferProducer) s
  | .startPreview, s => status camera.startPreview s
  | .storeMetaDataInBuffers enabled, s =>
      status (camera.storeMetaDataInBuffers enabled) s
  | .startRecording, s => status camera.startRecording s
  | .stopPreview, s => nothing camera.stopPreview s
  | .stopRecording, s => nothing camera.stopRecording s
  | .releaseRecordingFrame mem, s =>
      nothing (camera.releaseRecordingFrame mem) s
  | .previewEnabled, s => flag camera.previewEnabled s
  | .recordingEnabled, s => flag camera.recordingEnabled s
  | .autoFocus, s => status camera.autoFocus s
  | .cancelAutoFocus, s => status camera.cancelAutoFocus s
  | .takePicture msgType, s => status (camera.takePicture msgType) s
  | .setParameters params, s => status (camera.setParameters params) s
  | .getParameters, s =>
      let r := c.ifCamera "" camera.getParameters s
      (.text r.1, r.2)
  | .sendCommand cmd arg1 arg2, s => status (camera.sendCommand cmd arg1 arg2) s
  | .setPreviewCallbackFlags flag, s =>
      nothing (camera.setPreviewCallbackFlag flag) s
  | .setPreviewCallbackTarget callbackProducer, s =>
      status (camera.setPreviewCallbackTarget callbackProducer) s
where
  status (call : τ → Word × τ) (s : τ) : Answer × τ :=
    let r := c.ifCamera NO_INIT call s
    (.status r.1, r.2)
  flag (call : τ → Bool × τ) (s : τ) : Answer × τ :=
    let r := c.ifCamera false call s
    (.flag r.1, r.2)
  nothing (call : τ → τ) (s : τ) : Answer × τ :=
    c.ifCamera .nothing (fun s => (.nothing, call s)) s

/-- A call of the application, which has one object at most. -/
def run (camera : ICamera τ B) (call : Call B) (s : Option (Camera B) × τ) :
    Answer × (Option (Camera B) × τ) :=
  match call, s.1 with
  | .create present self, _ =>
      let r := Camera.create camera present self s.2
      (.object r.1.isSome, r)
  | _, none => (.nothing, s)
  | .disconnect, some c =>
      let r := c.disconnect camera s.2
      (.nothing, (some r.1, r.2))
  | call, some c =>
      let r := invoke camera c call s.2
      (r.1, (some c, r.2))

/-! ## Each call -/

/-- The strings of a call can be written. -/
def CallFits : Call B → Prop
  | .setParameters params => P.string8.Fits params
  | _ => True

/-- The parameters that the camera gives can be written. -/
def CameraFits (camera : ICamera σ B) : Prop :=
  ∀ s, P.string8.Fits (camera.getParameters s).1

variable {P} {camera : ICamera σ B}

/-- A text that fits is read as it was written. -/
theorem readString8_write {s : String} (h : P.string8.Fits s) :
    readString8 P (P.string8.write s) = (s, []) := by
  have hread := P.string8.read_append h []
  rw [List.append_nil] at hread
  rw [readString8, hread]
  rfl

/-- A transaction is the dispatch of the stub, behind the check of the
    interface. -/
theorem transact_onTransact {A : Type} (code : Transaction) (args : List W)
    (read : List W → A) (s : σ) :
    transact P (onTransact P camera) code args read s
      = (read (dispatch P camera code args s).1,
          (dispatch P camera code args s).2) := by
  simp [transact, onTransact]

/-- One whose reply is a number answers as the camera does. -/
theorem transactInt32_onTransact {code : Transaction} {args : List W}
    {call : σ → Word × σ}
    (h : ∀ s, dispatch P camera code args s = replyInt32 P (call s)) :
    transactInt32 P (onTransact P camera) code args = call := by
  funext s
  rw [transactInt32, transact_onTransact, h, replyInt32,
    P.readInt32_write_last]

/-- So does one whose reply is a flag. -/
theorem transactBool_onTransact {code : Transaction} {call : σ → Bool × σ}
    (h : ∀ s, dispatch P camera code [] s = replyBool P (call s)) :
    transactBool P (onTransact P camera) code = call := by
  funext s
  have hflag : ∀ b : Bool, decide ((if b then 1 else 0 : Word) ≠ 0) = b := by
    decide
  rw [transactBool, transact_onTransact, h, replyBool,
    P.readInt32_writeBool_last, hflag]

/-- One without a reply has the effect on the camera. -/
theorem transactVoid_onTransact {code : Transaction} {args : List W}
    {call : σ → σ} (h : ∀ s, (dispatch P camera code args s).2 = call s) :
    transactVoid P (onTransact P camera) code args = call := by
  funext s
  rw [transactVoid, transact_onTransact, h]

/-- The parameters get to the camera if they can be written. -/
theorem setParameters_onTransact {params : String}
    (h : P.string8.Fits params) :
    (BpCamera P (onTransact P camera)).setParameters params
      = camera.setParameters params :=
  transactInt32_onTransact fun s => by
    simp only [dispatch, readString8_write h]

/-- **THE PROXY IS THE CAMERA**, but for parameters that cannot be written. -/
theorem bpCamera_onTransact (h : CameraFits P camera) :
    BpCamera P (onTransact P camera)
      = { camera with
          setParameters :=
            (BpCamera P (onTransact P camera)).setParameters } := by
  apply ICamera.ext
  case disconnect | stopPreview | stopRecording =>
    exact transactVoid_onTransact fun s => rfl
  case startPreview | startRecording | autoFocus | cancelAutoFocus | lock
    | unlock =>
    exact transactInt32_onTransact fun s => rfl
  case previewEnabled | recordingEnabled =>
    exact transactBool_onTransact fun s => rfl
  case setPreviewTarget | setPreviewCallbackTarget | connect =>
    funext b
    exact transactInt32_onTransact fun s => by
      simp only [dispatch, P.readStrongBinder_write_last]
  case setPreviewCallbackFlag =>
    funext flag
    exact transactVoid_onTransact fun s => by
      simp only [dispatch, P.readInt32_write_last]
  case releaseRecordingFrame =>
    funext mem
    exact transactVoid_onTransact fun s => by
      simp only [dispatch, P.readStrongBinder_write_last]
  case storeMetaDataInBuffers =>
    funext enabled
    have hflag : decide ((if enabled then 1 else 0 : Word) ≠ 0) = enabled := by
      cases enabled <;> rfl
    exact transactInt32_onTransact fun s => by
      simp only [dispatch, P.readInt32_writeBool_last, hflag]
  case takePicture =>
    funext msgType
    exact transactInt32_onTransact fun s => by
      simp only [dispatch, P.readInt32_write_last]
  case setParameters => rfl
  case getParameters =>
    funext s
    simp only [BpCamera, transact_onTransact, dispatch, readString8_write (h s)]
  case sendCommand =>
    funext cmd arg1 arg2
    exact transactInt32_onTransact fun s => by
      simp only [dispatch, P.readInt32_write, P.readInt32_write_last]

/-- **A CALL** over the binder. -/
theorem run_onTransact (hcamera : CameraFits P camera) (call : Call B)
    (s : Option (Camera B) × σ) (h : CallFits P call) :
    run (BpCamera P (onTransact P camera)) call s = run camera call s := by
  rw [bpCamera_onTransact hcamera]
  obtain ⟨_ | c, s⟩ := s
  · cases call <;> rfl
  · cases call with
    | setParameters params =>
        simp only [run, invoke, setParameters_onTransact h]
    | _ => rfl

/-! ## A camera with a preview -/

/-- The state is whether the preview is on, and the parameters. -/
def previewing : ICamera (Bool × String) Nat where
  disconnect s := (false, s.2)
  setPreviewTarget _ s := (NO_ERROR, s)
  setPreviewCallbackFlag _ s := s
  setPreviewCallbackTarget _ s := (NO_ERROR, s)
  startPreview s := (NO_ERROR, (true, s.2))
  startRecording s := (if s.1 then NO_ERROR else INVALID_OPERATION, s)
  stopPreview s := (false, s.2)
  stopRecording s := s
  releaseRecordingFrame _ s := s
  storeMetaDataInBuffers enabled s :=
    (if enabled then NO_ERROR else INVALID_OPERATION, s)
  previewEnabled s := (s.1, s)
  recordingEnabled s := (false, s)
  autoFocus s := (if s.1 then NO_ERROR else INVALID_OPERATION, s)
  cancelAutoFocus s := (NO_ERROR, s)
  takePicture _ s := (if s.1 then NO_ERROR else INVALID_OPERATION, s)
  setParameters params s := (NO_ERROR, (s.1, params))
  getParameters s := (s.2, s)
  sendCommand _ _ _ s := (BAD_VALUE, s)
  connect client s := (if client.isSome then NO_ERROR else BAD_VALUE, s)
  lock s := (NO_ERROR, s)
  unlock s := (NO_ERROR, s)

/-- Parcels with a string of bytes as one object. -/
def textObjects (B : Type) : TextBinder (Item B) B where
  toBinder := objects B
  string8 := (objects B).string16
  string8_nil := rfl

/-- Calls of all kinds, one of them behind `disconnect`. -/
def someCalls : List (Call Nat) :=
  [.create true 7, .setParameters "zoom=1", .takePicture 1, .startPreview,
    .previewEnabled, .getParameters, .disconnect, .autoFocus]

theorem someCalls_fit : ∀ call ∈ someCalls, CallFits (textObjects Nat) call :=
  fun call _ => by
    cases call <;> trivial

theorem previewing_fits : CameraFits (textObjects Nat) previewing :=
  fun _ => trivial

/-! ## Sessions -/

/-- **A TRANSPARENT PROXY**: an application gets of a camera over the binder
    what it gets of one in its own process, and leaves it in the same state. -/
theorem camera_transparent (P : TextBinder W B) (camera : ICamera σ B)
    (hcamera : CameraFits P camera) (calls : List (Call B))
    (s : Option (Camera B) × σ) (h : ∀ call ∈ calls, CallFits P call) :
    session (run (BpCamera P (onTransact P camera))) calls s
      = session (run camera) calls s :=
  session_congr (fun call s => run_onTransact hcamera call s) calls s h

theorem camera_transparent_previewing :
    session (run (BpCamera (textObjects Nat)
        (onTransact (textObjects Nat) previewing))) someCalls
        (none, (false, ""))
      = ([.object true, .status NO_ERROR, .status INVALID_OPERATION,
          .status NO_ERROR, .flag true, .text "zoom=1", .nothing,
          .status NO_INIT], (some ⟨7, NO_ERROR, false⟩, (false, "zoom=1"))) :=
  (camera_transparent (textObjects Nat) previewing previewing_fits someCalls
    (none, (false, "")) someCalls_fit).trans rfl

/-- A camera that is there for some transactions only. -/
def mortal (remote : Transact σ W) : Transact (σ × Nat) W :=
  fun code data s =>
    match s.2 with
    | 0 => (DEAD_OBJECT, [], s)
    | n + 1 =>
        let r := remote code data s.1
        (r.1, r.2.1, (r.2.2, n))

/-- A camera that does nothing, with success. -/
def silent (B : Type) : ICamera Unit B where
  disconnect s := s
  setPreviewTarget _ s := (NO_ERROR, s)
  setPreviewCallbackFlag _ s := s
  setPreviewCallbackTarget _ s := (NO_ERROR, s)
  startPreview s := (NO_ERROR, s)
  startRecording s := (NO_ERROR, s)
  stopPreview s := s
  stopRecording s := s
  releaseRecordingFrame _ s := s
  storeMetaDataInBuffers _ s := (NO_ERROR, s)
  previewEnabled s := (false, s)
  recordingEnabled s := (false, s)
  autoFocus s := (NO_ERROR, s)
  cancelAutoFocus s := (NO_ERROR, s)
  takePicture _ s := (NO_ERROR, s)
  setParameters _ s := (NO_ERROR, s)
  getParameters s := ("", s)
  sendCommand _ _ _ s := (NO_ERROR, s)
  connect _ s := (NO_ERROR, s)
  lock s := (NO_ERROR, s)
  unlock s := (NO_ERROR, s)

/-- What the application gets of it, with its object behind. -/
def runSilent (call : Call B) (object : Option (Camera B)) :
    Answer × Option (Camera B) :=
  let r := run (silent B) call (object, ())
  (r.1, r.2.1)

/-- Whether a call gets as far as a transaction. -/
def transacts : Call B → Option (Camera B) × σ → Bool
  | .create present _, _ => present
  | .getStatus, _ => false
  | _, s => s.1.any Camera.mCamera

/-- A camera that has died answers no error where a number is read. -/
theorem transactInt32_mortal_zero (remote : Transact σ W)
    (code : Transaction) (args : List W) (s : σ) :
    transactInt32 P (mortal remote) code args (s, 0)
      = (NO_ERROR, (s, 0)) := by
  show ((P.readInt32 []).1, (s, 0)) = _
  rw [P.readInt32_nil]
  rfl

/-- It answers no where a flag is. -/
theorem transactBool_mortal_zero (remote : Transact σ W)
    (code : Transaction) (s : σ) :
    transactBool P (mortal remote) code (s, 0) = (false, (s, 0)) := by
  show (decide ((P.readInt32 []).1 ≠ 0), (s, 0)) = _
  rw [P.readInt32_nil]
  rfl

/-- And the empty text. -/
theorem transactText_mortal_zero (remote : Transact σ W)
    (code : Transaction) (args : List W) (s : σ) :
    transact P (mortal remote) code args (fun p => (readString8 P p).1) (s, 0)
      = ("", (s, 0)) := by
  show ((readString8 P []).1, (s, 0)) = _
  rw [readString8, P.string8_nil]
  rfl

/-- `create` of a camera that has died gives an object as ever. -/
theorem create_mortal_zero (remote : Transact σ W) (present : Bool) (self : B)
    (s : σ) :
    Camera.create (BpCamera P (mortal remote)) present self (s, 0)
      = (if present then some ⟨self, NO_ERROR, true⟩ else none, (s, 0)) := by
  cases present with
  | false => rfl
  | true =>
      simp only [Camera.create, BpCamera, transactInt32_mortal_zero remote]
      rfl

/-- A call of a camera that has died. -/
theorem run_mortal_zero (remote : Transact σ W) (call : Call B)
    (object : Option (Camera B)) (s : σ) :
    run (BpCamera P (mortal remote)) call (object, (s, 0))
      = ((runSilent call object).1, ((runSilent call object).2, (s, 0))) := by
  obtain _ | c := object
  · cases call with
    | create present self =>
        simp only [run, create_mortal_zero remote]
        cases present <;> rfl
    | _ => rfl
  · obtain ⟨self, mStatus, _ | _⟩ := c
    -- without a camera no call gets as far as the proxy
    · cases call with
      | create present self =>
          simp only [run, create_mortal_zero remote]
          cases present <;> rfl
      | _ => rfl
    · cases call with
      | create present self =>
          simp only [run, create_mortal_zero remote]
          cases present <;> rfl
      | disconnect | getStatus | stopPreview | stopRecording
        | releaseRecordingFrame | setPreviewCallbackFlags => rfl
      | previewEnabled | recordingEnabled =>
          simp only [run, invoke, invoke.flag, Camera.ifCamera, BpCamera,
            transactBool_mortal_zero remote]
          rfl
      | getParameters =>
          simp only [run, invoke, Camera.ifCamera, BpCamera,
            transactText_mortal_zero remote]
          rfl
      | _ =>
          simp only [run, invoke, invoke.status, Camera.ifCamera, BpCamera,
            transactInt32_mortal_zero remote]
          rfl

/-- A call of a camera that has transactions left. -/
theorem run_mortal_succ (remote : Transact σ W) (call : Call B)
    (object : Option (Camera B)) (s : σ) (n : Nat) :
    run (BpCamera P (mortal remote)) call (object, (s, n + 1))
      = ((run (BpCamera P remote) call (object, s)).1,
          ((run (BpCamera P remote) call (object, s)).2.1,
            ((run (BpCamera P remote) call (object, s)).2.2,
              if transacts call (object, s) then n else n + 1))) := by
  obtain _ | c := object
  · cases call with
    | create present self => cases present <;> rfl
    | _ => rfl
  · obtain ⟨self, mStatus, _ | _⟩ := c
    · cases call with
      | create present self => cases present <;> rfl
      | _ => rfl
    · cases call with
      | create present self => cases present <;> rfl
      | _ => rfl

/-- **A CAMERA THAT DIES** after `n` transactions: all calls behind leave it as
    it is, and the application gets what it would get of a camera that does
    nothing, with success. -/
theorem camera_silent (P : TextBinder W B) (camera : ICamera σ B)
    (hcamera : CameraFits P camera) (calls : List (Call B))
    (object : Option (Camera B)) (s : σ) (n : Nat)
    (h : ∀ call ∈ calls, CallFits P call) :
    ∃ before behind, calls = before ++ behind
      ∧ spent (run camera) transacts before (object, s) ≤ n
      ∧ (behind = [] ∨ spent (run camera) transacts before (object, s) = n)
      ∧ (session (run (BpCamera P (mortal (onTransact P camera)))) calls
          (object, (s, n))).1
        = (session (run camera) before (object, s)).1
          ++ (session runSilent behind
            (session (run camera) before (object, s)).2.1).1
      ∧ (session (run (BpCamera P (mortal (onTransact P camera)))) calls
          (object, (s, n))).2.1
        = (session runSilent behind
            (session (run camera) before (object, s)).2.1).2
      ∧ (session (run (BpCamera P (mortal (onTransact P camera)))) calls
          (object, (s, n))).2.2.1
        = (session (run camera) before (object, s)).2.2 := by
  refine session_dies (fun call object s => run_mortal_zero _ call object s)
    (fun call p n hfits => ?_) calls (object, s) n h
  rw [run_mortal_succ, run_onTransact hcamera call p hfits]

theorem camera_silent_previewing :
    ∃ before behind, someCalls = before ++ behind
      ∧ spent (run previewing) transacts before (none, (false, "")) ≤ 2
      ∧ (behind = []
        ∨ spent (run previewing) transacts before (none, (false, "")) = 2)
      ∧ (session (run (BpCamera (textObjects Nat)
          (mortal (onTransact (textObjects Nat) previewing)))) someCalls
          (none, ((false, ""), 2))).1
        = (session (run previewing) before (none, (false, ""))).1
          ++ (session runSilent behind
            (session (run previewing) before (none, (false, ""))).2.1).1
      ∧ (session (run (BpCamera (textObjects Nat)
          (mortal (onTransact (textObjects Nat) previewing)))) someCalls
          (none, ((false, ""), 2))).2.1
        = (session runSilent behind
            (session (run previewing) before (none, (false, ""))).2.1).2
      ∧ (session (run (BpCamera (textObjects Nat)
          (mortal (onTransact (textObjects Nat) previewing)))) someCalls
          (none, ((false, ""), 2))).2.2.1
        = (session (run previewing) before (none, (false, ""))).2.2 :=
  camera_silent (textObjects Nat) previewing previewing_fits someCalls none
    (false, "") 2 someCalls_fit

end QcomICamera
