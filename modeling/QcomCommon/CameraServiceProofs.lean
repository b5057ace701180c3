import QcomCommon.BinderProofs
import QcomCommon.ChannelProofs
import QcomCommon.SessionProofs
import QcomCommon.VendorTagTripProofs

/-! # The camera service behind the binder

    `ICameraService.cpp` of `libshims`: the proxy in the application and the
    stub in the service.  A session with the proxy leaves the service as one
    with the service does (`service_remote`), and gives its answers but for
    three methods.  `getLegacyParameters` and `supportsCameraApi` read the
    parcel of the call and not the reply, so they always give 0 and an empty
    string; and the vendor tags come through the parcel only where no name and
    no section is empty and no tag is there twice, with their map back made
    anew.

    When the service has died, only the methods that connect fail.
    `notifySystemEvent` waits for no answer; the events come in their order,
    but one with more than 512 arguments never does (`events_inOrder`). -/

namespace QcomCameraService

open QcomCodec QcomBinder QcomSession QcomChannel QcomTransition
open QcomParcel (INT32_MAX)
open QcomVendorTag (VendorTagDescriptor vendor_tag_ops_t Fault
  createDescriptorFromOps createFromParcel writeToParcel Roomy FitsAll
  HasEmptyName HasEmptySection tagsOf descriptorOf reindexed layout hal
  createDescriptorFromOps_ok createDescriptorFromOps_hal
  writeToParcel_descriptorOf createFromParcel_layout)

/-- The answer to a transaction of another interface. -/
def PERMISSION_DENIED : Word := -1

/-- The status of a transaction to a process that has died. -/
def DEAD_OBJECT : Word := -32

/-- The transactions that are answered. -/
inductive Transaction where
  | GET_NUMBER_OF_CAMERAS
  | GET_CAMERA_INFO
  | GET_CAMERA_CHARACTERISTICS
  | GET_CAMERA_VENDOR_TAG_DESCRIPTOR
  | CONNECT
  | CONNECT_LEGACY
  | SET_TORCH_MODE
  | CONNECT_DEVICE
  | ADD_LISTENER
  | REMOVE_LISTENER
  | GET_LEGACY_PARAMETERS
  | SUPPORTS_CAMERA_API

/-- What is told of a camera. -/
structure CameraInfo where
  facing : Word
  orientation : Word

/-- The vendor tags of a HAL: its operations, and the descriptor that
    `createDescriptorFromOps` made of them. -/
structure HalTags where
  vOps : vendor_tag_ops_t
  desc : VendorTagDescriptor
  room : Nat → Bool
  made : createDescriptorFromOps room (some vOps) = .ok desc

/-- `ICameraService`, with a state `σ`; what is stored through a pointer starts
    with what was there. -/
structure ICameraService (σ B : Type) where
  getNumberOfCameras : Word → σ → Word × σ
  getCameraInfo : Word → CameraInfo → σ → (Word × CameraInfo) × σ
  getCameraCharacteristics : Word → CameraMetadata → σ →
    (Word × CameraMetadata) × σ
  getCameraVendorTagDescriptor : σ → (Word × Option HalTags) × σ
  connect : Option B → Word → String → Word → σ → (Word × Option B) × σ
  connectLegacy : Option B → Word → Word → String → Word → σ →
    (Word × Option B) × σ
  setTorchMode : String → Bool → Option B → σ → Word × σ
  connectDevice : Option B → Word → String → Word → σ → (Word × Option B) × σ
  addListener : Option B → σ → Word × σ
  removeListener : Option B → σ → Word × σ
  getLegacyParameters : Word → String → σ → (Word × String) × σ
  supportsCameraApi : Word → Word → σ → Word × σ

/-- A call with its arguments, and whether the caller wants what can be stored
    through a pointer that may be `NULL`. -/
inductive Call (B : Type) where
  | getNumberOfCameras (type : Word)
  | getCameraInfo (cameraId : Word)
  | getCameraCharacteristics (cameraId : Word) (wanted : Bool)
  | getCameraVendorTagDescriptor
  | connect (cameraClient : Option B) (cameraId : Word)
      (clientPackageName : String) (clientUid : Word)
  | connectLegacy (cameraClient : Option B) (cameraId halVersion : Word)
      (clientPackageName : String) (clientUid : Word)
  | setTorchMode (cameraId : String) (enabled : Bool) (clientBinder : Option B)
  | connectDevice (cameraCb : Option B) (cameraId : Word)
      (clientPackageName : String) (clientUid : Word)
  | addListener (listener : Option B)
  | removeListener (listener : Option B)
  | getLegacyParameters (cameraId : Word) (wanted : Bool)
  | supportsCameraApi (cameraId apiVersion : Word)

/-- What a caller gets: the result, and what was stored, if anything was.  A
    descriptor is of the type `D`. -/
structure Answer (B D : Type) where
  result : Word
  cameraInfo : Option CameraInfo := none
  metadata : Option CameraMetadata := none
  desc : Except Fault (Option D) := .ok none
  device : Option B := none
  parameters : Option String := none

/-- What the caller behind a parcel gets. -/
abbrev Seen (B : Type) := Answer B VendorTagDescriptor

/-- A class `Parcel` with all that the vendor tags ask of it, and with memory
    for what is written. -/
structure TagBinder (W B : Type) extends Binder W B where
  parcel : QcomParcel.Parcel W
  parcel_int32 : parcel.int32 = int32
  roomy : Roomy parcel

variable {σ W B : Type} (P : TagBinder W B) (L : MetadataLib)

/-- How a call gets to the other side: the status of the transaction, the
    reply, and the state. -/
abbrev Transact (σ W : Type) :=
  Transaction → List W → σ → Word × List W × σ

/-! ## The stub -/

/-- What is stored, behind the mark that it is there. -/
def writeMaybe {α : Type} (write : α → List W) : Option α → List W
  | some a => P.int32.write 1 ++ write a
  | none => P.int32.write 0

/-- The reply of a method: no exception, its result and what it stores. -/
def replyWith {α : Type} (write : α → List W) (r : (Word × α) × σ) :
    List W × σ :=
  (P.writeNoException ++ (P.int32.write r.1.1 ++ write r.1.2), r.2)

/-- A reply that is a result alone. -/
def replyResult (r : Word × σ) : List W × σ :=
  (P.writeNoException ++ P.int32.write r.1, r.2)

/-- A `CameraInfo` behind the flag that there is one. -/
def writeInfo (cameraInfo : CameraInfo) : List W :=
  P.int32.write 1
    ++ (P.int32.write cameraInfo.facing ++ P.int32.write cameraInfo.orientation)

/-- The parcel behind `writeToParcel` of a descriptor, whose status is not
    looked at. -/
def appendDescriptor (d : VendorTagDescriptor) (p : List W) : List W :=
  -- no descriptor that was made lets it abort
  (writeToParcel P.parcel d (some p)).toOption.elim p Prod.snd

/-- The reply with the vendor tags, if there are any. -/
def replyTags (r : (Word × Option HalTags) × σ) : List W × σ :=
  let reply := P.writeNoException ++ P.int32.write r.1.1
  (r.1.2.elim (reply ++ P.int32.write 0) fun d =>
    appendDescriptor P d.desc (reply ++ P.int32.write 1), r.2)

/-- The arguments of `connect` and `connectDevice`. -/
def readConnect (data : List W) : Option B × Word × String × Word :=
  let cameraClient := P.readStrongBinder data
  let cameraId := P.readInt32 cameraClient.2
  let clientName := P.readString16 cameraId.2
  (cameraClient.1, cameraId.1, clientName.1, (P.readInt32 clientName.2).1)

/-- The `switch` of `BnCameraService::onTransact`, behind the check of the
    interface. -/
def dispatch (service : ICameraService σ B) (code : Transaction)
    (data : List W) (s : σ) : List W × σ :=
  match code with
  | .GET_NUMBER_OF_CAMERAS =>
      replyResult P (service.getNumberOfCameras (P.readInt32 data).1 s)
  | .GET_CAMERA_INFO =>
      replyWith P (writeInfo P)
        (service.getCameraInfo (P.readInt32 data).1 ⟨0, 0⟩ s)
  | .GET_CAMERA_CHARACTERISTICS =>
      replyWith P
        (fun info => P.int32.write 1 ++ writeMetadata P.toBinder L info)
        (service.getCameraCharacteristics (P.readInt32 data).1 none s)
  | .GET_CAMERA_VENDOR_TAG_DESCRIPTOR =>
      replyTags P (service.getCameraVendorTagDescriptor s)
  | .CONNECT =>
      let args := readConnect P data
      replyWith P (writeMaybe P fun b => P.strongBinder.write (some b))
        (service.connect args.1 args.2.1 args.2.2.1 args.2.2.2 s)
  | .CONNECT_DEVICE =>
      let args := readConnect P data
      replyWith P (writeMaybe P fun b => P.strongBinder.write (some b))
        (service.connectDevice args.1 args.2.1 args.2.2.1 args.2.2.2 s)
  | .ADD_LISTENER =>
      replyResult P (service.addListener (P.readStrongBinder data).1 s)
  | .REMOVE_LISTENER =>
      replyResult P (service.removeListener (P.readStrongBinder data).1 s)
  | .GET_LEGACY_PARAMETERS =>
      replyWith P (fun parameters =>
          P.int32.write 1 ++ P.string16.write parameters)
        (service.getLegacyParameters (P.readInt32 data).1 "" s)
  | .SUPPORTS_CAMERA_API =>
      let cameraId := P.readInt32 data
      replyResult P
        (service.supportsCameraApi cameraId.1 (P.readInt32 cameraId.2).1 s)
  | .CONNECT_LEGACY =>
      let cameraClient := P.readStrongBinder data
      let cameraId := P.readInt32 cameraClient.2
      let halVersion := P.readInt32 cameraId.2
      let clientName := P.readString16 halVersion.2
      replyWith P (writeMaybe P fun b => P.strongBinder.write (some b))
        (service.connectLegacy cameraClient.1 cameraId.1 halVersion.1
          clientName.1 (P.readInt32 clientName.2).1 s)
  | .SET_TORCH_MODE =>
      let cameraId := P.readString16 data
      let enabled := P.readInt32 cameraId.2
      replyResult P
        (service.setTorchMode cameraId.1 (enabled.1 ≠ 0)
          (P.readStrongBinder enabled.2).1 s)

/-- `BnCameraService::onTransact`. -/
def onTransact (service : ICameraService σ B) : Transact σ W :=
  fun code data s =>
    match P.interfaceToken.read data with
    | none => (PERMISSION_DENIED, [], s)
    | some (_, data) => (NO_ERROR, dispatch P L service code data s)

/-! ## The proxy -/

/-- The result and what is stored in a reply; with an exception, `error`. -/
def readReply (error : Word)
    (read : Word → List W → Seen B) (reply : List W) : Seen B :=
  let exception := P.readExceptionCode reply
  if exception.1 ≠ 0 then { result := error }
  else
    let result := P.readInt32 exception.2
    read result.1 result.2

/-- The `CameraInfo` of the reply, if the flag says so. -/
def readInfo (result : Word) (reply : List W) : Seen B :=
  let present := P.readInt32 reply
  if present.1 ≠ 0 then
    let facing := P.readInt32 present.2
    { result, cameraInfo := some ⟨facing.1, (P.readInt32 facing.2).1⟩ }
  else { result }

/-- The metadata of the reply, where there are some and the caller has a
    place. -/
def readCharacteristics (wanted : Bool) (result : Word) (reply : List W) :
    Seen B :=
  let present := P.readInt32 reply
  let out :=
    if present.1 ≠ 0 then (readMetadata P.toBinder L present.2).1.getD none
    else none
  { result, metadata := if wanted then some out else none }

/-- A descriptor that is not `OK` leaves the caller without one. -/
def readDescriptor (result : Word) (reply : List W) :
    Seen B :=
  let present := P.readInt32 reply
  if present.1 ≠ 0 then
    { result
      desc :=
        match createFromParcel P.parcel (fun _ => true) (some present.2) with
        | .ok d => .ok (some d.1)
        | .error (.status _) => .ok none
        | .error fault => .error fault }
  else { result }

/-- The device of the reply, if there is one. -/
def readDevice (result : Word) (reply : List W) : Seen B :=
  let present := P.readInt32 reply
  if present.1 ≠ 0 then
    { result, device := (P.readStrongBinder present.2).1 }
  else { result }

/-- A transaction; a method that connects looks at its status. -/
def transactWith (remote : Transact σ W) (code : Transaction) (args : List W)
    (connects : Bool) (read : List W → Seen B) (s : σ) :
    Seen B × σ :=
  let r := remote code (P.interfaceToken.write () ++ args) s
  (if connects = true ∧ r.1 ≠ NO_ERROR then { result := r.1 }
    else read r.2.1, r.2.2)

/-- A transaction whose reply is only looked at for an exception; the result
    is then read off the end of the parcel of the call. -/
def transactLost (remote : Transact σ W) (code : Transaction) (args : List W)
    (read : Word → List W → Seen B) (s : σ) :
    Seen B × σ :=
  let r := remote code (P.interfaceToken.write () ++ args) s
  let res := P.readInt32 []
  (if (P.readExceptionCode r.2.1).1 ≠ 0 then { result := -EPROTO }
    else read res.1 res.2, r.2.2)

/-- The arguments of `connect`. -/
def writeConnect (cameraClient : Option B) (cameraId : Word)
    (clientPackageName : String) (clientUid : Word) : List W :=
  P.strongBinder.write cameraClient ++ (P.int32.write cameraId
    ++ (P.string16.write clientPackageName ++ P.int32.write clientUid))

/-- The methods of `BpCameraService`. -/
def proxy (remote : Transact σ W) : Call B → σ → Seen B × σ
  | .getNumberOfCameras type, s =>
      transactWith P remote .GET_NUMBER_OF_CAMERAS (P.int32.write type) false
        (readReply P 0 fun result _ => { result }) s
  | .getCameraInfo cameraId, s =>
      transactWith P remote .GET_CAMERA_INFO (P.int32.write cameraId) false
        (readReply P (-EPROTO) (readInfo P)) s
  | .getCameraCharacteristics cameraId wanted, s =>
      transactWith P remote .GET_CAMERA_CHARACTERISTICS
        (P.int32.write cameraId) false
        (readReply P (-EPROTO) (readCharacteristics P L wanted)) s
  | .getCameraVendorTagDescriptor, s =>
      transactWith P remote .GET_CAMERA_VENDOR_TAG_DESCRIPTOR [] false
        (readReply P (-EPROTO) (readDescriptor P)) s
  | .connect cameraClient cameraId clientPackageName clientUid, s =>
      transactWith P remote .CONNECT
        (writeConnect P cameraClient cameraId clientPackageName clientUid) true
        (readReply P (-EPROTO) (readDevice P)) s
  | .connectLegacy cameraClient cameraId halVersion clientPackageName clientUid,
      s =>
      transactWith P remote .CONNECT_LEGACY
        (P.strongBinder.write cameraClient ++ (P.int32.write cameraId
          ++ (P.int32.write halVersion ++ (P.string16.write clientPackageName
            ++ P.int32.write clientUid)))) true
        (readReply P (-EPROTO) (readDevice P)) s
  | .setTorchMode cameraId enabled clientBinder, s =>
      transactWith P remote .SET_TORCH_MODE
        (P.string16.write cameraId
          ++ (P.writeBool enabled ++ P.strongBinder.write clientBinder)) false
        (readReply P (-EPROTO) fun result _ => { result }) s
  | .connectDevice cameraCb cameraId clientPackageName clientUid, s =>
      transactWith P remote .CONNECT_DEVICE
        (writeConnect P cameraCb cameraId clientPackageName clientUid) true
        (readReply P (-EPROTO) (readDevice P)) s
  | .addListener listener, s =>
      transactWith P remote .ADD_LISTENER (P.strongBinder.write listener) false
        (readReply P (-EPROTO) fun result _ => { result }) s
  | .removeListener listener, s =>
      transactWith P remote .REMOVE_LISTENER (P.strongBinder.write listener)
        false (readReply P (-EPROTO) fun result _ => { result }) s
  | .getLegacyParameters cameraId wanted, s =>
      if wanted then
        transactLost P remote .GET_LEGACY_PARAMETERS (P.int32.write cameraId)
          (fun result data =>
            let length := P.readInt32 data
            { result
              parameters := some
                (if 0 < length.1.toInt then (P.readString16 length.2).1
                  else "") }) s
      else ({ result := BAD_VALUE }, s)
  | .supportsCameraApi cameraId apiVersion, s =>
      transactLost P remote .SUPPORTS_CAMERA_API
        (P.int32.write cameraId ++ P.int32.write apiVersion)
        (fun result _ => { result }) s

/-! ## What a caller gets -/

/-- An answer, with a descriptor read in some way. -/
def Answer.reading {D D' : Type} (read : D → Option D') (a : Answer B D) :
    Answer B D' where
  result := a.result
  cameraInfo := a.cameraInfo
  metadata := a.metadata
  desc := a.desc.map fun d => d.bind read
  device := a.device
  parameters := a.parameters

/-- The service itself, called in its own process: what it gives, and what it
    stores. -/
def called (service : ICameraService σ B) : Call B → σ → Answer B HalTags × σ
  | .getNumberOfCameras type, s => resultOf (service.getNumberOfCameras type s)
  | .getCameraInfo cameraId, s =>
      let r := service.getCameraInfo cameraId ⟨0, 0⟩ s
      ({ result := r.1.1, cameraInfo := some r.1.2 }, r.2)
  | .getCameraCharacteristics cameraId _, s =>
      let r := service.getCameraCharacteristics cameraId none s
      ({ result := r.1.1, metadata := some r.1.2 }, r.2)
  | .getCameraVendorTagDescriptor, s =>
      let r := service.getCameraVendorTagDescriptor s
      ({ result := r.1.1, desc := .ok r.1.2 }, r.2)
  | .connect cameraClient cameraId clientPackageName clientUid, s =>
      deviceOf (service.connect cameraClient cameraId clientPackageName
        clientUid s)
  | .connectLegacy cameraClient cameraId halVersion clientPackageName clientUid,
      s =>
      deviceOf (service.connectLegacy cameraClient cameraId halVersion
        clientPackageName clientUid s)
  | .setTorchMode cameraId enabled clientBinder, s =>
      resultOf (service.setTorchMode cameraId enabled clientBinder s)
  | .connectDevice cameraCb cameraId clientPackageName clientUid, s =>
      deviceOf (service.connectDevice cameraCb cameraId clientPackageName
        clientUid s)
  | .addListener listener, s => resultOf (service.addListener listener s)
  | .removeListener listener, s => resultOf (service.removeListener listener s)
  | .getLegacyParameters cameraId _, s =>
      let r := service.getLegacyParameters cameraId "" s
      ({ result := r.1.1, parameters := some r.1.2 }, r.2)
  | .supportsCameraApi cameraId apiVersion, s =>
      resultOf (service.supportsCameraApi cameraId apiVersion s)
where
  resultOf (r : Word × σ) : Answer B HalTags × σ := ({ result := r.1 }, r.2)
  deviceOf (r : (Word × Option B) × σ) : Answer B HalTags × σ :=
    ({ result := r.1.1, device := r.1.2 }, r.2)

/-- The calls that never get to the service: parameters without a place. -/
def refused : Call B → Option (Answer B HalTags)
  | .getLegacyParameters _ wanted =>
      if wanted then none else some { result := BAD_VALUE }
  | _ => none

/-- The service behind the ends of the binder. -/
def reached (service : ICameraService σ B) :
    Call B → σ → Answer B HalTags × σ :=
  guarded refused (called service)

/-- What a parcel leaves of a descriptor: nothing where a name or a section is
    empty or a tag was defined twice. -/
def reread (t : HalTags) : Option VendorTagDescriptor :=
  if HasEmptyName t.vOps ∨ ¬ (tagsOf t.vOps).Nodup ∨ HasEmptySection t.vOps
    then none
  else some (reindexed t.vOps t.desc)

/-- What the caller sees of the answer of the service. -/
def seen (call : Call B) (a : Answer B HalTags) :
    Seen B :=
  let a := a.reading reread
  match call with
  | .getCameraCharacteristics _ wanted =>
      if wanted then a else { a with metadata := none }
  | .getLegacyParameters _ wanted =>
      if wanted then { result := NO_ERROR, parameters := some "" } else a
  | .supportsCameraApi _ _ => { result := NO_ERROR }
  | _ => a

/-- The strings of a call can be written. -/
def CallFits : Call B → Prop
  | .connect _ _ clientPackageName _ => clientPackageName.length < INT32_MAX
  | .connectLegacy _ _ _ clientPackageName _ =>
      clientPackageName.length < INT32_MAX
  | .setTorchMode cameraId _ _ => cameraId.length < INT32_MAX
  | .connectDevice _ _ clientPackageName _ =>
      clientPackageName.length < INT32_MAX
  | _ => True

/-- The metadata and the names of the tags that the service gives can be
    written. -/
structure ServiceFits (service : ICameraService σ B) : Prop where
  getCameraCharacteristics : ∀ cameraId s,
    MetadataFits L (service.getCameraCharacteristics cameraId none s).1.2
  getCameraVendorTagDescriptor : ∀ s,
    ∀ t ∈ (service.getCameraVendorTagDescriptor s).1.2, FitsAll t.vOps P.parcel

/-! ## Each call -/

variable {P L} {service : ICameraService σ B}

theorem transactWith_onTransact (code : Transaction) (args : List W)
    (connects : Bool) (read : List W → Seen B) (s : σ) :
    transactWith P (onTransact P L service) code args connects read s
      = (read (dispatch P L service code args s).1,
          (dispatch P L service code args s).2) := by
  simp [transactWith, onTransact]

/-- A reply without an exception is read from its result on. -/
theorem readReply_replyWith {α : Type} (error : Word)
    (read : Word → List W → Seen B) (write : α → List W)
    (r : (Word × α) × σ) :
    readReply P error read (replyWith P write r).1
      = read r.1.1 (write r.1.2) := by
  simp [readReply, replyWith]

theorem readReply_replyResult (error : Word) (r : Word × σ) :
    readReply P error (fun result _ => { result }) (replyResult P r).1
      = ({ result := r.1 } : Seen B) := by
  simp [readReply, replyResult]

theorem readInfo_writeInfo (result : Word) (cameraInfo : CameraInfo) :
    readInfo P result (writeInfo P cameraInfo)
      = ({ result, cameraInfo := some cameraInfo } : Seen B) := by
  simp [readInfo, writeInfo]

theorem readCharacteristics_write (wanted : Bool) (result : Word)
    {m : CameraMetadata} (h : MetadataFits L m) :
    readCharacteristics P L wanted result
        (P.int32.write 1 ++ writeMetadata P.toBinder L m)
      = ({ result, metadata := if wanted then some m else none }
        : Seen B) := by
  have hread := readMetadata_write P.toBinder L h []
  rw [List.append_nil] at hread
  simp [readCharacteristics, hread]

/-- A descriptor that was made is written. -/
theorem appendDescriptor_made (t : HalTags) (p : List W) :
    appendDescriptor P t.desc p = p ++ layout P.parcel t.desc := by
  obtain ⟨-, -, hdesc⟩ := createDescriptorFromOps_ok t.made
  have hwrite := writeToParcel_descriptorOf P.roomy t.vOps p
  rw [hdesc] at hwrite
  rw [appendDescriptor, hwrite]
  rfl

/-- And it is read as the parcel leaves it. -/
theorem readDescriptor_layout (result : Word) {t : HalTags}
    (h : FitsAll t.vOps P.parcel) :
    readDescriptor P result (P.int32.write 1 ++ layout P.parcel t.desc)
      = { result, desc := .ok (reread t) } := by
  obtain ⟨hcount, hall, hdesc⟩ := createDescriptorFromOps_ok t.made
  have hread := createFromParcel_layout (fun _ => rfl) hcount hall h []
  have hone : (1 : Word) ≠ 0 := by decide
  rw [List.append_nil, hdesc] at hread
  simp only [readDescriptor, P.readInt32_write, if_pos hone, hread, reread]
  by_cases hempty : HasEmptyName t.vOps
  · simp only [hempty, if_true, true_or]
  · by_cases hnodup : (tagsOf t.vOps).Nodup
    · by_cases hsection : HasEmptySection t.vOps
      · simp only [hempty, hnodup, hsection, if_true, if_false,
          not_true_eq_false, or_true]
      · simp only [hempty, hnodup, hsection, if_false, not_true_eq_false,
          or_false]
    · simp only [hempty, hnodup, if_true, if_false, not_false_eq_true,
        true_or, or_true]

/-- **A DESCRIPTOR** in a reply. -/
theorem readReply_replyTags {r : (Word × Option HalTags) × σ}
    (h : ∀ t ∈ r.1.2, FitsAll t.vOps P.parcel) :
    readReply P (-EPROTO) (readDescriptor P) (replyTags P r).1
      = { result := r.1.1, desc := .ok (r.1.2.bind reread) } := by
  obtain ⟨⟨result, tags⟩, s⟩ := r
  cases tags with
  | none => simp [readReply, readDescriptor, replyTags]
  | some t =>
      have hread := readDescriptor_layout result (h t rfl)
      simp only [readReply, replyTags, Option.elim_some,
        appendDescriptor_made, List.append_assoc,
        P.readExceptionCode_writeNoException, ne_eq, not_true_eq_false,
        if_false, P.readInt32_write, hread, Option.bind_some]

theorem readDevice_writeMaybe (result : Word) (device : Option B) :
    readDevice P result
        (writeMaybe P (fun b => P.strongBinder.write (some b)) device)
      = ({ result, device } : Seen B) := by
  cases device <;> simp [readDevice, writeMaybe]

theorem readConnect_writeConnect (cameraClient : Option B) (cameraId : Word)
    {clientPackageName : String} (h : clientPackageName.length < INT32_MAX)
    (clientUid : Word) :
    readConnect P
        (writeConnect P cameraClient cameraId clientPackageName clientUid)
      = (cameraClient, cameraId, clientPackageName, clientUid) := by
  simp only [readConnect, writeConnect, P.readStrongBinder_write,
    P.readInt32_write, P.readString16_write _ h, P.readInt32_write_last]

/-- The answer that is not read. -/
theorem transactLost_onTransact (code : Transaction) (args : List W)
    (read : Word → List W → Seen B) (s : σ)
    (h : (P.readExceptionCode (dispatch P L service code args s).1).1 = 0) :
    transactLost P (onTransact P L service) code args read s
      = (read 0 [], (dispatch P L service code args s).2) := by
  simp [transactLost, onTransact, h]

/-- **A CALL** over the binder. -/
theorem proxy_onTransact (hservice : ServiceFits P L service) (call : Call B)
    (s : σ) (h : CallFits call) :
    proxy P L (onTransact P L service) call s
      = (seen call (reached service call s).1, (reached service call s).2) := by
  cases call with
  | getNumberOfCameras type =>
      rw [proxy, transactWith_onTransact]
      simp only [dispatch, P.readInt32_write_last, readReply_replyResult]
      rfl
  | getCameraInfo cameraId =>
      rw [proxy, transactWith_onTransact]
      simp only [dispatch, P.readInt32_write_last, readReply_replyWith,
        readInfo_writeInfo]
      rfl
  | getCameraCharacteristics cameraId wanted =>
      rw [proxy, transactWith_onTransact]
      simp only [dispatch, P.readInt32_write_last, readReply_replyWith,
        readCharacteristics_write _ _ (hservice.getCameraCharacteristics _ _)]
      cases wanted <;> rfl
  | getCameraVendorTagDescriptor =>
      rw [proxy, transactWith_onTransact]
      simp only [dispatch,
        readReply_replyTags (hservice.getCameraVendorTagDescriptor s)]
      rfl
  | connect cameraClient cameraId clientPackageName clientUid =>
      rw [proxy, transactWith_onTransact]
      simp only [dispatch, readReply_replyWith, readDevice_writeMaybe,
        readConnect_writeConnect cameraClient cameraId h clientUid]
      rfl
  | connectDevice cameraCb cameraId clientPackageName clientUid =>
      rw [proxy, transactWith_onTransact]
      simp only [dispatch, readReply_replyWith, readDevice_writeMaybe,
        readConnect_writeConnect cameraCb cameraId h clientUid]
      rfl
  | connectLegacy cameraClient cameraId halVersion clientPackageName clientUid =>
      rw [proxy, transactWith_onTransact]
      simp only [dispatch, P.readStrongBinder_write, P.readInt32_write,
        P.readString16_write _ h, P.readInt32_write_last, readReply_replyWith,
        readDevice_writeMaybe]
      rfl
  | setTorchMode cameraId enabled clientBinder =>
      have henabled : decide ((if enabled then 1 else 0 : Word) ≠ 0)
          = enabled := by
        cases enabled <;> rfl
      rw [proxy, transactWith_onTransact]
      simp only [dispatch, P.readString16_write _ h, P.readInt32_writeBool,
        henabled, P.readStrongBinder_write_last, readReply_replyResult]
      rfl
  | addListener listener | removeListener listener =>
      rw [proxy, transactWith_onTransact]
      simp only [dispatch, P.readStrongBinder_write_last,
        readReply_replyResult]
      rfl
  | getLegacyParameters cameraId wanted =>
      cases wanted with
      | false => rfl
      | true =>
          rw [proxy, if_pos rfl, transactLost_onTransact]
          · simp only [dispatch, P.readInt32_write_last, P.readInt32_nil]
            rfl
          · simp [dispatch, replyWith]
  | supportsCameraApi cameraId apiVersion =>
      rw [proxy, transactLost_onTransact]
      · simp only [dispatch, P.readInt32_write, P.readInt32_write_last]
        rfl
      · simp [dispatch, replyResult]

/-! ## A service that knows its listeners -/

/-- The tags of `hal`, with their descriptor. -/
def halTags : HalTags where
  vOps := hal
  desc := descriptorOf hal
  room _ := true
  made := createDescriptorFromOps_hal

/-- The state is the listeners; two cameras, and the device of a camera is its
    number. -/
def listening : ICameraService (List Nat) Nat where
  getNumberOfCameras _ l := (2, l)
  getCameraInfo cameraId info l :=
    if cameraId.toNat < 2 then ((NO_ERROR, ⟨cameraId, 90⟩), l)
    else ((BAD_VALUE, info), l)
  getCameraCharacteristics _ _ l := ((NO_ERROR, some [7]), l)
  getCameraVendorTagDescriptor l := ((NO_ERROR, some halTags), l)
  connect _ cameraId _ _ l := ((NO_ERROR, some cameraId.toNat), l)
  connectLegacy _ _ _ _ _ l := ((INVALID_OPERATION, none), l)
  setTorchMode _ _ _ l := (NO_ERROR, l)
  connectDevice _ cameraId _ _ l := ((NO_ERROR, some cameraId.toNat), l)
  addListener listener l :=
    listener.elim (BAD_VALUE, l) fun b => (NO_ERROR, b :: l)
  removeListener listener l :=
    listener.elim (BAD_VALUE, l) fun b => (NO_ERROR, l.erase b)
  getLegacyParameters _ _ l := ((INVALID_OPERATION, "legacy"), 0 :: l)
  supportsCameraApi _ _ l := (INVALID_OPERATION, l)

/-- Parcels of objects, with a string of C as one object. -/
def tagObjects (B : Type) : TagBinder (Item B) B where
  toBinder := objects B
  parcel :=
    { int32 := (objects B).int32
      string8 := itemCodec .string8 (fun | .string8 s => some s | _ => none)
        fun _ => rfl
      writeInt32 := fun p x => (QcomParcel.OK, p ++ [.int32 x])
      writeString8 := fun p s => (QcomParcel.OK, p ++ [.string8 s])
      int32_fits := fun _ => trivial
      writeInt32_ok := fun _ _ _ => rfl
      writeString8_ok := fun _ _ _ => rfl }
  parcel_int32 := rfl
  roomy := ⟨fun _ _ => rfl, fun _ _ => rfl⟩

theorem listening_fits : ServiceFits (tagObjects Nat) aligned listening where
  getCameraCharacteristics _ _ := ⟨by decide, rfl, by decide⟩
  getCameraVendorTagDescriptor _ _ _ _ _ := ⟨trivial, trivial⟩

/-- Calls of all kinds, one without a place among them. -/
def someCalls : List (Call Nat) :=
  [.addListener (some 4), .getNumberOfCameras 0, .getCameraInfo 1,
    .getCameraVendorTagDescriptor, .supportsCameraApi 0 2,
    .getLegacyParameters 0 false, .connect none 1 "camera" 1000]

theorem someCalls_fit : ∀ call ∈ someCalls, CallFits call := by
  intro call hcall
  simp only [someCalls, List.mem_cons, List.not_mem_nil, or_false] at hcall
  rcases hcall with rfl | rfl | rfl | rfl | rfl | rfl | rfl
  · trivial
  · trivial
  · trivial
  · trivial
  · trivial
  · trivial
  · show ("camera").length < INT32_MAX
    decide

/-! ## Sessions -/

/-- **THE REMOTE SERVICE**: a session with the proxy leaves the service as one
    with the service does, but for the calls that are refused; and its answers
    are those of the service as the caller sees them. -/
theorem service_remote (P : TagBinder W B) (L : MetadataLib)
    (service : ICameraService σ B) (hservice : ServiceFits P L service)
    (calls : List (Call B)) (s : σ) (h : ∀ call ∈ calls, CallFits call) :
    session (proxy P L (onTransact P L service)) calls s
      = (List.zipWith seen calls (session (reached service) calls s).1,
          (session (called service)
            (calls.filter fun call => (refused call).isNone) s).2) := by
  rw [← session_guarded]
  exact session_view (fun call s => proxy_onTransact hservice call s) calls s h

theorem service_remote_listening :
    session (proxy (tagObjects Nat) aligned
        (onTransact (tagObjects Nat) aligned listening)) someCalls []
      = ([{ result := NO_ERROR }, { result := 2 },
          { result := NO_ERROR, cameraInfo := some ⟨1, 90⟩ },
          { result := NO_ERROR
            desc := .ok (some (reindexed hal (descriptorOf hal))) },
          { result := NO_ERROR }, { result := BAD_VALUE },
          { result := NO_ERROR, device := some 1 }], [4]) := by
  have hreread : reread halTags
      = some (reindexed hal (descriptorOf hal)) := if_neg (by decide)
  refine (service_remote (tagObjects Nat) aligned listening listening_fits
    someCalls [] someCalls_fit).trans ?_
  rw [← hreread]
  rfl

/-- A service that is there for some transactions only. -/
def mortal (remote : Transact σ W) : Transact (σ × Nat) W :=
  fun code data s =>
    match s.2 with
    | 0 => (DEAD_OBJECT, [], s)
    | n + 1 =>
        let r := remote code data s.1
        (r.1, r.2.1, (r.2.2, n))

/-- Whether a call gets as far as a transaction. -/
def transacts : Call B → Bool
  | .getLegacyParameters _ wanted => wanted
  | _ => true

/-- What a caller gets of a service that is not there. -/
def unanswered : Call B → Seen B
  | .connect _ _ _ _ | .connectLegacy _ _ _ _ _ | .connectDevice _ _ _ _ =>
      { result := DEAD_OBJECT }
  | .getCameraCharacteristics _ wanted =>
      { result := NO_ERROR, metadata := if wanted then some none else none }
  | .getLegacyParameters _ wanted =>
      if wanted then { result := NO_ERROR, parameters := some "" }
      else { result := BAD_VALUE }
  | _ => { result := NO_ERROR }

/-- A reply with nothing in it is no exception. -/
theorem readReply_nil (error : Word)
    (read : Word → List W → Seen B) :
    readReply P error read [] = read 0 [] := by
  simp [readReply, P.readExceptionCode_nil]

/-- A call to a service that has died. -/
theorem proxy_mortal_zero (remote : Transact σ W) (call : Call B) (s : σ) :
    proxy P L (mortal remote) call (s, 0)
      = (unanswered call, (s, 0)) := by
  have hdead : DEAD_OBJECT ≠ NO_ERROR := by decide
  cases call with
  | connect | connectLegacy | connectDevice =>
      simp only [proxy, transactWith, mortal, ne_eq, hdead, not_false_eq_true,
        and_self, if_true, unanswered]
  | getLegacyParameters cameraId wanted =>
      cases wanted with
      | false => rfl
      | true =>
          simp [proxy, transactLost, mortal, P.readExceptionCode_nil,
            unanswered, NO_ERROR]
  | supportsCameraApi =>
      simp [proxy, transactLost, mortal, P.readExceptionCode_nil, unanswered,
        NO_ERROR]
  | getCameraInfo =>
      simp [proxy, transactWith, mortal, readReply_nil, readInfo, unanswered,
        NO_ERROR]
  | getCameraCharacteristics =>
      simp [proxy, transactWith, mortal, readReply_nil, readCharacteristics,
        unanswered, NO_ERROR]
  | getCameraVendorTagDescriptor =>
      simp [proxy, transactWith, mortal, readReply_nil, readDescriptor,
        unanswered, NO_ERROR]
  | _ =>
      simp [proxy, transactWith, mortal, readReply_nil, unanswered, NO_ERROR]

/-- A call to a service that has transactions left. -/
theorem proxy_mortal_succ (remote : Transact σ W) (call : Call B) (s : σ)
    (n : Nat) :
    proxy P L (mortal remote) call (s, n + 1)
      = ((proxy P L remote call s).1,
          ((proxy P L remote call s).2,
            if transacts call then n else n + 1)) := by
  cases call with
  | getLegacyParameters cameraId wanted => cases wanted <;> rfl
  | _ => rfl

/-- **A SERVICE THAT DIES** after `n` transactions: the calls before are
    answered as by one that lives; all calls behind leave the service as it
    is, and only those that connect tell: the others give 0, with nothing
    stored or something empty, but for parameters without a place. -/
theorem service_mortal (P : TagBinder W B) (L : MetadataLib)
    (service : ICameraService σ B) (hservice : ServiceFits P L service)
    (calls : List (Call B)) (s : σ) (n : Nat)
    (h : ∀ call ∈ calls, CallFits call) :
    ∃ before behind, calls = before ++ behind
      ∧ before.countP transacts ≤ n
      ∧ (behind = [] ∨ before.countP transacts = n)
      ∧ (session (proxy P L (mortal (onTransact P L service))) calls
          (s, n)).1
        = List.zipWith seen before (session (reached service) before s).1
          ++ behind.map unanswered
      ∧ (session (proxy P L (mortal (onTransact P L service))) calls
          (s, n)).2.1
        = (session (called service)
            (before.filter fun call => (refused call).isNone) s).2 := by
  obtain ⟨before, behind, hsplit, hle, hcut, hanswers, hstate⟩ :=
    session_cut (fun call s => proxy_mortal_zero _ call s)
      (fun call s n hfits => by
        rw [proxy_mortal_succ, proxy_onTransact hservice call s hfits])
      calls s n h
  exact ⟨before, behind, hsplit, hle, hcut, hanswers,
    hstate.trans (session_guarded refused (called service) before s)⟩

theorem service_mortal_listening :
    ∃ before behind, someCalls = before ++ behind
      ∧ before.countP transacts ≤ 4
      ∧ (behind = [] ∨ before.countP transacts = 4)
      ∧ (session (proxy (tagObjects Nat) aligned (mortal
          (onTransact (tagObjects Nat) aligned listening))) someCalls
          ([], 4)).1
        = List.zipWith seen before (session (reached listening) before []).1
          ++ behind.map unanswered
      ∧ (session (proxy (tagObjects Nat) aligned (mortal
          (onTransact (tagObjects Nat) aligned listening))) someCalls
          ([], 4)).2.1
        = (session (called listening)
            (before.filter fun call => (refused call).isNone) []).2 :=
  service_mortal (tagObjects Nat) aligned listening listening_fits someCalls
    [] 4 someCalls_fit

/-! ## Events -/

/-- A call of `notifySystemEvent`; `none` is `NULL`. -/
structure SystemEvent where
  eventId : Word
  args : Option (List Word)

/-- A class `Parcel` with arrays of numbers. -/
structure EventBinder (W B : Type) extends Binder W B where
  array : Nat → Codec W (List Word)
  array_fits : ∀ l, (array l.length).Fits l

section Events

variable (P : EventBinder W B)

/-- `writeInt32Array`. -/
def writeInt32Array : Option (List Word) → List W
  | none => P.int32.write (-1)
  | some args =>
      P.int32.write (.ofNat 32 args.length)
        ++ (P.array args.length).write args

/-- `BpCameraService::notifySystemEvent`. -/
def sendEvent (e : SystemEvent) : Unit × List W :=
  ((), P.interfaceToken.write ()
    ++ (P.int32.write e.eventId ++ writeInt32Array P e.args))

/-- `NOTIFY_SYSTEM_EVENT` of `BnCameraService::onTransact`: the event that the
    service is told, or `FAILED_TRANSACTION`. -/
def onEvent (data : List W) : Option (Word × List Word) :=
  match P.interfaceToken.read data with
  | none => none
  | some (_, data) =>
      let eventId := P.readInt32 data
      let len := P.readInt32 eventId.2
      if len.1.toInt < 0 then none
      else if 512 < len.1.toInt then none
      else
        ((P.array len.1.toNat).read len.2).map fun events =>
          (eventId.1, events.1)

/-- The event, if it is not too long. -/
def toldEvent (e : SystemEvent) : Option (Word × List Word) :=
  e.args.bind fun args =>
    if args.length ≤ 512 then some (e.eventId, args) else none

/-- The number of the arguments is an `int32_t`. -/
def EventFits (e : SystemEvent) : Prop := ∀ args ∈ e.args, args.length < 2 ^ 31

variable {P}

/-- An event is told as it was written, or not at all. -/
theorem onEvent_sendEvent {e : SystemEvent} (h : EventFits e) :
    onEvent P (sendEvent P e).2 = toldEvent e := by
  obtain ⟨eventId, args⟩ := e
  cases args with
  | none =>
      have hneg : (-1 : Word).toInt < 0 := by decide
      simp only [onEvent, sendEvent, P.read_interfaceToken, P.readInt32_write,
        writeInt32Array, P.readInt32_write_last, if_pos hneg, toldEvent,
        Option.bind_none]
  | some args =>
      have hlen : args.length < 2 ^ 31 := h args rfl
      have hint := toInt_ofNat hlen
      have hnat : (BitVec.ofNat 32 args.length).toNat = args.length := by
        rw [BitVec.toNat_ofNat, Nat.mod_eq_of_lt (by omega)]
      have harray := (P.array args.length).read_append (P.array_fits args) []
      rw [List.append_nil] at harray
      have hpos : ¬ ((args.length : Int) < 0) := by omega
      simp only [onEvent, sendEvent, P.read_interfaceToken, P.readInt32_write,
        writeInt32Array, hint, hnat, if_neg hpos, harray, toldEvent,
        Option.bind_some, Option.map_some]
      by_cases hlong : args.length ≤ 512
      · rw [if_neg (by omega), if_pos hlong]
      · rw [if_pos (by omega), if_neg hlong]

variable (P)

/-- The two ends of `notifySystemEvent`. -/
def events : Interface SystemEvent (Word × List Word) Unit W where
  Fits := EventFits
  send := sendEvent P
  receive _ data := onEvent P data
  seen := toldEvent
  receive_send _ h := onEvent_sendEvent h

/-- **THE EVENTS** that the service is told are those sent that are not `NULL`
    and have at most 512 arguments, in their order. -/
theorem events_inOrder {s : Channel SystemEvent (Word × List Word) Unit W}
    (h : ReachUnder (channel (events P)) (SendsFit (events P)) s) :
    s.received <+: s.sent.filterMap toldEvent
      ∧ (s.alive = true → s.received
        = (s.sent.take (s.sent.length - s.queue.length)).filterMap
          toldEvent) :=
  channel_inOrder h

/-- Parcels with an array as one object. -/
def eventObjects (B : Type) : EventBinder (Item B) B where
  toBinder := objects B
  array _ := itemCodec .int32Array (fun | .int32Array l => some l | _ => none)
    fun _ => rfl
  array_fits _ := trivial

/-- An event with an argument, one without an array, and one on its way. -/
def threeEvents : Channel SystemEvent (Word × List Word) Unit (Item Nat) where
  sent := [⟨1, some [10]⟩, ⟨2, none⟩, ⟨1, some []⟩]
  queue := [sendEvent (eventObjects Nat) ⟨1, some []⟩]
  received := [(1, [10])]
  alive := true

theorem events_inOrder_threeEvents :
    threeEvents.received <+: threeEvents.sent.filterMap toldEvent
      ∧ (threeEvents.alive = true → threeEvents.received
        = (threeEvents.sent.take
          (threeEvents.sent.length - threeEvents.queue.length)).filterMap
            toldEvent) := by
  have hone : EventFits ⟨1, some [10]⟩ := by
    rintro _ ⟨⟩
    decide
  have hempty : EventFits ⟨1, some []⟩ := by
    rintro _ ⟨⟩
    decide
  have hnull : EventFits ⟨2, none⟩ := by
    rintro _ ⟨⟩
  exact events_inOrder (eventObjects Nat)
    (.step (a := .send ⟨1, some []⟩)
      (.step (a := .deliver)
        (.step (a := .deliver)
          (.step (a := .send ⟨2, none⟩)
            (.step (a := .send ⟨1, some [10]⟩) (.init rfl) hone rfl)
            hnull rfl)
          trivial rfl)
        trivial rfl)
      hempty rfl)

end Events

end QcomCameraService
