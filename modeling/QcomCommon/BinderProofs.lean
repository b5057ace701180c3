import QcomCommon.ParcelProofs

/-! # What the camera sends over the binder

    The reads of a `Parcel` that give a default where nothing is left, and
    what the camera's classes write as a part of a message: `CameraMetadata`,
    `CaptureRequest`, `OutputConfiguration` and `CaptureResultExtras` of
    `libshims`.  Each is read as it was written, and the reader is then behind
    it (`readMetadata_write`, `readRequest_write`). -/

namespace QcomBinder

open QcomCodec
open QcomParcel (INT32_MAX)

/-- A number of a parcel, which may be a flag or a status. -/
abbrev Word := BitVec 32

/-- The status of a call that is not allowed now. -/
def INVALID_OPERATION : Word := -38

/-- The status of a transaction that was not carried out. -/
def FAILED_TRANSACTION : Word := -2147483646

/-- The status of an argument that is not allowed. -/
def BAD_VALUE : Word := -22

/-- Success. -/
def NO_ERROR : Word := 0

/-- The error number of a reply with an exception. -/
def EPROTO : Word := 71

/-- A class `Parcel` with the binders of the type `B`; nothing can be read of
    a parcel that has ended. -/
structure Binder (W B : Type) where
  int32 : Codec W Word
  int64 : Codec W (BitVec 64)
  string16 : Codec W String
  strongBinder : Codec W (Option B)
  blob : Nat → Codec W (List UInt8)
  interfaceToken : Codec W Unit
  readExceptionCode : List W → Word × List W
  int32_fits : ∀ x, int32.Fits x
  int64_fits : ∀ x, int64.Fits x
  string16_fits : ∀ s, s.length < INT32_MAX → string16.Fits s
  strongBinder_fits : ∀ b, strongBinder.Fits b
  blob_fits : ∀ bytes, (blob bytes.length).Fits bytes
  interfaceToken_fits : interfaceToken.Fits ()
  readExceptionCode_write : ∀ rest,
    readExceptionCode (int32.write 0 ++ rest) = (0, rest)
  readExceptionCode_nil : readExceptionCode [] = (0, [])
  int32_nil : int32.read [] = none
  int64_nil : int64.read [] = none
  string16_nil : string16.read [] = none
  strongBinder_nil : strongBinder.read [] = none

namespace Binder

variable {W B : Type} (P : Binder W B)

/-- `readInt32()`. -/
def readInt32 (p : List W) : Word × List W := (P.int32.read p).getD (0, p)

/-- `readString16Inplace`; `none` is `NULL`. -/
def readString16Inplace (p : List W) : Option String × List W :=
  (P.string16.read p).elim (none, p) fun q => (some q.1, q.2)

/-- `readString16()`. -/
def readString16 (p : List W) : String × List W :=
  (P.string16.read p).getD ("", p)

/-- `readStrongBinder()`. -/
def readStrongBinder (p : List W) : Option B × List W :=
  (P.strongBinder.read p).getD (none, p)

/-- `writeNoException`. -/
def writeNoException : List W := P.int32.write 0

/-- A flag is written as a number. -/
def writeBool (b : Bool) : List W := P.int32.write (if b then 1 else 0)

variable (rest : List W)

/-- A number is read as it was written. -/
@[simp] theorem read_int32 (x : Word) :
    P.int32.read (P.int32.write x ++ rest) = some (x, rest) :=
  P.int32.read_append (P.int32_fits x) rest

/-- So is one of 64 bits. -/
@[simp] theorem read_int64 (x : BitVec 64) :
    P.int64.read (P.int64.write x ++ rest) = some (x, rest) :=
  P.int64.read_append (P.int64_fits x) rest

/-- A binder is read as it was written, `NULL` too. -/
@[simp] theorem read_strongBinder (b : Option B) :
    P.strongBinder.read (P.strongBinder.write b ++ rest) = some (b, rest) :=
  P.strongBinder.read_append (P.strongBinder_fits b) rest

/-- The token of the interface is found where it was written. -/
@[simp] theorem read_interfaceToken :
    P.interfaceToken.read (P.interfaceToken.write () ++ rest)
      = some ((), rest) :=
  P.interfaceToken.read_append P.interfaceToken_fits rest

/-- `readInt32` gives what was written. -/
@[simp] theorem readInt32_write (x : Word) :
    P.readInt32 (P.int32.write x ++ rest) = (x, rest) := by
  rw [readInt32, read_int32]
  rfl

/-- It does so at the end of a parcel. -/
@[simp] theorem readInt32_write_last (x : Word) :
    P.readInt32 (P.int32.write x) = (x, []) := by
  have h := P.readInt32_write [] x
  rwa [List.append_nil] at h

/-- Where nothing is left `readInt32` gives 0. -/
@[simp] theorem readInt32_nil : P.readInt32 [] = (0, []) := by
  rw [readInt32, P.int32_nil]
  rfl

/-- A flag is read as 1 or 0. -/
@[simp] theorem readInt32_writeBool (b : Bool) :
    P.readInt32 (P.writeBool b ++ rest) = (if b then 1 else 0, rest) :=
  P.readInt32_write rest _

@[simp] theorem readInt32_writeBool_last (b : Bool) :
    P.readInt32 (P.writeBool b) = (if b then 1 else 0, []) :=
  P.readInt32_write_last _

/-- `readStrongBinder` gives what was written. -/
@[simp] theorem readStrongBinder_write (b : Option B) :
    P.readStrongBinder (P.strongBinder.write b ++ rest) = (b, rest) := by
  rw [readStrongBinder, read_strongBinder]
  rfl

@[simp] theorem readStrongBinder_write_last (b : Option B) :
    P.readStrongBinder (P.strongBinder.write b) = (b, []) := by
  have h := P.readStrongBinder_write [] b
  rwa [List.append_nil] at h

/-- A string that is not too long is read in place. -/
theorem readString16Inplace_write {s : String} (h : s.length < INT32_MAX) :
    P.readString16Inplace (P.string16.write s ++ rest) = (some s, rest) := by
  rw [readString16Inplace, P.string16.read_append (P.string16_fits s h)]
  rfl

/-- It is read as a copy, too. -/
theorem readString16_write {s : String} (h : s.length < INT32_MAX) :
    P.readString16 (P.string16.write s ++ rest) = (s, rest) := by
  rw [readString16, P.string16.read_append (P.string16_fits s h)]
  rfl

/-- Behind `writeNoException` there is no exception. -/
@[simp] theorem readExceptionCode_writeNoException :
    P.readExceptionCode (P.writeNoException ++ rest) = (0, rest) :=
  P.readExceptionCode_write rest

end Binder

/-! ## Metadata -/

/-- The buffer of a `CameraMetadata`, packed; `none` is `NULL`. -/
abbrev CameraMetadata := Option (List UInt8)

/-- What the library of the metadata does: its alignment, the place in a blob
    that has it, and whether a buffer is accepted. -/
structure MetadataLib where
  alignment : Nat
  offset : List UInt8 → Nat
  valid : List UInt8 → Bool
  offset_lt : ∀ bytes, offset bytes < alignment

variable {W B : Type} (P : Binder W B) (L : MetadataLib)

/-- `CameraMetadata::writeToParcel`. -/
def writeMetadata : CameraMetadata → List W
  | none => P.int32.write 0
  | some metadata =>
      let blobSize := metadata.length + L.alignment
      let offset := L.offset metadata
      P.int32.write (.ofNat 32 blobSize)
        ++ ((P.blob blobSize).write
            (List.replicate offset 0 ++ metadata
              ++ List.replicate (L.alignment - offset) 0)
          ++ P.int32.write (.ofNat 32 offset))

/-- `static_cast<size_t>` of an `int32_t`, in 64 bits. -/
def toSize (x : Word) : Nat := (x.signExtend 64).toNat

/-- `CameraMetadata::readFromParcel`: the metadata, or none with an error, and
    where the reader is then. -/
def readMetadata (p : List W) : Option CameraMetadata × List W :=
  match P.int32.read p with
  | none => (none, p)
  | some (blobSizeTmp, p) =>
      let blobSize := toSize blobSizeTmp
      if blobSize = 0 then (some none, p)
      else if blobSize ≤ L.alignment then (none, p)
      else
        match (P.blob blobSize).read p with
        | none => (none, p)
        | some (blob, p) =>
            match P.int32.read p with
            | none => (none, p)
            | some (offsetTmp, p) =>
                let offset := toSize offsetTmp
                if L.alignment ≤ offset then (none, p)
                else
                  let metadata :=
                    (blob.drop offset).take (blobSize - L.alignment)
                  if L.valid metadata then (some (some metadata), p)
                  else (none, p)

/-- What is in a buffer is accepted, and its size with the padding is an
    `int32_t`. -/
def MetadataFits : CameraMetadata → Prop
  | none => True
  | some metadata => metadata ≠ [] ∧ L.valid metadata = true
      ∧ metadata.length + L.alignment < 2 ^ 31

/-- A count with room in an `int` is not negative. -/
theorem toInt_ofNat {n : Nat} (h : n < 2 ^ 31) :
    (BitVec.ofNat 32 n).toInt = n := by
  have hval : (BitVec.ofNat 32 n).toNat = n := by
    rw [BitVec.toNat_ofNat, Nat.mod_eq_of_lt (by omega)]
  rw [BitVec.toInt_eq_toNat_of_lt (by rw [hval]; omega), hval]

/-- It is the same as a `size_t`. -/
theorem toSize_ofNat {n : Nat} (h : n < 2 ^ 31) :
    toSize (.ofNat 32 n) = n := by
  have hmsb : (BitVec.ofNat 32 n).msb = false := by
    rw [BitVec.msb_eq_decide, BitVec.toNat_ofNat, decide_eq_false_iff_not]
    omega
  rw [toSize, BitVec.signExtend_eq_setWidth_of_msb_false hmsb,
    BitVec.toNat_setWidth, BitVec.toNat_ofNat]
  omega

/-- The metadata comes back out of its padding. -/
theorem readMetadata_write {m : CameraMetadata} (h : MetadataFits L m)
    (rest : List W) :
    readMetadata P L (writeMetadata P L m ++ rest) = (some m, rest) := by
  cases m with
  | none => simp [readMetadata, writeMetadata, toSize]
  | some metadata =>
      obtain ⟨hne, hvalid, hsize⟩ := h
      have hlen : 0 < metadata.length := List.length_pos_of_ne_nil hne
      have hoff := L.offset_lt metadata
      have hoffval := toSize_ofNat (n := L.offset metadata) (by omega)
      have hpadded : (List.replicate (L.offset metadata) (0 : UInt8) ++ metadata
          ++ List.replicate (L.alignment - L.offset metadata) 0).length
            = metadata.length + L.alignment := by
        simp only [List.length_append, List.length_replicate]
        omega
      have hblob := (P.blob (metadata.length + L.alignment)).read_append
        (hpadded ▸ P.blob_fits _) (P.int32.write (.ofNat 32 (L.offset metadata))
          ++ rest)
      have hmiddle : (List.replicate (L.offset metadata) (0 : UInt8) ++ metadata
          ++ List.replicate (L.alignment - L.offset metadata) 0).drop
            (L.offset metadata)
          = metadata ++ List.replicate (L.alignment - L.offset metadata) 0 := by
        rw [List.append_assoc, List.drop_left' List.length_replicate]
      have hback : (metadata ++ List.replicate
          (L.alignment - L.offset metadata) (0 : UInt8)).take
            (metadata.length + L.alignment - L.alignment) = metadata := by
        rw [Nat.add_sub_cancel, List.take_left]
      simp only [List.append_assoc] at hblob hmiddle
      have hzero : ¬ metadata.length + L.alignment = 0 := by omega
      have hsmall : ¬ metadata.length + L.alignment ≤ L.alignment := by omega
      have hinside : ¬ L.alignment ≤ L.offset metadata := by omega
      simp only [readMetadata, writeMetadata, List.append_assoc, P.read_int32,
        toSize_ofNat hsize, hzero, hsmall, if_false, hblob, hoffval, hinside,
        hmiddle, hback, hvalid, if_true]

/-! ## Requests -/

/-- A surface is the binder of its buffer producer; `none` is `NULL`. -/
structure CaptureRequest (B : Type) where
  mMetadata : CameraMetadata
  mSurfaceList : List (Option B)
  mIsReprocess : Bool

/-- One surface of `CaptureRequest::writeToParcel`. -/
def writeSurface (surface : Option B) : List W :=
  P.string16.write "android.view.Surface"
    ++ (P.string16.write "unknown_name" ++ P.strongBinder.write surface)

/-- `CaptureRequest::writeToParcel`. -/
def writeRequest (r : CaptureRequest B) : List W :=
  writeMetadata P L r.mMetadata
    ++ (P.int32.write (.ofNat 32 r.mSurfaceList.length)
      ++ (r.mSurfaceList.flatMap (writeSurface P)
        ++ P.writeBool r.mIsReprocess))

/-- The loop of `CaptureRequest::readFromParcel`. -/
def readSurfaces : Nat → List W → List (Option B) × List W
  | 0, p => ([], p)
  | n + 1, p =>
      match P.readString16Inplace p with
      | (none, p) => readSurfaces n p
      | (some _, p) =>
          let surface := P.readStrongBinder (P.readString16Inplace p).2
          let others := readSurfaces n surface.2
          (surface.1 :: others.1, others.2)

/-- `new CaptureRequest()`. -/
def CaptureRequest.new : CaptureRequest B := ⟨none, [], false⟩

/-- `CaptureRequest::readFromParcel` of a new request: whether it was read, the
    request as far as it was, and where the reader is then. -/
def readRequest (p : List W) : Bool × CaptureRequest B × List W :=
  match readMetadata P L p with
  | (none, p) => (false, .new, p)
  | (some metadata, p) =>
      match P.int32.read p with
      | none => (false, { CaptureRequest.new with mMetadata := metadata }, p)
      | some (size, p) =>
          let surfaces := readSurfaces P size.toInt.toNat p
          match P.int32.read surfaces.2 with
          | none => (false, ⟨metadata, surfaces.1, false⟩, surfaces.2)
          | some (isReprocess, p) =>
              (true, ⟨metadata, surfaces.1, isReprocess ≠ 0⟩, p)

/-- Surfaces are read as they were written, one by one. -/
theorem readSurfaces_write (surfaces : List (Option B)) (rest : List W) :
    readSurfaces P surfaces.length
        (surfaces.flatMap (writeSurface P) ++ rest) = (surfaces, rest) := by
  induction surfaces with
  | nil => rfl
  | cons surface surfaces ih =>
      have hclass : ("android.view.Surface").length < INT32_MAX := by decide
      have hname : ("unknown_name").length < INT32_MAX := by decide
      rw [List.flatMap_cons, writeSurface, List.length_cons, readSurfaces]
      simp only [List.append_assoc, P.readString16Inplace_write _ hclass,
        P.readString16Inplace_write _ hname, P.readStrongBinder_write, ih]

/-- The metadata fits, and the number of surfaces is an `int32_t`. -/
def RequestFits (r : CaptureRequest B) : Prop :=
  MetadataFits L r.mMetadata ∧ r.mSurfaceList.length < 2 ^ 31

/-- **A REQUEST** that fits is read with success, as it was written. -/
theorem readRequest_write {r : CaptureRequest B} (h : RequestFits L r)
    (rest : List W) :
    readRequest P L (writeRequest P L r ++ rest) = (true, r, rest) := by
  have hsize : (BitVec.ofNat 32 r.mSurfaceList.length).toInt.toNat
      = r.mSurfaceList.length := by
    rw [toInt_ofNat h.2, Int.toNat_natCast]
  have hflag : decide ((if r.mIsReprocess then 1 else 0 : Word) ≠ 0)
      = r.mIsReprocess := by
    cases r.mIsReprocess <;> rfl
  simp only [readRequest, writeRequest, List.append_assoc,
    readMetadata_write P L h.1, P.read_int32, hsize, readSurfaces_write,
    Binder.writeBool, hflag]

/-- `OutputConfiguration`. -/
structure OutputConfiguration (B : Type) where
  mGbp : Option B
  mRotation : Word

/-- The rotation of a configuration that could not be read. -/
def INVALID_ROTATION : Word := -1

/-- `OutputConfiguration::writeToParcel`. -/
def writeConfiguration (c : OutputConfiguration B) : List W :=
  P.int32.write c.mRotation
    ++ (P.string16.write "unknown_name" ++ P.strongBinder.write c.mGbp)

/-- `OutputConfiguration(const Parcel&)`. -/
def readConfiguration (p : List W) : OutputConfiguration B × List W :=
  match P.int32.read p with
  | none => (⟨none, INVALID_ROTATION⟩, p)
  | some (rotation, p) =>
      let gbp := P.readStrongBinder (P.readString16Inplace p).2
      (⟨gbp.1, rotation⟩, gbp.2)

/-- A configuration is read as it was written. -/
theorem readConfiguration_write (c : OutputConfiguration B) (rest : List W) :
    readConfiguration P (writeConfiguration P c ++ rest) = (c, rest) := by
  have hname : ("unknown_name").length < INT32_MAX := by decide
  simp only [readConfiguration, writeConfiguration, List.append_assoc,
    P.read_int32, P.readString16Inplace_write _ hname,
    P.readStrongBinder_write]

/-- `CaptureResultExtras`. -/
structure CaptureResultExtras where
  requestId : Word
  burstId : Word
  afTriggerId : Word
  precaptureTriggerId : Word
  frameNumber : BitVec 64
  partialResultCount : Word

/-- `CaptureResultExtras()`. -/
def CaptureResultExtras.new : CaptureResultExtras := ⟨-1, 0, 0, 0, 0, 0⟩

/-- `CaptureResultExtras::writeToParcel`. -/
def writeExtras (e : CaptureResultExtras) : List W :=
  P.int32.write e.requestId ++ (P.int32.write e.burstId
    ++ (P.int32.write e.afTriggerId ++ (P.int32.write e.precaptureTriggerId
      ++ (P.int64.write e.frameNumber ++ P.int32.write e.partialResultCount))))

/-- `readInt32(&x)` and `readInt64(&x)`, whose status is not looked at: the
    field keeps its value where nothing is read. -/
def readInto {α : Type} (c : Codec W α) (x : α) (p : List W) : α × List W :=
  (c.read p).getD (x, p)

/-- `CaptureResultExtras::readFromParcel`. -/
def readExtras (e : CaptureResultExtras) (p : List W) :
    CaptureResultExtras × List W :=
  let requestId := readInto P.int32 e.requestId p
  let burstId := readInto P.int32 e.burstId requestId.2
  let afTriggerId := readInto P.int32 e.afTriggerId burstId.2
  let precaptureTriggerId :=
    readInto P.int32 e.precaptureTriggerId afTriggerId.2
  let frameNumber := readInto P.int64 e.frameNumber precaptureTriggerId.2
  let partialResultCount :=
    readInto P.int32 e.partialResultCount frameNumber.2
  (⟨requestId.1, burstId.1, afTriggerId.1, precaptureTriggerId.1,
    frameNumber.1, partialResultCount.1⟩, partialResultCount.2)

/-- So are the extras of a result, whatever was there before. -/
theorem readExtras_write (e e' : CaptureResultExtras) (rest : List W) :
    readExtras P e' (writeExtras P e ++ rest) = (e, rest) := by
  simp only [readExtras, writeExtras, readInto, List.append_assoc,
    P.read_int32, P.read_int64, Option.getD_some]

/-! ## A parcel of objects -/

/-- What is written into a parcel, one object a word. -/
inductive Item (B : Type) where
  | int32 (x : Word)
  | int64 (x : BitVec 64)
  | string8 (s : String)
  | string16 (s : String)
  | strongBinder (b : Option B)
  | blob (bytes : List UInt8)
  | int32Array (l : List Word)
  | interfaceToken

/-- A value that is one object. -/
def itemCodec {α : Type} (item : α → Item B) (value : Item B → Option α)
    (h : ∀ a, value (item a) = some a) : Codec (Item B) α where
  Fits _ := True
  write a := [item a]
  read p := p.head?.bind fun w => (value w).map fun a => (a, p.tail)
  read_write a _ rest := by
    rw [List.singleton_append, List.head?_cons, Option.bind_some, h]
    rfl

/-- Bytes as an item of a parcel. -/
def blobItem (B : Type) : Codec (Item B) (List UInt8) :=
  itemCodec .blob (fun | .blob bytes => some bytes | _ => none) fun _ => rfl

/-- A number, or the one for none. -/
def wordItem (missing : Word) (p : List (Item B)) : Word × List (Item B) :=
  match p with
  | .int32 x :: p => (x, p)
  | p => (missing, p)

/-- Parcels whose readers find only what was written as what they read. -/
def objects (B : Type) : Binder (Item B) B where
  int32 := itemCodec .int32 (fun | .int32 x => some x | _ => none)
    fun _ => rfl
  int64 := itemCodec .int64 (fun | .int64 x => some x | _ => none)
    fun _ => rfl
  string16 := itemCodec .string16 (fun | .string16 s => some s | _ => none)
    fun _ => rfl
  strongBinder := itemCodec .strongBinder
    (fun | .strongBinder b => some b | _ => none) fun _ => rfl
  blob _ := blobItem B
  interfaceToken := itemCodec (fun _ => .interfaceToken)
    (fun | .interfaceToken => some () | _ => none) fun _ => rfl
  readExceptionCode := wordItem 0
  int32_fits _ := trivial
  int64_fits _ := trivial
  string16_fits _ _ := trivial
  strongBinder_fits _ := trivial
  blob_fits _ := trivial
  interfaceToken_fits := trivial
  readExceptionCode_write _ := rfl
  readExceptionCode_nil := rfl
  int32_nil := rfl
  int64_nil := rfl
  string16_nil := rfl
  strongBinder_nil := rfl

/-- Metadata of any bytes, aligned to eight. -/
def aligned : MetadataLib where
  alignment := 8
  offset _ := 4
  valid _ := true
  offset_lt _ := by decide

end QcomBinder
