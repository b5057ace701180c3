import Mathlib.Data.String.Basic
import QcomCommon.CodecProofs
import QcomCommon.FramingProofs

/-! # Parcels

    The class `Parcel` of the binder is not part of the sources.  What they
    rely on is that what was written with success is at the end of the parcel,
    and is read from its front as it was written; a write that fails may leave
    anything, and a read of what was not written may give anything.

    `byteParcel` is the layout of the binder: numbers in four bytes, strings
    with their length in front, a NUL behind and padded to four bytes. -/

namespace QcomParcel

open QcomCodec QcomFraming

/-- What a method of a parcel answers. -/
abbrev status_t := Int

/-- Success. -/
def OK : status_t := 0

/-- The answer to an argument that is not allowed. -/
def BAD_VALUE : status_t := -22

/-- The answer where there is no memory left. -/
def NO_MEMORY : status_t := -12

/-- The answer to a read behind the end. -/
def NOT_ENOUGH_DATA : status_t := -61

/-- The bound on the length of a string. -/
def INT32_MAX : Nat := 2147483647

/-- A class `Parcel`; a parcel is the words that are in it, from the position
    of the next read on. -/
structure Parcel (W : Type) where
  int32 : Codec W (BitVec 32)
  string8 : Codec W String
  writeInt32 : List W → BitVec 32 → status_t × List W
  writeString8 : List W → String → status_t × List W
  int32_fits : ∀ x, int32.Fits x
  writeInt32_ok : ∀ p x, (writeInt32 p x).1 = OK →
    (writeInt32 p x).2 = p ++ int32.write x
  writeString8_ok : ∀ p s, (writeString8 p s).1 = OK →
    (writeString8 p s).2 = p ++ string8.write s

/-- `readString8`: what cannot be read is the empty string. -/
def Parcel.readString8 {W : Type} (P : Parcel W) (p : List W) :
    String × List W :=
  (P.string8.read p).getD ("", p)

/-- A number is read as it was written. -/
theorem Parcel.read_int32 {W : Type} (P : Parcel W) (x : BitVec 32)
    (rest : List W) : P.int32.read (P.int32.write x ++ rest) = some (x, rest) :=
  P.int32.read_append (P.int32_fits x) rest

/-- So is a string that fits. -/
theorem Parcel.readString8_append {W : Type} (P : Parcel W) {s : String}
    (h : P.string8.Fits s) (rest : List W) :
    P.readString8 (P.string8.write s ++ rest) = (s, rest) := by
  rw [readString8, P.string8.read_append h]
  rfl

/-! ## The layout of the binder -/

/-- A number in four bytes. -/
def int32Codec : Codec UInt8 (BitVec 32) where
  Fits _ := True
  write x := leBytes 4 x.toNat
  read p := (readN 4 p).map fun q => (BitVec.ofNat 32 (leVal q.1), q.2)
  read_write := by
    intro x _ rest
    have hval : leVal (leBytes 4 x.toNat) = x.toNat := leVal_leBytes x.isLt
    rw [readN_append (length_leBytes 4 _), Option.map_some, hval,
      BitVec.ofNat_toNat, BitVec.setWidth_eq]

/-- The bytes up to the next multiple of four. -/
def padding (n : Nat) : Nat := (4 - n % 4) % 4

/-- The characters of a string of C. -/
def stringBytes (s : String) : List UInt8 :=
  s.toList.map fun c => UInt8.ofNat c.toNat

/-- The bytes of a string, its NUL and the padding. -/
def stringBlock (s : String) : List UInt8 :=
  stringBytes s ++ List.replicate (1 + padding (s.length + 1)) 0

/-- The string of some characters. -/
def textOf (bytes : List UInt8) : String :=
  String.ofList (bytes.map fun b => Char.ofNat b.toNat)

/-- A string of C that a parcel takes. -/
def FitsParcel (s : String) : Prop :=
  s.length < INT32_MAX ∧ ∀ c ∈ s.toList, c.toNat < 256

instance (s : String) : Decidable (FitsParcel s) :=
  @instDecidableAnd _ _ (Nat.decLt _ _) (List.decidableBAll _ _)

/-- A string that a parcel takes is the one of its characters. -/
theorem textOf_stringBytes {s : String} (h : FitsParcel s) :
    textOf (stringBytes s) = s := by
  have hchars : ((stringBytes s).map fun b => Char.ofNat b.toNat) = s.toList := by
    rw [stringBytes, List.map_map]
    refine (List.map_congr_left fun c hc => ?_).trans (List.map_id _)
    have hbyte : (UInt8.ofNat c.toNat).toNat = c.toNat :=
      UInt8.toNat_ofNat_of_lt' (h.2 c hc)
    show Char.ofNat (UInt8.ofNat c.toNat).toNat = c
    rw [hbyte, Char.ofNat_toNat]
  rw [textOf, hchars, String.ofList_toList]

/-- `writeString8`, into a parcel with room for all. -/
def writeText (s : String) : List UInt8 :=
  leBytes 4 s.length ++ if s = "" then [] else stringBlock s

/-- `readString8`. -/
def readText (p : List UInt8) : Option (String × List UInt8) :=
  (readN 4 p).map fun q =>
    let size := leVal q.1
    if 0 < size ∧ size < INT32_MAX then
      ((readN (size + (1 + padding (size + 1))) q.2).map fun q' =>
        (textOf (q'.1.take size), q'.2)).getD ("", q.2)
    else ("", q.2)

theorem length_stringBytes (s : String) :
    (stringBytes s).length = s.length := by
  rw [stringBytes, List.length_map, String.length_toList]

/-- The layout reads a string as it was written, and no further. -/
theorem readText_writeText {s : String} (h : FitsParcel s)
    (rest : List UInt8) : readText (writeText s ++ rest) = some (s, rest) := by
  have hlt : s.length < 256 ^ 4 := h.1.trans (by decide)
  rw [readText, writeText, List.append_assoc,
    readN_append (length_leBytes 4 _), Option.map_some]
  simp only [leVal_leBytes hlt]
  by_cases hempty : s = ""
  · subst hempty
    rfl
  · have hpos : 0 < s.length :=
      Nat.pos_of_ne_zero fun h0 => hempty (String.length_eq_zero_iff.mp h0)
    have hblock : (stringBlock s).length
        = s.length + (1 + padding (s.length + 1)) := by
      rw [stringBlock, List.length_append, length_stringBytes,
        List.length_replicate]
    have htake : (stringBlock s).take s.length = stringBytes s := by
      rw [stringBlock, ← length_stringBytes s, List.take_left]
    rw [if_neg hempty, if_pos ⟨hpos, h.1⟩, readN_append hblock,
      Option.map_some, Option.getD_some, htake, textOf_stringBytes h]

/-- A string in the layout of the binder. -/
def string8Codec : Codec UInt8 String where
  Fits := FitsParcel
  write := writeText
  read := readText
  read_write := fun _ h rest => readText_writeText h rest

/-- The bytes, if there is memory for a parcel with them. -/
def grow (memory : Nat → Bool) (p bytes : List UInt8) :
    status_t × List UInt8 :=
  if memory (p.length + bytes.length) then (OK, p ++ bytes)
  else (NO_MEMORY, p)

/-- A write that succeeds has put its bytes behind the others. -/
theorem grow_ok {memory : Nat → Bool} {p bytes : List UInt8}
    (h : (grow memory p bytes).1 = OK) :
    (grow memory p bytes).2 = p ++ bytes := by
  rw [grow] at h ⊢
  split
  · rfl
  · next hno =>
      rw [if_neg hno] at h
      cases h

/-- A class `Parcel`, with memory for the parcels of some sizes: a string may
    get no further than its length. -/
def byteParcel (memory : Nat → Bool) : Parcel UInt8 where
  int32 := int32Codec
  string8 := string8Codec
  writeInt32 p x := grow memory p (leBytes 4 x.toNat)
  writeString8 p s :=
    let q := grow memory p (leBytes 4 s.length)
    if q.1 = OK ∧ s ≠ "" then grow memory q.2 (stringBlock s) else q
  int32_fits _ := trivial
  writeInt32_ok _ _ h := grow_ok h
  writeString8_ok := by
    intro p s h
    show _ = p ++ (leBytes 4 s.length ++ if s = "" then [] else stringBlock s)
    dsimp only at h ⊢
    split
    · next hmore =>
        rw [if_pos hmore] at h
        rw [if_neg hmore.2, grow_ok h, grow_ok hmore.1, List.append_assoc]
    · next hdone =>
        rw [if_neg hdone] at h
        have hempty : s = "" := by
          by_contra hne
          exact hdone ⟨h, hne⟩
        rw [if_pos hempty, List.append_nil, grow_ok h]

end QcomParcel
