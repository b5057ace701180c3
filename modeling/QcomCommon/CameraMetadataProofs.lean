import QcomCommon.OwnershipProofs

/-! # The buffers of the metadata

    `CameraMetadata.cpp` of `libshims`: an object owns one buffer of the
    library of the metadata, clones it, frees it, gives it away or takes one
    over, and allocates a larger one where an entry has no room.  While an
    object is locked, none of its methods touches the buffer.

    Each method has an effect on the buffer of its object and on no other
    (`clear_spec`, `assign_spec`, `append_spec`, `update_spec` …), and leaks
    only where `resizeIfNeeded` finds no memory. -/

namespace QcomCameraMetadata

open QcomOwnership

/-- What a method answers. -/
abbrev status_t := Int

/-- Success. -/
def OK : status_t := 0

/-- The answer where the object is locked, or the call not possible. -/
def INVALID_OPERATION : status_t := -38

/-- The answer to an argument that is not allowed. -/
def BAD_VALUE : status_t := -22

/-- The answer where there is no memory. -/
def NO_MEMORY : status_t := -12

/-- The answer where there is no such entry. -/
def NAME_NOT_FOUND : status_t := -2

/-- The library of the metadata, with buffers of the type `C`; `ERROR` is what
    its functions give for `NULL`, and a tag that has no type is not known. -/
structure Library (C : Type) where
  allocate : Nat → Nat → C
  clone : C → C
  entryCount : C → Nat
  entryCapacity : C → Nat
  dataCount : C → Nat
  dataCapacity : C → Nat
  append : C → C → status_t × C
  sort : C → status_t × C
  tagType : BitVec 32 → Option (BitVec 8)
  entryDataSize : BitVec 8 → Nat → Nat
  find : C → BitVec 32 → status_t × Nat
  add : C → BitVec 32 → List UInt8 → Nat → status_t × C
  update : C → Nat → List UInt8 → Nat → status_t × C
  delete : C → Nat → status_t × C
  ERROR : status_t

/-- A `CameraMetadata`. -/
structure Object where
  mBuffer : Option Nat
  mLocked : Bool

variable {C : Type} (L : Library C)

/-- The object and the memory that a method works on. -/
abbrev Method (C : Type) := Object × Mem C

/-- `CameraMetadata()`. -/
def Object.new : Object := ⟨none, false⟩

/-- `allocate_camera_metadata`, if there is memory. -/
def allocate (memory : Bool) (entryCapacity dataCapacity : Nat) (m : Mem C) :
    Option Nat × Mem C :=
  m.allocate (if memory then some (L.allocate entryCapacity dataCapacity)
    else none)

/-- `clone_camera_metadata`: `NULL` for `NULL`, or without memory. -/
def clone (memory : Bool) (buffer : Option Nat) (m : Mem C) :
    Option Nat × Mem C :=
  match buffer with
  | none => (none, m)
  | some a =>
      (m.touch a).allocate (if memory then (m.heap a).map L.clone else none)

/-- The buffer is freed, unless the object is locked. -/
def clear (p : Method C) : Method C :=
  if p.1.mLocked then p
  else
    match p.1.mBuffer with
    | none => p
    | some a => ({ p.1 with mBuffer := none }, p.2.free a)

/-- `operator=(const camera_metadata_t*)`. -/
def assign (memory : Bool) (buffer : Option Nat) (p : Method C) : Method C :=
  if p.1.mLocked then p
  else if buffer ≠ p.1.mBuffer then
    let newBuffer := clone L memory buffer p.2
    let p := clear (p.1, newBuffer.2)
    ({ p.1 with mBuffer := newBuffer.1 }, p.2)
  else p

/-- The destructor. -/
def destroy (p : Method C) : Method C := clear ({ p.1 with mLocked := false }, p.2)

/-- The object is locked, and its buffer handed out. -/
def getAndLock (o : Object) : Option Nat × Object :=
  (o.mBuffer, { o with mLocked := true })

/-- The object is unlocked, if it is given the buffer that it handed out. -/
def unlock (buffer : Option Nat) (o : Object) : status_t × Object :=
  if !o.mLocked then (INVALID_OPERATION, o)
  else if buffer ≠ o.mBuffer then (BAD_VALUE, o)
  else (OK, { o with mLocked := false })

/-- The buffer is handed over to the caller. -/
def release (o : Object) : Option Nat × Object :=
  if o.mLocked then (none, o) else (o.mBuffer, { o with mBuffer := none })

/-- A buffer is read, if there is one. -/
def touchMaybe (buffer : Option Nat) (m : Mem C) : Mem C :=
  buffer.elim m m.touch

/-- `acquire(camera_metadata_t*)`; the new buffer is checked for the log. -/
def acquire (buffer : Option Nat) (p : Method C) : Method C :=
  if p.1.mLocked then p
  else
    let p := clear p
    ({ p.1 with mBuffer := buffer }, touchMaybe buffer p.2)

/-- A function of the library on the buffer of the object. -/
def onBuffer (f : C → status_t × C) (p : Method C) : status_t × Method C :=
  match p.1.mBuffer with
  | none => (L.ERROR, p)
  | some a =>
      match p.2.heap a with
      | none => (L.ERROR, p.1, p.2.touch a)
      | some c => ((f c).1, p.1, p.2.write a (f c).2)

/-- The new size of a part of the buffer. -/
def newSize (count capacity extra : Nat) : Nat :=
  if count + extra > capacity then (count + extra) * 2 else capacity

/-- `resizeIfNeeded`: a larger buffer with the old contents, if the old one is
    too small. -/
def resizeIfNeeded (memory : Bool) (extraEntries extraData : Nat)
    (p : Method C) : status_t × Method C :=
  match p.1.mBuffer with
  | none =>
      let q := allocate L memory (extraEntries * 2) (extraData * 2) p.2
      (if q.1 = none then NO_MEMORY else OK, { p.1 with mBuffer := q.1 }, q.2)
  | some oldBuffer =>
      match p.2.heap oldBuffer with
      | none => (OK, p.1, p.2.touch oldBuffer)
      | some c =>
          let newEntryCount :=
            newSize (L.entryCount c) (L.entryCapacity c) extraEntries
          let newDataCount :=
            newSize (L.dataCount c) (L.dataCapacity c) extraData
          if newEntryCount > L.entryCapacity c
              ∨ newDataCount > L.dataCapacity c then
            let q := allocate L memory newEntryCount newDataCount p.2
            let o := { p.1 with mBuffer := q.1 }
            match q.1 with
            | none => (NO_MEMORY, o, q.2)
            | some _ =>
                let copied := onBuffer L (fun new => L.append new c) (o, q.2)
                (OK, copied.2.1, copied.2.2.free oldBuffer)
          else (OK, p)

/-- `append(const camera_metadata_t*)`; there is a buffer to append, which is
    read again behind `resizeIfNeeded`. -/
def append (memory : Bool) (other : Nat) (p : Method C) :
    status_t × Method C :=
  if p.1.mLocked then (INVALID_OPERATION, p)
  else
    match p.2.heap other with
    | none => (L.ERROR, p.1, p.2.touch other)
    | some c =>
        let p := (resizeIfNeeded L memory (L.entryCount c) (L.dataCount c) p).2
        match p.2.heap other with
        | none => (L.ERROR, p.1, p.2.touch other)
        | some c => onBuffer L (fun own => L.append own c) p

/-- The entries are sorted where they are. -/
def sort (p : Method C) : status_t × Method C :=
  if p.1.mLocked then (INVALID_OPERATION, p) else onBuffer L L.sort p

/-- The tag is known, and has the type. -/
def checkType (tag : BitVec 32) (expectedType : BitVec 8) : status_t :=
  match L.tagType tag with
  | none => INVALID_OPERATION
  | some tagType => if tagType ≠ expectedType then INVALID_OPERATION else OK

/-- The entry of the tag is updated, or added. -/
def setEntry (tag : BitVec 32) (data : List UInt8) (data_count : Nat) (c : C) :
    status_t × C :=
  let found := L.find c tag
  if found.1 = NAME_NOT_FOUND then L.add c tag data data_count
  else if found.1 = OK then L.update c found.2 data data_count
  else (found.1, c)

/-- The check of `updateImpl` for data in the own buffer; `inside` is the
    buffer that the data is in and the offset there, if it is in one. -/
def pointsInside (inside : Option (Nat × Nat)) (o : Object) : Bool :=
  -- at the first byte `dataAddr > bufAddr` is false
  inside.any fun d => o.mBuffer = some d.1 ∧ 0 < d.2

/-- `updateImpl`; `data` is what the library reads there. -/
def updateImpl (memory : Bool) (tag : BitVec 32) (data : List UInt8)
    (data_count : Nat) (inside : Option (Nat × Nat)) (p : Method C) :
    status_t × Method C :=
  if p.1.mLocked then (INVALID_OPERATION, p)
  else
    match L.tagType tag with
    | none => (BAD_VALUE, p)
    | some type =>
        if pointsInside inside p.1 then (INVALID_OPERATION, p)
        else
          let resized :=
            resizeIfNeeded L memory 1 (L.entryDataSize type data_count) p
          if resized.1 = OK then
            onBuffer L (setEntry L tag data data_count)
              (resized.2.1, touchMaybe (inside.map Prod.fst) resized.2.2)
          else resized

/-- The methods `update`: each has the type of its data. -/
def update (type : BitVec 8) (memory : Bool) (tag : BitVec 32)
    (data : List UInt8) (data_count : Nat) (inside : Option (Nat × Nat))
    (p : Method C) : status_t × Method C :=
  if p.1.mLocked then (INVALID_OPERATION, p)
  else if checkType L tag type ≠ OK then (checkType L tag type, p)
  else updateImpl L memory tag data data_count inside p

/-- `erase`: the entry is deleted where it is found. -/
def eraseEntry (tag : BitVec 32) (c : C) : status_t × C :=
  let found := L.find c tag
  if found.1 = NAME_NOT_FOUND then (OK, c)
  else if found.1 ≠ OK then (found.1, c)
  else L.delete c found.2

/-- The entry of the tag is deleted. -/
def erase (tag : BitVec 32) (p : Method C) : status_t × Method C :=
  if p.1.mLocked then (INVALID_OPERATION, p) else onBuffer L (eraseEntry L tag) p

/-- `readFromParcel`; what is read is an error, or a buffer or none. -/
def readFromParcel (read : Except status_t (Option C)) (p : Method C) :
    status_t × Method C :=
  if p.1.mLocked then (INVALID_OPERATION, p)
  else
    match read with
    | .error res => (res, p)
    | .ok metadata =>
        let buffer := p.2.allocate metadata
        let p := clear (p.1, buffer.2)
        (OK, { p.1 with mBuffer := buffer.1 }, p.2)

/-! ## What a method does -/

/-- A method that finds its buffer has an effect on it, and none where the
    object is locked; it does not lock. -/
structure Spec (p p' : Method C) : Prop where
  effect : Effect p.2 p.1.mBuffer p'.2 p'.1.mBuffer
  mLocked : p'.1.mLocked = p.1.mLocked
  kept : p.1.mLocked = true → p' = p

/-- Nothing leaks. -/
def NoLeak (p p' : Method C) : Prop :=
  Tight p.2 p.1.mBuffer p'.2 p'.1.mBuffer

/-- The buffer of the object can be used. -/
def Sound (p : Method C) : Prop := Bounded p.2 ∧ Live p.2 p.1.mBuffer

variable {L} {p p' p'' : Method C}

theorem Spec.refl (h : Sound p) : Spec p p := ⟨.refl h.1 h.2, rfl, fun _ => rfl⟩

theorem NoLeak.refl : NoLeak p p := Tight.refl

theorem Spec.trans (h : Spec p p') (h' : Spec p' p'') : Spec p p'' where
  effect := h.effect.trans h'.effect
  mLocked := h'.mLocked.trans h.mLocked
  kept hlocked := by
    have hsame := h.kept hlocked
    rw [h'.kept (hsame ▸ hlocked), hsame]

theorem Spec.sound (h : Spec p p') : Sound p' := ⟨h.effect.bounded, h.effect.live⟩

theorem clear_spec (h : Sound p) :
    Spec p (clear p) ∧ NoLeak p (clear p) := by
  obtain ⟨⟨mBuffer, mLocked⟩, m⟩ := p
  cases mLocked with
  | true => exact ⟨.refl h, .refl⟩
  | false =>
      cases mBuffer with
      | none => exact ⟨.refl h, .refl⟩
      | some a =>
          obtain ⟨heffect, htight⟩ := effect_free h.1 (h.2 a rfl)
          exact ⟨⟨heffect, rfl, (nomatch ·)⟩, htight⟩

/-- Behind `clear`, an object that is not locked has no buffer. -/
theorem clear_mBuffer (h : p.1.mLocked = false) :
    (clear p).1.mBuffer = none := by
  obtain ⟨⟨mBuffer, mLocked⟩, m⟩ := p
  cases h
  cases mBuffer <;> rfl

theorem clone_effect {m : Mem C} (hm : Bounded m) {buffer : Option Nat}
    (hb : Live m buffer) (memory : Bool) :
    Effect m none (clone L memory buffer m).2 (clone L memory buffer m).1
      ∧ Tight m none (clone L memory buffer m).2
        (clone L memory buffer m).1 := by
  cases buffer with
  | none => exact ⟨.refl hm (fun _ h => nomatch h), .refl⟩
  | some a =>
      simp only [clone, Mem.touch_live (hb a rfl)]
      exact effect_allocate hm _

/-- What is put in the place of the buffer of an object that is not locked. -/
theorem replace_spec {m' : Mem C} {b' : Option Nat} (h : Sound p)
    (hunlocked : p.1.mLocked = false) (heffect : Effect p.2 none m' b')
    (htight : Tight p.2 none m' b') :
    Spec p ({ (clear (p.1, m')).1 with mBuffer := b' }, (clear (p.1, m')).2)
      ∧ NoLeak p
        ({ (clear (p.1, m')).1 with mBuffer := b' }, (clear (p.1, m')).2) := by
  have hsound : Sound (p.1, m') := by
    refine ⟨heffect.bounded, fun a ha => ?_⟩
    rw [heffect.frame a (h.2 a ha) nofun]
    exact h.2 a ha
  obtain ⟨hspec, hnoleak⟩ := clear_spec hsound
  have hnone := clear_mBuffer (p := (p.1, m')) hunlocked
  have heffect' := hspec.effect
  have htight' : Tight m' p.1.mBuffer (clear (p.1, m')).2 _ := hnoleak
  rw [hnone] at heffect' htight'
  refine ⟨⟨heffect.beside h.2 heffect', hspec.mLocked, ?_⟩,
    htight.beside htight'⟩
  exact fun hlocked => absurd (hunlocked.symm.trans hlocked) (by decide)

theorem assign_spec (h : Sound p) {buffer : Option Nat}
    (hb : Live p.2 buffer) (memory : Bool) :
    Spec p (assign L memory buffer p) ∧ NoLeak p (assign L memory buffer p) := by
  rw [assign]
  split
  · exact ⟨.refl h, .refl⟩
  · rename_i hunlocked
    rw [Bool.not_eq_true] at hunlocked
    split
    · obtain ⟨heffect, htight⟩ := clone_effect (L := L) h.1 hb memory
      exact replace_spec h hunlocked heffect htight
    · exact ⟨.refl h, .refl⟩

theorem readFromParcel_spec (h : Sound p)
    (read : Except status_t (Option C)) :
    Spec p (readFromParcel read p).2 ∧ NoLeak p (readFromParcel read p).2 := by
  cases hunlocked : p.1.mLocked with
  | true =>
      simp only [readFromParcel, hunlocked, if_true]
      exact ⟨.refl h, .refl⟩
  | false =>
    simp only [readFromParcel, hunlocked, Bool.false_eq_true, if_false]
    cases read with
    | error res => exact ⟨.refl h, .refl⟩
    | ok metadata =>
        obtain ⟨heffect, htight⟩ := effect_allocate h.1 metadata
        exact replace_spec h hunlocked heffect htight

/-- A function of the library writes into the buffer. -/
theorem onBuffer_effect (h : Sound p) (f : C → status_t × C) :
    Effect p.2 p.1.mBuffer (onBuffer L f p).2.2 p.1.mBuffer
      ∧ Tight p.2 p.1.mBuffer (onBuffer L f p).2.2 p.1.mBuffer
      ∧ (onBuffer L f p).2.1 = p.1 := by
  obtain ⟨⟨mBuffer, mLocked⟩, m⟩ := p
  cases mBuffer with
  | none => exact ⟨.refl h.1 h.2, .refl, rfl⟩
  | some a =>
      obtain ⟨c, hc⟩ : ∃ c, m.heap a = some c :=
        Option.isSome_iff_exists.mp (h.2 a rfl)
      have hwrite : onBuffer L f (⟨some a, mLocked⟩, m)
          = ((f c).1, ⟨some a, mLocked⟩, m.write a (f c).2) := by
        simp only [onBuffer, hc]
      obtain ⟨heffect, htight⟩ := effect_write h.1 (h.2 a rfl) (f c).2
      rw [hwrite]
      exact ⟨heffect, htight, rfl⟩

/-- What was read of a freed buffer stays so. -/
theorem onBuffer_bad (f : C → status_t × C) (h : p.2.bad = true) :
    (onBuffer L f p).2.2.bad = true := by
  obtain ⟨⟨mBuffer, mLocked⟩, m⟩ := p
  cases mBuffer with
  | none => exact h
  | some a =>
      cases hc : m.heap a with
      | none => simp [onBuffer, Mem.touch, hc]
      | some c => simpa [onBuffer, Mem.write, hc] using h

theorem onBuffer_spec (h : Sound p) (hunlocked : p.1.mLocked = false)
    (f : C → status_t × C) :
    Spec p (onBuffer L f p).2 ∧ NoLeak p (onBuffer L f p).2 := by
  obtain ⟨heffect, htight, hobject⟩ := onBuffer_effect (L := L) h f
  refine ⟨⟨hobject ▸ heffect, by rw [hobject], ?_⟩, ?_⟩
  · exact fun hlocked => absurd (hunlocked.symm.trans hlocked) (by decide)
  · rw [NoLeak, hobject]
    exact htight

/-- A larger buffer is allocated and written beside the old one, which is then
    freed. -/
theorem grow_spec {mLocked : Bool} {oldBuffer : Nat} {m : Mem C}
    (h : Sound (⟨some oldBuffer, mLocked⟩, m)) (hunlocked : mLocked = false)
    (new : C) (f : C → status_t × C) :
    let copied := onBuffer L f
      (⟨some m.next, mLocked⟩, (m.allocate (some new)).2)
    Spec (⟨some oldBuffer, mLocked⟩, m)
        (copied.2.1, copied.2.2.free oldBuffer)
      ∧ NoLeak (⟨some oldBuffer, mLocked⟩, m)
        (copied.2.1, copied.2.2.free oldBuffer) := by
  intro copied
  obtain ⟨halloc, htight⟩ := effect_allocate h.1 (some new)
  have hsound : Sound (⟨some m.next, mLocked⟩, (m.allocate (some new)).2) :=
    ⟨halloc.bounded, halloc.live⟩
  obtain ⟨hwrite, htight', hobject⟩ := onBuffer_effect (L := L) hsound f
  have hboth := halloc.trans hwrite
  have hold : (copied.2.2.heap oldBuffer).isSome := by
    rw [hboth.frame oldBuffer (h.2 oldBuffer rfl) nofun]
    exact h.2 oldBuffer rfl
  obtain ⟨hfree, htight''⟩ := effect_free hboth.bounded hold
  have hbuffer : copied.2.1.mBuffer = some m.next :=
    congrArg Object.mBuffer hobject
  have hlock : copied.2.1.mLocked = mLocked := congrArg Object.mLocked hobject
  refine ⟨⟨?_, hlock, ?_⟩, ?_⟩
  · rw [hbuffer]
    exact hboth.beside h.2 hfree
  · exact fun hlocked => absurd (hunlocked.symm.trans hlocked) (by decide)
  · rw [NoLeak, hbuffer]
    exact (htight.trans htight').beside htight''

/-- The larger buffer takes over the entries; without memory the old one is
    not freed. -/
theorem resizeIfNeeded_spec (h : Sound p) (hunlocked : p.1.mLocked = false)
    (memory : Bool) (extraEntries extraData : Nat) :
    Spec p (resizeIfNeeded L memory extraEntries extraData p).2
      ∧ (memory = true →
        NoLeak p (resizeIfNeeded L memory extraEntries extraData p).2) := by
  obtain ⟨⟨mBuffer, mLocked⟩, m⟩ := p
  have hkept : ∀ q : Method C, mLocked = true → q = (⟨mBuffer, mLocked⟩, m) :=
    fun _ hlocked => absurd (hunlocked.symm.trans hlocked) (by decide)
  cases mBuffer with
  | none =>
      obtain ⟨heffect, htight⟩ := effect_allocate h.1 (if memory then
        some (L.allocate (extraEntries * 2) (extraData * 2)) else none)
      exact ⟨⟨heffect, rfl, hkept _⟩, fun _ => htight⟩
  | some oldBuffer =>
      obtain ⟨c, hc⟩ : ∃ c, m.heap oldBuffer = some c :=
        Option.isSome_iff_exists.mp (h.2 oldBuffer rfl)
      simp only [resizeIfNeeded, hc]
      split
      · cases memory with
        | false => exact ⟨⟨effect_forget h.1, rfl, hkept _⟩, (nomatch ·)⟩
        | true =>
            obtain ⟨hspec, hnoleak⟩ := grow_spec (L := L) h hunlocked
              (L.allocate
                (newSize (L.entryCount c) (L.entryCapacity c) extraEntries)
                (newSize (L.dataCount c) (L.dataCapacity c) extraData))
              fun own => L.append own c
            exact ⟨hspec, fun _ => hnoleak⟩
      · exact ⟨.refl h, fun _ => .refl⟩

/-- What is appended is another buffer, and is still there behind the
    resize. -/
theorem append_spec (h : Sound p) {other : Nat}
    (hlive : (p.2.heap other).isSome) (hother : p.1.mBuffer ≠ some other)
    (memory : Bool) :
    Spec p (append L memory other p).2
      ∧ (memory = true → NoLeak p (append L memory other p).2) := by
  cases hunlocked : p.1.mLocked with
  | true =>
      simp only [append, hunlocked, if_true]
      exact ⟨.refl h, fun _ => .refl⟩
  | false =>
      obtain ⟨c, hc⟩ := Option.isSome_iff_exists.mp hlive
      obtain ⟨hspec, hnoleak⟩ := resizeIfNeeded_spec (L := L) h hunlocked memory
        (L.entryCount c) (L.dataCount c)
      have hstill := (hspec.effect.frame other hlive hother).trans hc
      obtain ⟨hspec', hnoleak'⟩ := onBuffer_spec (L := L) hspec.sound
        (hspec.mLocked.trans hunlocked) fun own => L.append own c
      simp only [append, hunlocked, Bool.false_eq_true, if_false, hc, hstill]
      exact ⟨hspec.trans hspec', fun hmemory => (hnoleak hmemory).trans hnoleak'⟩

theorem sort_spec (h : Sound p) :
    Spec p (sort L p).2 ∧ NoLeak p (sort L p).2 := by
  cases hunlocked : p.1.mLocked with
  | true =>
      simp only [sort, hunlocked, if_true]
      exact ⟨.refl h, .refl⟩
  | false =>
      simp only [sort, hunlocked, Bool.false_eq_true, if_false]
      exact onBuffer_spec h hunlocked _

theorem erase_spec (h : Sound p) (tag : BitVec 32) :
    Spec p (erase L tag p).2 ∧ NoLeak p (erase L tag p).2 := by
  cases hunlocked : p.1.mLocked with
  | true =>
      simp only [erase, hunlocked, if_true]
      exact ⟨.refl h, .refl⟩
  | false =>
      simp only [erase, hunlocked, Bool.false_eq_true, if_false]
      exact onBuffer_spec h hunlocked _

/-- Data that passes the check is not in the own buffer, unless it is at the
    first byte. -/
theorem not_own_of_pointsInside {inside : Option (Nat × Nat)} {o : Object}
    (h : ¬ pointsInside inside o = true)
    (hfirst : ∀ a, inside = some (a, 0) → o.mBuffer ≠ some a) :
    ∀ a ∈ inside.map Prod.fst, o.mBuffer ≠ some a := by
  rintro a ha hown
  obtain ⟨⟨_, offset⟩, rfl, rfl⟩ := Option.map_eq_some_iff.mp ha
  cases offset with
  | zero => exact hfirst _ rfl hown
  | succ n =>
      refine h ?_
      rw [pointsInside, Option.any_some]
      exact decide_eq_true ⟨hown, Nat.succ_pos n⟩

/-- The data is not in the own buffer, so it is still there behind the
    resize. -/
theorem updateImpl_spec (h : Sound p) {inside : Option (Nat × Nat)}
    (hinside : Live p.2 (inside.map Prod.fst))
    (hfirst : ∀ a, inside = some (a, 0) → p.1.mBuffer ≠ some a)
    (memory : Bool) (tag : BitVec 32) (data : List UInt8) (data_count : Nat) :
    Spec p (updateImpl L memory tag data data_count inside p).2
      ∧ (memory = true →
        NoLeak p (updateImpl L memory tag data data_count inside p).2) := by
  rw [updateImpl]
  split
  · exact ⟨.refl h, fun _ => .refl⟩
  · rename_i hunlocked
    rw [Bool.not_eq_true] at hunlocked
    split
    · exact ⟨.refl h, fun _ => .refl⟩
    · rename_i type _
      split
      · exact ⟨.refl h, fun _ => .refl⟩
      · rename_i hnot
        have hother := not_own_of_pointsInside hnot hfirst
        obtain ⟨hspec, hnoleak⟩ := resizeIfNeeded_spec (L := L) h hunlocked
          memory 1 (L.entryDataSize type data_count)
        have htouch : touchMaybe (inside.map Prod.fst)
            (resizeIfNeeded L memory 1 (L.entryDataSize type data_count) p).2.2
              = (resizeIfNeeded L memory 1
                (L.entryDataSize type data_count) p).2.2 := by
          cases inside with
          | none => rfl
          | some d =>
              have hlive := hinside d.1 rfl
              refine Mem.touch_live ?_
              rw [hspec.effect.frame d.1 hlive (hother d.1 rfl)]
              exact hlive
        obtain ⟨hspec', hnoleak'⟩ := onBuffer_spec (L := L) hspec.sound
          (hspec.mLocked.trans hunlocked) (setEntry L tag data data_count)
        dsimp only
        split
        · rw [htouch]
          exact ⟨hspec.trans hspec',
            fun hmemory => (hnoleak hmemory).trans hnoleak'⟩
        · exact ⟨hspec, hnoleak⟩

theorem update_spec (h : Sound p) {inside : Option (Nat × Nat)}
    (hinside : Live p.2 (inside.map Prod.fst))
    (hfirst : ∀ a, inside = some (a, 0) → p.1.mBuffer ≠ some a)
    (type : BitVec 8) (memory : Bool) (tag : BitVec 32) (data : List UInt8)
    (data_count : Nat) :
    Spec p (update L type memory tag data data_count inside p).2
      ∧ (memory = true →
        NoLeak p (update L type memory tag data data_count inside p).2) := by
  rw [update]
  split
  · exact ⟨.refl h, fun _ => .refl⟩
  · split
    · exact ⟨.refl h, fun _ => .refl⟩
    · exact updateImpl_spec h hinside hfirst memory tag data data_count

/-! ## What a resize leaves -/

/-- The buffer has no room for more entries and data. -/
def NoRoom (extraEntries extraData : Nat) (c : C) : Prop :=
  L.entryCapacity c < L.entryCount c + extraEntries
    ∨ L.dataCapacity c < L.dataCount c + extraData

/-- A part grows if what is added has no room. -/
theorem newSize_gt (count capacity extra : Nat) :
    newSize count capacity extra > capacity ↔ capacity < count + extra := by
  rw [newSize]
  split
  · omega
  · omega

theorem resizes_iff {extraEntries extraData : Nat} (c : C) :
    (newSize (L.entryCount c) (L.entryCapacity c) extraEntries
        > L.entryCapacity c
      ∨ newSize (L.dataCount c) (L.dataCapacity c) extraData
        > L.dataCapacity c) ↔ NoRoom (L := L) extraEntries extraData c := by
  rw [newSize_gt, newSize_gt, NoRoom]

section Resize

variable {mLocked : Bool} {a : Nat} {c : C} {m : Mem C}
  {extraEntries extraData : Nat}

/-- With room the buffer stays. -/
theorem resize_room (hc : m.heap a = some c)
    (hroom : ¬ NoRoom (L := L) extraEntries extraData c) (memory : Bool) :
    resizeIfNeeded L memory extraEntries extraData (⟨some a, mLocked⟩, m)
      = (OK, ⟨some a, mLocked⟩, m) := by
  simp only [resizeIfNeeded, hc, if_neg fun hnew => hroom
    ((resizes_iff c).mp hnew)]

/-- Without memory the object loses it. -/
theorem resize_lost (hc : m.heap a = some c)
    (hroom : NoRoom (L := L) extraEntries extraData c) :
    resizeIfNeeded L false extraEntries extraData (⟨some a, mLocked⟩, m)
      = (NO_MEMORY, ⟨none, mLocked⟩, m) := by
  simp only [resizeIfNeeded, hc, (resizes_iff c).mpr hroom, if_true]
  rfl

/-- And else the old buffer is gone. -/
theorem resize_gone (hm : Bounded m) (hc : m.heap a = some c)
    (hroom : NoRoom (L := L) extraEntries extraData c) :
    let resized :=
      resizeIfNeeded L true extraEntries extraData (⟨some a, mLocked⟩, m)
    resized.1 = OK ∧ resized.2.2.heap a = none := by
  intro resized
  have hlive : (m.heap a).isSome := by
    rw [hc]
    rfl
  let new := L.allocate
    (newSize (L.entryCount c) (L.entryCapacity c) extraEntries)
    (newSize (L.dataCount c) (L.dataCapacity c) extraData)
  obtain ⟨halloc, -⟩ := effect_allocate hm (some new)
  have hsound : Sound (⟨some m.next, mLocked⟩, (m.allocate (some new)).2) :=
    ⟨halloc.bounded, halloc.live⟩
  let copied := onBuffer L (fun own => L.append own c)
    (⟨some m.next, mLocked⟩, (m.allocate (some new)).2)
  obtain ⟨hwrite, -, -⟩ := onBuffer_effect (L := L) hsound
    fun own => L.append own c
  have hold := (halloc.trans hwrite).frame a hlive nofun
  have hresized : resized = (OK, copied.2.1, copied.2.2.free a) := by
    show resizeIfNeeded L true extraEntries extraData _ = _
    simp only [resizeIfNeeded, hc, (resizes_iff c).mpr hroom, if_true]
    rfl
  have hsome : (copied.2.2.heap a).isSome := by
    rw [hold]
    exact hlive
  rw [hresized, Mem.free, if_pos hsome]
  exact ⟨rfl, Function.update_self _ _ _⟩

end Resize

end QcomCameraMetadata
