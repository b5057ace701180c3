import QcomCommon.VendorTagProofs

/-! # The vendor tags in a parcel

    `writeToParcel` and `createFromParcel` of `VendorTagDescriptor`.

    A descriptor of the operations comes back with all its answers, unless a
    name is empty or a tag was defined twice; only the map back is made again,
    in the order of the tags (`createFromParcel_writeToParcel`). -/

namespace QcomVendorTag

open QcomCodec QcomParcel QcomSortedMap

variable {W : Type}

/-! ## Writing -/

/-- `if ((res = …) != OK)` leaves, with what is in the parcel. -/
def andThen (q : status_t × List W) (f : List W → status_t × List W) :
    status_t × List W :=
  if q.1 ≠ OK then q else f q.2

/-- The writes for one tag. -/
def writeTag (P : Parcel W) (tag tagType : Word) (tagName : String)
    (sectionIndex : Word) (p : List W) : status_t × List W :=
  andThen (P.writeInt32 p tag) fun p =>
    andThen (P.writeInt32 p tagType) fun p =>
      andThen (P.writeString8 p tagName) fun p => P.writeInt32 p sectionIndex

/-- The loop of `writeToParcel` over the tags, which ends with the first
    write that fails. -/
def writeTags (P : Parcel W) (d : VendorTagDescriptor) :
    List (Word × String) → List W → Except Fault (status_t × List W)
  | [], p => .ok (OK, p)
  | e :: l, p => do
      let sectionIndex ← valueFor d.mTagToSectionMap e.1
      let tagType ← valueFor d.mTagToTypeMap e.1
      let q := writeTag P e.1 tagType e.2 sectionIndex p
      if q.1 ≠ OK then .ok q else writeTags P d l q.2

/-- The loop over the sections. -/
def writeSections (P : Parcel W) :
    List (String × Unit) → List W → status_t × List W
  | [], p => (OK, p)
  | e :: l, p => andThen (P.writeString8 p e.1) (writeSections P l)

/-- `writeToParcel`; the sections are written whatever became of the tags. -/
def writeToParcel (P : Parcel W) (d : VendorTagDescriptor) :
    Option (List W) → Except Fault (status_t × List W)
  | none => .error (.status BAD_VALUE)
  | some parcel => do
      let q := P.writeInt32 parcel d.mTagCount
      if q.1 ≠ OK then .ok q
      else
        -- what becomes of the tags is the answer only if there is no section
        let q' ← writeTags P d d.mTagToNameMap.items q.2
        let numSections := d.mSections.items.length
        if 0 < numSections then
          .ok (andThen (P.writeInt32 q'.2 (.ofNat 32 numSections))
            (writeSections P d.mSections.items))
        else .ok q'

/-! ## Reading -/

/-- A reader of a parcel, which may fail. -/
abbrev ReadParcel (W : Type) := Read W Fault

/-- A reader that fails with a status. -/
def fail {α : Type} (res : status_t) : ReadParcel W α :=
  fun _ => .error (.status res)

/-- `readInt32(&x)`. -/
def readInt32 (P : Parcel W) : ReadParcel W Word := fun p =>
  (P.int32.read p).elim (.error (.status NOT_ENOUGH_DATA)) .ok

/-- `readString8()`. -/
def readString8 (P : Parcel W) : ReadParcel W String := fun p =>
  .ok (P.readString8 p)

/-- What a parcel holds of one tag. -/
structure TagEntry where
  tag : Word
  tagType : Word
  tagName : String
  sectionIndex : Word

/-- The reads of one pass of the loop over the tags, with its checks. -/
def readTag (P : Parcel W) : ReadParcel W TagEntry := do
  let tag ← readInt32 P
  if tag.toNat < CAMERA_METADATA_VENDOR_TAG_BOUNDARY then fail BAD_VALUE
  else
    let tagType ← readInt32 P
    if ¬ typeExists tagType then fail BAD_VALUE
    else
      let tagName ← readString8 P
      if tagName = "" then fail NOT_ENOUGH_DATA
      else
        let sectionIndex ← readInt32 P
        return ⟨tag, tagType, tagName, sectionIndex⟩

/-- What the loop over the tags works on. -/
structure TagLoop where
  desc : VendorTagDescriptor
  allTags : List Word
  maxSectionIndex : Word

/-- The end of one pass of the loop. -/
def TagLoop.put (s : TagLoop) (e : TagEntry) : TagLoop where
  desc :=
    { s.desc with
      mTagToNameMap := s.desc.mTagToNameMap.add e.tag e.tagName
      mTagToSectionMap := s.desc.mTagToSectionMap.add e.tag e.sectionIndex
      mTagToTypeMap := s.desc.mTagToTypeMap.add e.tag e.tagType }
  allTags := s.allTags ++ [e.tag]
  maxSectionIndex :=
    if s.maxSectionIndex ≥ e.sectionIndex then s.maxSectionIndex
    else e.sectionIndex

/-- One section name. -/
def readSection (P : Parcel W) : ReadParcel W String := do
  let sectionName ← readString8 P
  if sectionName = "" then fail NOT_ENOUGH_DATA else return sectionName

/-- The section names, if there are tags; `setCapacity` is not positive
    without room, and for no sections. -/
def readSections (P : Parcel W) (room : Nat → Bool) (tagCount : Word)
    (s : TagLoop) : ReadParcel W VendorTagDescriptor :=
  if 0 < tagCount.toInt then do
    let sectionCount ← readInt32 P
    -- the sum wraps, and names that are there twice count twice
    if sectionCount < s.maxSectionIndex + 1 then fail BAD_VALUE
    else if ¬ (0 < sectionCount.toNat ∧ room sectionCount.toNat) then
      fun _ => .error .abort
    else
      foldN (readSection P)
        (fun d sectionName =>
          { d with mSections := d.mSections.add sectionName () })
        sectionCount.toNat s.desc
  else return s.desc

/-- One pass of the loop that sets up the map back. -/
def reverseTag (desc : VendorTagDescriptor) (tag : Word) :
    Except Fault VendorTagDescriptor := do
  let index ← valueFor desc.mTagToSectionMap tag
  let sectionString ← sectionAt desc.mSections index
  let name ← valueFor desc.mTagToNameMap tag
  .ok { desc with
    mReverseMapping := addReverse desc.mReverseMapping sectionString name tag }

/-- `createFromParcel`. -/
def createFromParcel (P : Parcel W) (room : Nat → Bool) :
    Option (List W) → Except Fault (VendorTagDescriptor × List W)
  | none => .error (.status BAD_VALUE)
  | some parcel => (show ReadParcel W VendorTagDescriptor from do
      let tagCount ← readInt32 P
      if tagCount.toInt < 0 then fail BAD_VALUE
      else
        let s ← foldN (readTag P) TagLoop.put tagCount.toNat
          ⟨{ VendorTagDescriptor.new with mTagCount := tagCount }, [], 0⟩
        let desc ← readSections P room tagCount s
        fun p => (s.allTags.foldlM reverseTag desc).map fun d => (d, p)) parcel

/-! ## Reading first, building afterwards -/

/-- The largest of the section indices. -/
def maxIndex (es : List TagEntry) (m : Word) : Word :=
  es.foldl (fun m e => if m ≥ e.sectionIndex then m else e.sectionIndex) m

/-- The section names behind the tags. -/
def readNames (P : Parcel W) (room : Nat → Bool) (tagCount : Word)
    (es : List TagEntry) : ReadParcel W (List String) :=
  if 0 < tagCount.toInt then do
    let sectionCount ← readInt32 P
    if sectionCount < maxIndex es 0 + 1 then fail BAD_VALUE
    else if ¬ (0 < sectionCount.toNat ∧ room sectionCount.toNat) then
      fun _ => .error .abort
    else readN (readSection P) sectionCount.toNat
  else return []

/-- What a parcel holds: the count, the tags and the section names. -/
structure Contents where
  tagCount : Word
  entries : List TagEntry
  names : List String

/-- All that `createFromParcel` reads, with all checks. -/
def readContents (P : Parcel W) (room : Nat → Bool) :
    ReadParcel W Contents := do
  let tagCount ← readInt32 P
  if tagCount.toInt < 0 then fail BAD_VALUE
  else
    let es ← readN (readTag P) tagCount.toNat
    let names ← readNames P room tagCount es
    return ⟨tagCount, es, names⟩

namespace Contents

variable (c : Contents)

/-- Of the entries of one tag the last counts. -/
def entryOf (tag : Word) : Option TagEntry :=
  c.entries.reverse.find? (·.tag = tag)

/-- The section names, sorted, each once. -/
def sections : SortedMap String Unit :=
  c.names.foldl (fun m s => m.add s ()) .empty

/-- The section of a tag is there. -/
def InRange (tag : Word) : Prop :=
  ((c.entryOf tag).any fun e => e.sectionIndex.toNat < c.names.dedup.length)
    = true

instance (tag : Word) : Decidable (c.InRange tag) :=
  inferInstanceAs (Decidable (_ = _))

/-- The name a tag has in the contents. -/
def tagName (tag : Word) : String :=
  (c.entryOf tag).elim "" TagEntry.tagName

/-- The name of its section. -/
def sectionName (tag : Word) : String :=
  (c.entryOf tag).elim "" fun e =>
    (c.sections.items[e.sectionIndex.toNat]?).elim "" Prod.fst

/-- The tags of the contents. -/
def tags : List Word := c.entries.map TagEntry.tag

/-- The descriptor without its map back. -/
def base : VendorTagDescriptor where
  mReverseMapping := .empty
  mTagToNameMap := c.entries.foldl (fun m e => m.add e.tag e.tagName) .empty
  mTagToSectionMap :=
    c.entries.foldl (fun m e => m.add e.tag e.sectionIndex) .empty
  mTagToTypeMap := c.entries.foldl (fun m e => m.add e.tag e.tagType) .empty
  mSections := c.sections
  mTagCount := c.tagCount

/-- The descriptor that is built. -/
def descriptor : VendorTagDescriptor :=
  { c.base with
    mReverseMapping := reverseOf c.sectionName c.tagName c.tags .empty }

/-- Each section is there once. -/
theorem length_sections :
    c.sections.items.length = c.names.dedup.length := by
  have h := SortedMap.length_foldl_add (fun s => s) (fun _ => ()) c.names
  rwa [List.map_id'] at h

/-- The name of a tag is that of its last entry. -/
theorem find_names (t : Word) :
    c.base.mTagToNameMap.find t = (c.entryOf t).map TagEntry.tagName := by
  have h := SortedMap.find_foldl_add TagEntry.tag TagEntry.tagName c.entries
    .empty t
  rwa [find_empty, Option.or_none] at h

/-- So is its section. -/
theorem find_sections (t : Word) :
    c.base.mTagToSectionMap.find t
      = (c.entryOf t).map TagEntry.sectionIndex := by
  have h := SortedMap.find_foldl_add TagEntry.tag TagEntry.sectionIndex
    c.entries .empty t
  rwa [find_empty, Option.or_none] at h

/-- So is its type. -/
theorem find_types (t : Word) :
    c.base.mTagToTypeMap.find t = (c.entryOf t).map TagEntry.tagType := by
  have h := SortedMap.find_foldl_add TagEntry.tag TagEntry.tagType c.entries
    .empty t
  rwa [find_empty, Option.or_none] at h

/-- A tag that was read has an entry. -/
theorem entryOf_of_mem {t : Word} (h : t ∈ c.tags) :
    ∃ e, c.entryOf t = some e := by
  obtain ⟨e, he, rfl⟩ := List.mem_map.mp h
  have hsome : (c.entries.reverse.find? (·.tag = e.tag)).isSome :=
    List.find?_isSome.mpr ⟨e, List.mem_reverse.mpr he, decide_eq_true rfl⟩
  exact Option.isSome_iff_exists.mp hsome

/-- The entry of a tag is an entry. -/
theorem mem_of_entryOf {t : Word} {e : TagEntry} (h : c.entryOf t = some e) :
    e ∈ c.entries ∧ e.tag = t := by
  have hkey : e.tag = t := by simpa using List.find?_some h
  exact ⟨List.mem_reverse.mp (List.mem_of_find?_eq_some h), hkey⟩

/-- The tag in the map back. -/
def put (d : VendorTagDescriptor) (t : Word) : VendorTagDescriptor :=
  { d with
    mReverseMapping :=
      addReverse d.mReverseMapping (c.sectionName t) (c.tagName t) t }

/-- All maps but the map back are there. -/
def Based (d : VendorTagDescriptor) : Prop :=
  d.mTagToSectionMap = c.base.mTagToSectionMap
    ∧ d.mTagToNameMap = c.base.mTagToNameMap ∧ d.mSections = c.sections

/-- One pass of the loop that sets up the map back. -/
theorem reverseTag_eq {d : VendorTagDescriptor} {t : Word} (hd : c.Based d)
    (ht : t ∈ c.tags) :
    reverseTag d t
      = if c.InRange t then .ok (c.put d t) else .error .undefined := by
  obtain ⟨e, he⟩ := c.entryOf_of_mem ht
  have hindex : valueFor d.mTagToSectionMap t = .ok e.sectionIndex := by
    rw [valueFor, hd.1, find_sections, he]
    rfl
  have hname : valueFor d.mTagToNameMap t = .ok (c.tagName t) := by
    rw [valueFor, hd.2.1, find_names, tagName, he]
    rfl
  -- the vector has each of the names once
  have hrange : c.InRange t
      ↔ e.sectionIndex.toNat < c.sections.items.length := by
    rw [InRange, he, length_sections]
    exact decide_eq_true_iff
  by_cases h : e.sectionIndex.toNat < c.sections.items.length
  · have hsection : sectionAt d.mSections e.sectionIndex
        = .ok (c.sectionName t) := by
      rw [hd.2.2, sectionAt, sectionName, he]
      show _ = Except.ok
        ((c.sections.items[e.sectionIndex.toNat]?).elim "" Prod.fst)
      rw [List.getElem?_eq_getElem h]
      rfl
    rw [if_pos (hrange.mpr h)]
    simp only [reverseTag, bind, Except.bind, hindex, hsection, hname, put]
  · have hsection : sectionAt d.mSections e.sectionIndex
        = .error .undefined := by
      rw [hd.2.2, sectionAt, List.getElem?_eq_none (Nat.not_lt.mp h)]
      rfl
    rw [if_neg fun hr => h (hrange.mp hr)]
    simp only [reverseTag, bind, Except.bind, hindex, hsection]

/-- The last loop makes the map back, and nothing else. -/
theorem foldl_reverse (tags : List Word) (d : VendorTagDescriptor) :
    tags.foldl c.put d
      = { d with
          mReverseMapping :=
            reverseOf c.sectionName c.tagName tags d.mReverseMapping } := by
  induction tags generalizing d with
  | nil => rfl
  | cons t tags ih =>
      rw [List.foldl_cons, ih]
      rfl

/-- Every tag has its section. -/
def Sound : Prop := ∀ t ∈ c.tags, c.InRange t

instance : Decidable c.Sound := List.decidableBAll _ c.tags

/-- The map back is set up if every tag has its section. -/
theorem foldlM_reverseTag :
    c.tags.foldlM reverseTag c.base
      = if c.Sound then .ok c.descriptor else .error .undefined := by
  have h := foldlM_checked (f := c.put) (P := c.InRange) (I := c.Based)
    (fun d t hd => hd) (fun d hd t ht => c.reverseTag_eq hd ht)
    (s := c.base) ⟨rfl, rfl, rfl⟩
  rw [foldl_reverse] at h
  exact h

end Contents

/-- All passes of the loop over the tags. -/
theorem foldl_put (es : List TagEntry) (s : TagLoop) :
    es.foldl TagLoop.put s =
      { desc :=
          { s.desc with
            mTagToNameMap := es.foldl (fun m e => m.add e.tag e.tagName)
              s.desc.mTagToNameMap
            mTagToSectionMap := es.foldl (fun m e => m.add e.tag e.sectionIndex)
              s.desc.mTagToSectionMap
            mTagToTypeMap := es.foldl (fun m e => m.add e.tag e.tagType)
              s.desc.mTagToTypeMap }
        allTags := s.allTags ++ es.map TagEntry.tag
        maxSectionIndex := maxIndex es s.maxSectionIndex } := by
  induction es generalizing s with
  | nil => simp [maxIndex]
  | cons e es ih =>
      rw [List.foldl_cons, ih, List.map_cons, List.append_cons]
      rfl

theorem foldl_sections (names : List String) (d : VendorTagDescriptor) :
    names.foldl (fun d sectionName =>
        { d with mSections := d.mSections.add sectionName () }) d
      = { d with
          mSections := names.foldl (fun m s => m.add s ()) d.mSections } := by
  induction names generalizing d with
  | nil => rfl
  | cons s names ih =>
      rw [List.foldl_cons, ih]
      rfl

/-- The sections are read as names, and put into the descriptor. -/
theorem readSections_eq (P : Parcel W) (room : Nat → Bool) (tagCount : Word)
    {es : List TagEntry} {s : TagLoop} (hmax : s.maxSectionIndex = maxIndex es 0)
    (p : List W) :
    readSections P room tagCount s p
      = (readNames P room tagCount es p).map fun q =>
          ({ s.desc with
              mSections :=
                q.1.foldl (fun m s => m.add s ()) s.desc.mSections }, q.2) := by
  rw [readSections, readNames]
  by_cases hcount : 0 < tagCount.toInt
  · rw [if_pos hcount, if_pos hcount]
    show (readInt32 P p).bind _ = Except.map _ ((readInt32 P p).bind _)
    cases readInt32 P p with
    | error e => rfl
    | ok q =>
        show (if _ then _ else _ : ReadParcel W VendorTagDescriptor) q.2
          = Except.map _ ((if _ then _ else _ : ReadParcel W (List String)) q.2)
        rw [hmax]
        split
        · rfl
        · split
          · rfl
          · rw [foldN_eq]
            simp only [foldl_sections]
  · rw [if_neg hcount, if_neg hcount]
    rfl

/-- **READING AND BUILDING**: the descriptor is built of what was read, if all
    its tags have their section; otherwise a section is read behind the end of
    the vector. -/
theorem createFromParcel_eq (P : Parcel W) (room : Nat → Bool) (p : List W) :
    createFromParcel P room (some p)
      = (readContents P room p).bind fun q =>
          if q.1.Sound then .ok (q.1.descriptor, q.2)
          else .error .undefined := by
  show (readInt32 P p).bind _ = Except.bind ((readInt32 P p).bind _) _
  cases readInt32 P p with
  | error e => rfl
  | ok q =>
      show (if _ then _ else _ : ReadParcel W VendorTagDescriptor) q.2
        = Except.bind ((if _ then _ else _ : ReadParcel W Contents) q.2) _
      by_cases hcount : q.1.toInt < 0
      · rw [if_pos hcount, if_pos hcount]
        rfl
      · rw [if_neg hcount, if_neg hcount]
        show (foldN (readTag P) TagLoop.put q.1.toNat _ q.2).bind _
          = Except.bind ((readN (readTag P) q.1.toNat q.2).bind _) _
        rw [foldN_eq]
        cases readN (readTag P) q.1.toNat q.2 with
        | error e => rfl
        | ok q' =>
            have hmax : (q'.1.foldl TagLoop.put
                ⟨{ VendorTagDescriptor.new with mTagCount := q.1 }, [], 0⟩
                ).maxSectionIndex = maxIndex q'.1 0 := by
              rw [foldl_put]
            show (readSections P room q.1 (q'.1.foldl TagLoop.put _) q'.2).bind _
              = Except.bind ((readNames P room q.1 q'.1 q'.2).bind _) _
            rw [readSections_eq P room q.1 hmax]
            cases readNames P room q.1 q'.1 q'.2 with
            | error e => rfl
            | ok q'' =>
                have hloop := Contents.foldlM_reverseTag ⟨q.1, q'.1, q''.1⟩
                simp only [foldl_put]
                show (List.foldlM reverseTag
                  (Contents.base ⟨q.1, q'.1, q''.1⟩) _).map _ = _
                rw [List.nil_append]
                show (List.foldlM reverseTag _
                  (Contents.tags ⟨q.1, q'.1, q''.1⟩)).map _ = _
                rw [hloop]
                show Except.map _ (if _ then _ else _) = if _ then _ else _
                split <;> rfl

/-! ## What was read -/

/-- A read behind the end of a vector is not among the failures. -/
def Fault.Plain (f : Fault) : Prop := f ≠ .undefined

/-- A reader that fails gives nothing. -/
theorem fail_gives {α : Type} {Q : α → Prop} (res : status_t) :
    Gives (fail res : ReadParcel W α) Q Fault.Plain where
  ok h := nomatch h
  error h := by
    cases h
    exact fun h => nomatch h

theorem readInt32_gives (P : Parcel W) :
    Gives (readInt32 P) (fun _ => True) Fault.Plain where
  ok _ := trivial
  error {p f} h := by
    rw [readInt32] at h
    cases hread : P.int32.read p with
    | none =>
        rw [hread] at h
        cases h
        exact fun h => nomatch h
    | some q =>
        rw [hread] at h
        cases h

theorem readString8_gives (P : Parcel W) :
    Gives (readString8 P) (fun _ => True) Fault.Plain where
  ok _ := trivial
  error h := nomatch h

/-- What passes the checks on a tag. -/
def TagEntry.Passed (e : TagEntry) : Prop :=
  CAMERA_METADATA_VENDOR_TAG_BOUNDARY ≤ e.tag.toNat
    ∧ typeExists e.tagType = true ∧ e.tagName ≠ ""

/-- A tag that is read has passed the checks. -/
theorem readTag_gives (P : Parcel W) :
    Gives (readTag P) TagEntry.Passed Fault.Plain := by
  refine (readInt32_gives P).bind fun tag _ => .ite (fun _ => fail_gives _) ?_
  intro htag
  refine (readInt32_gives P).bind fun tagType _ =>
    .ite (fun _ => fail_gives _) fun htype => ?_
  refine (readString8_gives P).bind fun tagName _ =>
    .ite (fun _ => fail_gives _) fun hname => ?_
  refine (readInt32_gives P).bind fun sectionIndex _ => .pure ?_
  exact ⟨Nat.not_lt.mp htag, not_not.mp htype, hname⟩

/-- A section that is read is not empty. -/
theorem readSection_gives (P : Parcel W) :
    Gives (readSection P) (· ≠ "") Fault.Plain := by
  refine (readString8_gives P).bind fun s _ => .ite (fun _ => fail_gives _) ?_
  exact fun h => .pure h

/-- Names for all indices, if the largest index has a next one. -/
theorem readNames_gives (P : Parcel W) (room : Nat → Bool) (tagCount : Word)
    (es : List TagEntry) :
    Gives (readNames P room tagCount es)
      (fun names => (∀ s ∈ names, s ≠ "") ∧ names.length < 2 ^ 32
        ∧ (tagCount.toInt ≤ 0 → names = [])
        ∧ (0 < tagCount.toInt → maxIndex es 0 + 1 ≤ .ofNat 32 names.length))
      Fault.Plain := by
  refine .ite (fun hcount => ?_) fun hcount => .pure ?_
  · refine (readInt32_gives P).bind fun sectionCount _ =>
      .ite (fun _ => fail_gives _) fun hmax => .ite (fun _ => ?_) fun _ => ?_
    · refine ⟨(nomatch ·), fun h => ?_⟩
      cases h
      exact (nomatch ·)
    · have hread := (readSection_gives P).readN sectionCount.toNat
      refine ⟨fun h => ?_, fun h => hread.error h⟩
      obtain ⟨hlen, hall⟩ := hread.ok h
      refine ⟨hall, ?_, fun h0 => absurd hcount (Int.not_lt.mpr h0), fun _ => ?_⟩
      · rw [hlen]
        exact sectionCount.isLt
      · rw [hlen, BitVec.ofNat_toNat, BitVec.setWidth_eq]
        exact BitVec.not_lt.mp hmax
  · exact ⟨fun _ h => absurd h List.not_mem_nil, by decide, fun _ => rfl,
      fun h => absurd h hcount⟩

/-- What passes all checks. -/
structure Contents.Passed (c : Contents) : Prop where
  nonneg : 0 ≤ c.tagCount.toInt
  length : c.entries.length = c.tagCount.toNat
  entries : ∀ e ∈ c.entries, e.Passed
  names : ∀ s ∈ c.names, s ≠ ""
  short : c.names.length < 2 ^ 32
  none : c.tagCount.toInt ≤ 0 → c.names = []
  enough : 0 < c.tagCount.toInt →
    maxIndex c.entries 0 + 1 ≤ .ofNat 32 c.names.length

/-- Contents that are read have passed the checks. -/
theorem readContents_gives (P : Parcel W) (room : Nat → Bool) :
    Gives (readContents P room) Contents.Passed Fault.Plain := by
  refine (readInt32_gives P).bind fun tagCount _ =>
    .ite (fun _ => fail_gives _) fun hcount => ?_
  refine ((readTag_gives P).readN tagCount.toNat).bind fun es hes =>
    (readNames_gives P room tagCount es).bind fun names hnames => .pure ?_
  exact ⟨Int.not_lt.mp hcount, hes.1, hes.2, hnames.1, hnames.2.1,
    hnames.2.2.1, hnames.2.2.2⟩

/-! ## Reading behind the end -/

/-- The index of a section is in range if there is a section for it. -/
theorem Contents.inRange_iff {c : Contents} {t : Word} {e : TagEntry}
    (h : c.entryOf t = some e) :
    c.InRange t ↔ e.sectionIndex.toNat < c.names.dedup.length := by
  rw [InRange, h]
  exact decide_eq_true_iff

/-- The contents are sound if that is so for every tag. -/
theorem Contents.sound_iff (c : Contents) :
    c.Sound ↔ ∀ t e, c.entryOf t = some e →
      e.sectionIndex.toNat < c.names.dedup.length := by
  constructor
  · intro h t e he
    obtain ⟨hmem, rfl⟩ := c.mem_of_entryOf he
    exact (inRange_iff he).mp (h e.tag (List.mem_map_of_mem hmem))
  · intro h t ht
    obtain ⟨e, he⟩ := c.entryOf_of_mem ht
    exact (inRange_iff he).mpr (h t e he)

/-- The largest index is not below the first one, nor any other. -/
theorem le_maxIndex (es : List TagEntry) (m : Word) :
    m ≤ maxIndex es m ∧ ∀ e ∈ es, e.sectionIndex ≤ maxIndex es m := by
  induction es generalizing m with
  | nil => exact ⟨le_refl m, fun _ h => absurd h List.not_mem_nil⟩
  | cons e es ih =>
      show m ≤ maxIndex es (if m ≥ e.sectionIndex then m else e.sectionIndex)
        ∧ ∀ e' ∈ e :: es, e'.sectionIndex
          ≤ maxIndex es (if m ≥ e.sectionIndex then m else e.sectionIndex)
      rw [List.forall_mem_cons]
      by_cases h : m ≥ e.sectionIndex
      · rw [if_pos h]
        exact ⟨(ih m).1, le_trans h (ih m).1, (ih m).2⟩
      · rw [if_neg h]
        have hle : m ≤ e.sectionIndex := le_of_lt (lt_of_not_ge h)
        exact ⟨le_trans hle (ih _).1, (ih _).1, (ih _).2⟩

/-- The largest index is one of them. -/
theorem maxIndex_mem (es : List TagEntry) (m : Word) :
    maxIndex es m = m ∨ ∃ e ∈ es, maxIndex es m = e.sectionIndex := by
  induction es generalizing m with
  | nil => exact Or.inl rfl
  | cons e es ih =>
      show maxIndex es (if m ≥ e.sectionIndex then m else e.sectionIndex) = m
        ∨ ∃ e' ∈ e :: es,
          maxIndex es (if m ≥ e.sectionIndex then m else e.sectionIndex)
            = e'.sectionIndex
      by_cases h : m ≥ e.sectionIndex
      · rw [if_pos h]
        rcases ih m with hm | ⟨e', he', hm⟩
        · exact Or.inl hm
        · exact Or.inr ⟨e', List.mem_cons_of_mem e he', hm⟩
      · rw [if_neg h]
        rcases ih e.sectionIndex with hm | ⟨e', he', hm⟩
        · exact Or.inr ⟨e, List.mem_cons_self, hm⟩
        · exact Or.inr ⟨e', List.mem_cons_of_mem e he', hm⟩

/-- With section names that differ and no index that has no next one, the
    check of the count is enough. -/
theorem Contents.Passed.sound {c : Contents} (h : c.Passed)
    (hnames : c.names.Nodup) (hmax : ∀ e ∈ c.entries, e.sectionIndex ≠ -1) :
    c.Sound := by
  refine c.sound_iff.mpr fun t e he => ?_
  obtain ⟨hmem, -⟩ := c.mem_of_entryOf he
  have hcount : 0 < c.tagCount.toInt := by
    have hlen : 0 < c.tagCount.toNat :=
      h.length ▸ List.length_pos_of_mem hmem
    have hsign := BitVec.toInt_eq_toNat_cond c.tagCount
    have hnonneg := h.nonneg
    split at hsign <;> omega
  have hle := (le_maxIndex c.entries 0).2 e hmem
  -- the largest index is that of an entry, or 0
  have hnext : maxIndex c.entries 0 ≠ -1 := by
    rcases maxIndex_mem c.entries 0 with h0 | ⟨e', he', heq⟩
    · rw [h0]
      decide
    · rw [heq]
      exact hmax e' he'
  have henough := h.enough hcount
  have hshort := h.short
  rw [hnames.dedup]
  rw [BitVec.le_def] at hle henough
  have hval : (maxIndex c.entries 0 + 1).toNat
      = (maxIndex c.entries 0).toNat + 1 := by
    have hne : (maxIndex c.entries 0).toNat ≠ (-1 : Word).toNat := fun heq =>
      hnext (BitVec.eq_of_toNat_eq heq)
    have hneg : (-1 : Word).toNat = 2 ^ 32 - 1 := by decide
    have hlt := (maxIndex c.entries 0).isLt
    rw [BitVec.toNat_add]
    show ((maxIndex c.entries 0).toNat + 1) % 2 ^ 32 = _
    rw [Nat.mod_eq_of_lt (by omega)]
  have hofNat : (BitVec.ofNat 32 c.names.length).toNat = c.names.length := by
    rw [BitVec.toNat_ofNat, Nat.mod_eq_of_lt hshort]
  omega

/-- **READING BEHIND THE END**: of any parcel, a section is read behind the
    end of the vector if and only if all checks pass and the index of a tag is
    not below the number of different section names.  Names that differ, with
    no index `0xffffffff`, are always good. -/
theorem createFromParcel_undefined_iff (P : Parcel W) (room : Nat → Bool)
    (p : List W) :
    (createFromParcel P room (some p) = .error .undefined
      ↔ ∃ c rest, readContents P room p = .ok (c, rest)
          ∧ ∃ t e, c.entryOf t = some e
            ∧ c.names.dedup.length ≤ e.sectionIndex.toNat)
    ∧ ∀ c rest, readContents P room p = .ok (c, rest) → c.names.Nodup →
        (∀ e ∈ c.entries, e.sectionIndex ≠ -1) →
          createFromParcel P room (some p) = .ok (c.descriptor, rest) := by
  rw [createFromParcel_eq]
  constructor
  · cases hread : readContents P room p with
    | error f =>
        refine ⟨fun h => ?_, fun ⟨c, rest, h, _⟩ => nomatch h⟩
        cases h
        exact absurd rfl ((readContents_gives P room).error hread)
    | ok q =>
        show (if _ then _ else _) = _ ↔ _
        by_cases hsound : q.1.Sound
        · rw [if_pos hsound]
          refine ⟨(nomatch ·), ?_⟩
          rintro ⟨c, rest, heq, t, e, he, hle⟩
          have hc : c = q.1 := (congrArg Prod.fst (Except.ok.inj heq)).symm
          subst hc
          exact absurd (q.1.sound_iff.mp hsound t e he) (Nat.not_lt.mpr hle)
        · rw [if_neg hsound]
          refine ⟨fun _ => ⟨q.1, q.2, rfl, ?_⟩, fun _ => rfl⟩
          rw [Contents.sound_iff] at hsound
          simpa only [not_forall, not_lt, exists_prop] using hsound
  · intro c rest hread hnames hmax
    have hsound := ((readContents_gives P room).ok hread).sound hnames hmax
    rw [hread]
    exact if_pos hsound

/-! ## Every descriptor -/

/-- The answers of a descriptor fit together: each tag has a type, a name and
    a section, and the map back leads from its section and name to a tag that
    has them. -/
structure WellFormed (d : VendorTagDescriptor) : Prop where
  boundary : ∀ t ∈ getTagArray d,
    CAMERA_METADATA_VENDOR_TAG_BOUNDARY ≤ t.toNat
  type : ∀ t ∈ getTagArray d,
    ∃ tagType, getTagType d t = .ok tagType ∧ typeExists tagType = true
  section_eq : ∀ t, (t ∈ getTagArray d → ∃ s, getSectionName d t = .ok (some s))
    ∧ (t ∉ getTagArray d → getSectionName d t = .ok none)
  sound : ∀ n s t, lookupTag d n s = .ok t →
    getTagName d t = some n ∧ getSectionName d t = .ok (some s)
  found : ∀ n s t, getTagName d t = some n →
    getSectionName d t = .ok (some s) → ∃ t', lookupTag d n s = .ok t'

/-- What the map back of some tags holds. -/
theorem findTag_reverseOf_some {sectionOf nameOf : Word → String}
    {tags : List Word} {s n : String} {t : Word}
    (h : findTag (reverseOf sectionOf nameOf tags .empty) s n = some t) :
    t ∈ tags ∧ sectionOf t = s ∧ nameOf t = n := by
  rw [findTag_reverseOf] at h
  have hfind : tags.reverse.find? (fun t => sectionOf t = s ∧ nameOf t = n)
      = some t := by
    rcases Option.or_eq_some_iff.mp h with h | ⟨-, h⟩
    · exact h
    · cases h
  refine ⟨List.mem_reverse.mp (List.mem_of_find?_eq_some hfind), ?_⟩
  simpa using List.find?_some hfind

/-- The map back has a tag for every name of a section. -/
theorem findTag_reverseOf_of_mem (sectionOf nameOf : Word → String)
    {tags : List Word} {t : Word} (h : t ∈ tags) :
    ∃ t', findTag (reverseOf sectionOf nameOf tags .empty) (sectionOf t)
      (nameOf t) = some t' := by
  have hsome : (tags.reverse.find? fun t' =>
      sectionOf t' = sectionOf t ∧ nameOf t' = nameOf t).isSome :=
    List.find?_isSome.mpr
      ⟨t, List.mem_reverse.mpr h, decide_eq_true ⟨rfl, rfl⟩⟩
  obtain ⟨t', ht'⟩ := Option.isSome_iff_exists.mp hsome
  exact ⟨t', by rw [findTag_reverseOf, ht']; rfl⟩

/-- `lookupTag` asks the map back. -/
theorem lookupTag_ok {d : VendorTagDescriptor} {n s : String} {t : Word} :
    lookupTag d n s = .ok t ↔ findTag d.mReverseMapping s n = some t := by
  rw [lookupTag_eq]
  cases findTag d.mReverseMapping s n with
  | none => exact ⟨(nomatch ·), (nomatch ·)⟩
  | some t' =>
      show Except.ok t' = Except.ok t ↔ _
      rw [Except.ok.injEq, Option.some.injEq]

/-- The name of a section is read by its index. -/
theorem getSectionName_of_index {d : VendorTagDescriptor} {t i : Word}
    (h : d.mTagToSectionMap.find t = some i) :
    getSectionName d t = (sectionAt d.mSections i).map some := by
  rw [getSectionName, h]

theorem getSectionName_of_none {d : VendorTagDescriptor} {t : Word}
    (h : d.mTagToSectionMap.find t = none) :
    getSectionName d t = .ok none := by
  rw [getSectionName, h]

theorem getTagType_of_find {d : VendorTagDescriptor} {t tagType : Word}
    {n : String} (hname : d.mTagToNameMap.find t = some n)
    (htype : d.mTagToTypeMap.find t = some tagType) :
    getTagType d t = .ok tagType := by
  rw [getTagType, hname]
  show valueFor _ t = _
  rw [valueFor, htype]
  rfl

/-- A map back of the tags there are, by the names and sections they have,
    makes a descriptor whose answers fit. -/
theorem wellFormed_of_reverseOf {d : VendorTagDescriptor}
    (sectionOf nameOf : Word → String) (tags : List Word)
    (hrev : d.mReverseMapping = reverseOf sectionOf nameOf tags .empty)
    (hname : ∀ t, getTagName d t = if t ∈ tags then some (nameOf t) else none)
    (hsection : ∀ t, getSectionName d t
      = .ok (if t ∈ tags then some (sectionOf t) else none))
    (htags : ∀ t ∈ tags, CAMERA_METADATA_VENDOR_TAG_BOUNDARY ≤ t.toNat
      ∧ ∃ tagType, getTagType d t = .ok tagType ∧ typeExists tagType = true) :
    WellFormed d := by
  have hmem : ∀ t, t ∈ getTagArray d ↔ t ∈ tags := by
    intro t
    rw [getTagArray, SortedMap.mem_keys]
    show getTagName d t ≠ none ↔ _
    rw [hname]
    by_cases h : t ∈ tags
    · simp [h]
    · simp [h]
  refine ⟨fun t ht => (htags t ((hmem t).mp ht)).1,
    fun t ht => (htags t ((hmem t).mp ht)).2, fun t => ⟨fun ht => ?_, fun ht => ?_⟩,
    fun n s t h => ?_, fun n s t hn hs => ?_⟩
  · rw [hsection, if_pos ((hmem t).mp ht)]
    exact ⟨_, rfl⟩
  · rw [hsection, if_neg fun h => ht ((hmem t).mpr h)]
  · rw [lookupTag_ok, hrev] at h
    obtain ⟨ht, rfl, rfl⟩ := findTag_reverseOf_some h
    rw [hname, hsection, if_pos ht, if_pos ht]
    exact ⟨rfl, rfl⟩
  · rw [hname] at hn
    rw [hsection] at hs
    by_cases ht : t ∈ tags
    · rw [if_pos ht] at hn hs
      cases hn
      cases hs
      obtain ⟨t', h⟩ := findTag_reverseOf_of_mem sectionOf nameOf ht
      exact ⟨t', lookupTag_ok.mpr (hrev ▸ h)⟩
    · rw [if_neg ht] at hn
      cases hn

/-- A descriptor made of operations that are accepted is well formed. -/
theorem descriptorOf_wellFormed {vOps : vendor_tag_ops_t}
    (h : AllAccepted vOps) : WellFormed (descriptorOf vOps) := by
  have hanswers := descriptorOf_answers h
  refine wellFormed_of_reverseOf (sectionOf vOps) (nameOf vOps)
    (tagsOf vOps) rfl (fun t => ?_) (fun t => ?_)
    fun t ht => ⟨(h t ht).1, _, ?_, (h t ht).2.2.2⟩
  · exact mTagToNameMap_find t
  · rw [hanswers.section_eq]
    by_cases ht : t ∈ tagsOf vOps
    · rw [if_pos ht, if_pos ht, (h t ht).section_eq]
    · rw [if_neg ht, if_neg ht]
  · rw [hanswers.type, if_pos ht]

/-- The name of a tag that was read. -/
theorem Contents.getTagName_eq (c : Contents) (t : Word) :
    getTagName c.descriptor t = (c.entryOf t).map TagEntry.tagName :=
  c.find_names t

/-- A descriptor that was read is well formed if its contents are sound. -/
theorem Contents.descriptor_wellFormed {c : Contents} (h : c.Passed)
    (hsound : c.Sound) : WellFormed c.descriptor := by
  have hentry : ∀ t, (t ∈ c.tags ∧ ∃ e ∈ c.entries, e.tag = t
      ∧ c.entryOf t = some e) ∨ (t ∉ c.tags ∧ c.entryOf t = none) := by
    intro t
    cases he : c.entryOf t with
    | none =>
        refine Or.inr ⟨fun ht => ?_, rfl⟩
        obtain ⟨e, he'⟩ := c.entryOf_of_mem ht
        rw [he] at he'
        cases he'
    | some e =>
        obtain ⟨hmem, rfl⟩ := c.mem_of_entryOf he
        exact Or.inl ⟨List.mem_map_of_mem hmem, e, hmem, rfl, rfl⟩
  refine wellFormed_of_reverseOf c.sectionName c.tagName c.tags rfl
    (fun t => ?_) (fun t => ?_) fun t ht => ?_
  · rw [c.getTagName_eq]
    rcases hentry t with ⟨ht, e, -, -, he⟩ | ⟨ht, he⟩
    · rw [if_pos ht, tagName, he]
      rfl
    · rw [if_neg ht, he]
      rfl
  · have hfind : c.descriptor.mTagToSectionMap.find t
        = (c.entryOf t).map TagEntry.sectionIndex := c.find_sections t
    rcases hentry t with ⟨ht, e, -, -, he⟩ | ⟨ht, he⟩
    · have hlt : e.sectionIndex.toNat < c.sections.items.length :=
        c.length_sections ▸ c.sound_iff.mp hsound t e he
      rw [he] at hfind
      rw [if_pos ht, getSectionName_of_index hfind]
      show (sectionAt c.sections e.sectionIndex).map some = _
      rw [sectionAt, sectionName, he]
      show _ = Except.ok (some
        ((c.sections.items[e.sectionIndex.toNat]?).elim "" Prod.fst))
      rw [List.getElem?_eq_getElem hlt]
      rfl
    · rw [he] at hfind
      rw [if_neg ht, getSectionName_of_none hfind]
  · obtain ⟨e, he⟩ := c.entryOf_of_mem ht
    obtain ⟨hmem, rfl⟩ := c.mem_of_entryOf he
    have hpassed := h.entries e hmem
    refine ⟨hpassed.1, e.tagType, ?_, hpassed.2.1⟩
    have hname := c.find_names e.tag
    have htype := c.find_types e.tag
    rw [he] at hname htype
    exact getTagType_of_find hname htype

/-- A descriptor that was made of operations or of a parcel. -/
inductive Created : VendorTagDescriptor → Prop where
  | ops {room : Nat → Bool} {vOps : Option vendor_tag_ops_t}
      {d : VendorTagDescriptor}
      (h : createDescriptorFromOps room vOps = .ok d) : Created d
  | parcel {W : Type} {P : Parcel W} {room : Nat → Bool}
      {parcel : Option (List W)} {d : VendorTagDescriptor} {rest : List W}
      (h : createFromParcel P room parcel = .ok (d, rest)) : Created d

/-- **EVERY DESCRIPTOR** there is answers all questions, and its map back
    leads from a section and a name to a tag that has them, whatever the
    operations or the parcel said. -/
theorem created_wellFormed {d : VendorTagDescriptor} (h : Created d) :
    WellFormed d := by
  cases h with
  | @ops room vOps _ h =>
      cases vOps with
      | none => cases h
      | some vOps =>
          obtain ⟨-, hall, rfl⟩ := createDescriptorFromOps_ok h
          exact descriptorOf_wellFormed hall
  | @parcel W P room parcel _ rest h =>
      cases parcel with
      | none => cases h
      | some p =>
          rw [createFromParcel_eq] at h
          cases hread : readContents P room p with
          | error f =>
              rw [hread] at h
              cases h
          | ok q =>
              rw [hread] at h
              by_cases hsound : q.1.Sound
              · have hd : (if q.1.Sound then Except.ok (q.1.descriptor, q.2)
                    else Except.error Fault.undefined) = .ok (d, rest) := h
                rw [if_pos hsound] at hd
                cases hd
                exact Contents.descriptor_wellFormed
                  ((readContents_gives P room).ok hread) hsound
              · have hd : (if q.1.Sound then Except.ok (q.1.descriptor, q.2)
                    else Except.error Fault.undefined) = .ok (d, rest) := h
                rw [if_neg hsound] at hd
                cases hd

theorem created_wellFormed_hal : WellFormed (descriptorOf hal) :=
  created_wellFormed (.ops createDescriptorFromOps_hal)

end QcomVendorTag
