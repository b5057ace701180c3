import Mathlib.Data.List.Find
import QcomCommon.ParcelProofs
import QcomCommon.SortedMapProofs

/-! # The vendor tags of the camera

    `VendorTagDescriptor` of `libshims` holds the tags that a camera HAL
    defines: of each a name, a type and a section, with a map back from
    section and name.  It is made of the operations of the HAL
    (`createDescriptorFromOps`), or read from a parcel.

    Made of the operations it answers as they do of every tag, counts the
    different ones, and looks up the last tag of a section and name
    (`createDescriptorFromOps_answers`). -/

namespace QcomVendorTag

open QcomCodec QcomParcel QcomSortedMap

instance wordOrder : LinearOrder (BitVec 32) where
  le_refl := BitVec.le_refl
  le_trans _ _ _ := BitVec.le_trans
  le_antisymm _ _ := BitVec.le_antisymm
  le_total a b := Nat.le_total a.toNat b.toNat
  lt_iff_le_not_ge a b := by
    rw [BitVec.lt_def, BitVec.le_def, BitVec.le_def]
    omega
  toDecidableLE := inferInstance
  toDecidableLT := inferInstance
  toDecidableEq := inferInstance

/-- `uint32_t` and `int32_t`. -/
abbrev Word := BitVec 32

/-- The first tag that is a vendor's. -/
def CAMERA_METADATA_VENDOR_TAG_BOUNDARY : Nat := 0x80000000

/-- The number of types. -/
def NUM_TYPES : Int := 6

/-- The count without tags. -/
def VENDOR_TAG_COUNT_ERR : Word := -1

/-- The type of a tag that is not defined. -/
def VENDOR_TAG_TYPE_ERR : Word := -1

/-- `vendor_tag_ops_t`; `get_all_tags` gives each place of the array its
    tag, and `none` is `NULL`. -/
structure vendor_tag_ops_t where
  get_tag_count : Word
  get_all_tags : Nat → Word
  get_section_name : Word → Option String
  get_tag_name : Word → Option String
  get_tag_type : Word → Word

/-- A descriptor: the maps of its tags, both ways. -/
structure VendorTagDescriptor where
  mReverseMapping : SortedMap String (SortedMap String Word)
  mTagToNameMap : SortedMap Word String
  mTagToSectionMap : SortedMap Word Word
  mTagToTypeMap : SortedMap Word Word
  mSections : SortedMap String Unit
  mTagCount : Word

/-- `new VendorTagDescriptor()`. -/
def VendorTagDescriptor.new : VendorTagDescriptor where
  mReverseMapping := .empty
  mTagToNameMap := .empty
  mTagToSectionMap := .empty
  mTagToTypeMap := .empty
  mSections := .empty
  mTagCount := 0

/-- How a function ends that gives no value: with a status, in
    `LOG_ALWAYS_FATAL_IF`, or with a read behind the end of a vector. -/
inductive Fault where
  | status (res : status_t)
  | abort
  | undefined
  deriving DecidableEq

/-- `KeyedVector::valueFor`, which aborts where the key is missing. -/
def valueFor {K V : Type} [LinearOrder K] (m : SortedMap K V) (k : K) :
    Except Fault V :=
  (m.find k).elim (.error .abort) .ok

/-- `SortedVector::operator[]`. -/
def sectionAt (sections : SortedMap String Unit) (i : Word) :
    Except Fault String :=
  (sections.items[i.toNat]?).elim (.error .undefined) fun e => .ok e.1

/-- `SortedVector::indexOf`. -/
def indexOf (sections : SortedMap String Unit) (s : String) : Option Nat :=
  sections.items.findIdx? (·.1 = s)

/-- The tag goes into the map of its section, which is made when it is
    missing. -/
def addReverse (m : SortedMap String (SortedMap String Word))
    (sectionString name : String) (tag : Word) :
    SortedMap String (SortedMap String Word) :=
  m.add sectionString (((m.find sectionString).getD .empty).add name tag)

/-- The type is one of the types there are. -/
def typeExists (tagType : Word) : Bool :=
  0 ≤ tagType.toInt ∧ tagType.toInt < NUM_TYPES

/-! ## The descriptor of the operations -/

/-- What the first loop of `createDescriptorFromOps` works on. -/
structure FirstLoop where
  desc : VendorTagDescriptor
  sections : SortedMap String Unit
  tagToSectionMap : SortedMap Word String

/-- One pass of the first loop. -/
def collectTag (vOps : vendor_tag_ops_t) (s : FirstLoop) (tag : Word) :
    Except Fault FirstLoop :=
  if tag.toNat < CAMERA_METADATA_VENDOR_TAG_BOUNDARY then
    .error (.status BAD_VALUE)
  else
    match vOps.get_tag_name tag with
    | none => .error (.status BAD_VALUE)
    | some tagName =>
        match vOps.get_section_name tag with
        | none => .error (.status BAD_VALUE)
        | some sectionName =>
            let tagType := vOps.get_tag_type tag
            if ¬ typeExists tagType then .error (.status BAD_VALUE)
            else .ok
              { desc :=
                  { s.desc with
                    mTagToNameMap := s.desc.mTagToNameMap.add tag tagName
                    mTagToTypeMap := s.desc.mTagToTypeMap.add tag tagType }
                sections := s.sections.add sectionName ()
                tagToSectionMap := s.tagToSectionMap.add tag sectionName }

/-- One pass of the second loop. -/
def indexTag (sections : SortedMap String Unit)
    (tagToSectionMap : SortedMap Word String) (desc : VendorTagDescriptor)
    (tag : Word) : Except Fault VendorTagDescriptor := do
  let sectionString ← valueFor tagToSectionMap tag
  match indexOf sections sectionString with
  | none => .error .abort
  | some index =>
      let name ← valueFor desc.mTagToNameMap tag
      .ok
        { desc with
          mTagToSectionMap := desc.mTagToSectionMap.add tag (.ofNat 32 index)
          mReverseMapping :=
            addReverse desc.mReverseMapping sectionString name tag }

/-- `createDescriptorFromOps`; `room n` is whether there is memory for a
    vector of `n` elements. -/
def createDescriptorFromOps (room : Nat → Bool) :
    Option vendor_tag_ops_t → Except Fault VendorTagDescriptor
  | none => .error (.status BAD_VALUE)
  | some vOps =>
      let tagCount := vOps.get_tag_count
      if tagCount.toInt < 0 then .error (.status BAD_VALUE)
      else if ¬ room tagCount.toNat then .error .abort
      else do
        -- `get_all_tags` fills a vector of this size
        let tagArray := (List.range tagCount.toNat).map vOps.get_all_tags
        let s ← tagArray.foldlM (collectTag vOps)
          ⟨{ VendorTagDescriptor.new with mTagCount := tagCount },
            .empty, .empty⟩
        tagArray.foldlM (indexTag s.sections s.tagToSectionMap)
          { s.desc with mSections := s.sections }

/-! ## The questions -/

/-- `getTagCount`. -/
def getTagCount (d : VendorTagDescriptor) : Word :=
  let size := d.mTagToNameMap.items.length
  if size = 0 then VENDOR_TAG_COUNT_ERR else .ofNat 32 size

/-- `getTagArray`. -/
def getTagArray (d : VendorTagDescriptor) : List Word := d.mTagToNameMap.keys

/-- `getSectionName`. -/
def getSectionName (d : VendorTagDescriptor) (tag : Word) :
    Except Fault (Option String) :=
  match d.mTagToSectionMap.find tag with
  | none => .ok none
  | some index => (sectionAt d.mSections index).map some

/-- `getTagName`. -/
def getTagName (d : VendorTagDescriptor) (tag : Word) : Option String :=
  d.mTagToNameMap.find tag

/-- `getTagType`. -/
def getTagType (d : VendorTagDescriptor) (tag : Word) : Except Fault Word :=
  match d.mTagToNameMap.find tag with
  | none => .ok VENDOR_TAG_TYPE_ERR
  | some _ => valueFor d.mTagToTypeMap tag

/-- The tag of a section and a name. -/
def findTag (m : SortedMap String (SortedMap String Word))
    (sectionString name : String) : Option Word :=
  (m.find sectionString).bind (·.find name)

/-- `lookupTag`. -/
def lookupTag (d : VendorTagDescriptor) (name sectionString : String) :
    Except status_t Word :=
  match d.mReverseMapping.find sectionString with
  | none => .error BAD_VALUE
  | some names =>
      match names.find name with
      | none => .error BAD_VALUE
      | some tag => .ok tag

/-! ## Maps that are made of tags -/

@[simp] theorem find_empty {K V : Type} [LinearOrder K] (k : K) :
    (SortedMap.empty : SortedMap K V).find k = none := rfl

/-- **THE MAP BACK**, with one tag more. -/
theorem findTag_addReverse (m : SortedMap String (SortedMap String Word))
    (s n : String) (tag : Word) (s' n' : String) :
    findTag (addReverse m s n tag) s' n'
      = if s' = s ∧ n' = n then some tag else findTag m s' n' := by
  rw [findTag, findTag, addReverse, SortedMap.find_add]
  by_cases hs : s' = s
  · subst hs
    rw [if_pos rfl, Option.bind_some, SortedMap.find_add]
    by_cases hn : n' = n
    · rw [if_pos hn, if_pos ⟨rfl, hn⟩]
    · rw [if_neg hn, if_neg fun h => hn h.2]
      cases m.find s' <;> rfl
  · rw [if_neg hs, if_neg fun h => hs h.1]

/-- The map back of tags with a section and a name each. -/
def reverseOf (sectionOf nameOf : Word → String) (tags : List Word)
    (m : SortedMap String (SortedMap String Word)) :
    SortedMap String (SortedMap String Word) :=
  tags.foldl (fun m t => addReverse m (sectionOf t) (nameOf t) t) m

/-- It leads to the last tag of a section and a name. -/
theorem findTag_reverseOf (sectionOf nameOf : Word → String)
    (tags : List Word) (m : SortedMap String (SortedMap String Word))
    (s n : String) :
    findTag (reverseOf sectionOf nameOf tags m) s n
      = (tags.reverse.find? fun t => sectionOf t = s ∧ nameOf t = n).or
          (findTag m s n) := by
  induction tags generalizing m with
  | nil => rfl
  | cons t tags ih =>
      show findTag (reverseOf sectionOf nameOf tags _) s n = _
      rw [ih, findTag_addReverse, List.reverse_cons, List.find?_append,
        Option.or_assoc]
      congr 1
      by_cases h : sectionOf t = s ∧ nameOf t = n
      · have hhead : [t].find? (fun t => sectionOf t = s ∧ nameOf t = n)
            = some t := List.find?_cons_of_pos (decide_eq_true h)
        rw [if_pos ⟨h.1.symm, h.2.symm⟩, hhead, Option.some_or]
      · have hhead : [t].find? (fun t => sectionOf t = s ∧ nameOf t = n)
            = none := List.find?_cons_of_neg (by simpa using h)
        have hnot : ¬ (s = sectionOf t ∧ n = nameOf t) :=
          fun h' => h ⟨h'.1.symm, h'.2.symm⟩
        rw [if_neg hnot, hhead, Option.none_or]

/-- `lookupTag` asks the map back. -/
theorem lookupTag_eq (d : VendorTagDescriptor) (name s : String) :
    lookupTag d name s
      = (findTag d.mReverseMapping s name).elim (.error BAD_VALUE) .ok := by
  rw [lookupTag, findTag]
  cases d.mReverseMapping.find s with
  | none => rfl
  | some names => cases hname : names.find name <;> simp [hname]

/-- A section of the vector has an index, and is found there. -/
theorem indexOf_spec {sections : SortedMap String Unit} {s : String}
    (h : sections.find s = some ()) :
    ∃ i, indexOf sections s = some i ∧ i < sections.items.length
      ∧ sections.items[i]? = some (s, ()) := by
  have hmem : (s, ()) ∈ sections.items := SortedMap.find_eq_some_iff.mp h
  obtain ⟨i, hi⟩ : ∃ i, indexOf sections s = some i := by
    rw [indexOf]
    have hsome : (sections.items.findIdx? (·.1 = s)).isSome := by
      rw [List.findIdx?_isSome, List.any_eq_true]
      exact ⟨(s, ()), hmem, decide_eq_true rfl⟩
    exact Option.isSome_iff_exists.mp hsome
  obtain ⟨hlt, hs, -⟩ := List.findIdx?_eq_some_iff_getElem.mp hi
  refine ⟨i, hi, hlt, ?_⟩
  rw [List.getElem?_eq_getElem hlt]
  exact congrArg some (Prod.ext (of_decide_eq_true hs) rfl)

/-! ## What the operations make -/

section Operations

variable (vOps : vendor_tag_ops_t)

/-- The tags of the operations. -/
def tagsOf : List Word :=
  (List.range vOps.get_tag_count.toNat).map vOps.get_all_tags

/-- The name of a tag. -/
def nameOf (tag : Word) : String := (vOps.get_tag_name tag).getD ""

/-- The section of a tag. -/
def sectionOf (tag : Word) : String := (vOps.get_section_name tag).getD ""

/-- What `createDescriptorFromOps` asks of a tag. -/
def Accepted (tag : Word) : Prop :=
  CAMERA_METADATA_VENDOR_TAG_BOUNDARY ≤ tag.toNat
    ∧ vOps.get_tag_name tag ≠ none ∧ vOps.get_section_name tag ≠ none
    ∧ typeExists (vOps.get_tag_type tag) = true

instance (tag : Word) : Decidable (Accepted vOps tag) :=
  inferInstanceAs (Decidable (_ ∧ _))

/-- All tags are accepted. -/
def AllAccepted : Prop := ∀ t ∈ tagsOf vOps, Accepted vOps t

instance : Decidable (AllAccepted vOps) := List.decidableBAll _ (tagsOf vOps)

variable {vOps}

/-- A tag that is accepted has a name. -/
theorem Accepted.name {tag : Word} (h : Accepted vOps tag) :
    vOps.get_tag_name tag = some (nameOf vOps tag) :=
  (Option.some_get (Option.isSome_iff_ne_none.mpr h.2.1)).symm.trans
    (congrArg some (Option.get_eq_getD _))

/-- It has a section. -/
theorem Accepted.section_eq {tag : Word} (h : Accepted vOps tag) :
    vOps.get_section_name tag = some (sectionOf vOps tag) :=
  (Option.some_get (Option.isSome_iff_ne_none.mpr h.2.2.1)).symm.trans
    (congrArg some (Option.get_eq_getD _))

variable (vOps)

/-- What a pass of the first loop makes of a tag. -/
def collected (s : FirstLoop) (tag : Word) : FirstLoop where
  desc :=
    { s.desc with
      mTagToNameMap := s.desc.mTagToNameMap.add tag (nameOf vOps tag)
      mTagToTypeMap := s.desc.mTagToTypeMap.add tag (vOps.get_tag_type tag) }
  sections := s.sections.add (sectionOf vOps tag) ()
  tagToSectionMap := s.tagToSectionMap.add tag (sectionOf vOps tag)

/-- A pass of the first loop takes the tag, or fails. -/
theorem collectTag_eq (s : FirstLoop) (tag : Word) :
    collectTag vOps s tag
      = if Accepted vOps tag then .ok (collected vOps s tag)
        else .error (.status BAD_VALUE) := by
  unfold collectTag
  by_cases hlow : tag.toNat < CAMERA_METADATA_VENDOR_TAG_BOUNDARY
  · rw [if_pos hlow, if_neg fun h => Nat.not_le.mpr hlow h.1]
  · rw [if_neg hlow]
    cases hname : vOps.get_tag_name tag with
    | none => exact (if_neg fun h => h.2.1 hname).symm
    | some tagName =>
        cases hsection : vOps.get_section_name tag with
        | none => exact (if_neg fun h => h.2.2.1 hsection).symm
        | some sectionName =>
            by_cases htype : typeExists (vOps.get_tag_type tag) = true
            · have hacc : Accepted vOps tag :=
                ⟨Nat.not_lt.mp hlow, by rw [hname]; exact Option.some_ne_none _,
                  by rw [hsection]; exact Option.some_ne_none _, htype⟩
              have hn : nameOf vOps tag = tagName := by
                rw [nameOf, hname, Option.getD_some]
              have hs : sectionOf vOps tag = sectionName := by
                rw [sectionOf, hsection, Option.getD_some]
              rw [if_pos hacc, collected, hn, hs]
              exact if_neg (not_not_intro htype)
            · rw [if_neg fun h => htype h.2.2.2]
              exact if_pos htype

/-- The sections of tags. -/
def sectionsOf (tags : List Word) : SortedMap String Unit :=
  (tags.map (sectionOf vOps)).foldl (fun m s => m.add s ()) .empty

/-- The index of a tag's section. -/
def sectionIndex (tags : List Word) (tag : Word) : Word :=
  .ofNat 32 ((indexOf (sectionsOf vOps tags) (sectionOf vOps tag)).getD 0)

/-- The descriptor of the operations. -/
def descriptorOf : VendorTagDescriptor where
  mReverseMapping :=
    reverseOf (sectionOf vOps) (nameOf vOps) (tagsOf vOps) .empty
  mTagToNameMap :=
    (tagsOf vOps).foldl (fun m t => m.add t (nameOf vOps t)) .empty
  mTagToSectionMap :=
    (tagsOf vOps).foldl (fun m t => m.add t (sectionIndex vOps (tagsOf vOps) t))
      .empty
  mTagToTypeMap :=
    (tagsOf vOps).foldl (fun m t => m.add t (vOps.get_tag_type t)) .empty
  mSections := sectionsOf vOps (tagsOf vOps)
  mTagCount := vOps.get_tag_count

/-- All passes of the first loop. -/
theorem foldl_collected (tags : List Word) (s : FirstLoop) :
    tags.foldl (collected vOps) s =
      { desc :=
          { s.desc with
            mTagToNameMap := tags.foldl (fun m t => m.add t (nameOf vOps t))
              s.desc.mTagToNameMap
            mTagToTypeMap := tags.foldl (fun m t => m.add t (vOps.get_tag_type t))
              s.desc.mTagToTypeMap }
        sections := (tags.map (sectionOf vOps)).foldl (fun m s => m.add s ())
          s.sections
        tagToSectionMap := tags.foldl (fun m t => m.add t (sectionOf vOps t))
          s.tagToSectionMap } := by
  induction tags generalizing s with
  | nil => rfl
  | cons t tags ih =>
      rw [List.foldl_cons, ih]
      rfl

/-- The section of a tag is among the sections. -/
theorem sectionsOf_find {tags : List Word} {tag : Word} (h : tag ∈ tags) :
    (sectionsOf vOps tags).find (sectionOf vOps tag) = some () := by
  rw [sectionsOf, SortedMap.find_foldl_add_keys _ (fun _ => ())]
  exact if_pos (List.mem_map_of_mem h)

/-- What a pass of the second loop makes of a tag. -/
def indexed (tags : List Word) (desc : VendorTagDescriptor) (tag : Word) :
    VendorTagDescriptor :=
  { desc with
    mTagToSectionMap := desc.mTagToSectionMap.add tag (sectionIndex vOps tags tag)
    mReverseMapping := addReverse desc.mReverseMapping (sectionOf vOps tag)
      (nameOf vOps tag) tag }

/-- The second loop, map by map. -/
theorem foldl_indexed (tags all : List Word) (d : VendorTagDescriptor) :
    tags.foldl (indexed vOps all) d =
      { d with
        mTagToSectionMap :=
          tags.foldl (fun m t => m.add t (sectionIndex vOps all t))
            d.mTagToSectionMap
        mReverseMapping := reverseOf (sectionOf vOps) (nameOf vOps) tags
          d.mReverseMapping } := by
  induction tags generalizing d with
  | nil => rfl
  | cons t tags ih =>
      rw [List.foldl_cons, ih]
      rfl

/-- The second loop finds all that it looks for. -/
theorem indexTag_eq {tags : List Word} {d : VendorTagDescriptor} {tag : Word}
    (hname : d.mTagToNameMap.find tag = some (nameOf vOps tag))
    (htag : tag ∈ tags) :
    indexTag (sectionsOf vOps tags)
        (tags.foldl (fun m t => m.add t (sectionOf vOps t)) .empty) d tag
      = .ok (indexed vOps tags d tag) := by
  obtain ⟨i, hi, -, -⟩ := indexOf_spec (sectionsOf_find vOps htag)
  have hsection : valueFor
      (tags.foldl (fun m t => m.add t (sectionOf vOps t)) .empty) tag
        = .ok (sectionOf vOps tag) := by
    rw [valueFor, SortedMap.find_foldl_add_keys, if_pos htag]
    rfl
  have hval : valueFor d.mTagToNameMap tag = .ok (nameOf vOps tag) := by
    rw [valueFor, hname]
    rfl
  simp only [indexTag, bind, Except.bind, hsection, hi, hval, indexed,
    sectionIndex, Option.getD_some]

/-- **THE OPERATIONS** are taken if all tags are, and make the descriptor. -/
theorem createDescriptorFromOps_eq {room : Nat → Bool}
    (hroom : 0 ≤ vOps.get_tag_count.toInt →
      room vOps.get_tag_count.toNat = true) :
    createDescriptorFromOps room (some vOps)
      = if 0 ≤ vOps.get_tag_count.toInt ∧ AllAccepted vOps
        then .ok (descriptorOf vOps) else .error (.status BAD_VALUE) := by
  rw [createDescriptorFromOps]
  by_cases hcount : vOps.get_tag_count.toInt < 0
  · rw [if_pos hcount, if_neg fun h => Int.not_le.mpr hcount h.1]
  · rw [if_neg hcount, if_neg (not_not_intro (hroom (Int.not_lt.mp hcount)))]
    -- the first loop makes all checks, the second one finds what it needs
    have hfirst := foldlM_checked (I := fun _ => True) (l := tagsOf vOps)
      (fun _ _ _ => trivial)
      (fun s _ t _ => collectTag_eq vOps s t)
      (s := ⟨{ VendorTagDescriptor.new with mTagCount := vOps.get_tag_count },
        .empty, .empty⟩) trivial
    show ((tagsOf vOps).foldlM (collectTag vOps) _).bind _ = _
    rw [hfirst]
    by_cases hall : AllAccepted vOps
    · have hpassed : ∀ t ∈ tagsOf vOps, Accepted vOps t := hall
      rw [if_pos hpassed, if_pos ⟨Int.not_lt.mp hcount, hall⟩, foldl_collected]
      have hpass : ∀ d : VendorTagDescriptor,
          d.mTagToNameMap = (descriptorOf vOps).mTagToNameMap →
          ∀ t ∈ tagsOf vOps,
            indexTag (sectionsOf vOps (tagsOf vOps))
              ((tagsOf vOps).foldl (fun m t => m.add t (sectionOf vOps t))
                .empty) d t
            = if True then .ok (indexed vOps (tagsOf vOps) d t)
              else .error .abort := by
        intro d hd t ht
        rw [if_pos trivial]
        refine indexTag_eq vOps ?_ ht
        rw [hd, descriptorOf, SortedMap.find_foldl_add_keys, if_pos ht]
      have hsecond := foldlM_checked
        (I := fun d => d.mTagToNameMap = (descriptorOf vOps).mTagToNameMap)
        (f := indexed vOps (tagsOf vOps)) (fun d t h => h) hpass
        (s := { descriptorOf vOps with
          mReverseMapping := .empty, mTagToSectionMap := .empty }) rfl
      rw [if_pos fun _ _ => trivial, foldl_indexed] at hsecond
      exact hsecond
    · have hfailed : ¬ ∀ t ∈ tagsOf vOps, Accepted vOps t := hall
      rw [if_neg hfailed, if_neg fun h => hall h.2]
      rfl

end Operations

/-- A descriptor that answers as the operations do, with the last tag of a
    section and a name where several have them. -/
structure Answers (vOps : vendor_tag_ops_t) (d : VendorTagDescriptor) :
    Prop where
  tags : ∀ t, t ∈ getTagArray d ↔ t ∈ tagsOf vOps
  sorted : (getTagArray d).Pairwise (· < ·)
  short : (getTagArray d).length ≤ vOps.get_tag_count.toNat
  count : getTagCount d = if tagsOf vOps = [] then VENDOR_TAG_COUNT_ERR
    else .ofNat 32 (getTagArray d).length
  name : ∀ t, getTagName d t
    = if t ∈ tagsOf vOps then vOps.get_tag_name t else none
  type : ∀ t, getTagType d t
    = .ok (if t ∈ tagsOf vOps then vOps.get_tag_type t else VENDOR_TAG_TYPE_ERR)
  section_eq : ∀ t, getSectionName d t
    = .ok (if t ∈ tagsOf vOps then vOps.get_section_name t else none)
  lookup : ∀ n s, lookupTag d n s
    = ((tagsOf vOps).reverse.find? fun t =>
        vOps.get_section_name t = some s ∧ vOps.get_tag_name t = some n).elim
          (.error BAD_VALUE) .ok

section Operations

variable {vOps : vendor_tag_ops_t}

/-- The map of the names. -/
theorem mTagToNameMap_find (t : Word) :
    (descriptorOf vOps).mTagToNameMap.find t
      = if t ∈ tagsOf vOps then some (nameOf vOps t) else none :=
  SortedMap.find_foldl_add_keys _ _ _ t

/-- The map of the types. -/
theorem mTagToTypeMap_find (t : Word) :
    (descriptorOf vOps).mTagToTypeMap.find t
      = if t ∈ tagsOf vOps then some (vOps.get_tag_type t) else none :=
  SortedMap.find_foldl_add_keys _ _ _ t

/-- The map of the sections. -/
theorem mTagToSectionMap_find (t : Word) :
    (descriptorOf vOps).mTagToSectionMap.find t
      = if t ∈ tagsOf vOps then some (sectionIndex vOps (tagsOf vOps) t)
        else none :=
  SortedMap.find_foldl_add_keys _ _ _ t

theorem length_tagsOf (vOps : vendor_tag_ops_t) :
    (tagsOf vOps).length = vOps.get_tag_count.toNat := by
  rw [tagsOf, List.length_map, List.length_range]

/-- There are no more sections than tags. -/
theorem length_sectionsOf_le (vOps : vendor_tag_ops_t) (tags : List Word) :
    (sectionsOf vOps tags).items.length ≤ tags.length := by
  have h := SortedMap.length_foldl_add_le (fun s => s) (fun _ => ())
    (tags.map (sectionOf vOps)) .empty
  rw [List.length_map] at h
  exact h.trans (Nat.zero_add _).le

/-- The index of a tag's section is one. -/
theorem sectionIndex_spec {t : Word} (h : t ∈ tagsOf vOps) :
    (sectionsOf vOps (tagsOf vOps)).items[
        (sectionIndex vOps (tagsOf vOps) t).toNat]?
      = some (sectionOf vOps t, ()) := by
  obtain ⟨i, hi, hlt, hget⟩ := indexOf_spec (sectionsOf_find vOps h)
  have hlen := length_sectionsOf_le vOps (tagsOf vOps)
  have hcount : (tagsOf vOps).length < 2 ^ 32 := by
    rw [length_tagsOf]
    exact vOps.get_tag_count.isLt
  -- an index fits 32 bits, as there are no more sections than tags
  have hval : (sectionIndex vOps (tagsOf vOps) t).toNat = i := by
    rw [sectionIndex, hi, Option.getD_some, BitVec.toNat_ofNat]
    exact Nat.mod_eq_of_lt (by omega)
  rw [hval, hget]

/-- The index of a section is in range. -/
theorem sectionIndex_lt {t : Word} (h : t ∈ tagsOf vOps) :
    (sectionIndex vOps (tagsOf vOps) t).toNat
      < (sectionsOf vOps (tagsOf vOps)).items.length := by
  by_contra hge
  have hget := sectionIndex_spec h
  rw [List.getElem?_eq_none (Nat.not_lt.mp hge)] at hget
  cases hget

/-- The array has the tags of the operations. -/
theorem mem_getTagArray (t : Word) :
    t ∈ getTagArray (descriptorOf vOps) ↔ t ∈ tagsOf vOps := by
  rw [getTagArray, SortedMap.mem_keys, mTagToNameMap_find]
  by_cases h : t ∈ tagsOf vOps
  · simp [h]
  · simp [h]

/-- A descriptor of operations that are all accepted answers as they do. -/
theorem descriptorOf_answers (hall : AllAccepted vOps) :
    Answers vOps (descriptorOf vOps) where
  tags := mem_getTagArray
  sorted := SortedMap.keys_sorted _
  short := by
    rw [getTagArray, SortedMap.keys, List.length_map, ← length_tagsOf]
    exact (SortedMap.length_foldl_add_le (fun t => t) (nameOf vOps) _ .empty).trans
      (Nat.zero_add _).le
  count := by
    have hempty : getTagArray (descriptorOf vOps) = [] ↔ tagsOf vOps = [] := by
      rw [List.eq_nil_iff_forall_not_mem, List.eq_nil_iff_forall_not_mem]
      exact forall_congr' fun t => not_congr (mem_getTagArray t)
    rw [getTagCount, ← List.length_map (f := Prod.fst)]
    show (if (getTagArray (descriptorOf vOps)).length = 0 then _ else _) = _
    simp only [List.length_eq_zero_iff, hempty]
    rfl
  name t := by
    rw [getTagName, mTagToNameMap_find]
    by_cases h : t ∈ tagsOf vOps
    · rw [if_pos h, if_pos h, (hall t h).name]
    · rw [if_neg h, if_neg h]
  type t := by
    rw [getTagType, mTagToNameMap_find]
    by_cases h : t ∈ tagsOf vOps
    · rw [if_pos h, if_pos h]
      show valueFor _ t = _
      rw [valueFor, mTagToTypeMap_find, if_pos h]
      rfl
    · rw [if_neg h, if_neg h]
  section_eq t := by
    rw [getSectionName, mTagToSectionMap_find]
    by_cases h : t ∈ tagsOf vOps
    · rw [if_pos h, if_pos h, (hall t h).section_eq]
      show (sectionAt (sectionsOf vOps (tagsOf vOps)) _).map some = _
      rw [sectionAt, sectionIndex_spec h]
      rfl
    · rw [if_neg h, if_neg h]
  lookup n s := by
    have hsame : ∀ t ∈ (tagsOf vOps).reverse,
        decide (sectionOf vOps t = s ∧ nameOf vOps t = n)
          = decide (vOps.get_section_name t = some s
              ∧ vOps.get_tag_name t = some n) := by
      intro t ht
      have hacc := hall t (List.mem_reverse.mp ht)
      rw [hacc.name, hacc.section_eq]
      simp only [Option.some.injEq]
    -- the map back was filled in the order of the tags: the last one is found
    rw [lookupTag_eq, descriptorOf, findTag_reverseOf, List.find?_congr hsame]
    cases List.find? _ _ <;> rfl

end Operations

/-- A descriptor that was made is that of the operations. -/
theorem createDescriptorFromOps_ok {room : Nat → Bool}
    {vOps : vendor_tag_ops_t} {d : VendorTagDescriptor}
    (h : createDescriptorFromOps room (some vOps) = .ok d) :
    0 ≤ vOps.get_tag_count.toInt ∧ AllAccepted vOps
      ∧ descriptorOf vOps = d := by
  by_cases hroom : room vOps.get_tag_count.toNat = true
  · rw [createDescriptorFromOps_eq vOps fun _ => hroom] at h
    split at h
    · next hall => exact ⟨hall.1, hall.2, Except.ok.inj h⟩
    · cases h
  · rw [createDescriptorFromOps] at h
    split at h <;> cases h

/-- **A SNAPSHOT OF THE OPERATIONS**: there is a descriptor if and only if all
    tags are accepted, and it answers as the operations do, but counts a tag
    once. -/
theorem createDescriptorFromOps_answers (room : Nat → Bool)
    (vOps : vendor_tag_ops_t) (hroom : 0 ≤ vOps.get_tag_count.toInt →
      room vOps.get_tag_count.toNat = true) :
    if 0 ≤ vOps.get_tag_count.toInt ∧ AllAccepted vOps then
      ∃ d, createDescriptorFromOps room (some vOps) = .ok d ∧ Answers vOps d
    else createDescriptorFromOps room (some vOps)
      = .error (.status BAD_VALUE) := by
  rw [createDescriptorFromOps_eq vOps hroom]
  by_cases h : 0 ≤ vOps.get_tag_count.toInt
      ∧ AllAccepted vOps
  · rw [if_pos h, if_pos h]
    exact ⟨_, rfl, descriptorOf_answers h.2⟩
  · rw [if_neg h, if_neg h]

/-- A HAL with two tags in two sections. -/
def hal : vendor_tag_ops_t where
  get_tag_count := 2
  get_all_tags i := if i = 0 then 0x80010000 else 0x80000000
  get_section_name t :=
    some (if t = 0x80010000 then "qcom.a" else "qcom.b")
  get_tag_name t := some (if t = 0x80010000 then "gain" else "mode")
  get_tag_type _ := 1

theorem createDescriptorFromOps_answers_hal :
    ∃ d, createDescriptorFromOps (fun _ => true) (some hal) = .ok d
      ∧ Answers hal d := by
  have h := createDescriptorFromOps_answers (fun _ => true) hal
    fun _ => rfl
  rwa [if_pos (by decide)] at h

theorem createDescriptorFromOps_hal :
    createDescriptorFromOps (fun _ => true) (some hal)
      = .ok (descriptorOf hal) := by
  rw [createDescriptorFromOps_eq hal fun _ => rfl, if_pos (by decide)]

end QcomVendorTag
