import QcomCommon.VendorTagParcelProofs

/-! # The vendor tags through a parcel

    The words that `writeToParcel` leaves for a descriptor of the operations,
    and what `createFromParcel` makes of them: the descriptor comes back with
    all its answers, unless a name is empty or a tag was defined twice; only
    the map back is made again, in the order of the tags
    (`createFromParcel_writeToParcel`). -/

namespace QcomVendorTag

open QcomCodec QcomParcel QcomSortedMap

variable {W : Type}

/-! ## The words -/

/-- The entry of a tag. -/
def entryOfItem (d : VendorTagDescriptor) (e : Word × String) : TagEntry where
  tag := e.1
  tagType := (d.mTagToTypeMap.find e.1).getD 0
  tagName := e.2
  sectionIndex := (d.mTagToSectionMap.find e.1).getD 0

/-- What is written of a tag. -/
def entryWords (P : Parcel W) (e : TagEntry) : List W :=
  P.int32.write e.tag ++ (P.int32.write e.tagType
    ++ (P.string8.write e.tagName ++ P.int32.write e.sectionIndex))

/-- The entries, in the order of the tags. -/
def entriesOf (d : VendorTagDescriptor) : List TagEntry :=
  d.mTagToNameMap.items.map (entryOfItem d)

/-- The words of the sections, if there are any. -/
def sectionWords (P : Parcel W) (sections : SortedMap String Unit) : List W :=
  if 0 < sections.items.length then
    P.int32.write (.ofNat 32 sections.items.length)
      ++ sections.keys.flatMap P.string8.write
  else []

/-- What is written of a descriptor. -/
def layout (P : Parcel W) (d : VendorTagDescriptor) : List W :=
  P.int32.write d.mTagCount
    ++ ((entriesOf d).flatMap (entryWords P) ++ sectionWords P d.mSections)

/-- Every write has the memory it needs. -/
structure Roomy (P : Parcel W) : Prop where
  int32 : ∀ p x, (P.writeInt32 p x).1 = OK
  string8 : ∀ p s, (P.writeString8 p s).1 = OK

section Writing

variable {P : Parcel W} (hP : Roomy P)

include hP

theorem Roomy.writeInt32 (p : List W) (x : Word) :
    P.writeInt32 p x = (OK, p ++ P.int32.write x) :=
  Prod.ext (hP.int32 p x) (P.writeInt32_ok p x (hP.int32 p x))

theorem Roomy.writeString8 (p : List W) (s : String) :
    P.writeString8 p s = (OK, p ++ P.string8.write s) :=
  Prod.ext (hP.string8 p s) (P.writeString8_ok p s (hP.string8 p s))

theorem Roomy.writeTag (e : TagEntry) (p : List W) :
    writeTag P e.tag e.tagType e.tagName e.sectionIndex p
      = (OK, p ++ entryWords P e) := by
  simp only [QcomVendorTag.writeTag, andThen, hP.writeInt32, hP.writeString8,
    entryWords, List.append_assoc, ne_eq, not_true_eq_false, if_false]

theorem Roomy.writeTags {d : VendorTagDescriptor} {l : List (Word × String)}
    (h : ∀ e ∈ l, d.mTagToSectionMap.find e.1 ≠ none
      ∧ d.mTagToTypeMap.find e.1 ≠ none) (p : List W) :
    writeTags P d l p
      = .ok (OK, p ++ (l.map (entryOfItem d)).flatMap (entryWords P)) := by
  induction l generalizing p with
  | nil =>
      rw [List.map_nil, List.flatMap_nil, List.append_nil]
      rfl
  | cons e l ih =>
      obtain ⟨hsection, htype⟩ := h e List.mem_cons_self
      obtain ⟨index, hindex⟩ := Option.ne_none_iff_exists'.mp hsection
      obtain ⟨tagType, htype⟩ := Option.ne_none_iff_exists'.mp htype
      have hentry : entryOfItem d e = ⟨e.1, tagType, e.2, index⟩ := by
        rw [entryOfItem, hindex, htype]
        rfl
      have hwrite := hP.writeTag ⟨e.1, tagType, e.2, index⟩ p
      have htail := ih (fun e' he' => h e' (List.mem_cons_of_mem e he'))
        (p ++ entryWords P ⟨e.1, tagType, e.2, index⟩)
      have hi : valueFor d.mTagToSectionMap e.1 = .ok index := by
        rw [valueFor, hindex]
        rfl
      have ht : valueFor d.mTagToTypeMap e.1 = .ok tagType := by
        rw [valueFor, htype]
        rfl
      simp only [QcomVendorTag.writeTags, bind, Except.bind, hi, ht, hwrite,
        ne_eq, not_true_eq_false, if_false, htail, List.map_cons,
        List.flatMap_cons, hentry, List.append_assoc]

theorem Roomy.writeSections (l : List (String × Unit)) (p : List W) :
    writeSections P l p
      = (OK, p ++ (l.map Prod.fst).flatMap P.string8.write) := by
  induction l generalizing p with
  | nil =>
      rw [List.map_nil, List.flatMap_nil, List.append_nil]
      rfl
  | cons e l ih =>
      simp only [QcomVendorTag.writeSections, andThen, hP.writeString8, ih,
        ne_eq, not_true_eq_false, if_false, List.map_cons, List.flatMap_cons,
        List.append_assoc]

/-- **WRITING** leaves the words of the descriptor. -/
theorem Roomy.writeToParcel {d : VendorTagDescriptor}
    (h : ∀ e ∈ d.mTagToNameMap.items, d.mTagToSectionMap.find e.1 ≠ none
      ∧ d.mTagToTypeMap.find e.1 ≠ none) (p : List W) :
    writeToParcel P d (some p) = .ok (OK, p ++ layout P d) := by
  simp only [QcomVendorTag.writeToParcel, bind, Except.bind, hP.writeInt32,
    ne_eq, not_true_eq_false, if_false, hP.writeTags h, layout, sectionWords,
    List.append_assoc]
  by_cases hnum : 0 < d.mSections.items.length
  · rw [if_pos hnum, if_pos hnum]
    simp only [andThen, ne_eq, not_true_eq_false, if_false, hP.writeSections,
      List.append_assoc]
    rfl
  · rw [if_neg hnum, if_neg hnum, List.append_nil]
    rfl

end Writing

/-! ## Reading them back -/

theorem readInt32_append (P : Parcel W) (x : Word) (rest : List W) :
    readInt32 P (P.int32.write x ++ rest) = .ok (x, rest) := by
  rw [readInt32, P.read_int32]
  rfl

theorem readString8_append (P : Parcel W) {s : String} (h : P.string8.Fits s)
    (rest : List W) :
    readString8 P (P.string8.write s ++ rest) = .ok (s, rest) :=
  congrArg Except.ok (P.readString8_append h rest)

/-- An entry comes back, if its name is not empty. -/
theorem readTag_entryWords {P : Parcel W} {e : TagEntry}
    (htag : CAMERA_METADATA_VENDOR_TAG_BOUNDARY ≤ e.tag.toNat)
    (htype : typeExists e.tagType = true) (hfits : P.string8.Fits e.tagName)
    (rest : List W) :
    readTag P (entryWords P e ++ rest)
      = if e.tagName ≠ "" then .ok (e, rest)
        else .error (.status NOT_ENOUGH_DATA) := by
  simp only [readTag, bind, StateT.bind, Except.bind, entryWords,
    List.append_assoc, readInt32_append, if_neg (Nat.not_lt.mpr htag), htype,
    not_true_eq_false, if_false, readString8_append P hfits]
  by_cases hname : e.tagName = ""
  · rw [if_pos hname, if_neg (not_not_intro hname)]
    rfl
  · rw [if_neg hname, if_pos hname]
    simp only [StateT.bind, bind, Except.bind, readInt32_append]
    rfl

/-- A word that is no vendor tag. -/
theorem readTag_low {P : Parcel W} {x : Word}
    (h : x.toNat < CAMERA_METADATA_VENDOR_TAG_BOUNDARY) (rest : List W) :
    readTag P (P.int32.write x ++ rest) = .error (.status BAD_VALUE) := by
  simp only [readTag, bind, StateT.bind, Except.bind, readInt32_append,
    if_pos h]
  rfl

theorem readSection_append {P : Parcel W} {s : String}
    (h : P.string8.Fits s) (rest : List W) :
    readSection P (P.string8.write s ++ rest)
      = if s ≠ "" then .ok (s, rest)
        else .error (.status NOT_ENOUGH_DATA) := by
  simp only [readSection, bind, StateT.bind, Except.bind,
    readString8_append P h]
  by_cases hs : s = ""
  · rw [if_pos hs, if_neg (not_not_intro hs)]
    rfl
  · rw [if_neg hs, if_pos hs]
    rfl

/-! ## The descriptor of the operations -/

section Operations

variable (vOps : vendor_tag_ops_t)

/-- A tag has an empty name. -/
def HasEmptyName : Prop := ∃ t ∈ tagsOf vOps, nameOf vOps t = ""

instance : Decidable (HasEmptyName vOps) := List.decidableBEx _ (tagsOf vOps)

/-- A tag has an empty section. -/
def HasEmptySection : Prop := ∃ t ∈ tagsOf vOps, sectionOf vOps t = ""

instance : Decidable (HasEmptySection vOps) :=
  List.decidableBEx _ (tagsOf vOps)

/-- A parcel takes the names and the sections. -/
def FitsAll (P : Parcel W) : Prop :=
  ∀ t ∈ tagsOf vOps, P.string8.Fits (nameOf vOps t)
    ∧ P.string8.Fits (sectionOf vOps t)

variable {vOps}

theorem mem_items {e : Word × String}
    (h : e ∈ (descriptorOf vOps).mTagToNameMap.items) :
    e.1 ∈ tagsOf vOps ∧ e.2 = nameOf vOps e.1 := by
  have hfind := SortedMap.find_eq_some_iff.mpr h
  rw [mTagToNameMap_find] at hfind
  by_cases ht : e.1 ∈ tagsOf vOps
  · rw [if_pos ht] at hfind
    exact ⟨ht, (Option.some.inj hfind).symm⟩
  · rw [if_neg ht] at hfind
    cases hfind

theorem entryOfItem_eq {e : Word × String}
    (h : e ∈ (descriptorOf vOps).mTagToNameMap.items) :
    entryOfItem (descriptorOf vOps) e
      = ⟨e.1, vOps.get_tag_type e.1, nameOf vOps e.1,
          sectionIndex vOps (tagsOf vOps) e.1⟩ := by
  obtain ⟨ht, hname⟩ := mem_items h
  rw [entryOfItem, mTagToTypeMap_find, mTagToSectionMap_find, if_pos ht,
    if_pos ht, hname]
  rfl

/-- The entries are those of the tags. -/
theorem mem_entriesOf {e : TagEntry} :
    e ∈ entriesOf (descriptorOf vOps) ↔ ∃ t ∈ tagsOf vOps,
      e = ⟨t, vOps.get_tag_type t, nameOf vOps t,
        sectionIndex vOps (tagsOf vOps) t⟩ := by
  rw [entriesOf, List.mem_map]
  constructor
  · rintro ⟨i, hi, rfl⟩
    exact ⟨i.1, (mem_items hi).1, entryOfItem_eq hi⟩
  · rintro ⟨t, ht, rfl⟩
    have hmem : (t, nameOf vOps t)
        ∈ (descriptorOf vOps).mTagToNameMap.items := by
      rw [← SortedMap.find_eq_some_iff, mTagToNameMap_find, if_pos ht]
    exact ⟨_, hmem, entryOfItem_eq hmem⟩

theorem length_entriesOf (vOps : vendor_tag_ops_t) :
    (entriesOf (descriptorOf vOps)).length
    = (tagsOf vOps).dedup.length := by
  have h := SortedMap.length_foldl_add (fun t => t) (nameOf vOps) (tagsOf vOps)
  rw [List.map_id'] at h
  rw [entriesOf, List.length_map]
  exact h

theorem mem_sections {s : String} :
    s ∈ (sectionsOf vOps (tagsOf vOps)).keys
      ↔ ∃ t ∈ tagsOf vOps, sectionOf vOps t = s := by
  rw [SortedMap.mem_keys, sectionsOf,
    SortedMap.find_foldl_add_keys _ (fun _ => ())]
  by_cases h : s ∈ (tagsOf vOps).map (sectionOf vOps)
  · rw [if_pos h]
    exact ⟨fun _ => List.mem_map.mp h, fun _ => Option.some_ne_none _⟩
  · rw [if_neg h]
    exact ⟨fun hne => absurd rfl hne, fun hex => absurd (List.mem_map.mpr hex) h⟩

/-- The check of the section count is passed. -/
theorem maxIndex_entriesOf (hne : tagsOf vOps ≠ []) :
    (maxIndex (entriesOf (descriptorOf vOps)) 0).toNat
      < (sectionsOf vOps (tagsOf vOps)).items.length := by
  rcases maxIndex_mem (entriesOf (descriptorOf vOps)) 0 with h0 | ⟨e, he, heq⟩
  · obtain ⟨t, ht⟩ := List.exists_mem_of_ne_nil _ hne
    rw [h0]
    exact Nat.lt_of_le_of_lt (Nat.zero_le _) (sectionIndex_lt ht)
  · obtain ⟨t, ht, rfl⟩ := mem_entriesOf.mp he
    rw [heq]
    exact sectionIndex_lt ht

end Operations

theorem reverseOf_congr {s s' n n' : Word → String} {tags : List Word}
    (h : ∀ t ∈ tags, s t = s' t ∧ n t = n' t)
    (m : SortedMap String (SortedMap String Word)) :
    reverseOf s n tags m = reverseOf s' n' tags m := by
  induction tags generalizing m with
  | nil => rfl
  | cons t tags ih =>
      obtain ⟨⟨hs, hn⟩, htail⟩ := List.forall_mem_cons.mp h
      show reverseOf s n tags (addReverse m (s t) (n t) t)
        = reverseOf s' n' tags (addReverse m (s' t) (n' t) t)
      rw [hs, hn, ih htail]

/-- The descriptor with its map back made in the order of the tags. -/
def reindexed (vOps : vendor_tag_ops_t) (d : VendorTagDescriptor) :
    VendorTagDescriptor :=
  { d with
    mReverseMapping :=
      reverseOf (sectionOf vOps) (nameOf vOps) (getTagArray d) .empty }

/-- What is read of the words of a descriptor. -/
def contentsOf (vOps : vendor_tag_ops_t) : Contents where
  tagCount := vOps.get_tag_count
  entries := entriesOf (descriptorOf vOps)
  names := (sectionsOf vOps (tagsOf vOps)).keys

theorem contentsOf_tags (vOps : vendor_tag_ops_t) :
    (contentsOf vOps).tags = getTagArray (descriptorOf vOps) := by
  show ((descriptorOf vOps).mTagToNameMap.items.map _).map _ = _
  rw [List.map_map]
  rfl

/-- The entry of a tag is found. -/
theorem entryOf_contentsOf {vOps : vendor_tag_ops_t} {t : Word} :
    (contentsOf vOps).entryOf t
      = if t ∈ tagsOf vOps then
          some ⟨t, vOps.get_tag_type t, nameOf vOps t,
            sectionIndex vOps (tagsOf vOps) t⟩
        else none := by
  cases he : (contentsOf vOps).entryOf t with
  | none =>
      rw [if_neg]
      intro ht
      have hmem : (⟨t, vOps.get_tag_type t, nameOf vOps t,
          sectionIndex vOps (tagsOf vOps) t⟩ : TagEntry)
            ∈ (contentsOf vOps).entries := mem_entriesOf.mpr ⟨t, ht, rfl⟩
      obtain ⟨e, he'⟩ := (contentsOf vOps).entryOf_of_mem
        (List.mem_map_of_mem (f := TagEntry.tag) hmem)
      rw [he] at he'
      cases he'
  | some e =>
      obtain ⟨hmem, htag⟩ := (contentsOf vOps).mem_of_entryOf he
      obtain ⟨t', ht', rfl⟩ := mem_entriesOf.mp hmem
      obtain rfl : t' = t := htag
      rw [if_pos ht']

theorem contentsOf_sections (vOps : vendor_tag_ops_t) :
    (contentsOf vOps).sections = sectionsOf vOps (tagsOf vOps) := by
  have h := SortedMap.foldl_add_items (sectionsOf vOps (tagsOf vOps))
  rw [Contents.sections, contentsOf, SortedMap.keys, List.foldl_map]
  exact h

/-- **WHAT COMES BACK** has all maps of the descriptor. -/
theorem contentsOf_descriptor (vOps : vendor_tag_ops_t) :
    (contentsOf vOps).descriptor = reindexed vOps (descriptorOf vOps) := by
  have hnames : (contentsOf vOps).base.mTagToNameMap
      = (descriptorOf vOps).mTagToNameMap := by
    refine SortedMap.eq_of_find fun t => ?_
    rw [Contents.find_names, entryOf_contentsOf, mTagToNameMap_find]
    split <;> rfl
  have hindices : (contentsOf vOps).base.mTagToSectionMap
      = (descriptorOf vOps).mTagToSectionMap := by
    refine SortedMap.eq_of_find fun t => ?_
    rw [Contents.find_sections, entryOf_contentsOf, mTagToSectionMap_find]
    split <;> rfl
  have htypes : (contentsOf vOps).base.mTagToTypeMap
      = (descriptorOf vOps).mTagToTypeMap := by
    refine SortedMap.eq_of_find fun t => ?_
    rw [Contents.find_types, entryOf_contentsOf, mTagToTypeMap_find]
    split <;> rfl
  have hreverse : reverseOf (contentsOf vOps).sectionName
      (contentsOf vOps).tagName (contentsOf vOps).tags .empty
        = reverseOf (sectionOf vOps) (nameOf vOps)
            (getTagArray (descriptorOf vOps)) .empty := by
    rw [contentsOf_tags]
    refine reverseOf_congr (fun t ht => ?_) _
    have hmem : t ∈ tagsOf vOps := (mem_getTagArray t).mp ht
    have hspec := sectionIndex_spec hmem
    rw [Contents.sectionName, Contents.tagName, entryOf_contentsOf,
      if_pos hmem, contentsOf_sections]
    refine ⟨?_, rfl⟩
    show ((sectionsOf vOps (tagsOf vOps)).items[_]?).elim "" Prod.fst = _
    rw [hspec]
    rfl
  rw [Contents.descriptor, reindexed, hreverse]
  show VendorTagDescriptor.mk _ (contentsOf vOps).base.mTagToNameMap
    (contentsOf vOps).base.mTagToSectionMap
    (contentsOf vOps).base.mTagToTypeMap (contentsOf vOps).sections _ = _
  rw [hnames, hindices, htypes, contentsOf_sections]
  rfl

/-! ## The round trip -/

section Trip

variable {P : Parcel W} {vOps : vendor_tag_ops_t}

/-- There are sections where there are tags. -/
theorem sections_pos (h : tagsOf vOps ≠ []) :
    0 < (sectionsOf vOps (tagsOf vOps)).items.length :=
  Nat.lt_of_le_of_lt (Nat.zero_le _) (maxIndex_entriesOf h)

/-- There are fewer sections than a vendor tag is large. -/
theorem sections_low (hcount : 0 ≤ vOps.get_tag_count.toInt) :
    (BitVec.ofNat 32 (sectionsOf vOps (tagsOf vOps)).items.length).toNat
        = (sectionsOf vOps (tagsOf vOps)).items.length
      ∧ (sectionsOf vOps (tagsOf vOps)).items.length
        < CAMERA_METADATA_VENDOR_TAG_BOUNDARY := by
  have hle := length_sectionsOf_le vOps (tagsOf vOps)
  rw [length_tagsOf] at hle
  have hsign := BitVec.toInt_eq_toNat_cond vOps.get_tag_count
  have hbound : CAMERA_METADATA_VENDOR_TAG_BOUNDARY = 2 ^ 31 := by decide
  have hlt : vOps.get_tag_count.toNat < 2 ^ 31 := by
    have := vOps.get_tag_count.isLt
    split at hsign <;> omega
  rw [BitVec.toNat_ofNat, hbound]
  exact ⟨Nat.mod_eq_of_lt (by omega), by omega⟩

/-- The entries are read, if no name is empty and no tag is there twice. -/
theorem readN_entries (hall : AllAccepted vOps)
    (hcount : 0 ≤ vOps.get_tag_count.toInt) (hfits : FitsAll vOps P)
    (rest : List W) :
    readN (readTag P) vOps.get_tag_count.toNat
        ((entriesOf (descriptorOf vOps)).flatMap (entryWords P)
          ++ (sectionWords P (sectionsOf vOps (tagsOf vOps)) ++ rest))
      = if HasEmptyName vOps then .error (.status NOT_ENOUGH_DATA)
        else if ¬ (tagsOf vOps).Nodup then .error (.status BAD_VALUE)
        else .ok (entriesOf (descriptorOf vOps),
          sectionWords P (sectionsOf vOps (tagsOf vOps)) ++ rest) := by
  have hread : ∀ e ∈ entriesOf (descriptorOf vOps), ∀ rest,
      readTag P (entryWords P e ++ rest)
        = if e.tagName ≠ "" then .ok (e, rest)
          else .error (.status NOT_ENOUGH_DATA) := by
    intro e he rest
    obtain ⟨t, ht, rfl⟩ := mem_entriesOf.mp he
    exact readTag_entryWords (hall t ht).1 (hall t ht).2.2.2 (hfits t ht).1 rest
  have hnames : (∀ e ∈ entriesOf (descriptorOf vOps), e.tagName ≠ "")
      ↔ ¬ HasEmptyName vOps := by
    constructor
    · rintro h ⟨t, ht, hempty⟩
      exact h _ (mem_entriesOf.mpr ⟨t, ht, rfl⟩) hempty
    · rintro h e he hempty
      obtain ⟨t, ht, rfl⟩ := mem_entriesOf.mp he
      exact h ⟨t, ht, hempty⟩
  have hlen := length_entriesOf vOps
  have hle := (List.dedup_sublist (tagsOf vOps)).length_le
  obtain ⟨k, hk⟩ := Nat.le.dest hle
  have htags := length_tagsOf vOps
  have hsplit : vOps.get_tag_count.toNat
      = (entriesOf (descriptorOf vOps)).length + k := by omega
  rw [hsplit, readN_checked hread]
  by_cases hempty : HasEmptyName vOps
  · rw [if_pos hempty, if_neg fun h => hnames.mp h hempty]
  · rw [if_neg hempty, if_pos (hnames.mpr hempty)]
    by_cases hnodup : (tagsOf vOps).Nodup
    · have hk0 : k = 0 := by
        rw [hnodup.dedup] at hk
        omega
      rw [if_neg (not_not_intro hnodup), hk0]
      show Except.ok (entriesOf (descriptorOf vOps) ++ [], _) = _
      rw [List.append_nil]
    · obtain ⟨j, rfl⟩ : ∃ j, k = j + 1 := by
        refine Nat.exists_eq_succ_of_ne_zero fun h0 => hnodup ?_
        have heq := (List.dedup_sublist (tagsOf vOps)).eq_of_length
          (by omega)
        exact List.dedup_eq_self.mp heq
      have hne : tagsOf vOps ≠ [] := fun h => hnodup (h ▸ List.nodup_nil)
      obtain ⟨hval, hlow⟩ := sections_low hcount
      -- fewer tags were written than the count says: the next word is the
      -- number of sections, which is too small for a vendor tag
      have hfail : readTag P (sectionWords P (sectionsOf vOps (tagsOf vOps))
          ++ rest) = .error (.status BAD_VALUE) := by
        rw [sectionWords, if_pos (sections_pos hne), List.append_assoc]
        exact readTag_low (hval.symm ▸ hlow) _
      rw [if_pos hnodup, readN_succ_error hfail]
      rfl

/-- The names of the sections are read, if none is empty. -/
theorem readNames_sections {room : Nat → Bool} (hroom : ∀ n, room n = true)
    (hcount : 0 ≤ vOps.get_tag_count.toInt) (hfits : FitsAll vOps P)
    (rest : List W) :
    readNames P room vOps.get_tag_count (entriesOf (descriptorOf vOps))
        (sectionWords P (sectionsOf vOps (tagsOf vOps)) ++ rest)
      = if HasEmptySection vOps then .error (.status NOT_ENOUGH_DATA)
        else .ok ((sectionsOf vOps (tagsOf vOps)).keys, rest) := by
  have htags := length_tagsOf vOps
  have hsign := BitVec.toInt_eq_toNat_cond vOps.get_tag_count
  by_cases hne : tagsOf vOps = []
  · have hzero : ¬ 0 < vOps.get_tag_count.toInt := by
      rw [hne, List.length_nil] at htags
      rw [← htags] at hsign
      omega
    have hsection : ¬ HasEmptySection vOps := by
      rintro ⟨t, ht, -⟩
      rw [hne] at ht
      cases ht
    have hnone : sectionsOf vOps (tagsOf vOps) = .empty := by
      rw [hne]
      rfl
    rw [readNames, if_neg hzero, if_neg hsection, hnone]
    rfl
  · have hpos : 0 < vOps.get_tag_count.toInt := by
      have hlen := List.length_pos_of_ne_nil hne
      split at hsign <;> omega
    obtain ⟨hval, hlow⟩ := sections_low hcount
    have hmax := maxIndex_entriesOf hne
    have hcheck : ¬ BitVec.ofNat 32
        (sectionsOf vOps (tagsOf vOps)).items.length
          < maxIndex (entriesOf (descriptorOf vOps)) 0 + 1 := by
      rw [BitVec.lt_def, hval, BitVec.toNat_add]
      show ¬ _ < (_ + 1) % 2 ^ 32
      have hbound : CAMERA_METADATA_VENDOR_TAG_BOUNDARY = 2 ^ 31 := by decide
      rw [Nat.mod_eq_of_lt (by omega)]
      omega
    have hread : ∀ s ∈ (sectionsOf vOps (tagsOf vOps)).keys, ∀ rest,
        readSection P (P.string8.write s ++ rest)
          = if s ≠ "" then .ok (s, rest)
            else .error (.status NOT_ENOUGH_DATA) := by
      intro s hs rest
      obtain ⟨t, ht, rfl⟩ := mem_sections.mp hs
      exact readSection_append (hfits t ht).2 rest
    have hnames : (∀ s ∈ (sectionsOf vOps (tagsOf vOps)).keys, s ≠ "")
        ↔ ¬ HasEmptySection vOps := by
      constructor
      · rintro h ⟨t, ht, hempty⟩
        exact h _ (mem_sections.mpr ⟨t, ht, rfl⟩) hempty
      · rintro h s hs hempty
        obtain ⟨t, ht, rfl⟩ := mem_sections.mp hs
        exact h ⟨t, ht, hempty⟩
    have hlist := readN_checked hread 0 rest
    have hkeys : (sectionsOf vOps (tagsOf vOps)).keys.length
        = (sectionsOf vOps (tagsOf vOps)).items.length := List.length_map ..
    rw [Nat.add_zero, hkeys] at hlist
    rw [readNames, if_pos hpos, sectionWords, if_pos (sections_pos hne),
      List.append_assoc]
    show (readInt32 P _).bind _ = _
    rw [readInt32_append]
    show (if _ then _ else _ : ReadParcel W (List String)) _ = _
    rw [if_neg hcheck, hval,
      if_neg (not_not_intro ⟨sections_pos hne, hroom _⟩), hlist]
    by_cases hempty : HasEmptySection vOps
    · rw [if_pos hempty, if_neg fun h => hnames.mp h hempty]
    · rw [if_neg hempty, if_pos (hnames.mpr hempty)]
      show Except.ok ((sectionsOf vOps (tagsOf vOps)).keys ++ [], rest) = _
      rw [List.append_nil]

theorem readContents_layout {room : Nat → Bool} (hroom : ∀ n, room n = true)
    (hall : AllAccepted vOps) (hcount : 0 ≤ vOps.get_tag_count.toInt)
    (hfits : FitsAll vOps P) (rest : List W) :
    readContents P room (layout P (descriptorOf vOps) ++ rest)
      = if HasEmptyName vOps then .error (.status NOT_ENOUGH_DATA)
        else if ¬ (tagsOf vOps).Nodup then .error (.status BAD_VALUE)
        else if HasEmptySection vOps then .error (.status NOT_ENOUGH_DATA)
        else .ok (contentsOf vOps, rest) := by
  have hentries := readN_entries hall hcount hfits rest
  have hsections : (descriptorOf vOps).mSections
      = sectionsOf vOps (tagsOf vOps) := rfl
  rw [layout, hsections, List.append_assoc, List.append_assoc]
  show (readInt32 P _).bind _ = _
  rw [readInt32_append]
  show (if _ then _ else _ : ReadParcel W Contents) _ = _
  have hnonneg : ¬ (descriptorOf vOps).mTagCount.toInt < 0 :=
    Int.not_lt.mpr hcount
  rw [if_neg hnonneg]
  show (readN (readTag P) vOps.get_tag_count.toNat _).bind _ = _
  rw [hentries]
  by_cases hempty : HasEmptyName vOps
  · rw [if_pos hempty, if_pos hempty]
    rfl
  · rw [if_neg hempty, if_neg hempty]
    by_cases hnodup : (tagsOf vOps).Nodup
    · rw [if_neg (not_not_intro hnodup), if_neg (not_not_intro hnodup)]
      show (readNames P room vOps.get_tag_count _ _).bind _ = _
      rw [readNames_sections hroom hcount hfits]
      by_cases hsection : HasEmptySection vOps
      · rw [if_pos hsection, if_pos hsection]
        rfl
      · rw [if_neg hsection, if_neg hsection]
        rfl
    · rw [if_pos hnodup, if_pos hnodup]
      rfl

/-- What is read of a descriptor has all its sections. -/
theorem contentsOf_sound : (contentsOf vOps).Sound := by
  refine (contentsOf vOps).sound_iff.mpr fun t e he => ?_
  rw [entryOf_contentsOf] at he
  have hlen := (contentsOf vOps).length_sections
  rw [contentsOf_sections] at hlen
  split at he
  · next ht =>
      cases he
      rw [← hlen]
      exact sectionIndex_lt ht
  · cases he

end Trip

/-- What is written of a descriptor of the operations. -/
theorem writeToParcel_descriptorOf {P : Parcel W} (hP : Roomy P)
    (vOps : vendor_tag_ops_t) (p : List W) :
    writeToParcel P (descriptorOf vOps) (some p)
      = .ok (OK, p ++ layout P (descriptorOf vOps)) := by
  refine hP.writeToParcel (fun e he => ?_) p
  obtain ⟨ht, -⟩ := mem_items he
  rw [mTagToSectionMap_find, mTagToTypeMap_find, if_pos ht, if_pos ht]
  exact ⟨Option.some_ne_none _, Option.some_ne_none _⟩

/-- And what is read of that: a name that is empty is found before a tag that
    was defined twice, and that before a section that is empty. -/
theorem createFromParcel_layout {P : Parcel W} {room' : Nat → Bool}
    (hroom : ∀ n, room' n = true) {vOps : vendor_tag_ops_t}
    (hcount : 0 ≤ vOps.get_tag_count.toInt) (hall : AllAccepted vOps)
    (hfits : FitsAll vOps P) (rest : List W) :
    createFromParcel P room' (some (layout P (descriptorOf vOps) ++ rest))
      = if HasEmptyName vOps then .error (.status NOT_ENOUGH_DATA)
        else if ¬ (tagsOf vOps).Nodup then .error (.status BAD_VALUE)
        else if HasEmptySection vOps then .error (.status NOT_ENOUGH_DATA)
        else .ok (reindexed vOps (descriptorOf vOps), rest) := by
  rw [createFromParcel_eq, readContents_layout hroom hall hcount hfits]
  by_cases hempty : HasEmptyName vOps
  · rw [if_pos hempty, if_pos hempty]
    rfl
  · rw [if_neg hempty, if_neg hempty]
    by_cases hnodup : (tagsOf vOps).Nodup
    · rw [if_neg (not_not_intro hnodup), if_neg (not_not_intro hnodup)]
      by_cases hsection : HasEmptySection vOps
      · rw [if_pos hsection, if_pos hsection]
        rfl
      · rw [if_neg hsection, if_neg hsection]
        show (if _ then _ else _) = _
        rw [if_pos contentsOf_sound, contentsOf_descriptor]
    · rw [if_pos hnodup, if_pos hnodup]
      rfl

/-- **THE ROUND TRIP**: a descriptor of the operations that was written is read
    with all its maps, the map back made anew in the order of the tags; but
    not where a name or a section is empty or a tag was defined twice. -/
theorem createFromParcel_writeToParcel {P : Parcel W} (hP : Roomy P)
    {room room' : Nat → Bool} (hroom : ∀ n, room' n = true)
    {vOps : vendor_tag_ops_t} {d : VendorTagDescriptor}
    (hd : createDescriptorFromOps room (some vOps) = .ok d)
    (hfits : FitsAll vOps P) (p rest : List W) :
    ∃ words, writeToParcel P d (some p) = .ok (OK, p ++ words)
      ∧ createFromParcel P room' (some (words ++ rest))
        = if HasEmptyName vOps then .error (.status NOT_ENOUGH_DATA)
          else if ¬ (tagsOf vOps).Nodup then .error (.status BAD_VALUE)
          else if HasEmptySection vOps then .error (.status NOT_ENOUGH_DATA)
          else .ok (reindexed vOps d, rest) := by
  obtain ⟨hcount, hall, rfl⟩ := createDescriptorFromOps_ok hd
  exact ⟨layout P (descriptorOf vOps), writeToParcel_descriptorOf hP vOps p,
    createFromParcel_layout hroom hcount hall hfits rest⟩

/-- A parcel that never runs out of memory. -/
theorem byteParcel_roomy : Roomy (byteParcel fun _ => true) where
  int32 p x := rfl
  string8 p s := by
    show (if OK = OK ∧ s ≠ "" then grow (fun _ => true) _ (stringBlock s)
      else (OK, _)).1 = OK
    split <;> rfl

theorem fitsAll_hal : FitsAll hal (byteParcel fun _ => true) := by
  intro t _
  constructor
  · show FitsParcel (if t = 0x80010000 then "gain" else "mode")
    split <;> decide
  · show FitsParcel (if t = 0x80010000 then "qcom.a" else "qcom.b")
    split <;> decide

theorem createFromParcel_writeToParcel_hal :
    ∃ words, writeToParcel (byteParcel fun _ => true) (descriptorOf hal)
        (some []) = .ok (OK, words)
      ∧ createFromParcel (byteParcel fun _ => true) (fun _ => true)
          (some (words ++ [7]))
        = .ok (reindexed hal (descriptorOf hal), [7]) := by
  obtain ⟨words, hwrite, hread⟩ := createFromParcel_writeToParcel
    byteParcel_roomy (fun _ => rfl) createDescriptorFromOps_hal fitsAll_hal
    [] [7]
  rw [if_neg (by decide), if_neg (by decide), if_neg (by decide)] at hread
  exact ⟨words, hwrite, hread⟩

end QcomVendorTag
