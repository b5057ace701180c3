import Mathlib.Algebra.Order.BigOperators.Group.List
import QcomCommon.NmeaPosProofs

/-! # The satellites used

    A satellite report keeps the satellites that were used as the bits of two
    masks, the reports that are not final leave these alone, and the final
    one lists them and clears them.  The first twelve of them are in the GSA
    sentences of the final report, and a second one lists none
    (`gsa_lists_used`). -/

namespace QcomNmea

open QcomCString QcomReturn QcomPrintf QcomSv

/-! ## Masks -/

/-- The satellites of a mask. -/
def idsOf (mask : BitVec 32) : List Nat :=
  ((List.range 32).filter (fun k => mask.getLsbD k)).map (· + 1)

theorem and_one_ne_zero (mask : BitVec 32) :
    mask &&& 1 ≠ 0 ↔ mask.getLsbD 0 = true := by
  have hone : ∀ k, (1#32).getLsbD k = decide (k = 0) := by
    intro k
    rw [BitVec.getLsbD_one]
    simp
  constructor
  · intro hne
    by_contra hbit
    refine hne (BitVec.zero_iff_eq_false.mpr (fun k => ?_))
    show (mask &&& 1#32).getLsbD k = false
    rw [BitVec.getLsbD_and, hone]
    by_cases hk : k = 0
    · rw [hk, Bool.eq_false_iff.mpr hbit]
      rfl
    · rw [decide_eq_false hk, Bool.and_false]
  · intro hbit hzero
    have hand := BitVec.zero_iff_eq_false.mp hzero 0
    have hand : (mask &&& 1#32).getLsbD 0 = false := hand
    rw [BitVec.getLsbD_and, hone, hbit] at hand
    cases hand

/-- **THE LOOP OVER A MASK** lists the bits of the passes that are left. -/
theorem usedLoop_eq (offset passes i : Nat) (mask : BitVec 32)
    (used : List Nat) (hmask : ∀ k, passes ≤ k → mask.getLsbD k = false)
    (hlen : used.length + passes ≤ 32) :
    usedLoop offset passes i mask used
      = used ++ ((List.range passes).filter (fun k => mask.getLsbD k)).map
          (fun k => k + i + offset) := by
  induction passes generalizing i mask used with
  | zero => exact (List.append_nil used).symm
  | succ passes ih =>
      rw [usedLoop]
      by_cases hmore : 0 < mask ∧ used.length < 32
      · have hshift : ∀ k, (mask >>> 1).getLsbD k = mask.getLsbD (k + 1) := by
          intro k
          rw [BitVec.getLsbD_ushiftRight, Nat.add_comm]
        rw [if_pos hmore, ih]
        · rw [List.range_succ_eq_map, List.filter_cons, List.filter_map]
          have htail : ((List.range passes).filter
              (fun k => (mask >>> 1).getLsbD k)).map
                (fun k => k + (i + 1) + offset)
              = (((List.range passes).filter
                ((fun k => mask.getLsbD k) ∘ Nat.succ)).map Nat.succ).map
                  (fun k => k + i + offset) := by
            rw [List.map_map]
            have hfilter : (fun k => (mask >>> 1).getLsbD k)
                = (fun k => mask.getLsbD k) ∘ Nat.succ := funext hshift
            rw [hfilter]
            refine List.map_congr_left (fun k _ => ?_)
            show k + (i + 1) + offset = k + 1 + i + offset
            omega
          rw [htail]
          by_cases hbit : mask.getLsbD 0 = true
          · rw [if_pos ((and_one_ne_zero mask).mpr hbit), if_pos hbit,
              List.append_assoc, List.map_cons, Nat.zero_add]
            rfl
          · rw [if_neg (fun h => hbit ((and_one_ne_zero mask).mp h)),
              if_neg hbit]
        · intro k hk
          rw [hshift]
          exact hmask (k + 1) (Nat.succ_le_succ hk)
        · split
          · rw [List.length_append, List.length_singleton]
            omega
          · omega
      · have hzero : mask = 0 := by
          by_contra hne
          refine hmore ⟨BitVec.lt_def.mpr (Nat.pos_of_ne_zero (fun h =>
            hne (BitVec.eq_of_toNat_eq h))), by omega⟩
        have hnone : (List.range (passes + 1)).filter
            (fun k => mask.getLsbD k) = [] := by
          refine List.filter_eq_nil_iff.mpr (fun k _ => ?_)
          rw [hzero]
          simp
        rw [if_neg hmore, hnone]
        exact (List.append_nil used).symm

/-- The loop lists the ids of the mask, with the offset. -/
theorem usedList_eq (offset : Nat) (mask : BitVec 32) :
    usedList offset mask = (idsOf mask).map (· + offset) := by
  rw [usedList, usedLoop_eq offset 32 1 mask []
    (fun k hk => BitVec.getLsbD_of_ge mask k hk) (Nat.le_refl 32),
    List.nil_append, idsOf, List.map_map]
  rfl

/-- An id stands for the bit below it. -/
theorem mem_idsOf {mask : BitVec 32} {id : Nat} :
    id ∈ idsOf mask ↔ 0 < id ∧ mask.getLsbD (id - 1) = true := by
  rw [idsOf, List.mem_map]
  constructor
  · rintro ⟨k, hk, rfl⟩
    exact ⟨Nat.succ_pos k, (List.mem_filter.mp hk).2⟩
  · rintro ⟨hpos, hbit⟩
    refine ⟨id - 1, List.mem_filter.mpr ⟨?_, hbit⟩, by omega⟩
    exact List.mem_range.mpr (BitVec.lt_of_getLsbD hbit)

theorem idsOf_zero : idsOf 0 = [] := by
  refine List.eq_nil_iff_forall_not_mem.mpr (fun id hid => ?_)
  have hbit := (mem_idsOf.mp hid).2
  simp at hbit

/-- The ids come in ascending order. -/
theorem pairwise_idsOf (mask : BitVec 32) : (idsOf mask).Pairwise (· < ·) := by
  rw [idsOf, List.pairwise_map]
  refine (List.pairwise_lt_range.filter _).imp ?_
  intro a b hab
  exact Nat.succ_lt_succ hab

section Used

variable {Double : Type} {flag : UInt8}

/-- The numbers of the satellites of a constellation that a report says were
    used, ascending and each once. -/
structure UsedIds (flag : UInt8) (type : GnssConstellationType)
    (svs : List (GnssSvInfo Double)) (ids : List Nat) : Prop where
  ascending : ids.Pairwise (· < ·)
  mem : ∀ id, id ∈ ids ↔ ∃ sv ∈ svs, sv.constellation = type ∧
    isUsedInFix flag sv = true ∧ sv.svid.toInt = id

/-- The bits of a mask behind a report: those before, and those of the
    satellites that were used. -/
theorem getLsbD_cacheUsed (svs : List (GnssSvInfo Double))
    (mask : BitVec 32) (k : Nat) :
    (svs.foldl (cacheUsed flag) mask).getLsbD k = true ↔
      mask.getLsbD k = true ∨ ∃ sv ∈ svs, isUsedInFix flag sv = true ∧
        k = ((sv.svid.toInt - 1) % 32).toNat := by
  induction svs generalizing mask with
  | nil => simp
  | cons sv svs ih =>
      have hone : (cacheUsed flag mask sv).getLsbD k = true ↔
          mask.getLsbD k = true ∨ (isUsedInFix flag sv = true ∧
            k = ((sv.svid.toInt - 1) % 32).toNat) := by
        rw [cacheUsed]
        by_cases hused : isUsedInFix flag sv = true
        · rw [if_pos hused, BitVec.getLsbD_or, Bool.or_eq_true, getLsbD_oneShl,
            decide_eq_true_eq]
          simp [hused]
        · rw [if_neg hused]
          simp [hused]
      rw [List.foldl_cons, ih, hone, or_assoc, List.exists_mem_cons_iff]

/-- **THE MASK** of a report has the satellites that were used. -/
theorem usedIds_mask {type : GnssConstellationType}
    {svs : List (GnssSvInfo Double)}
    (hsvid : ∀ sv ∈ svs, sv.constellation = type →
      1 ≤ sv.svid.toInt ∧ sv.svid.toInt ≤ 32) :
    UsedIds flag type svs
      (idsOf ((entriesOf type svs).foldl (cacheUsed flag) 0)) := by
  refine ⟨pairwise_idsOf _, fun id => ?_⟩
  rw [mem_idsOf, getLsbD_cacheUsed]
  constructor
  · rintro ⟨hpos, hzero | ⟨sv, hsv, hused, hid⟩⟩
    · simp at hzero
    · obtain ⟨hmem, htype⟩ := List.mem_filter.mp hsv
      have htype := of_decide_eq_true htype
      have hrange := hsvid sv hmem htype
      exact ⟨sv, hmem, htype, hused, by omega⟩
  · rintro ⟨sv, hmem, htype, hused, hid⟩
    have hrange := hsvid sv hmem htype
    refine ⟨by omega, Or.inr ⟨sv, ?_, hused, by omega⟩⟩
    exact List.mem_filter.mpr ⟨hmem, decide_eq_true htype⟩

end Used

/-! ## What a satellite report leaves -/

section Reports

variable {Double : Type} {fl : CFloat Double} {data : NmeaData Double}

/-- The data of a function, whatever calls it has made. -/
def Keeps (data : NmeaData Double) (st : NmeaRun Double) : Prop :=
  ∃ calls, At data calls st

/-- Behind a change of the data the new data is kept. -/
theorem setData_keeps {f : NmeaData Double → NmeaData Double}
    (R : NmeaRun Double → Prop) :
    Meets (Keeps data) (setData f) (Keeps (f data)) R := by
  refine Meets.assign ?_
  rintro st ⟨calls, hat⟩
  exact ⟨calls, congrArg f hat.data, hat.calls, hat.length⟩

/-- A sentence with a checksum changes nothing but the calls. -/
theorem checked_keeps {pieces : List (List UInt8)} (hne : pieces.flatten ≠ [])
    (hpieces : ∀ text ∈ pieces, 0 ∉ text) :
    Meets (Keeps data) (block (checkedSentence pieces)) (Keeps data)
      (Keeps data) := by
  have hnil : pieces ≠ [] := fun h => hne (by rw [h, List.flatten_nil])
  rintro st ⟨calls, hat⟩
  show ∃ o, block ((restart :: pieces.map put) ++ [send]) st = some o ∧ _
  refine Meets.append ((pieces_meets hnil hpieces).weaken (fun _ h => h)
    (fun _ h => h.2) (fun _ h => ⟨calls, h.1⟩)) ?_ st hat
  refine Meets.cons ((send_meets hne _).weaken (fun _ h => h) ?_
    (fun _ h => h)) (Meets.nil (fun _ h => h))
  rintro st' ⟨buf, length, -, hat'⟩
  exact ⟨_, hat'⟩

/-- Neither does a blank one. -/
theorem blank_keeps {text : String} (hne : ascii text ≠ [])
    (htext : 0 ∉ ascii text)
    (hfits : (ascii text).length + 6 ≤ NMEA_SENTENCE_MAX_LENGTH) :
    Meets (Keeps data) (block (blankSentence text)) (Keeps data)
      (Keeps data) := by
  rintro st ⟨calls, hat⟩
  refine (blank_meets hne htext hfits (Keeps data)).weaken (fun _ h => h) ?_
    (fun _ h => h) st hat
  rintro st' ⟨buf, length, -, hat'⟩
  exact ⟨_, hat'⟩

/-- Nor do the sentences of a loop. -/
theorem gsvLoop_keeps {name : String} (hname : Plain (ascii name))
    (hne : ascii name ≠ []) (type : GnssConstellationType)
    (sentenceCount count left sentenceNumber : Nat)
    (svs : List (GnssSvInfo Double)) :
    Meets (Keeps data) (block (gsvLoop fl name type sentenceCount count left
      sentenceNumber svs)) (Keeps data) (Keeps data) := by
  induction left generalizing sentenceNumber svs with
  | zero => exact Meets.nil (fun _ h => h)
  | succ left ih =>
      rw [gsvLoop]
      refine Meets.append (checked_keeps ?_ ?_) (ih _ _)
      · rw [List.flatten_cons, gsvHeader]
        intro h
        exact hne (List.append_eq_nil_iff.mp
          (List.append_eq_nil_iff.mp h).1).1
      · intro text htext
        rcases List.mem_cons.mp htext with rfl | htext
        · exact noNul_gsvHeader hname.noNul _ _ _
        · rw [(gsvFill_eq fl type (Nat.zero_le 4) svs).1] at htext
          obtain ⟨sv, -, hsv⟩ := List.mem_flatMap.mp htext
          exact noNul_gsvEntry fl hsv

/-- Nor does the block of a constellation. -/
theorem gsvSentences_keeps {name : String} (hname : Plain (ascii name))
    (hne : ascii name ≠ []) (hblank : 0 ∉ ascii (name ++ ",1,1,0,"))
    (hlen : (ascii (name ++ ",1,1,0,")).length = 13)
    (type : GnssConstellationType) (count : Nat)
    (svs : List (GnssSvInfo Double)) :
    Meets (Keeps data) (block (gsvSentences fl name type count svs))
      (Keeps data) (Keeps data) := by
  rw [gsvSentences]
  split
  · refine blank_keeps ?_ hblank ?_
    · exact fun h => absurd hlen (by rw [h]; decide)
    · rw [hlen]
      decide
  · exact gsvLoop_keeps hname hne type _ _ _ _ svs

/-- **A SATELLITE REPORT** leaves the masks of its satellites, however far its
    sentences got. -/
theorem generate_sv_masks (fl : CFloat Double) (flag : UInt8) (data : NmeaData Double)
    (svStatus : GnssSvStatus Double)
    (locationExtended : GpsLocationExtended Double) :
    ∃ data' calls,
      loc_eng_nmea_generate_sv fl flag data svStatus locationExtended
        = some (data', calls) ∧
      data'.nmea_cb = data.nmea_cb ∧
      data'.gps_used_mask = (entriesOf .GNSS_CONSTELLATION_GPS
        svStatus.gnss_sv_list).foldl (cacheUsed flag) 0 ∧
      data'.glo_used_mask = (entriesOf .GNSS_CONSTELLATION_GLONASS
        svStatus.gnss_sv_list).foldl (cacheUsed flag) 0 := by
  let Done : NmeaRun Double → Prop := fun st =>
    st.loc_eng_data.nmea_cb = data.nmea_cb ∧
      st.loc_eng_data.gps_used_mask = (entriesOf .GNSS_CONSTELLATION_GPS
        svStatus.gnss_sv_list).foldl (cacheUsed flag) 0 ∧
      st.loc_eng_data.glo_used_mask = (entriesOf .GNSS_CONSTELLATION_GLONASS
        svStatus.gnss_sv_list).foldl (cacheUsed flag) 0
  obtain ⟨counted, hcounted⟩ : ∃ counted, counted = { data with
      gps_used_mask := (countSvs flag svStatus.gnss_sv_list).gps_used_mask
      glo_used_mask := (countSvs flag svStatus.gnss_sv_list).glo_used_mask } :=
    ⟨_, rfl⟩
  have hdone : ∀ st, Keeps counted st → Done st := by
    rintro st ⟨calls, hat⟩
    show _ ∧ _ ∧ _
    rw [hat.data, hcounted, countSvs_eq]
    exact ⟨rfl, rfl, rfl⟩
  have hbody : Meets (Keeps data) (block (generateSvBody fl flag svStatus
      locationExtended)) Done Done := by
    rw [generateSvBody]
    refine Meets.cons (setData_keeps _) ?_
    rw [← hcounted]
    refine Meets.append ((gsvSentences_keeps (by decide) (by decide)
      (by decide) rfl _ _ _).weaken (fun _ h => h) (fun _ h => h) hdone) ?_
    refine Meets.append ((gsvSentences_keeps (by decide) (by decide)
      (by decide) rfl _ _ _).weaken (fun _ h => h) (fun _ h => h) hdone) ?_
    refine Meets.cons (Meets.assign (fun st hst => ?_)) (Meets.nil
      (fun _ h => h))
    -- the DOP are other members
    obtain ⟨hcb, hgps, hglo⟩ := hdone st hst
    show _ ∧ _ ∧ _
    dsimp only
    split <;> exact ⟨hcb, hgps, hglo⟩
  obtain ⟨st, hrun, hst⟩ := hbody.call ⟨[], At.entry data⟩
  refine ⟨st.loc_eng_data, st.calls, ?_, hst⟩
  rw [loc_eng_nmea_generate_sv, hrun]
  rfl

/-! ## What a position report does -/

/-- A GSA sentence with ids of two digits fits. -/
theorem gsa_fits {name : String} (hname : (ascii name).length = 6)
    {svUsedList : List Nat} (hids : ∀ id ∈ svUsedList, id < 100) :
    ((gsaFields name svUsedList).map line).flatten.length
      < NMEA_SENTENCE_MAX_LENGTH := by
  have hfield : ∀ i, (line [gsaField svUsedList i]).length ≤ 3 := by
    intro i
    have hlen : (gsaField svUsedList i).length ≤ 2 := by
      rw [gsaField]
      cases hget : svUsedList[i]? with
      | none => exact Nat.zero_le 2
      | some id =>
          have hid := hids id (List.mem_of_getElem? hget)
          exact length_dec_natCast_le (w := 2) (k := 2) (by decide) hid
    rw [line_cons, List.length_append, List.length_cons]
    show _ + (0 + 1) ≤ 3
    omega
  have hrest : (((List.range 12).map (fun i => [gsaField svUsedList i])).map
      line).flatten.length ≤ 36 := by
    rw [List.map_map, List.length_flatten, List.map_map]
    have hsum := List.sum_le_card_nsmul ((List.range 12).map
      (List.length ∘ line ∘ fun i => [gsaField svUsedList i])) 3 ?_
    · rwa [List.length_map, List.length_range] at hsum
    · intro n hn
      obtain ⟨i, -, rfl⟩ := List.mem_map.mp hn
      exact hfield i
  rw [gsaFields, List.map_cons, List.flatten_cons, List.length_append, line_cons,
    List.length_append, hname]
  show 6 + 5 + _ < 200
  omega

/-- An id of the list is at most 32 above the offset. -/
theorem lt_of_mem_usedList {offset id : Nat} {mask : BitVec 32}
    (h : id ∈ usedList offset mask) : id ≤ 32 + offset := by
  rw [usedList_eq] at h
  obtain ⟨n, hn, rfl⟩ := List.mem_map.mp h
  have hbit := BitVec.lt_of_getLsbD (mem_idsOf.mp hn).2
  omega

/-- The sentences of a final report, with what holds of any call that begins
    as one of them. -/
structure FinalCalls (fl : CFloat Double) (data : NmeaData Double) (pTm : Tm)
    (location : UlpLocation Double)
    (locationExtended : GpsLocationExtended Double) (P : NmeaCall → Prop) :
    Prop where
  gpgsa : ∀ c : NmeaCall, ((gsaFields "$GPGSA" (usedList 0
    data.gps_used_mask)).map line).flatten <+: c.text → P c
  gngsa : ∀ c : NmeaCall, ((gsaFields "$GNGSA" (usedList GLONASS_SV_ID_OFFSET
    data.glo_used_mask)).map line).flatten <+: c.text → P c
  gpvtg : ∀ c : NmeaCall,
    ((vtgFields fl location).map line).flatten <+: c.text → P c
  gprmc : ∀ c : NmeaCall, ((rmcFields fl pTm location
    locationExtended).map line).flatten <+: c.text → P c
  gpgga : ∀ c : NmeaCall, ((ggaFields fl data pTm location locationExtended
    (usedList 0 data.gps_used_mask).length).map line).flatten <+: c.text → P c

/-- The masks are used up. -/
structure UsedUp (data data' : NmeaData Double) : Prop where
  nmea_cb : data'.nmea_cb = data.nmea_cb
  gps_used_mask : data'.gps_used_mask = 0
  glo_used_mask : data'.glo_used_mask = 0

/-- A GSA sentence is sent: it always has room. -/
theorem gsaSentence_sends (fl : CFloat Double)
    (dop : Option (Double × Double × Double)) {now : NmeaData Double}
    {P : NmeaCall → Prop} {begun : List (List UInt8)}
    {Q : NmeaRun Double → Prop} {name : String} {used : List Nat}
    (hname : Plain (ascii name)) (hlen : (ascii name).length = 6)
    (hused : ∀ id ∈ used, id < 100)
    (hcall : ∀ c : NmeaCall,
      ((gsaFields name used).map line).flatten <+: c.text → P c) :
    Meets (Sends now P begun)
      (block (fieldSentence (gsaFields name used) (dopText fl dop)))
      (Sends now P (((gsaFields name used).map line).flatten :: begun)) Q := by
  refine (fieldSentence_sends (plainFields_gsa hname used)
    (List.cons_ne_nil _ _) (noNul_dopText fl _) hcall).weaken
    (fun _ h => h) (fun _ h => h) ?_
  rintro st ⟨-, hover⟩
  exact absurd hover (Nat.not_le.mpr (gsa_fits hlen hused))

/-- Another sentence is sent, or ends the report; nothing sent before is
    lost. -/
theorem fieldSentence_keeps {now : NmeaData Double} {P : NmeaCall → Prop}
    {begun : List (List UInt8)} {Q : NmeaRun Double → Prop}
    {fields : List (List (List UInt8))} {last : List UInt8}
    (hfields : PlainFields fields) (hne : fields.flatten ≠ [])
    (hlast : 0 ∉ last)
    (hcall : ∀ c : NmeaCall, (fields.map line).flatten <+: c.text → P c)
    (hQ : ∀ st, Sends now P begun st → Q st) :
    Meets (Sends now P begun) (block (fieldSentence fields last))
      (Sends now P begun) Q := by
  refine (fieldSentence_sends hfields hne hlast hcall).weaken
    (fun _ h => h) (fun _ h => h.mono (List.subset_cons_self _ _)) ?_
  rintro st ⟨hst, -⟩
  exact hQ st hst

/-- The texts of the two GSA sentences. -/
def gsaTexts (data : NmeaData Double) : List (List UInt8) :=
  [((gsaFields "$GNGSA" (usedList GLONASS_SV_ID_OFFSET
      data.glo_used_mask)).map line).flatten,
    ((gsaFields "$GPGSA" (usedList 0 data.gps_used_mask)).map line).flatten]

/-- The masks are used up, and both GSA sentences are sent. -/
def FinalDone (data : NmeaData Double) (P : NmeaCall → Prop)
    (st : NmeaRun Double) : Prop :=
  ∃ data', UsedUp data data' ∧ Sends data' P (gsaTexts data) st

/-- The sentences of a final position are sent one after the other, each begun
    with its fields. -/
theorem finalBody_meets (fl : CFloat Double) (data : NmeaData Double)
    {pTm : Tm} {location : UlpLocation Double}
    {locationExtended : GpsLocationExtended Double} {P : NmeaCall → Prop}
    (hP : FinalCalls fl data pTm location locationExtended P) :
    Meets (Sends data P []) (block (finalBody fl data pTm location
      locationExtended)) (FinalDone data P) (FinalDone data P) := by
  let cleared : NmeaData Double :=
    { data with gps_used_mask := 0, glo_used_mask := 0 }
  have hdone : ∀ st, Sends cleared P (gsaTexts data) st → FinalDone data P st :=
    fun st hst => ⟨cleared, ⟨rfl, rfl, rfl⟩, hst⟩
  rw [finalBody]
  refine Meets.cons (setData_sends rfl _) ?_
  refine Meets.append (gsaSentence_sends fl _ (by decide) rfl
    (fun id hid => Nat.lt_of_le_of_lt (lt_of_mem_usedList hid) (by decide))
    hP.gpgsa) ?_
  refine Meets.cons (setData_sends rfl _) ?_
  refine Meets.append (gsaSentence_sends fl _ (by decide) rfl
    (fun id hid => Nat.lt_of_le_of_lt (lt_of_mem_usedList hid) (by decide))
    hP.gngsa) ?_
  refine Meets.append (fieldSentence_keeps (plainFields_vtg fl location) ?_
    (noNul_modeText data location) hP.gpvtg hdone) ?_
  · rw [vtgFields]
    split <;> exact List.cons_ne_nil _ _
  refine Meets.append (fieldSentence_keeps (plainFields_rmc fl pTm location
    locationExtended) (List.cons_ne_nil _ _)
    (noNul_modeText data location) hP.gprmc hdone) ?_
  refine Meets.append (fieldSentence_keeps (plainFields_gga fl data pTm
    location locationExtended _) (List.cons_ne_nil _ _)
    (noNul_ggaLast fl location locationExtended) hP.gpgga hdone) ?_
  refine Meets.cons (setData_sends rfl _) (Meets.nil (fun st hst => ?_))
  exact ⟨clearDop fl cleared, ⟨rfl, rfl, rfl⟩, hst⟩

/-- **A FINAL REPORT** sends both GSA sentences, and perhaps the others; all
    its calls begin as one of them, and it uses the masks up. -/
theorem generate_pos_final (fl : CFloat Double) (data : NmeaData Double)
    {gmtime : Int → Option Tm} {location : UlpLocation Double}
    (locationExtended : GpsLocationExtended Double) {pTm : Tm}
    (htime : gmtime (location.timestamp.tdiv 1000) = some pTm)
    {P : NmeaCall → Prop}
    (hP : FinalCalls fl data pTm location locationExtended P) :
    ∃ data' calls, loc_eng_nmea_generate_pos fl gmtime data location
        locationExtended true = some (data', calls) ∧
      UsedUp data data' ∧ (∀ c ∈ calls, P c) ∧
      (data.nmea_cb = true →
        (∃ c ∈ calls, ((gsaFields "$GPGSA" (usedList 0
          data.gps_used_mask)).map line).flatten <+: c.text) ∧
        ∃ c ∈ calls, ((gsaFields "$GNGSA" (usedList GLONASS_SV_ID_OFFSET
          data.glo_used_mask)).map line).flatten <+: c.text) := by
  obtain ⟨st, hrun, data', hused, calls, hat, hcalls, hbegun⟩ :=
    (finalBody_meets fl data hP).call (Sends.entry data P)
  refine ⟨data', calls, ?_, hused, hcalls, fun hcb => ?_⟩
  · rw [loc_eng_nmea_generate_pos, htime, Option.elim_some, if_pos rfl, hrun,
      Option.map_some, hat.data, hat.calls]
  · rw [← hused.nmea_cb] at hcb
    have htexts := hbegun hcb
    rw [gsaTexts, List.forall_mem_cons, List.forall_mem_singleton] at htexts
    exact ⟨htexts.2, htexts.1⟩

/-- The masks and the callback are as before. -/
structure SameMasks (data data' : NmeaData Double) : Prop where
  nmea_cb : data'.nmea_cb = data.nmea_cb
  gps_used_mask : data'.gps_used_mask = data.gps_used_mask
  glo_used_mask : data'.glo_used_mask = data.glo_used_mask

/-- **A REPORT THAT IS NOT FINAL** leaves the masks alone. -/
theorem generate_pos_blank (fl : CFloat Double) (gmtime : Int → Option Tm)
    (data : NmeaData Double)
    (location : UlpLocation Double)
    (locationExtended : GpsLocationExtended Double) :
    ∃ data' calls, loc_eng_nmea_generate_pos fl gmtime data location
        locationExtended false = some (data', calls) ∧
      SameMasks data data' := by
  rw [loc_eng_nmea_generate_pos]
  cases gmtime (location.timestamp.tdiv 1000) with
  | none => exact ⟨data, [], rfl, rfl, rfl, rfl⟩
  | some pTm =>
      have hbody : Meets (Keeps data) (block (blankBody fl))
          (Keeps (clearDop fl data)) (Keeps data) := by
        rw [blankBody]
        refine Meets.append (blank_keeps (by decide) (by decide) (by decide)) ?_
        refine Meets.append (blank_keeps (by decide) (by decide) (by decide)) ?_
        refine Meets.append (blank_keeps (by decide) (by decide) (by decide)) ?_
        refine Meets.append (blank_keeps (by decide) (by decide) (by decide)) ?_
        refine Meets.append (blank_keeps (by decide) (by decide) (by decide)) ?_
        exact Meets.cons (setData_keeps _) (Meets.nil (fun _ h => h))
      have hsame : ∀ st, Keeps (clearDop fl data) st →
          SameMasks data st.loc_eng_data := by
        rintro st ⟨calls, hat⟩
        rw [hat.data]
        exact ⟨rfl, rfl, rfl⟩
      have hreturn : ∀ st, Keeps data st → SameMasks data st.loc_eng_data := by
        rintro st ⟨calls, hat⟩
        rw [hat.data]
        exact ⟨rfl, rfl, rfl⟩
      obtain ⟨st, hrun, hst⟩ := (hbody.weaken (fun _ h => h) hsame
        hreturn).call ⟨[], At.entry data⟩
      refine ⟨st.loc_eng_data, st.calls, ?_, hst⟩
      rw [Option.elim_some, if_neg Bool.false_ne_true, hrun]
      rfl

/-- Reports that are not final keep the masks. -/
theorem nonFinalReports_keep (fl : CFloat Double) (gmtime : Int → Option Tm)
    (data : NmeaData Double)
    (reports : List (UlpLocation Double × GpsLocationExtended Double)) :
    ∃ data' calls, nonFinalReports fl gmtime data reports
        = some (data', calls) ∧ SameMasks data data' := by
  induction reports generalizing data with
  | nil => exact ⟨data, [], rfl, rfl, rfl, rfl⟩
  | cons r reports ih =>
      obtain ⟨data₁, calls₁, hone, hsame⟩ := generate_pos_blank fl
        gmtime data r.1 r.2
      obtain ⟨data₂, calls₂, hrest, hsame'⟩ := ih data₁
      refine ⟨data₂, calls₁ ++ calls₂, ?_, hsame'.nmea_cb.trans hsame.nmea_cb,
        hsame'.gps_used_mask.trans hsame.gps_used_mask,
        hsame'.glo_used_mask.trans hsame.glo_used_mask⟩
      rw [nonFinalReports, hone, Option.bind_some, hrest]
      rfl

/-! ## The satellites of the sentences -/

/-- A GSA sentence lists the first twelve of these satellites, and leaves the
    rest of its twelve fields empty. -/
structure ListsSvs (offset : Nat) (ids : List Nat) (text : List UInt8) :
    Prop where
  fix : fieldAt 2 text = ascii (if ids.length = 0 then "1"
    else if ids.length ≤ 3 then "2" else "3")
  svs : (List.range 12).map (fun i => fieldAt (3 + i) text)
    = (ids.take 12).map (fun id => dec 2 (id + offset : Nat))
      ++ List.replicate (12 - ids.length) []

/-- The sentences of a final report list these satellites. -/
structure ListsUsed (nmea_cb : Bool) (gps glo : List Nat)
    (calls : List NmeaCall) : Prop where
  gpgsa : ∀ c ∈ calls, fieldAt 0 c.text = ascii "$GPGSA" →
    ListsSvs 0 gps c.text
  gngsa : ∀ c ∈ calls, fieldAt 0 c.text = ascii "$GNGSA" →
    ListsSvs 64 glo c.text
  gpgga : ∀ c ∈ calls, fieldAt 0 c.text = ascii "$GPGGA" →
    fieldAt 7 c.text = dec 2 gps.length
  sent : nmea_cb = true →
    (∃ c ∈ calls, fieldAt 0 c.text = ascii "$GPGSA") ∧
    ∃ c ∈ calls, fieldAt 0 c.text = ascii "$GNGSA"

/-- The fields of a GSA sentence in one list. -/
theorem flatten_gsaFields (name : String) (svUsedList : List Nat) :
    (gsaFields name svUsedList).flatten
      = [ascii name, ascii "A", [fixType svUsedList.length]]
        ++ (List.range 12).map (gsaField svUsedList) := by
  rw [gsaFields, List.flatten_cons]
  exact congrArg _ List.map_eq_flatMap.symm

/-- The twelve fields: the first ids, and then empty ones. -/
theorem map_gsaField (ids : List Nat) (offset : Nat) :
    (List.range 12).map (gsaField (ids.map (· + offset)))
      = (ids.take 12).map (fun id => dec 2 (id + offset : Nat))
        ++ List.replicate (12 - ids.length) [] := by
  apply List.ext_getElem
  · simp only [List.length_map, List.length_range, List.length_append,
      List.length_take, List.length_replicate]
    omega
  · intro i h1 h2
    rw [List.getElem_map, List.getElem_range, gsaField, List.getElem?_map]
    by_cases hi : i < ids.length
    · have htake : i < ((ids.take 12).map
          (fun id => dec 2 (id + offset : Nat))).length := by
        rw [List.length_map, List.length_range] at h1
        rw [List.length_map, List.length_take]
        omega
      rw [List.getElem_append_left htake, List.getElem_map, List.getElem_take,
        List.getElem?_eq_getElem hi]
      rfl
    · have htake : ((ids.take 12).map
          (fun id => dec 2 (id + offset : Nat))).length ≤ i := by
        rw [List.length_map, List.length_take]
        omega
      rw [List.getElem_append_right htake, List.getElem_replicate,
        List.getElem?_eq_none (Nat.le_of_not_lt hi)]
      rfl

/-- A sentence that begins with these fields lists the ids. -/
theorem gsa_lists {name : String} (hname : Plain (ascii name)) {offset : Nat}
    {ids : List Nat} {text : List UInt8}
    (hpre : ((gsaFields name (ids.map (· + offset))).map line).flatten
      <+: text) : fieldAt 0 text = ascii name ∧ ListsSvs offset ids text := by
  have hplain := plainFields_gsa hname (ids.map (· + offset))
  refine ⟨hplain.fieldAt hpre (by rw [flatten_gsaFields]; rfl), ?_, ?_⟩
  · refine hplain.fieldAt hpre ?_
    rw [flatten_gsaFields, List.length_map, fixType]
    show some _ = some _
    split
    · rfl
    · split <;> rfl
  · rw [← map_gsaField]
    refine List.map_congr_left (fun i hi => ?_)
    refine hplain.fieldAt hpre ?_
    rw [flatten_gsaFields, List.getElem?_append_right (Nat.le_add_right 3 i)]
    show ((List.range 12).map _)[3 + i - 3]? = _
    rw [Nat.add_sub_cancel_left, List.getElem?_map,
      List.getElem?_range (List.mem_range.mp hi)]
    rfl

/-- A VTG sentence has its name. -/
theorem vtg_name {location : UlpLocation Double} {text : List UInt8}
    (hpre : ((vtgFields fl location).map line).flatten <+: text) :
    fieldAt 0 text = ascii "$GPVTG" := by
  refine (plainFields_vtg fl location).fieldAt hpre ?_
  rw [vtgFields]
  split <;> rfl

/-- So has an RMC sentence. -/
theorem rmc_name {pTm : Tm} {location : UlpLocation Double}
    {locationExtended : GpsLocationExtended Double} {text : List UInt8}
    (hpre : ((rmcFields fl pTm location locationExtended).map line).flatten
      <+: text) : fieldAt 0 text = ascii "$GPRMC" :=
  (plainFields_rmc fl pTm location locationExtended).fieldAt hpre rfl

/-- And a GGA sentence, with the number of satellites. -/
theorem gga_name {pTm : Tm} {location : UlpLocation Double}
    {locationExtended : GpsLocationExtended Double} {n : Nat}
    {text : List UInt8}
    (hpre : ((ggaFields fl data pTm location locationExtended n).map
      line).flatten <+: text) :
    fieldAt 0 text = ascii "$GPGGA" ∧ fieldAt 7 text = dec 2 n := by
  have hplain := plainFields_gga fl data pTm location locationExtended n
  refine ⟨hplain.fieldAt hpre rfl, hplain.fieldAt hpre ?_⟩
  have hfour := length_latLongFields fl location
  rw [ggaFields, List.flatten_cons, List.flatten_cons,
    List.getElem?_append_right (show 2 ≤ 7 by decide)]
  show (latLongFields fl location ++ _)[5]? = _
  rw [List.getElem?_append_right (by omega), hfour]
  rfl

/-- **ONE FINAL REPORT** lists the satellites of the masks. -/
theorem final_lists (fl : CFloat Double) (data : NmeaData Double)
    {gmtime : Int → Option Tm} {location : UlpLocation Double}
    (locationExtended : GpsLocationExtended Double)
    (htime : (gmtime (location.timestamp.tdiv 1000)).isSome = true) :
    ∃ data' calls, loc_eng_nmea_generate_pos fl gmtime data location
        locationExtended true = some (data', calls) ∧
      UsedUp data data' ∧
      ListsUsed data.nmea_cb (idsOf data.gps_used_mask)
        (idsOf data.glo_used_mask) calls := by
  obtain ⟨pTm, htm⟩ := Option.isSome_iff_exists.mp htime
  have hzero : usedList 0 data.gps_used_mask
      = (idsOf data.gps_used_mask).map (· + 0) := usedList_eq 0 _
  have hglo : usedList GLONASS_SV_ID_OFFSET data.glo_used_mask
      = (idsOf data.glo_used_mask).map (· + 64) := usedList_eq 64 _
  obtain ⟨data', calls, hrun, hused, hcalls, hsent⟩ := generate_pos_final fl
    data locationExtended htm
    (P := fun c =>
      (fieldAt 0 c.text = ascii "$GPGSA" →
        ListsSvs 0 (idsOf data.gps_used_mask) c.text) ∧
      (fieldAt 0 c.text = ascii "$GNGSA" →
        ListsSvs 64 (idsOf data.glo_used_mask) c.text) ∧
      (fieldAt 0 c.text = ascii "$GPGGA" →
        fieldAt 7 c.text = dec 2 (idsOf data.gps_used_mask).length)) (by
      constructor
      · intro c hpre
        rw [hzero] at hpre
        have hlists := gsa_lists (by decide) hpre
        rw [hlists.1]
        exact ⟨fun _ => hlists.2, (absurd · (by decide)), (absurd · (by decide))⟩
      · intro c hpre
        rw [hglo] at hpre
        have hlists := gsa_lists (by decide) hpre
        rw [hlists.1]
        exact ⟨(absurd · (by decide)), fun _ => hlists.2, (absurd · (by decide))⟩
      · intro c hpre
        rw [vtg_name hpre]
        exact ⟨(absurd · (by decide)), (absurd · (by decide)),
          (absurd · (by decide))⟩
      · intro c hpre
        rw [rmc_name hpre]
        exact ⟨(absurd · (by decide)), (absurd · (by decide)),
          (absurd · (by decide))⟩
      · intro c hpre
        obtain ⟨hname, hcount⟩ := gga_name hpre
        rw [hname, hcount, hzero, List.length_map]
        exact ⟨(absurd · (by decide)), (absurd · (by decide)), fun _ => rfl⟩)
  refine ⟨data', calls, hrun, hused, ⟨fun c hc => (hcalls c hc).1,
    fun c hc => (hcalls c hc).2.1, fun c hc => (hcalls c hc).2.2, ?_⟩⟩
  intro hcb
  obtain ⟨⟨c, hc, hpre⟩, c', hc', hpre'⟩ := hsent hcb
  rw [hzero] at hpre
  rw [hglo] at hpre'
  exact ⟨⟨c, hc, (gsa_lists (by decide) hpre).1⟩, c', hc',
    (gsa_lists (by decide) hpre').1⟩

/-- **GSA LISTS THE SATELLITES USED**: for every satellite report, any reports
    after it that are not final, and then a final one, the satellites of its
    sentences are those the satellite report says were used, ascending; the
    next final report lists none. -/
theorem gsa_lists_used (fl : CFloat Double) (gmtime : Int → Option Tm)
    (flag : UInt8) (data : NmeaData Double) (svStatus : GnssSvStatus Double)
    (svExtended : GpsLocationExtended Double)
    (hsvid : ∀ sv ∈ svStatus.gnss_sv_list,
      sv.constellation = .GNSS_CONSTELLATION_GPS ∨
        sv.constellation = .GNSS_CONSTELLATION_GLONASS →
      1 ≤ sv.svid.toInt ∧ sv.svid.toInt ≤ 32)
    (between between' : List (UlpLocation Double × GpsLocationExtended Double))
    (location location' : UlpLocation Double)
    (locationExtended locationExtended' : GpsLocationExtended Double)
    (htime : (gmtime (location.timestamp.tdiv 1000)).isSome = true)
    (htime' : (gmtime (location'.timestamp.tdiv 1000)).isSome = true) :
    ∃ gps glo,
      UsedIds flag .GNSS_CONSTELLATION_GPS svStatus.gnss_sv_list gps ∧
      UsedIds flag .GNSS_CONSTELLATION_GLONASS svStatus.gnss_sv_list glo ∧
      ∃ data₁ calls₁ data₂ calls₂ data₃ calls₃ data₄ calls₄ data₅ calls₅,
        loc_eng_nmea_generate_sv fl flag data svStatus svExtended
          = some (data₁, calls₁) ∧
        nonFinalReports fl gmtime data₁ between = some (data₂, calls₂) ∧
        loc_eng_nmea_generate_pos fl gmtime data₂ location locationExtended
          true = some (data₃, calls₃) ∧
        ListsUsed data.nmea_cb gps glo calls₃ ∧
        nonFinalReports fl gmtime data₃ between' = some (data₄, calls₄) ∧
        loc_eng_nmea_generate_pos fl gmtime data₄ location'
          locationExtended' true = some (data₅, calls₅) ∧
        ListsUsed data.nmea_cb [] [] calls₅ := by
  obtain ⟨data₁, calls₁, hsv, hcb₁, hgps₁, hglo₁⟩ :=
    generate_sv_masks fl flag data svStatus svExtended
  obtain ⟨data₂, calls₂, hbetween, hsame₂⟩ :=
    nonFinalReports_keep fl gmtime data₁ between
  obtain ⟨data₃, calls₃, hfinal, hused, hlists⟩ := final_lists fl
    data₂ locationExtended htime
  obtain ⟨data₄, calls₄, hbetween', hsame₄⟩ :=
    nonFinalReports_keep fl gmtime data₃ between'
  obtain ⟨data₅, calls₅, hfinal', -, hlists'⟩ := final_lists fl data₄
    locationExtended' htime'
  rw [hsame₂.nmea_cb, hcb₁, hsame₂.gps_used_mask, hgps₁, hsame₂.glo_used_mask,
    hglo₁] at hlists
  rw [hsame₄.nmea_cb, hused.nmea_cb, hsame₂.nmea_cb, hcb₁,
    hsame₄.gps_used_mask, hused.gps_used_mask, hsame₄.glo_used_mask,
    hused.glo_used_mask, idsOf_zero] at hlists'
  exact ⟨_, _, usedIds_mask (fun sv hsv htype => hsvid sv hsv (Or.inl htype)),
    usedIds_mask (fun sv hsv htype => hsvid sv hsv (Or.inr htype)),
    data₁, calls₁, data₂, calls₂, data₃, calls₃, data₄, calls₄, data₅, calls₅,
    hsv, hbetween, hfinal, hlists, hbetween', hfinal', hlists'⟩

end Reports

/-- A place in the north-west, with a time. -/
def northWest : UlpLocation ℚ :=
  ⟨true, true, true, true, 481173 / 10000, -1152 / 100, 545, 10, 84, 1000⟩

/-- A `gmtime` that knows one time. -/
def oneTime (_ : Int) : Option Tm := some ⟨70, 0, 1, 0, 0, 1⟩

/-- GPS 32, and two entries of 5. -/
def threeUsed : GnssSvStatus ℚ :=
  ⟨[⟨32, .GNSS_CONSTELLATION_GPS, 40, 45, 120, 4⟩,
    ⟨5, .GNSS_CONSTELLATION_GPS, 30, 50, 20, 6⟩,
    ⟨9, .GNSS_CONSTELLATION_GLONASS, 20, 10, 300, 0⟩,
    ⟨5, .GNSS_CONSTELLATION_GPS, 30, 50, 20, 4⟩]⟩

/-- They are listed, after a report that is not final. -/
theorem gsa_lists_used_three : ∃ gps glo,
    UsedIds 4 .GNSS_CONSTELLATION_GPS threeUsed.gnss_sv_list gps ∧
    UsedIds 4 .GNSS_CONSTELLATION_GLONASS threeUsed.gnss_sv_list glo ∧
    ∃ data₁ calls₁ data₂ calls₂ data₃ calls₃ data₄ calls₄ data₅ calls₅,
      loc_eng_nmea_generate_sv exact 4 callbackData threeUsed noPosition
        = some (data₁, calls₁) ∧
      nonFinalReports exact oneTime data₁ [(northWest, noPosition)]
        = some (data₂, calls₂) ∧
      loc_eng_nmea_generate_pos exact oneTime data₂ northWest noPosition true
        = some (data₃, calls₃) ∧
      ListsUsed true gps glo calls₃ ∧
      nonFinalReports exact oneTime data₃ [] = some (data₄, calls₄) ∧
      loc_eng_nmea_generate_pos exact oneTime data₄ northWest noPosition true
        = some (data₅, calls₅) ∧
      ListsUsed true [] [] calls₅ := by
  refine gsa_lists_used exact oneTime 4 callbackData threeUsed noPosition ?_
    [(northWest, noPosition)] [] northWest northWest noPosition noPosition rfl
    rfl
  intro sv hsv htype
  simp only [threeUsed, List.mem_cons, List.not_mem_nil, or_false] at hsv
  rcases hsv with rfl | rfl | rfl | rfl <;> decide

end QcomNmea
