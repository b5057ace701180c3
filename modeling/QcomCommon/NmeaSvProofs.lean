import QcomCommon.NmeaWriterProofs
import QcomCommon.SvReportProofs

/-! # Satellite sentences

    `loc_eng_nmea_generate_sv` keeps the satellites used in the fix as two
    masks for the next position report, and sends the satellites in view,
    four a sentence, for two constellations.

    One index runs through the list over all the sentences of a
    constellation; what each pass leaves of the list holds the entries that
    the sentences before did not name, so that the sentences partition the
    entries (`gsv_partitions`). -/

namespace QcomNmea

open QcomCString QcomReturn QcomPrintf QcomSv

variable {Double : Type} (fl : CFloat Double)

/-- `GpsLocationExtended`: the bits of its flags that are read, and the
    members these stand for. -/
structure GpsLocationExtended (Double : Type) where
  GPS_LOCATION_EXTENDED_HAS_DOP : Bool
  GPS_LOCATION_EXTENDED_HAS_ALTITUDE_MEAN_SEA_LEVEL : Bool
  GPS_LOCATION_EXTENDED_HAS_MAG_DEV : Bool
  altitudeMeanSeaLevel : Double
  pdop : Double
  hdop : Double
  vdop : Double
  magneticDeviation : Double

/-! ## The satellites that were used -/

/-- What the first loop makes. -/
structure SvCount where
  gps_used_mask : BitVec 32
  glo_used_mask : BitVec 32
  gpsCount : Nat
  glnCount : Nat
deriving DecidableEq, Repr

/-- The flag of a satellite that was used. -/
def isUsedInFix (GNSS_SV_FLAGS_USED_IN_FIX : UInt8) (sv : GnssSvInfo Double) :
    Bool :=
  GNSS_SV_FLAGS_USED_IN_FIX == sv.flags &&& GNSS_SV_FLAGS_USED_IN_FIX

/-- A mask with the bit of a satellite that was used. -/
def cacheUsed (GNSS_SV_FLAGS_USED_IN_FIX : UInt8) (used_mask : BitVec 32)
    (sv : GnssSvInfo Double) : BitVec 32 :=
  if isUsedInFix GNSS_SV_FLAGS_USED_IN_FIX sv then
    used_mask ||| oneShl (sv.svid.toInt - 1)
  else used_mask

/-- One pass of the first loop. -/
def countSv (GNSS_SV_FLAGS_USED_IN_FIX : UInt8) (c : SvCount)
    (sv : GnssSvInfo Double) : SvCount :=
  if sv.constellation = .GNSS_CONSTELLATION_GPS then
    { c with
      gps_used_mask := cacheUsed GNSS_SV_FLAGS_USED_IN_FIX c.gps_used_mask sv
      gpsCount := c.gpsCount + 1 }
  else if sv.constellation = .GNSS_CONSTELLATION_GLONASS then
    { c with
      glo_used_mask := cacheUsed GNSS_SV_FLAGS_USED_IN_FIX c.glo_used_mask sv
      glnCount := c.glnCount + 1 }
  else c

/-- The first loop. -/
def countSvs (GNSS_SV_FLAGS_USED_IN_FIX : UInt8)
    (svs : List (GnssSvInfo Double)) : SvCount :=
  svs.foldl (countSv GNSS_SV_FLAGS_USED_IN_FIX) ⟨0, 0, 0, 0⟩

/-! ## The satellites in view -/

/-- `(int)(0.5 + x)`. -/
def roundInt (x : Double) : Int := fl.toInt (fl.add (fl.lit (1 / 2)) x)

/-- The pieces of an entry. -/
def gsvEntry (sv : GnssSvInfo Double) : List (List UInt8) :=
  (44 :: dec 2 sv.svid.toInt ++ (44 :: dec 2 (roundInt fl sv.elevation)
      ++ (44 :: dec 3 (roundInt fl sv.azimuth) ++ [44])))
    :: if fl.lt (fl.lit 0) sv.c_n0_dbhz then
        [dec 2 (roundInt fl sv.c_n0_dbhz)]
      else []

/-- `"$GPGSV,%d,%d,%02d"`. -/
def gsvHeader (name : String) (sentenceCount sentenceNumber count : Nat) :
    List UInt8 :=
  ascii name ++ (44 :: dec 0 sentenceCount ++ (44 :: dec 0 sentenceNumber
    ++ 44 :: dec 2 count))

/-- The loop over the entries from `svNumber` on, which are the list: the
    pieces of a sentence, and the entries from where it leaves `svNumber`. -/
def gsvFill (type : GnssConstellationType) :
    Nat → List (GnssSvInfo Double) →
      List (List UInt8) × List (GnssSvInfo Double)
  | _, [] => ([], [])
  | i, sv :: svs =>
      if i < 4 then
        if sv.constellation = type then
          let rest := gsvFill type (i + 1) svs
          (gsvEntry fl sv ++ rest.1, rest.2)
        else gsvFill type i svs
      else ([], sv :: svs)

/-- The loop over the sentences, for as many as are left. -/
def gsvLoop (name : String) (type : GnssConstellationType)
    (sentenceCount count : Nat) :
    Nat → Nat → List (GnssSvInfo Double) → List (Stmt (NmeaRun Double))
  | 0, _, _ => []
  | left + 1, sentenceNumber, svs =>
      let filled := gsvFill fl type 0 svs
      checkedSentence
          (gsvHeader name sentenceCount sentenceNumber count :: filled.1)
        ++ gsvLoop name type sentenceCount count left (sentenceNumber + 1)
            filled.2

/-- `gpsCount/4 + (gpsCount % 4 != 0)`. -/
def gsvSentenceCount (count : Nat) : Nat :=
  count / 4 + if count % 4 ≠ 0 then 1 else 0

/-- The sentences of a constellation. -/
def gsvSentences (name : String) (type : GnssConstellationType)
    (count : Nat) (svs : List (GnssSvInfo Double)) :
    List (Stmt (NmeaRun Double)) :=
  if count = 0 then blankSentence (name ++ ",1,1,0,")
  else gsvLoop fl name type (gsvSentenceCount count) count
    (gsvSentenceCount count) 1 svs

/-- The body of `loc_eng_nmea_generate_sv`. -/
def generateSvBody (GNSS_SV_FLAGS_USED_IN_FIX : UInt8)
    (svStatus : GnssSvStatus Double)
    (locationExtended : GpsLocationExtended Double) :
    List (Stmt (NmeaRun Double)) :=
  let c := countSvs GNSS_SV_FLAGS_USED_IN_FIX svStatus.gnss_sv_list
  setData (fun data => { data with
      gps_used_mask := c.gps_used_mask
      glo_used_mask := c.glo_used_mask })
    :: (gsvSentences fl "$GPGSV" .GNSS_CONSTELLATION_GPS c.gpsCount
          svStatus.gnss_sv_list
      ++ (gsvSentences fl "$GLGSV" .GNSS_CONSTELLATION_GLONASS c.glnCount
          svStatus.gnss_sv_list
      -- the DOP of a report, for the position report that follows
      ++ [setData (fun data =>
          if locationExtended.GPS_LOCATION_EXTENDED_HAS_DOP then
            { data with
              pdop := locationExtended.pdop
              hdop := locationExtended.hdop
              vdop := locationExtended.vdop }
          else { data with
            pdop := fl.lit 0, hdop := fl.lit 0, vdop := fl.lit 0 })]))

/-- `loc_eng_nmea_generate_sv`: the data it leaves, and its calls. -/
def loc_eng_nmea_generate_sv (GNSS_SV_FLAGS_USED_IN_FIX : UInt8)
    (loc_eng_data : NmeaData Double) (svStatus : GnssSvStatus Double)
    (locationExtended : GpsLocationExtended Double) :
    Option (NmeaData Double × List NmeaCall) :=
  (call (generateSvBody fl GNSS_SV_FLAGS_USED_IN_FIX svStatus
      locationExtended) (NmeaRun.entry loc_eng_data)).map
    (fun st => (st.loc_eng_data, st.calls))

/-! ## Parts of four -/

/-- The parts of a list, four entries each. -/
def partsOfFour {α : Type} (l : List α) (parts : Nat) : List (List α) :=
  (List.range parts).map (fun k => (l.drop (4 * k)).take 4)

/-- The parts are the start of the list, in order. -/
theorem flatten_partsOfFour {α : Type} (l : List α) (parts : Nat) :
    (partsOfFour l parts).flatten = l.take (4 * parts) := by
  induction parts with
  | zero => rfl
  | succ parts ih =>
      rw [partsOfFour, List.range_succ, List.map_append, List.flatten_append,
        ← partsOfFour, ih, Nat.mul_succ, List.take_add]
      congr 1
      exact List.append_nil _

/-- The parts are those of the whole list, all full but the last. -/
structure Parts {α : Type} (l : List α) (parts : List (List α)) : Prop where
  flatten : parts.flatten = l
  atMost : ∀ part ∈ parts, part ≠ [] ∧ part.length ≤ 4
  full : ∀ part ∈ parts.dropLast, part.length = 4
  count : parts.length = (l.length + 3) / 4

/-- The number of sentences, rounded up. -/
theorem gsvSentenceCount_eq (count : Nat) :
    gsvSentenceCount count = (count + 3) / 4 := by
  rw [gsvSentenceCount]
  split <;> omega

theorem mapIdx_partsOfFour {α β : Type} (l : List α) (parts : Nat)
    (f : Nat → List α → β) :
    (partsOfFour l parts).mapIdx f
      = (List.range parts).map (fun k => f k ((l.drop (4 * k)).take 4)) := by
  apply List.ext_getElem
  · simp only [partsOfFour, List.length_mapIdx, List.length_map]
  · intro k h1 h2
    simp only [partsOfFour, List.getElem_mapIdx, List.getElem_map,
      List.getElem_range]

/-- There are as many parts of four as there are sentences. -/
theorem parts_partsOfFour {α : Type} (l : List α) :
    Parts l (partsOfFour l (gsvSentenceCount l.length)) := by
  have hcount := gsvSentenceCount_eq l.length
  have hlen : (partsOfFour l (gsvSentenceCount l.length)).length
      = gsvSentenceCount l.length := by
    rw [partsOfFour, List.length_map, List.length_range]
  refine ⟨?_, ?_, ?_, hlen.trans hcount⟩
  · rw [flatten_partsOfFour, List.take_of_length_le (by omega)]
  · intro part hpart
    obtain ⟨k, hk, rfl⟩ := List.mem_map.mp hpart
    have hk := List.mem_range.mp hk
    constructor
    · rw [← List.length_pos_iff_ne_nil, List.length_take, List.length_drop]
      omega
    · rw [List.length_take]
      exact Nat.min_le_left _ _
  · intro part hpart
    obtain ⟨k, hk, rfl⟩ := List.mem_iff_getElem.mp hpart
    rw [List.length_dropLast, hlen] at hk
    simp only [partsOfFour, List.getElem_dropLast, List.getElem_map,
      List.getElem_range, List.length_take, List.length_drop]
    omega

/-! ## What a sentence names -/

/-- The entries of a constellation. -/
def entriesOf (type : GnssConstellationType) (svs : List (GnssSvInfo Double)) :
    List (GnssSvInfo Double) :=
  svs.filter (fun sv => sv.constellation = type)

/-- A sentence of some entries, without its checksum. -/
def gsvText (name : String) (sentenceCount sentenceNumber count : Nat)
    (svs : List (GnssSvInfo Double)) : List UInt8 :=
  gsvHeader name sentenceCount sentenceNumber count
    ++ (svs.flatMap (gsvEntry fl)).flatten

/-- A satellite of the constellation is among its entries. -/
theorem entriesOf_cons_self {type : GnssConstellationType}
    {sv : GnssSvInfo Double} (h : sv.constellation = type)
    (svs : List (GnssSvInfo Double)) :
    entriesOf type (sv :: svs) = sv :: entriesOf type svs :=
  List.filter_cons_of_pos (decide_eq_true h)

/-- One of another constellation is not. -/
theorem entriesOf_cons_ne {type : GnssConstellationType}
    {sv : GnssSvInfo Double} (h : sv.constellation ≠ type)
    (svs : List (GnssSvInfo Double)) :
    entriesOf type (sv :: svs) = entriesOf type svs :=
  List.filter_cons_of_neg (by simpa using h)

/-- **THE FIRST LOOP** runs through the entries of either constellation as if
    there were no others. -/
theorem countSvs_eq (flag : UInt8) (svs : List (GnssSvInfo Double)) :
    countSvs flag svs = {
      gps_used_mask := (entriesOf .GNSS_CONSTELLATION_GPS svs).foldl
        (cacheUsed flag) 0
      glo_used_mask := (entriesOf .GNSS_CONSTELLATION_GLONASS svs).foldl
        (cacheUsed flag) 0
      gpsCount := (entriesOf .GNSS_CONSTELLATION_GPS svs).length
      glnCount := (entriesOf .GNSS_CONSTELLATION_GLONASS svs).length } := by
  have hfold : ∀ c : SvCount, svs.foldl (countSv flag) c = {
      gps_used_mask := (entriesOf .GNSS_CONSTELLATION_GPS svs).foldl
        (cacheUsed flag) c.gps_used_mask
      glo_used_mask := (entriesOf .GNSS_CONSTELLATION_GLONASS svs).foldl
        (cacheUsed flag) c.glo_used_mask
      gpsCount := (entriesOf .GNSS_CONSTELLATION_GPS svs).length + c.gpsCount
      glnCount := (entriesOf .GNSS_CONSTELLATION_GLONASS svs).length
        + c.glnCount } := by
    induction svs with
    | nil => exact fun c => by simp [entriesOf]
    | cons sv svs ih =>
        intro c
        rw [List.foldl_cons, ih, countSv]
        by_cases hgps : sv.constellation = .GNSS_CONSTELLATION_GPS
        · have hglo : sv.constellation ≠ .GNSS_CONSTELLATION_GLONASS := by
            rw [hgps]
            exact fun h => GnssConstellationType.noConfusion h
          rw [if_pos hgps, entriesOf_cons_self hgps, entriesOf_cons_ne hglo]
          simp only [List.foldl_cons, List.length_cons, Nat.add_assoc,
            Nat.add_comm 1]
        · rw [if_neg hgps, entriesOf_cons_ne hgps]
          by_cases hglo : sv.constellation = .GNSS_CONSTELLATION_GLONASS
          · rw [if_pos hglo, entriesOf_cons_self hglo]
            simp only [List.foldl_cons, List.length_cons, Nat.add_assoc,
              Nat.add_comm 1]
          · rw [if_neg hglo, entriesOf_cons_ne hglo]
  exact hfold ⟨0, 0, 0, 0⟩

/-- **ONE SENTENCE** takes the next entries of its constellation, up to four,
    and leaves the others of it. -/
theorem gsvFill_eq (type : GnssConstellationType) {i : Nat} (hi : i ≤ 4)
    (svs : List (GnssSvInfo Double)) :
    (gsvFill fl type i svs).1
        = ((entriesOf type svs).take (4 - i)).flatMap (gsvEntry fl) ∧
      entriesOf type (gsvFill fl type i svs).2
        = (entriesOf type svs).drop (4 - i) := by
  induction svs generalizing i with
  | nil =>
      rw [gsvFill, entriesOf, List.filter_nil, List.take_nil, List.drop_nil]
      exact ⟨rfl, rfl⟩
  | cons sv svs ih =>
      rw [gsvFill]
      by_cases hroom : i < 4
      · rw [if_pos hroom]
        by_cases htype : sv.constellation = type
        · obtain ⟨hpieces, hrest⟩ := ih (i := i + 1) hroom
          have hleft : 4 - i = (4 - (i + 1)) + 1 := by omega
          rw [if_pos htype, entriesOf_cons_self htype, hleft,
            List.take_succ_cons, List.drop_succ_cons, List.flatMap_cons,
            ← hpieces, ← hrest]
          exact ⟨rfl, rfl⟩
        · rw [if_neg htype, entriesOf_cons_ne htype]
          exact ih hi
      · have hfull : 4 - i = 0 := by omega
        rw [if_neg hroom, hfull, List.take_zero, List.drop_zero]
        exact ⟨rfl, rfl⟩

/-! ## Its length -/

/-- An entry whose numbers are no longer than their fields. -/
structure InRange (sv : GnssSvInfo Double) : Prop where
  elevation : (roundInt fl sv.elevation).natAbs < 100 ∧
    0 ≤ roundInt fl sv.elevation
  azimuth : (roundInt fl sv.azimuth).natAbs < 1000 ∧
    0 ≤ roundInt fl sv.azimuth
  c_n0_dbhz : (roundInt fl sv.c_n0_dbhz).natAbs < 100 ∧
    0 ≤ roundInt fl sv.c_n0_dbhz

/-- The length of a number that is not negative. -/
theorem length_dec_nonneg_le {w k : Nat} {n : Int} (hk : 0 < k) (hn : 0 ≤ n)
    (hlt : n.natAbs < 10 ^ k) : (dec w n).length ≤ max w k := by
  obtain ⟨m, rfl⟩ := Int.eq_ofNat_of_zero_le hn
  exact length_dec_natCast_le hk hlt

/-- An entry of a satellite takes 17 characters at most. -/
theorem length_gsvEntry_le {fl : CFloat Double} {sv : GnssSvInfo Double}
    (h : InRange fl sv) : (gsvEntry fl sv).flatten.length ≤ 17 := by
  have hsvid : (dec 2 sv.svid.toInt).length ≤ max 2 (5 + 1) := by
    have hlo := sv.svid.le_toInt
    have hhi := sv.svid.toInt_lt
    exact length_dec_le (by decide) (by omega)
  have helevation : (dec 2 (roundInt fl sv.elevation)).length ≤ max 2 2 :=
    length_dec_nonneg_le (by decide) h.elevation.2 h.elevation.1
  have hazimuth : (dec 3 (roundInt fl sv.azimuth)).length ≤ max 3 3 :=
    length_dec_nonneg_le (by decide) h.azimuth.2 h.azimuth.1
  have hc_n0 : (dec 2 (roundInt fl sv.c_n0_dbhz)).length ≤ max 2 2 :=
    length_dec_nonneg_le (by decide) h.c_n0_dbhz.2 h.c_n0_dbhz.1
  rw [gsvEntry]
  split
  · simp only [List.flatten_cons, List.flatten_nil, List.length_append,
      List.length_cons, List.length_nil]
    omega
  · simp only [List.flatten_cons, List.flatten_nil, List.length_append,
      List.length_cons, List.length_nil]
    omega

/-- So does each of several. -/
theorem length_gsvEntries_le {fl : CFloat Double}
    {svs : List (GnssSvInfo Double)} (h : ∀ sv ∈ svs, InRange fl sv) :
    (svs.flatMap (gsvEntry fl)).flatten.length ≤ 17 * svs.length := by
  induction svs with
  | nil => exact Nat.zero_le _
  | cons sv svs ih =>
      have hone := length_gsvEntry_le (h sv List.mem_cons_self)
      have hrest := ih (fun t ht => h t (List.mem_cons_of_mem sv ht))
      rw [List.flatMap_cons, List.flatten_append, List.length_append,
        List.length_cons]
      omega

/-- No entry holds the end of a string. -/
theorem noNul_gsvEntry {sv : GnssSvInfo Double} {text : List UInt8}
    (htext : text ∈ gsvEntry fl sv) : 0 ∉ text := by
  have hdec : ∀ (w : Nat) (n : Int), 0 ∉ dec w n :=
    fun w n h => (numeric_dec 0 h).ne (by decide) rfl
  rw [gsvEntry] at htext
  rcases List.mem_cons.mp htext with rfl | htext
  · simp [hdec]
  · split at htext
    · rw [List.mem_singleton.mp htext]
      exact hdec _ _
    · cases htext

/-- Neither does the header. -/
theorem noNul_gsvHeader {name : String} (hname : 0 ∉ ascii name)
    (sentenceCount sentenceNumber count : Nat) :
    0 ∉ gsvHeader name sentenceCount sentenceNumber count := by
  have hdec : ∀ (w : Nat) (n : Int), 0 ∉ dec w n :=
    fun w n h => (numeric_dec 0 h).ne (by decide) rfl
  simp [gsvHeader, hname, hdec]

/-- The length of the header, behind the name. -/
theorem length_gsvHeader_le {name : String}
    {sentenceCount sentenceNumber count : Nat}
    (hcount : sentenceCount < 10 ^ 10) (hnumber : sentenceNumber < 10 ^ 10)
    (hn : count < 10 ^ 10) :
    (gsvHeader name sentenceCount sentenceNumber count).length
      ≤ (ascii name).length + 33 := by
  have h1 : (dec 0 sentenceCount).length ≤ max 0 10 :=
    length_dec_natCast_le (by decide) hcount
  have h2 : (dec 0 sentenceNumber).length ≤ max 0 10 :=
    length_dec_natCast_le (by decide) hnumber
  have h3 : (dec 2 count).length ≤ max 2 10 :=
    length_dec_natCast_le (by decide) hn
  simp only [gsvHeader, List.length_append, List.length_cons]
  omega

/-! ## The sentences -/

/-- What the sentences of a constellation are: one blank where it has no
    entry, and else those of the parts of its entries, numbered. -/
structure Partitions (name : String) (type : GnssConstellationType)
    (svs : List (GnssSvInfo Double)) (texts : List (List UInt8)) : Prop where
  blank : entriesOf type svs = [] →
    texts = [sealed (ascii (name ++ ",1,1,0,"))]
  parts : entriesOf type svs ≠ [] → ∃ parts, Parts (entriesOf type svs) parts ∧
    texts = parts.mapIdx (fun k part => sealed (gsvText fl name parts.length
      (k + 1) (entriesOf type svs).length part))

variable {fl}

/-- **THE LOOP OVER THE SENTENCES**: each pass sends the next part. -/
theorem gsvLoop_shows (data : NmeaData Double) {name : String}
    (type : GnssConstellationType) {entries : List (GnssSvInfo Double)}
    {sentenceCount : Nat}
    (hname : 0 ∉ ascii name) (hlen : (ascii name).length = 6)
    (hrange : ∀ sv ∈ entries, InRange fl sv)
    (hcount : sentenceCount < 10 ^ 10) (hn : entries.length < 10 ^ 10)
    (R : NmeaRun Double → Prop) (left : Nat) :
    ∀ (sent : Nat) (svs : List (GnssSvInfo Double))
      (texts : List (List UInt8)), sent + left = sentenceCount →
      entriesOf type svs = entries.drop (4 * sent) →
      Meets (Shows data texts)
        (block (gsvLoop fl name type sentenceCount entries.length left
          (sent + 1) svs))
        (Shows data (texts ++ (List.range' sent left).flatMap (fun k =>
          sendText data (sealed (gsvText fl name sentenceCount (k + 1)
            entries.length ((entries.drop (4 * k)).take 4)))))) R := by
  induction left with
  | zero =>
      intro sent svs texts hsent hsvs
      refine Meets.nil (fun st hst => ?_)
      rwa [List.range'_zero, List.flatMap_nil, List.append_nil]
  | succ left ih =>
      intro sent svs texts hsent hsvs
      obtain ⟨hpieces, hrest⟩ := gsvFill_eq fl type (Nat.zero_le 4) svs
      rw [Nat.sub_zero, hsvs] at hpieces hrest
      rw [List.drop_drop, ← Nat.mul_succ] at hrest
      rw [List.range'_succ, List.flatMap_cons, ← List.append_assoc, gsvLoop]
      refine Meets.append (shows_sent (fun calls => ?_) texts)
        (ih (sent + 1) _ _ (by omega) hrest)
      have htext : gsvText fl name sentenceCount (sent + 1) entries.length
          ((entries.drop (4 * sent)).take 4)
          = (gsvHeader name sentenceCount (sent + 1) entries.length
            :: (gsvFill fl type 0 svs).1).flatten := by
        rw [List.flatten_cons, hpieces]
        rfl
      have hheader : (gsvHeader name sentenceCount (sent + 1)
          entries.length).length ≤ (ascii name).length + 33 :=
        length_gsvHeader_le hcount (by omega) hn
      have hentries : (((entries.drop (4 * sent)).take 4).flatMap
          (gsvEntry fl)).flatten.length
            ≤ 17 * ((entries.drop (4 * sent)).take 4).length :=
        length_gsvEntries_le (fun sv hsv =>
          hrange sv (List.mem_of_mem_drop (List.mem_of_mem_take hsv)))
      have hfour : ((entries.drop (4 * sent)).take 4).length ≤ 4 := by
        rw [List.length_take]
        exact Nat.min_le_left _ _
      rw [htext]
      refine sentence_fits ?_ ?_ ?_ R
      · rw [List.flatten_cons, gsvHeader]
        intro h
        have hnil := congrArg List.length (List.append_eq_nil_iff.mp h).1
        rw [List.length_append, hlen] at hnil
        simp at hnil
      · intro text htext
        rcases List.mem_cons.mp htext with rfl | htext
        · exact noNul_gsvHeader hname _ _ _
        · rw [hpieces] at htext
          obtain ⟨sv, -, hsv⟩ := List.mem_flatMap.mp htext
          exact noNul_gsvEntry fl hsv
      · rw [← htext, gsvText, List.length_append]
        show _ + 6 ≤ 200
        omega

/-- The block of a constellation shows its satellites, each in one sentence, or
    that there are none. -/
theorem gsvSentences_shows (data : NmeaData Double) {name : String}
    (type : GnssConstellationType) {svs : List (GnssSvInfo Double)}
    (hname : 0 ∉ ascii name) (hlen : (ascii name).length = 6)
    (hblank : 0 ∉ ascii (name ++ ",1,1,0,"))
    (hblanklen : (ascii (name ++ ",1,1,0,")).length = 13)
    (hrange : ∀ sv ∈ svs, InRange fl sv) (hn : svs.length < 10 ^ 10)
    (R : NmeaRun Double → Prop) (texts : List (List UInt8)) :
    ∃ own, Partitions fl name type svs own ∧
      Meets (Shows data texts)
        (block (gsvSentences fl name type (entriesOf type svs).length svs))
        (Shows data (texts ++ own.flatMap (sendText data))) R := by
  rw [gsvSentences]
  by_cases hzero : (entriesOf type svs).length = 0
  · rw [if_pos hzero]
    have hnone := List.length_eq_zero_iff.mp hzero
    refine ⟨[sealed (ascii (name ++ ",1,1,0,"))],
      ⟨fun _ => rfl, fun h => absurd hnone h⟩, ?_⟩
    rw [List.flatMap_singleton]
    refine shows_sent (fun calls => blank_meets ?_ hblank ?_ R) texts
    · exact fun h => absurd hblanklen (by rw [h]; decide)
    · rw [hblanklen]
      decide
  · rw [if_neg hzero]
    have hparts := parts_partsOfFour (entriesOf type svs)
    have hcount : (partsOfFour (entriesOf type svs)
        (gsvSentenceCount (entriesOf type svs).length)).length
        = gsvSentenceCount (entriesOf type svs).length := by
      rw [partsOfFour, List.length_map, List.length_range]
    have hle : (entriesOf type svs).length ≤ svs.length :=
      List.length_filter_le _ _
    have hsent := gsvSentenceCount_eq (entriesOf type svs).length
    refine ⟨_, ⟨fun h => absurd (List.length_eq_zero_iff.mpr h) hzero,
      fun _ => ⟨_, hparts, rfl⟩⟩, ?_⟩
    have hentries : ∀ sv ∈ entriesOf type svs, InRange fl sv :=
      fun sv hsv => hrange sv (List.mem_of_mem_filter hsv)
    rw [hcount, mapIdx_partsOfFour, List.flatMap_map, List.range_eq_range']
    exact gsvLoop_shows data type hname hlen hentries (by omega) (by omega) R
      _ 0 svs texts (Nat.zero_add _) rfl

/-- **THE SENTENCES** of a report are those of the two constellations, each
    of which partitions its entries. -/
theorem generate_sv_partitions {flag : UInt8} {svStatus : GnssSvStatus Double}
    (data : NmeaData Double) (locationExtended : GpsLocationExtended Double)
    (hn : svStatus.gnss_sv_list.length < 10 ^ 10)
    (hrange : ∀ sv ∈ svStatus.gnss_sv_list, InRange fl sv) :
    ∃ data' calls gps glo,
      loc_eng_nmea_generate_sv fl flag data svStatus locationExtended
        = some (data', calls) ∧
      Partitions fl "$GPGSV" .GNSS_CONSTELLATION_GPS svStatus.gnss_sv_list gps ∧
      Partitions fl "$GLGSV" .GNSS_CONSTELLATION_GLONASS svStatus.gnss_sv_list
        glo ∧
      calls.map NmeaCall.text
        = if data.nmea_cb then gps ++ glo else [] := by
  obtain ⟨used, hused⟩ : ∃ used, used = { data with
      gps_used_mask :=
        (countSvs flag svStatus.gnss_sv_list).gps_used_mask
      glo_used_mask :=
        (countSvs flag svStatus.gnss_sv_list).glo_used_mask } := ⟨_, rfl⟩
  have hcounts := countSvs_eq flag svStatus.gnss_sv_list
  obtain ⟨gps, hgps, hgpsrun⟩ := gsvSentences_shows used
    .GNSS_CONSTELLATION_GPS (by decide : 0 ∉ ascii "$GPGSV") rfl (by decide)
    rfl hrange hn (fun _ => False) []
  obtain ⟨glo, hglo, hglorun⟩ := gsvSentences_shows used
    .GNSS_CONSTELLATION_GLONASS (by decide : 0 ∉ ascii "$GLGSV") rfl
    (by decide) rfl hrange hn (fun _ => False)
    ([] ++ gps.flatMap (sendText used))
  have hbody : Meets (Shows data []) (block (generateSvBody fl flag svStatus
      locationExtended)) (fun st => ∃ data', Shows data'
        (([] ++ gps.flatMap (sendText used)) ++ glo.flatMap (sendText used)) st)
      (fun _ => False) := by
    rw [generateSvBody]
    refine Meets.cons (setData_shows []) ?_
    rw [← hused]
    rw [hcounts]
    refine Meets.append hgpsrun (Meets.append hglorun ?_)
    refine Meets.cons (setData_shows _) (Meets.nil (fun st hst => ⟨_, hst⟩))
  obtain ⟨st, hrun, data', calls, hat, htexts⟩ := (hbody.weaken
    (fun _ h => h) (fun _ h => h) (fun _ h => False.elim h)).call
    ⟨[], At.entry data, rfl⟩
  refine ⟨st.loc_eng_data, st.calls, gps, glo, ?_, hgps, hglo, ?_⟩
  · rw [loc_eng_nmea_generate_sv, hrun]
    rfl
  · rw [hat.calls, htexts, List.nil_append, flatMap_sendText, flatMap_sendText,
      hused]
    cases data.nmea_cb <;> rfl

/-! ## Exact values -/

/-- The values of a satellite in view. -/
structure ValidSv (sv : GnssSvInfo ℚ) : Prop where
  elevation : 0 ≤ sv.elevation ∧ sv.elevation ≤ 90
  azimuth : 0 ≤ sv.azimuth ∧ sv.azimuth ≤ 360
  c_n0_dbhz : 0 ≤ sv.c_n0_dbhz ∧ sv.c_n0_dbhz ≤ 99

theorem roundInt_exact {x : ℚ} {n : Nat} (h : 0 ≤ x ∧ x ≤ n) :
    (roundInt exact x).natAbs < n + 1 ∧ 0 ≤ roundInt exact x := by
  have hpos : (0 : ℚ) ≤ 1 / 2 + x := by linarith [h.1]
  have heq : roundInt exact x = ⌊1 / 2 + x⌋ := if_pos hpos
  have hlo : 0 ≤ ⌊1 / 2 + x⌋ := Int.floor_nonneg.mpr hpos
  have hhi : ⌊1 / 2 + x⌋ < (n : Int) + 1 := by
    rw [Int.floor_lt]
    push_cast
    linarith [h.2]
  rw [heq]
  omega

/-- A valid satellite has values in the range that the lengths need. -/
theorem ValidSv.inRange {sv : GnssSvInfo ℚ} (h : ValidSv sv) :
    InRange exact sv := by
  have helevation := roundInt_exact (n := 90) h.elevation
  have hazimuth := roundInt_exact (n := 360) h.azimuth
  have hc_n0 := roundInt_exact (n := 99) h.c_n0_dbhz
  exact ⟨⟨by omega, helevation.2⟩, ⟨by omega, hazimuth.2⟩,
    ⟨by omega, hc_n0.2⟩⟩

/-- **GSV PARTITIONS**: for every report of an `int`'s length, whatever its
    constellations and their order, the sentences are those of the parts of
    the GPS entries and then those of the parts of the GLONASS entries, in
    the report's order, each part with the number of sentences, its own and
    that of the entries; a constellation without an entry has one blank. -/
theorem gsv_partitions (flag : UInt8) (data : NmeaData ℚ)
    (svStatus : GnssSvStatus ℚ) (locationExtended : GpsLocationExtended ℚ)
    (hint : svStatus.gnss_sv_list.length + 1 < 2 ^ 31)
    (hvalid : ∀ sv ∈ svStatus.gnss_sv_list, ValidSv sv) :
    ∃ data' calls gps glo,
      loc_eng_nmea_generate_sv exact flag data svStatus locationExtended
        = some (data', calls) ∧
      Partitions exact "$GPGSV" .GNSS_CONSTELLATION_GPS
        svStatus.gnss_sv_list gps ∧
      Partitions exact "$GLGSV" .GNSS_CONSTELLATION_GLONASS
        svStatus.gnss_sv_list glo ∧
      calls.map NmeaCall.text
        = if data.nmea_cb then gps ++ glo else [] :=
  generate_sv_partitions data locationExtended (by omega)
    (fun sv hsv => (hvalid sv hsv).inRange)

/-- Five GPS entries with one of Galileo between them. -/
def sixInView : GnssSvStatus ℚ :=
  ⟨[⟨3, .GNSS_CONSTELLATION_GPS, 40, 45, 120, 0⟩,
    ⟨7, .GNSS_CONSTELLATION_GPS, 0, 90, 360, 0⟩,
    ⟨11, .GNSS_CONSTELLATION_GALILEO, 99, 0, 0, 0⟩,
    ⟨9, .GNSS_CONSTELLATION_GPS, 33, 10, 15, 0⟩,
    ⟨14, .GNSS_CONSTELLATION_GPS, 28, 20, 200, 0⟩,
    ⟨32, .GNSS_CONSTELLATION_GPS, 51, 67, 301, 0⟩]⟩

/-- Nothing is known of the position. -/
def noPosition : GpsLocationExtended ℚ := ⟨false, false, false, 0, 0, 0, 0, 0⟩

/-- An engine with a callback, and nothing else. -/
def callbackData : NmeaData ℚ :=
  ⟨⟨⟨.LOC_POSITION_MODE_STANDALONE, .GPS_POSITION_RECURRENCE_PERIODIC, 0, 0, 0,
    Vector.replicate 14 0, Vector.replicate 8 0⟩, true⟩, true, 0, 0, 0, 0, 0⟩

/-- Two sentences for the GPS entries, and a blank one. -/
theorem gsv_partitions_six : ∃ data' calls gps glo,
    loc_eng_nmea_generate_sv exact 4 callbackData sixInView noPosition
      = some (data', calls) ∧
    Partitions exact "$GPGSV" .GNSS_CONSTELLATION_GPS sixInView.gnss_sv_list
      gps ∧
    Partitions exact "$GLGSV" .GNSS_CONSTELLATION_GLONASS
      sixInView.gnss_sv_list glo ∧
    calls.map NmeaCall.text = gps ++ glo := by
  refine gsv_partitions 4 callbackData sixInView noPosition (by decide) ?_
  intro sv hsv
  simp only [sixInView, List.mem_cons, List.not_mem_nil, or_false] at hsv
  rcases hsv with rfl | rfl | rfl | rfl | rfl | rfl <;>
    exact ⟨by norm_num, by norm_num, by norm_num⟩

end QcomNmea
