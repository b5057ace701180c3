import QcomCommon.NmeaSvProofs

/-! # Position sentences

    `loc_eng_nmea_generate_pos` writes the sentences of a final position
    report, and blank ones for a report that is not final.  The satellites of
    the GSA sentences are those that the last satellite report left as masks,
    which a final report uses up (`gsa_lists_used`). -/

namespace QcomNmea

open QcomCString QcomReturn QcomPrintf QcomSv QcomEng

/-- The members of `tm` that are read. -/
structure Tm where
  tm_year : Int
  tm_mon : Int
  tm_mday : Int
  tm_hour : Int
  tm_min : Int
  tm_sec : Int
deriving DecidableEq, Repr

/-- `UlpLocation`, of which the sentences use the `GpsLocation`: the bits of
    its flags that are read, and its members. -/
structure UlpLocation (Double : Type) where
  GPS_LOCATION_HAS_LAT_LONG : Bool
  GPS_LOCATION_HAS_ALTITUDE : Bool
  GPS_LOCATION_HAS_SPEED : Bool
  GPS_LOCATION_HAS_BEARING : Bool
  latitude : Double
  longitude : Double
  altitude : Double
  speed : Double
  bearing : Double
  timestamp : Int

/-! ## The satellites -/

/-- The loop over a mask, for the passes that its 32 bits allow; `i` is the
    number of the satellite. -/
def usedLoop (offset : Nat) : Nat → Nat → BitVec 32 → List Nat → List Nat
  | 0, _, _, used => used
  | passes + 1, i, mask, used =>
      if 0 < mask ∧ used.length < 32 then
        usedLoop offset passes (i + 1) (mask >>> 1)
          (if mask &&& 1 ≠ 0 then used ++ [i + offset] else used)
      else used

/-- `svUsedList` and `gloUsedList`. -/
def usedList (offset : Nat) (mask : BitVec 32) : List Nat :=
  usedLoop offset 32 1 mask []

/-- What is added to the number of a GLONASS satellite. -/
def GLONASS_SV_ID_OFFSET : Nat := 64

/-- No fix, 2D or 3D. -/
def fixType (svUsedCount : Nat) : UInt8 :=
  if svUsedCount = 0 then 49 else if svUsedCount ≤ 3 then 50 else 51

/-- The field of the sentence for the satellite `i`. -/
def gsaField (svUsedList : List Nat) (i : Nat) : List UInt8 :=
  (svUsedList[i]?).elim [] (fun id => dec 2 id)

/-- The fields of a GSA sentence, by the pieces they are written in. -/
def gsaFields (name : String) (svUsedList : List Nat) :
    List (List (List UInt8)) :=
  [ascii name, ascii "A", [fixType svUsedList.length]]
    :: (List.range 12).map (fun i => [gsaField svUsedList i])

section Texts

variable {Double : Type} (fl : CFloat Double)

/-- Where the DOP of the sentences are: in the report, or kept from the last
    satellite report. -/
def dops (data : NmeaData Double)
    (locationExtended : GpsLocationExtended Double) :
    Option (Double × Double × Double) :=
  if locationExtended.GPS_LOCATION_EXTENDED_HAS_DOP then
    some (locationExtended.pdop, locationExtended.hdop, locationExtended.vdop)
  else if fl.lt (fl.lit 0) data.pdop && fl.lt (fl.lit 0) data.hdop
      && fl.lt (fl.lit 0) data.vdop then
    some (data.pdop, data.hdop, data.vdop)
  else none

/-- `"%.1f"`. -/
def oneDigit (x : Double) : List UInt8 := fl.print 0 1 x

/-- The three dilutions of precision, or only the commas between. -/
def dopText (dop : Option (Double × Double × Double)) : List UInt8 :=
  dop.elim [44, 44] (fun d => oneDigit fl d.1 ++ (44 :: oneDigit fl d.2.1
    ++ 44 :: oneDigit fl d.2.2))

/-! ## The other sentences -/

/-- The letter of the mode, at the end of two sentences. -/
def modeText (data : NmeaData Double) (location : UlpLocation Double) :
    List UInt8 :=
  if !location.GPS_LOCATION_HAS_LAT_LONG then [78]
  else if data.adapter.mFixCriteria.mode = .LOC_POSITION_MODE_STANDALONE then
    [65]
  else [68]

/-- The speed in knots. -/
def speedKnots (location : UlpLocation Double) : Double :=
  fl.toFloat (fl.mul location.speed (fl.div (fl.lit 3600) (fl.lit 1852)))

/-- The speed in kilometres an hour. -/
def speedKmPerHour (location : UlpLocation Double) : Double :=
  fl.toFloat (fl.mul location.speed (fl.lit (36 / 10)))

/-- The fields of `$GPVTG` up to the mode, in the pieces they are printed in. -/
def vtgFields (location : UlpLocation Double) : List (List (List UInt8)) :=
  [ -- the track with the magnetic deviation is a variable of an inner block,
    -- and what is printed is the outer one of its name
    if location.GPS_LOCATION_HAS_BEARING then
      [ascii "$GPVTG", oneDigit fl location.bearing, ascii "T",
        oneDigit fl location.bearing, ascii "M"]
    else [ascii "$GPVTG", [], ascii "T", [], ascii "M"],
    if location.GPS_LOCATION_HAS_SPEED then
      [oneDigit fl (speedKnots fl location), ascii "N",
        oneDigit fl (speedKmPerHour fl location), ascii "K"]
    else [[], ascii "N", [], ascii "K"] ]

/-- `"%02d%02d%02d.%02d"`. -/
def timeText (pTm : Tm) (location : UlpLocation Double) : List UInt8 :=
  dec 2 pTm.tm_hour ++ (dec 2 pTm.tm_min ++ (dec 2 pTm.tm_sec
    ++ 46 :: dec 2 ((location.timestamp.tmod 1000).tdiv 10)))

/-- `"%2.2d%2.2d%2.2d"`. -/
def dateText (pTm : Tm) : List UInt8 :=
  decPrecision 2 pTm.tm_mday ++ (decPrecision 2 (pTm.tm_mon + 1)
    ++ decPrecision 2 (pTm.tm_year.tmod 100))

/-- The letter of a latitude, and its size. -/
def latHemisphere (latitude : Double) : UInt8 × Double :=
  if fl.lt (fl.lit 0) latitude then (78, latitude)
  else (83, fl.mul latitude (fl.lit (-1)))

/-- The letter of a longitude, and its size. -/
def lonHemisphere (longitude : Double) : UInt8 × Double :=
  if fl.lt longitude (fl.lit 0) then (87, fl.mul longitude (fl.lit (-1)))
  else (69, longitude)

/-- Degrees with `w` digits and minutes with six decimals. -/
def angleText (w : Nat) (size : Double) : List UInt8 :=
  dec w (fl.toUInt8 (fl.floor size)).toNat
    ++ fl.print 9 6 (fl.fmod (fl.mul size (fl.lit 60)) (fl.lit 60))

/-- The four fields of a place. -/
def latLongFields (location : UlpLocation Double) : List (List UInt8) :=
  if location.GPS_LOCATION_HAS_LAT_LONG then
    let lat := latHemisphere fl location.latitude
    let lon := lonHemisphere fl location.longitude
    [angleText fl 2 lat.2, [lat.1], angleText fl 3 lon.2, [lon.1]]
  else [[], [], [], []]

/-- The fields of `$GPRMC` up to the mode. -/
def rmcFields (pTm : Tm) (location : UlpLocation Double)
    (locationExtended : GpsLocationExtended Double) :
    List (List (List UInt8)) :=
  [ [ascii "$GPRMC", timeText pTm location, ascii "A"],
    latLongFields fl location,
    if location.GPS_LOCATION_HAS_SPEED then
      [oneDigit fl (speedKnots fl location)]
    else [[]],
    if location.GPS_LOCATION_HAS_BEARING then [oneDigit fl location.bearing]
    else [[]],
    [dateText pTm],
    if locationExtended.GPS_LOCATION_EXTENDED_HAS_MAG_DEV then
      let magneticVariation := locationExtended.magneticDeviation
      if fl.lt magneticVariation (fl.lit 0) then
        [oneDigit fl (fl.toFloat (fl.mul magneticVariation (fl.lit (-1)))),
          ascii "W"]
      else [oneDigit fl magneticVariation, ascii "E"]
    else [[], []] ]

/-- The quality of the fix: `0` for none, `1` for standalone, `2` else. -/
def gpsQuality (data : NmeaData Double) (location : UlpLocation Double) :
    UInt8 :=
  if !location.GPS_LOCATION_HAS_LAT_LONG then 48
  else if data.adapter.mFixCriteria.mode = .LOC_POSITION_MODE_STANDALONE then 49
  else 50

/-- The fields of `$GPGGA` up to the altitude. -/
def ggaFields (data : NmeaData Double) (pTm : Tm)
    (location : UlpLocation Double)
    (locationExtended : GpsLocationExtended Double) (svUsedCount : Nat) :
    List (List (List UInt8)) :=
  [ [ascii "$GPGGA", timeText pTm location],
    latLongFields fl location,
    [[gpsQuality data location], dec 2 svUsedCount,
      (dops fl data locationExtended).elim [] (fun d => oneDigit fl d.2.1)],
    if locationExtended.GPS_LOCATION_EXTENDED_HAS_ALTITUDE_MEAN_SEA_LEVEL then
      [oneDigit fl locationExtended.altitudeMeanSeaLevel, ascii "M"]
    else [[], []] ]

/-- The end of `$GPGGA`: the height of the geoid, if both altitudes are
    there. -/
def ggaLast (location : UlpLocation Double)
    (locationExtended : GpsLocationExtended Double) : List UInt8 :=
  if location.GPS_LOCATION_HAS_ALTITUDE
      && locationExtended.GPS_LOCATION_EXTENDED_HAS_ALTITUDE_MEAN_SEA_LEVEL then
    line [oneDigit fl (fl.sub location.altitude
      locationExtended.altitudeMeanSeaLevel), ascii "M", []]
  else line [[], [], []]

/-! ## The function -/

/-- The DOP kept from the last satellite report are not used again. -/
def clearDop (data : NmeaData Double) : NmeaData Double :=
  { data with pdop := fl.lit 0, hdop := fl.lit 0, vdop := fl.lit 0 }

/-- A sentence by its fields, and a last piece. -/
def fieldSentence (fields : List (List (List UInt8))) (last : List UInt8) :
    List (Stmt (NmeaRun Double)) :=
  openSentence (fields.map line) last

/-- The sentences of a final report.  What is read of the data has its value
    from the entry until it is read. -/
def finalBody (data : NmeaData Double) (pTm : Tm)
    (location : UlpLocation Double)
    (locationExtended : GpsLocationExtended Double) :
    List (Stmt (NmeaRun Double)) :=
  let svUsedList := usedList 0 data.gps_used_mask
  let gloUsedList := usedList GLONASS_SV_ID_OFFSET data.glo_used_mask
  let dop := dopText fl (dops fl data locationExtended)
  setData (fun data => { data with gps_used_mask := 0 })
    :: (fieldSentence (gsaFields "$GPGSA" svUsedList) dop
  ++ setData (fun data => { data with glo_used_mask := 0 })
    :: (fieldSentence (gsaFields "$GNGSA" gloUsedList) dop
  ++ (fieldSentence (vtgFields fl location) (modeText data location)
  ++ (fieldSentence (rmcFields fl pTm location locationExtended)
        (modeText data location)
  ++ (fieldSentence (ggaFields fl data pTm location locationExtended
          svUsedList.length) (ggaLast fl location locationExtended)
  ++ [setData (clearDop fl)])))))

/-- The sentences of a report that is not final. -/
def blankBody : List (Stmt (NmeaRun Double)) :=
  blankSentence "$GPGSA,A,1,,,,,,,,,,,,,,,"
  ++ (blankSentence "$GNGSA,A,1,,,,,,,,,,,,,,,"
  ++ (blankSentence "$GPVTG,,T,,M,,N,,K,N"
  ++ (blankSentence "$GPRMC,,V,,,,,,,,,,N"
  ++ (blankSentence "$GPGGA,,,,,,0,,,,,,,,"
  ++ [setData (clearDop fl)]))))

/-- `loc_eng_nmea_generate_pos`: the data it leaves, and its calls. -/
def loc_eng_nmea_generate_pos (gmtime : Int → Option Tm)
    (loc_eng_data : NmeaData Double) (location : UlpLocation Double)
    (locationExtended : GpsLocationExtended Double) (generate_nmea : Bool) :
    Option (NmeaData Double × List NmeaCall) :=
  (gmtime (location.timestamp.tdiv 1000)).elim (some (loc_eng_data, []))
    (fun pTm =>
      (call (if generate_nmea then
          finalBody fl loc_eng_data pTm location locationExtended
        else blankBody fl) (NmeaRun.entry loc_eng_data)).map
        (fun st => (st.loc_eng_data, st.calls)))

/-- Position reports, none of which is final. -/
def nonFinalReports (gmtime : Int → Option Tm) :
    NmeaData Double → List (UlpLocation Double × GpsLocationExtended Double) →
      Option (NmeaData Double × List NmeaCall)
  | data, [] => some (data, [])
  | data, r :: reports =>
      (loc_eng_nmea_generate_pos fl gmtime data r.1 r.2 false).bind (fun p =>
        (nonFinalReports gmtime p.1 reports).map (fun q =>
          (q.1, p.2 ++ q.2)))

end Texts

/-! ## Fields without a comma -/

/-- A text that is one field. -/
def Plain (s : List UInt8) : Prop := ∀ b ∈ s, b ≠ 0 ∧ b ≠ 44

instance (s : List UInt8) : Decidable (Plain s) :=
  List.decidableBAll (fun b => b ≠ 0 ∧ b ≠ 44) s

/-- A field has no NUL. -/
theorem Plain.noNul {s : List UInt8} (h : Plain s) : 0 ∉ s :=
  fun hmem => (h 0 hmem).1 rfl

/-- It has no comma. -/
theorem Plain.noComma {s : List UInt8} (h : Plain s) : 44 ∉ s :=
  fun hmem => (h 44 hmem).2 rfl

@[simp] theorem plain_nil : Plain [] := fun _ h => absurd h List.not_mem_nil

/-- One character is a field if it is neither. -/
theorem plain_byte {b : UInt8} (h : b ≠ 0 ∧ b ≠ 44) : Plain [b] := by
  intro c hc
  rwa [List.mem_singleton.mp hc]

/-- Two fields printed behind each other are one field. -/
theorem Plain.append {s t : List UInt8} (hs : Plain s) (ht : Plain t) :
    Plain (s ++ t) := by
  intro b hb
  rcases List.mem_append.mp hb with hb | hb
  · exact hs b hb
  · exact ht b hb

/-- A number is a field. -/
theorem plain_of_numeric {s : List UInt8} (h : ∀ b ∈ s, Numeric b) : Plain s :=
  fun b hb => ⟨(h b hb).ne (by decide), (h b hb).ne (by decide)⟩

@[simp] theorem plain_dec (w : Nat) (n : Int) : Plain (dec w n) :=
  plain_of_numeric numeric_dec

/-- The number of a satellite is a field, and so is the blank without one. -/
theorem plain_gsaField (svUsedList : List Nat) (i : Nat) :
    Plain (gsaField svUsedList i) := by
  rw [gsaField]
  cases svUsedList[i]? with
  | none => exact plain_nil
  | some id => exact plain_dec 2 id

@[simp] theorem plain_dateText (pTm : Tm) : Plain (dateText pTm) :=
  (plain_of_numeric numeric_decPrecision).append
    ((plain_of_numeric numeric_decPrecision).append
      (plain_of_numeric numeric_decPrecision))

section PlainTexts

variable {Double : Type} {fl : CFloat Double}

@[simp] theorem plain_oneDigit (x : Double) : Plain (oneDigit fl x) :=
  fl.print_plain 0 1 x

@[simp] theorem plain_timeText (pTm : Tm) (location : UlpLocation Double) :
    Plain (timeText pTm location) :=
  (plain_dec 2 _).append ((plain_dec 2 _).append ((plain_dec 2 _).append
    ((plain_byte (b := 46) ⟨by decide, by decide⟩).append (plain_dec 2 _))))

@[simp] theorem plain_angleText (w : Nat) (size : Double) :
    Plain (angleText fl w size) :=
  (plain_dec w _).append (fl.print_plain 9 6 _)

/-- The letter of a latitude is a field. -/
@[simp] theorem plain_latHemisphere (latitude : Double) :
    Plain [(latHemisphere fl latitude).1] := by
  rw [latHemisphere]
  split
  · exact plain_byte (b := 78) ⟨by decide, by decide⟩
  · exact plain_byte (b := 83) ⟨by decide, by decide⟩

@[simp] theorem plain_lonHemisphere (longitude : Double) :
    Plain [(lonHemisphere fl longitude).1] := by
  rw [lonHemisphere]
  split
  · exact plain_byte (b := 87) ⟨by decide, by decide⟩
  · exact plain_byte (b := 69) ⟨by decide, by decide⟩

/-- A place is four fields, blank or not. -/
theorem plain_latLongFields (location : UlpLocation Double) :
    ∀ f ∈ latLongFields fl location, Plain f := by
  intro f hf
  rw [latLongFields] at hf
  split at hf
  · simp only [List.mem_cons, List.not_mem_nil, or_false] at hf
    rcases hf with rfl | rfl | rfl | rfl
    · exact plain_angleText 2 _
    · exact plain_latHemisphere _
    · exact plain_angleText 3 _
    · exact plain_lonHemisphere _
  · simp only [List.mem_cons, List.not_mem_nil, or_false, or_self] at hf
    rw [hf]
    exact plain_nil

/-- There are four in any case. -/
theorem length_latLongFields (fl : CFloat Double)
    (location : UlpLocation Double) :
    (latLongFields fl location).length = 4 := by
  rw [latLongFields]
  split <;> rfl

end PlainTexts

/-! ## The sentences of a report -/

/-- Fields without a comma, by the pieces they are written in. -/
def PlainFields (fields : List (List (List UInt8))) : Prop :=
  ∀ f ∈ fields.flatten, Plain f

theorem plainFields_nil : PlainFields [] := fun _ hf => by cases hf

/-- Fields without a comma, piece by piece. -/
theorem plainFields_cons {piece : List (List UInt8)}
    {fields : List (List (List UInt8))} :
    PlainFields (piece :: fields) ↔
      (∀ f ∈ piece, Plain f) ∧ PlainFields fields := by
  rw [PlainFields, List.flatten_cons, List.forall_mem_append, PlainFields]

/-- The pieces behind each other are the line of all fields. -/
theorem flatten_map_line (fields : List (List (List UInt8))) :
    (fields.map line).flatten = line fields.flatten := by
  induction fields with
  | nil => rfl
  | cons piece fields ih =>
      rw [List.map_cons, List.flatten_cons, ih, List.flatten_cons, line_append]

/-- A field of a sentence that was sent. -/
theorem PlainFields.fieldAt {fields : List (List (List UInt8))}
    (h : PlainFields fields) {text : List UInt8}
    (hpre : (fields.map line).flatten <+: text) {k : Nat} {f : List UInt8}
    (hk : fields.flatten[k]? = some f) : fieldAt k text = f := by
  rw [flatten_map_line] at hpre
  obtain ⟨hlt, rfl⟩ := List.getElem?_eq_some_iff.mp hk
  exact fieldAt_prefix hpre (fun f hf => (h f hf).noComma) hlt

/-- **A SENTENCE OF FIELDS** among the calls. -/
theorem fieldSentence_sends {Double : Type} {data : NmeaData Double}
    {P : NmeaCall → Prop} {begun : List (List UInt8)}
    {fields : List (List (List UInt8))} {last : List UInt8}
    (hfields : PlainFields fields) (hne : fields.flatten ≠ [])
    (hlast : 0 ∉ last)
    (hP : ∀ c : NmeaCall, (fields.map line).flatten <+: c.text → P c) :
    Meets (Sends data P begun) (block (fieldSentence fields last))
      (Sends data P ((fields.map line).flatten :: begun))
      (fun st => Sends data P begun st ∧
        NMEA_SENTENCE_MAX_LENGTH ≤ (fields.map line).flatten.length) := by
  refine sentence_sends ?_ ?_ hlast hP
  · obtain ⟨f, fs, hcons⟩ := List.exists_cons_of_ne_nil hne
    rw [flatten_map_line, hcons, line_cons]
    exact List.append_ne_nil_of_right_ne_nil _ (List.cons_ne_nil _ _)
  · intro text htext
    obtain ⟨piece, hpiece, rfl⟩ := List.mem_map.mp htext
    exact noNul_line (fun f hf =>
      (hfields f (List.mem_flatten_of_mem hpiece hf)).noNul)

/-- The fields of a GSA sentence have no comma. -/
theorem plainFields_gsa {name : String} (hname : Plain (ascii name))
    (svUsedList : List Nat) : PlainFields (gsaFields name svUsedList) := by
  have hfix : Plain [fixType svUsedList.length] := by
    refine plain_byte ?_
    rw [fixType]
    split
    · decide
    · split <;> decide
  intro f hf
  rw [gsaFields, List.flatten_cons, List.mem_append] at hf
  rcases hf with hf | hf
  · simp only [List.mem_cons, List.not_mem_nil, or_false] at hf
    rcases hf with rfl | rfl | rfl
    · exact hname
    · decide
    · exact hfix
  · obtain ⟨piece, hpiece, hf⟩ := List.mem_flatten.mp hf
    obtain ⟨i, -, rfl⟩ := List.mem_map.mp hpiece
    rw [List.mem_singleton.mp hf]
    exact plain_gsaField svUsedList i

section FinalFields

variable {Double : Type} (fl : CFloat Double) (data : NmeaData Double)
  (pTm : Tm) (location : UlpLocation Double)
  (locationExtended : GpsLocationExtended Double)

/-- Those of `$GPVTG` have none. -/
theorem plainFields_vtg : PlainFields (vtgFields fl location) := by
  rw [vtgFields, plainFields_cons, plainFields_cons]
  refine ⟨?_, ?_, plainFields_nil⟩
  · split
    · simp only [List.forall_mem_cons]
      exact ⟨by decide, plain_oneDigit _, by decide, plain_oneDigit _,
        by decide, List.forall_mem_nil _⟩
    · decide
  · split
    · simp only [List.forall_mem_cons]
      exact ⟨plain_oneDigit _, by decide, plain_oneDigit _, by decide,
        List.forall_mem_nil _⟩
    · decide

/-- Those of `$GPRMC` have none. -/
theorem plainFields_rmc :
    PlainFields (rmcFields fl pTm location locationExtended) := by
  simp only [rmcFields, plainFields_cons]
  refine ⟨?_, plain_latLongFields location, ?_, ?_, ?_, ?_, plainFields_nil⟩
  · simp only [List.forall_mem_cons]
    exact ⟨by decide, plain_timeText pTm location, by decide,
      List.forall_mem_nil _⟩
  · split <;> simp
  · split <;> simp
  · simp only [List.forall_mem_cons]
    exact ⟨plain_dateText pTm, List.forall_mem_nil _⟩
  · split
    · split
      · simp only [List.forall_mem_cons]
        exact ⟨plain_oneDigit _, by decide, List.forall_mem_nil _⟩
      · simp only [List.forall_mem_cons]
        exact ⟨plain_oneDigit _, by decide, List.forall_mem_nil _⟩
    · decide

/-- Those of `$GPGGA` have none. -/
theorem plainFields_gga (svUsedCount : Nat) : PlainFields
    (ggaFields fl data pTm location locationExtended svUsedCount) := by
  have hquality : Plain [gpsQuality data location] := by
    refine plain_byte ?_
    rw [gpsQuality]
    split
    · decide
    · split <;> decide
  have hdop : Plain ((dops fl data locationExtended).elim []
      (fun d => oneDigit fl d.2.1)) := by
    cases dops fl data locationExtended with
    | none => exact plain_nil
    | some d => exact plain_oneDigit _
  simp only [ggaFields, plainFields_cons]
  refine ⟨?_, plain_latLongFields location, ?_, ?_, plainFields_nil⟩
  · simp only [List.forall_mem_cons]
    exact ⟨by decide, plain_timeText pTm location, List.forall_mem_nil _⟩
  · simp only [List.forall_mem_cons]
    exact ⟨hquality, plain_dec 2 _, hdop, List.forall_mem_nil _⟩
  · split
    · simp only [List.forall_mem_cons]
      exact ⟨plain_oneDigit _, by decide, List.forall_mem_nil _⟩
    · decide

/-- There is no NUL in what is printed last of a GSA sentence. -/
theorem noNul_dopText (dop : Option (Double × Double × Double)) :
    0 ∉ dopText fl dop := by
  have hdigit : ∀ x, 0 ∉ oneDigit fl x := fun x => (plain_oneDigit x).noNul
  cases dop with
  | none => exact (by decide : (0 : UInt8) ∉ [44, 44])
  | some d => simp [dopText, hdigit]

theorem noNul_modeText : 0 ∉ modeText data location := by
  rw [modeText]
  split
  · decide
  · split <;> decide

/-- Nor is there at the end of `$GPGGA`. -/
theorem noNul_ggaLast : 0 ∉ ggaLast fl location locationExtended := by
  rw [ggaLast]
  split
  · refine noNul_line (fun f hf => ?_)
    simp only [List.mem_cons, List.not_mem_nil, or_false] at hf
    rcases hf with rfl | rfl | rfl
    · exact (plain_oneDigit _).noNul
    · decide
    · exact List.not_mem_nil
  · decide

end FinalFields

end QcomNmea
