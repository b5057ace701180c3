import QcomCommon.NmeaGsaProofs

/-! # Latitude and longitude

    The sentences RMC and GGA print a place as whole degrees, cut off, and
    minutes with six decimals, rounded.  Over the exact numbers what is
    printed reads back to the place in any case (`angle_near`); but minutes
    from 59.9999995 on are printed as 60, with the degrees below
    (`latLong_valid_iff`). -/

namespace QcomNmea

open QcomCString QcomPrintf

/-! ## Reading a place -/

/-- The degrees of a field, in its first `w` digits. -/
def degreesOf (w : Nat) (field : List UInt8) : Nat := value (field.take w)

/-- The minutes of a field, behind these. -/
def minutesOf (w : Nat) (field : List UInt8) : ℚ := decimal (field.drop w)

/-- Half a unit of the last digit of the minutes. -/
def halfUnit : ℚ := 1 / 2 / 10 ^ 6

/-- A field with its letter, `positive` or `negative`, is valid, and reads
    back as the angle `x`. -/
structure AngleValid (w maxDegrees : Nat) (positive negative : String)
    (field letter : List UInt8) (x : ℚ) : Prop where
  hemisphere : letter = ascii positive ∨ letter = ascii negative
  degrees : degreesOf w field ≤ maxDegrees
  minutes : 0 ≤ minutesOf w field ∧ minutesOf w field < 60
  near : |(if letter = ascii negative then -1 else 1)
      * (degreesOf w field + minutesOf w field / 60) - x| ≤ halfUnit / 60

/-- The four fields of a place from the field `k` on. -/
structure PlaceValid (k : Nat) (latitude longitude : ℚ) (text : List UInt8) :
    Prop where
  latitude : AngleValid 2 90 "N" "S" (fieldAt k text) (fieldAt (k + 1) text)
    latitude
  longitude : AngleValid 3 180 "E" "W" (fieldAt (k + 2) text)
    (fieldAt (k + 3) text) longitude

/-- The minutes beyond the whole degrees. -/
def minutesBeyond (x : ℚ) : ℚ := |x| * 60 - 60 * ⌊|x|⌋

/-! ## What is printed -/

theorem exact_fmod {size : ℚ} (hsize : 0 ≤ size) :
    exact.fmod (exact.mul size (exact.lit 60)) (exact.lit 60)
      = minutesBeyond size := by
  have hdiv : size * 60 / 60 = size := mul_div_cancel_right₀ size (by norm_num)
  show size * 60 - 60 * (trunc (size * 60 / 60) : ℚ) = _
  rw [hdiv, trunc, if_pos hsize, minutesBeyond, abs_of_nonneg hsize]

theorem minutesBeyond_range (x : ℚ) :
    0 ≤ minutesBeyond x ∧ minutesBeyond x < 60 := by
  have hlo := Int.floor_le |x|
  have hhi := Int.lt_floor_add_one |x|
  rw [minutesBeyond]
  constructor <;> linarith

/-- **THE FIELD** has the whole degrees, and the minutes rounded. -/
theorem angleText_exact {w : Nat} {size : ℚ} {n : Nat} (hw : 0 < w)
    (hn : n < 10 ^ w) (hbyte : n < 256) (hsize : 0 ≤ size)
    (hle : size ≤ n) :
    (degreesOf w (angleText exact w size) : ℚ) = ⌊size⌋ ∧
      degreesOf w (angleText exact w size) ≤ n ∧
      minutesOf w (angleText exact w size)
        = roundEven (minutesBeyond size * 10 ^ 6) / 10 ^ 6 := by
  obtain ⟨d, hd⟩ := Int.eq_ofNat_of_zero_le (Int.floor_nonneg.mpr hsize)
  have hdn : d ≤ n := by
    have hfloor : ⌊size⌋ ≤ (n : Int) := Int.floor_le_iff.mpr (by
      push_cast
      linarith)
    omega
  have hdegrees : (exact.toUInt8 (exact.floor size)).toNat = d := by
    have hcast : (0 : ℚ) ≤ (⌊size⌋ : ℚ) := by
      exact_mod_cast Int.floor_nonneg.mpr hsize
    show (UInt8.ofNat (trunc (⌊size⌋ : ℚ)).toNat).toNat = d
    rw [trunc, if_pos hcast, Int.floor_intCast, hd, UInt8.toNat_ofNat']
    show d % 256 = d
    omega
  have hlen : (dec w d).length = w := by
    rw [dec_natCast]
    exact length_leftpad_digits hw (by omega)
  have htext : angleText exact w size
      = dec w d ++ fixed 9 6 (minutesBeyond size) := by
    rw [angleText, hdegrees, exact_fmod hsize]
    rfl
  have hdeg : degreesOf w (angleText exact w size) = d := by
    rw [degreesOf, htext, List.take_left' hlen, value_dec]
  refine ⟨?_, ?_, ?_⟩
  · rw [hdeg, hd]
    rfl
  · rwa [hdeg]
  · rw [minutesOf, htext, List.drop_left' hlen]
    exact decimal_fixed (by decide) (minutesBeyond_range size).1

theorem minutes_near (x : ℚ) :
    |(roundEven (minutesBeyond x * 10 ^ 6) : ℚ) / 10 ^ 6 - minutesBeyond x|
      ≤ halfUnit := by
  have hround := abs_roundEven_sub_le (minutesBeyond x * 10 ^ 6)
  have hscale : (roundEven (minutesBeyond x * 10 ^ 6) : ℚ) / 10 ^ 6
      - minutesBeyond x
      = ((roundEven (minutesBeyond x * 10 ^ 6) : ℚ)
        - minutesBeyond x * 10 ^ 6) / 10 ^ 6 := by
    ring
  rw [hscale, abs_div, abs_of_pos (by norm_num : (0 : ℚ) < 10 ^ 6), halfUnit]
  exact div_le_div_of_nonneg_right hround (by norm_num)

/-- Minutes are printed as less than 60 where they round to less. -/
theorem minutes_lt_iff (x : ℚ) :
    (roundEven (minutesBeyond x * 10 ^ 6) : ℚ) / 10 ^ 6 < 60 ↔
      minutesBeyond x < 60 - halfUnit := by
  have hround := roundEven_lt_iff (x := minutesBeyond x * 10 ^ 6)
    (n := 60000000) (by decide)
  rw [div_lt_iff₀ (by norm_num)]
  have hcast : (roundEven (minutesBeyond x * 10 ^ 6) : ℚ) < 60 * 10 ^ 6 ↔
      roundEven (minutesBeyond x * 10 ^ 6) < 60000000 := by
    rw [← Int.cast_lt (R := ℚ)]
    norm_num
  rw [hcast, hround, halfUnit]
  constructor
  · intro h
    norm_num at h ⊢
    linarith
  · intro h
    norm_num at h ⊢
    linarith

/-- **AN ANGLE** is printed so that it is valid and reads back, if and only if
    its minutes do not round up to a degree. -/
theorem angle_valid_iff {w n : Nat} {positive negative : String} {x size : ℚ}
    {letter : List UInt8} (hw : 0 < w) (hn : n < 10 ^ w) (hbyte : n < 256)
    (hsize : size = |x|) (hle : |x| ≤ n)
    (hletter : (letter = ascii negative ∧ x = -size) ∨
      (letter = ascii positive ∧ letter ≠ ascii negative ∧ x = size)) :
    AngleValid w n positive negative (angleText exact w size) letter x ↔
      minutesBeyond x < 60 - halfUnit := by
  subst hsize
  have hbeyond : minutesBeyond |x| = minutesBeyond x := by
    rw [minutesBeyond, abs_abs, minutesBeyond]
  obtain ⟨hfloor, hdegrees, hminutes⟩ := angleText_exact hw hn hbyte
    (abs_nonneg x) hle
  rw [hbeyond] at hminutes
  constructor
  · intro hvalid
    have hlt := hvalid.minutes.2
    rw [hminutes] at hlt
    exact (minutes_lt_iff x).mp hlt
  · intro hlt
    have hnear := abs_le.mp (minutes_near x)
    have hdef : minutesBeyond x = |x| * 60 - 60 * ⌊|x|⌋ := rfl
    have hround : 0 ≤ roundEven (minutesBeyond x * 10 ^ 6) :=
      roundEven_nonneg (mul_nonneg (minutesBeyond_range x).1 (by norm_num))
    refine ⟨?_, hdegrees, ⟨?_, ?_⟩, ?_⟩
    · exact hletter.elim (fun h => Or.inr h.1) (fun h => Or.inl h.1)
    · rw [hminutes]
      exact div_nonneg (by exact_mod_cast hround) (by norm_num)
    · rw [hminutes]
      exact (minutes_lt_iff x).mpr hlt
    · rw [hminutes, hfloor, abs_le]
      rcases hletter with ⟨hneg, hx⟩ | ⟨-, hneg, hx⟩
      · rw [if_pos hneg]
        constructor <;> linarith
      · rw [if_neg hneg]
        constructor <;> linarith

section Sentences

variable {location : UlpLocation ℚ}

/-- The latitude of either sentence. -/
theorem latitude_valid_iff (h : |location.latitude| ≤ 90) :
    AngleValid 2 90 "N" "S"
        (angleText exact 2 (latHemisphere exact location.latitude).2)
        [(latHemisphere exact location.latitude).1] location.latitude ↔
      minutesBeyond location.latitude < 60 - halfUnit := by
  have hlt : exact.lt (exact.lit 0) location.latitude
      = decide (0 < location.latitude) := rfl
  rw [latHemisphere, hlt]
  by_cases hpos : 0 < location.latitude
  · rw [if_pos (decide_eq_true hpos)]
    exact angle_valid_iff (by decide) (by decide) (by decide)
      (abs_of_pos hpos).symm h (Or.inr ⟨show [78] = ascii "N" by decide,
        show [78] ≠ ascii "S" by decide, rfl⟩)
  · have hle := not_lt.mp hpos
    have hneg : exact.mul location.latitude (exact.lit (-1))
        = -location.latitude := mul_neg_one _
    rw [if_neg (by simpa using hle), hneg]
    exact angle_valid_iff (by decide) (by decide) (by decide)
      (abs_of_nonpos hle).symm h (Or.inl ⟨show [83] = ascii "S" by decide,
        (neg_neg _).symm⟩)

theorem longitude_valid_iff (h : |location.longitude| ≤ 180) :
    AngleValid 3 180 "E" "W"
        (angleText exact 3 (lonHemisphere exact location.longitude).2)
        [(lonHemisphere exact location.longitude).1] location.longitude ↔
      minutesBeyond location.longitude < 60 - halfUnit := by
  have hlt : exact.lt location.longitude (exact.lit 0)
      = decide (location.longitude < 0) := rfl
  rw [lonHemisphere, hlt]
  by_cases hneg : location.longitude < 0
  · have hmul : exact.mul location.longitude (exact.lit (-1))
        = -location.longitude := mul_neg_one _
    rw [if_pos (decide_eq_true hneg), hmul]
    exact angle_valid_iff (by decide) (by decide) (by decide)
      (abs_of_neg hneg).symm h (Or.inl ⟨show [87] = ascii "W" by decide,
        (neg_neg _).symm⟩)
  · have hle := not_lt.mp hneg
    rw [if_neg (by simpa using hle)]
    exact angle_valid_iff (by decide) (by decide) (by decide)
      (abs_of_nonneg hle).symm h (Or.inr ⟨show [69] = ascii "E" by decide,
        show [69] ≠ ascii "W" by decide, rfl⟩)

/-- Neither minutes of a place round up to a degree. -/
def RoundsWithin (location : UlpLocation ℚ) : Prop :=
  minutesBeyond location.latitude < 60 - halfUnit ∧
    minutesBeyond location.longitude < 60 - halfUnit

/-- A text with the four fields of a place from the field `k` on. -/
theorem place_valid_iff {k : Nat} {text : List UInt8}
    (hplace : location.GPS_LOCATION_HAS_LAT_LONG = true)
    (hlat : |location.latitude| ≤ 90) (hlon : |location.longitude| ≤ 180)
    (hfields : ∀ (j : Nat) (f : List UInt8),
      (latLongFields exact location)[j]? = some f → fieldAt (k + j) text = f) :
    PlaceValid k location.latitude location.longitude text ↔
      RoundsWithin location := by
  rw [latLongFields, if_pos hplace] at hfields
  have h0 := hfields 0 _ rfl
  have h1 := hfields 1 _ rfl
  have h2 := hfields 2 _ rfl
  have h3 := hfields 3 _ rfl
  rw [Nat.add_zero] at h0
  rw [RoundsWithin, ← latitude_valid_iff hlat, ← longitude_valid_iff hlon, ← h0,
    ← h1, ← h2, ← h3]
  exact ⟨fun h => ⟨h.latitude, h.longitude⟩, fun h => ⟨h.1, h.2⟩⟩

/-- The fields of the place in either sentence. -/
theorem place_fields {before after : List (List UInt8)}
    {fields : List (List (List UInt8))} (hplain : PlainFields fields)
    (hflat : fields.flatten = before ++ (latLongFields exact location ++ after))
    {text : List UInt8} (hpre : (fields.map line).flatten <+: text) (j : Nat)
    (f : List UInt8) (hf : (latLongFields exact location)[j]? = some f) :
    fieldAt (before.length + j) text = f := by
  refine hplain.fieldAt hpre ?_
  obtain ⟨hlt, -⟩ := List.getElem?_eq_some_iff.mp hf
  rw [hflat, List.getElem?_append_right (Nat.le_add_right _ j),
    Nat.add_sub_cancel_left, List.getElem?_append_left hlt, hf]

/-- **LATITUDE AND LONGITUDE**: for every final report with a place, the
    fields of every RMC and GGA sentence are valid and read back, if and only
    if neither minutes round up to a degree.

    This is over the exact numbers, which have one zero: a `double` of 0.0 is
    not above 0 either, takes the letter `S` and is multiplied by -1, and the
    `-0.0` is printed with its sign, as -0.000000. -/
theorem latLong_valid_iff (gmtime : Int → Option Tm) (data : NmeaData ℚ)
    (location : UlpLocation ℚ) (locationExtended : GpsLocationExtended ℚ)
    (hplace : location.GPS_LOCATION_HAS_LAT_LONG = true)
    (hlat : -90 ≤ location.latitude ∧ location.latitude ≤ 90)
    (hlon : -180 ≤ location.longitude ∧ location.longitude ≤ 180) :
    ∃ data' calls, loc_eng_nmea_generate_pos exact gmtime data location
        locationExtended true = some (data', calls) ∧
      ∀ c ∈ calls,
        (fieldAt 0 c.text = ascii "$GPRMC" →
          (PlaceValid 3 location.latitude location.longitude c.text ↔
            RoundsWithin location)) ∧
        (fieldAt 0 c.text = ascii "$GPGGA" →
          (PlaceValid 2 location.latitude location.longitude c.text ↔
            RoundsWithin location)) := by
  have hlat := abs_le.mpr hlat
  have hlon := abs_le.mpr hlon
  cases htime : gmtime (location.timestamp.tdiv 1000) with
  | none =>
      refine ⟨data, [], ?_, fun _ h => absurd h List.not_mem_nil⟩
      rw [loc_eng_nmea_generate_pos, htime]
      rfl
  | some pTm =>
      obtain ⟨data', calls, hrun, -, hcalls, -⟩ := generate_pos_final
        exact data locationExtended htime (P := fun c =>
          (fieldAt 0 c.text = ascii "$GPRMC" →
            (PlaceValid 3 location.latitude location.longitude c.text ↔
              RoundsWithin location)) ∧
          (fieldAt 0 c.text = ascii "$GPGGA" →
            (PlaceValid 2 location.latitude location.longitude c.text ↔
              RoundsWithin location))) (by
        constructor
        · intro c hpre
          rw [usedList_eq] at hpre
          rw [(gsa_lists (by decide) hpre).1]
          exact ⟨(absurd · (by decide)), (absurd · (by decide))⟩
        · intro c hpre
          rw [usedList_eq] at hpre
          rw [(gsa_lists (by decide) hpre).1]
          exact ⟨(absurd · (by decide)), (absurd · (by decide))⟩
        · intro c hpre
          rw [vtg_name hpre]
          exact ⟨(absurd · (by decide)), (absurd · (by decide))⟩
        · intro c hpre
          rw [rmc_name hpre]
          refine ⟨fun _ => place_valid_iff hplace hlat hlon ?_,
            (absurd · (by decide))⟩
          exact place_fields (plainFields_rmc exact pTm location
            locationExtended) rfl hpre
        · intro c hpre
          rw [(gga_name hpre).1]
          refine ⟨(absurd · (by decide)),
            fun _ => place_valid_iff hplace hlat hlon ?_⟩
          exact place_fields (plainFields_gga exact data pTm location
            locationExtended _) rfl hpre)
      exact ⟨data', calls, hrun, hcalls⟩

end Sentences

/-- In the north-west both sentences are valid. -/
theorem latLong_valid_northWest : ∃ data' calls,
    loc_eng_nmea_generate_pos exact oneTime callbackData northWest noPosition
        true = some (data', calls) ∧
      ∀ c ∈ calls,
        (fieldAt 0 c.text = ascii "$GPRMC" →
          PlaceValid 3 (481173 / 10000) (-1152 / 100) c.text) ∧
        (fieldAt 0 c.text = ascii "$GPGGA" →
          PlaceValid 2 (481173 / 10000) (-1152 / 100) c.text) := by
  obtain ⟨data', calls, hrun, hcalls⟩ := latLong_valid_iff oneTime callbackData
    northWest noPosition rfl
    ⟨by norm_num [northWest], by norm_num [northWest]⟩
    ⟨by norm_num [northWest], by norm_num [northWest]⟩
  have hwithin : RoundsWithin northWest := by
    constructor <;> decide +kernel
  exact ⟨data', calls, hrun, fun c hc =>
    ⟨fun hname => ((hcalls c hc).1 hname).mpr hwithin,
      fun hname => ((hcalls c hc).2 hname).mpr hwithin⟩⟩

/-- A latitude of 47° 59.9999999'. -/
def below48 : UlpLocation ℚ :=
  { northWest with latitude := 47 + 599999999 / 600000000 }

/-- It is printed as 47° 60.000000'. -/
theorem latLong_minutes_60 :
    ¬ (∀ (location : UlpLocation ℚ), location.GPS_LOCATION_HAS_LAT_LONG = true →
      -90 ≤ location.latitude ∧ location.latitude ≤ 90 →
      -180 ≤ location.longitude ∧ location.longitude ≤ 180 →
      ∃ data' calls, loc_eng_nmea_generate_pos exact oneTime callbackData
          location noPosition true = some (data', calls) ∧
        ∀ c ∈ calls,
          (fieldAt 0 c.text = ascii "$GPRMC" →
            PlaceValid 3 location.latitude location.longitude c.text) ∧
          (fieldAt 0 c.text = ascii "$GPGGA" →
            PlaceValid 2 location.latitude location.longitude c.text)) := by
  intro hall
  obtain ⟨data', calls, hrun, hcalls⟩ := hall below48 rfl
    ⟨by norm_num [below48], by norm_num [below48]⟩
    ⟨by norm_num [below48, northWest], by norm_num [below48, northWest]⟩
  have heval : ((loc_eng_nmea_generate_pos exact oneTime callbackData below48
      noPosition true).map (fun p => p.2.map (fun c =>
        (fieldAt 0 c.text, fieldAt 3 c.text)))).getD []
      = [(ascii "$GPGSA", []), (ascii "$GNGSA", []),
        (ascii "$GPVTG", ascii "84.0"),
        (ascii "$GPRMC", ascii "4760.000000"), (ascii "$GPGGA", ascii "N")] := by
    decide +kernel
  rw [hrun] at heval
  have hmem : (ascii "$GPRMC", ascii "4760.000000")
      ∈ calls.map (fun c => (fieldAt 0 c.text, fieldAt 3 c.text)) := by
    rw [show calls.map (fun c => (fieldAt 0 c.text, fieldAt 3 c.text)) = _
      from heval]
    decide
  obtain ⟨c, hc, hfields⟩ := List.mem_map.mp hmem
  obtain ⟨hname, hlat⟩ := Prod.mk.inj hfields
  have hvalid := ((hcalls c hc).1 hname).latitude.minutes.2
  rw [hlat] at hvalid
  exact absurd hvalid (by decide +kernel)

end QcomNmea
