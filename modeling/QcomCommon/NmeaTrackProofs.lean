import QcomCommon.NmeaGsaProofs
import Mathlib.Tactic.NormNum
import Mathlib.Tactic.Linarith
import Mathlib.Tactic.Ring

/-! # The magnetic track

    `loc_eng_nmea_generate_pos` works the magnetic track out in a variable of
    an inner block that has the name of the outer one, and prints the outer
    one.  Over the exact numbers what the inner variable holds is the track,
    up to a full turn (`innerTrack_turn`); what is printed is the track only
    without a deviation (`magTrack_iff`). -/

namespace QcomNmea

open QcomCString QcomPrintf

section Track

variable {Double : Type} (fl : CFloat Double)

/-- The variable of the inner block, at its end. -/
def innerTrack (bearing magneticDeviation : Double) : Double :=
  let magTrack := fl.toFloat (fl.sub bearing magneticDeviation)
  if fl.lt magTrack (fl.lit 0) then fl.toFloat (fl.add magTrack (fl.lit 360))
  else if fl.lt (fl.lit 360) magTrack then
    fl.toFloat (fl.sub magTrack (fl.lit 360))
  else magTrack

/-- The variables named `magTrack` of the two blocks. -/
structure TrackScopes (Double : Type) where
  outer : Double
  inner : Option Double

/-- The two blocks. -/
def trackScopes (location : UlpLocation Double)
    (locationExtended : GpsLocationExtended Double) : TrackScopes Double :=
  { outer := location.bearing
    inner :=
      if locationExtended.GPS_LOCATION_EXTENDED_HAS_MAG_DEV then
        some (innerTrack fl location.bearing locationExtended.magneticDeviation)
      else none }

/-- `magTrack` where it is printed, behind the inner block. -/
def magTrack (location : UlpLocation Double)
    (locationExtended : GpsLocationExtended Double) : Double :=
  (trackScopes fl location locationExtended).outer

end Track

/-- The fields of the sentence that have the tracks. -/
theorem vtg_tracks {Double : Type} (fl : CFloat Double)
    {location : UlpLocation Double}
    (h : location.GPS_LOCATION_HAS_BEARING = true)
    (locationExtended : GpsLocationExtended Double) {text : List UInt8}
    (hpre : ((vtgFields fl location).map line).flatten <+: text) :
    fieldAt 1 text = oneDigit fl location.bearing ∧
      fieldAt 3 text
        = oneDigit fl (magTrack fl location locationExtended) := by
  have hplain := plainFields_vtg fl location
  constructor
  · refine hplain.fieldAt hpre ?_
    rw [vtgFields, if_pos h]
    rfl
  · refine hplain.fieldAt hpre ?_
    rw [vtgFields, if_pos h]
    rfl

/-- The inner variable is the track, or a full turn. -/
theorem innerTrack_turn {bearing magneticDeviation : ℚ}
    (hb : 0 ≤ bearing ∧ bearing < 360)
    (hd : -180 ≤ magneticDeviation ∧ magneticDeviation ≤ 180) :
    ∃ k : ℤ,
      innerTrack exact bearing magneticDeviation
        = bearing - magneticDeviation + 360 * k ∧
      0 ≤ innerTrack exact bearing magneticDeviation ∧
      innerTrack exact bearing magneticDeviation ≤ 360 := by
  have hcases : innerTrack exact bearing magneticDeviation
      = if bearing - magneticDeviation < 0 then
          bearing - magneticDeviation + 360
        else if 360 < bearing - magneticDeviation then
          bearing - magneticDeviation - 360
        else bearing - magneticDeviation := by
    simp [innerTrack, exact]
  rw [hcases]
  by_cases hneg : bearing - magneticDeviation < 0
  · rw [if_pos hneg]
    exact ⟨1, by norm_num, by linarith, by linarith⟩
  · rw [if_neg hneg]
    by_cases hover : 360 < bearing - magneticDeviation
    · rw [if_pos hover]
      exact ⟨-1, by push_cast; ring, by linarith, by linarith⟩
    · rw [if_neg hover]
      exact ⟨0, by norm_num, by linarith, by linarith⟩

/-- What is to be printed: the difference within a turn, or the true bearing
    where there is no deviation. -/
def MagneticTrack (location : UlpLocation ℚ)
    (locationExtended : GpsLocationExtended ℚ) (track : ℚ) : Prop :=
  if locationExtended.GPS_LOCATION_EXTENDED_HAS_MAG_DEV then
    0 ≤ track ∧ track < 360 ∧ ∃ k : ℤ,
      track = location.bearing - locationExtended.magneticDeviation + 360 * k
  else track = location.bearing

/-- The sentence prints the magnetic track, rounded to one decimal, behind
    the true one. -/
def PrintsTrack (location : UlpLocation ℚ)
    (locationExtended : GpsLocationExtended ℚ) (text : List UInt8) : Prop :=
  ∃ track, track = magTrack exact location locationExtended ∧
    fieldAt 1 text = oneDigit exact location.bearing ∧
    fieldAt 3 text = oneDigit exact track ∧
    MagneticTrack location locationExtended track

/-- What is printed is the track exactly without a deviation. -/
theorem magneticTrack_iff {location : UlpLocation ℚ}
    {locationExtended : GpsLocationExtended ℚ}
    (hb : 0 ≤ location.bearing ∧ location.bearing < 360)
    (hd : -180 ≤ locationExtended.magneticDeviation ∧
      locationExtended.magneticDeviation ≤ 180) :
    MagneticTrack location locationExtended
        (magTrack exact location locationExtended) ↔
      (locationExtended.GPS_LOCATION_EXTENDED_HAS_MAG_DEV = true →
        locationExtended.magneticDeviation = 0) := by
  constructor
  · intro htrack hflag
    rw [MagneticTrack, if_pos hflag] at htrack
    obtain ⟨-, -, k, hk⟩ := htrack
    have hturn : locationExtended.magneticDeviation = 360 * k := by
      have hk : location.bearing = location.bearing
          - locationExtended.magneticDeviation + 360 * k := hk
      linarith
    -- less than half a turn either way
    have hlo : (-1 : ℚ) < k := by linarith
    have hhi : (k : ℚ) < 1 := by linarith
    have hlo' : (-1 : ℤ) < k := by exact_mod_cast hlo
    have hhi' : k < 1 := by exact_mod_cast hhi
    obtain rfl : k = 0 := by omega
    rw [hturn, Int.cast_zero, mul_zero]
  · intro h
    rw [MagneticTrack]
    split
    · next hflag =>
        refine ⟨hb.1, hb.2, 0, ?_⟩
        rw [h hflag, sub_zero, Int.cast_zero, mul_zero, add_zero]
        rfl
    · rfl

/-- **WHEN THE TRACK IS PRINTED**: for every final report with a bearing, in
    every VTG sentence, exactly without a deviation. -/
theorem magTrack_iff (gmtime : Int → Option Tm) (data : NmeaData ℚ)
    (location : UlpLocation ℚ) (locationExtended : GpsLocationExtended ℚ)
    (hbearing : location.GPS_LOCATION_HAS_BEARING = true)
    (hb : 0 ≤ location.bearing ∧ location.bearing < 360)
    (hd : -180 ≤ locationExtended.magneticDeviation ∧
      locationExtended.magneticDeviation ≤ 180) :
    ∃ data' calls, loc_eng_nmea_generate_pos exact gmtime data location
        locationExtended true = some (data', calls) ∧
      ∀ c ∈ calls, fieldAt 0 c.text = ascii "$GPVTG" →
        (PrintsTrack location locationExtended c.text ↔
          (locationExtended.GPS_LOCATION_EXTENDED_HAS_MAG_DEV = true →
            locationExtended.magneticDeviation = 0)) := by
  cases htime : gmtime (location.timestamp.tdiv 1000) with
  | none =>
      refine ⟨data, [], ?_, fun _ h => absurd h List.not_mem_nil⟩
      rw [loc_eng_nmea_generate_pos, htime]
      rfl
  | some pTm =>
      obtain ⟨data', calls, hrun, -, hcalls, -⟩ := generate_pos_final
        exact data locationExtended htime (P := fun c =>
          fieldAt 0 c.text = ascii "$GPVTG" →
            (PrintsTrack location locationExtended c.text ↔
              (locationExtended.GPS_LOCATION_EXTENDED_HAS_MAG_DEV = true →
                locationExtended.magneticDeviation = 0))) (by
        constructor
        · intro c hpre
          rw [usedList_eq] at hpre
          rw [(gsa_lists (by decide) hpre).1]
          exact (absurd · (by decide))
        · intro c hpre
          rw [usedList_eq] at hpre
          rw [(gsa_lists (by decide) hpre).1]
          exact (absurd · (by decide))
        · intro c hpre _
          obtain ⟨htrue, hmag⟩ :=
            vtg_tracks exact hbearing locationExtended hpre
          rw [← magneticTrack_iff hb hd]
          constructor
          · rintro ⟨_, rfl, -, -, htrack⟩
            exact htrack
          · exact fun htrack => ⟨_, rfl, htrue, hmag, htrack⟩
        · intro c hpre
          rw [rmc_name hpre]
          exact (absurd · (by decide))
        · intro c hpre
          rw [(gga_name hpre).1]
          exact (absurd · (by decide)))
      exact ⟨data', calls, hrun, hcalls⟩

section Places

/-- A report with a bearing. -/
def bearingAt (bearing : ℚ) : UlpLocation ℚ :=
  ⟨false, false, false, true, 0, 0, 0, 0, bearing, 0⟩

/-- A report with a deviation. -/
def deviationOf (magneticDeviation : ℚ) : GpsLocationExtended ℚ :=
  ⟨false, false, true, 0, 0, 0, 0, magneticDeviation⟩

/-- On a line without deviation. -/
theorem magTrack_iff_agonic : ∃ data' calls,
    loc_eng_nmea_generate_pos exact oneTime callbackData (bearingAt 90)
        (deviationOf 0) true = some (data', calls) ∧
      (∃ c ∈ calls, fieldAt 0 c.text = ascii "$GPVTG") ∧
      ∀ c ∈ calls, fieldAt 0 c.text = ascii "$GPVTG" →
        PrintsTrack (bearingAt 90) (deviationOf 0) c.text := by
  obtain ⟨data', calls, hrun, hcalls⟩ := magTrack_iff oneTime callbackData
    (bearingAt 90) (deviationOf 0) rfl
    ⟨by norm_num [bearingAt], by norm_num [bearingAt]⟩
    ⟨by norm_num [deviationOf], by norm_num [deviationOf]⟩
  refine ⟨data', calls, hrun, ?_,
    fun c hc hname => (hcalls c hc hname).mpr fun _ => rfl⟩
  have heval : ((loc_eng_nmea_generate_pos exact oneTime callbackData
      (bearingAt 90) (deviationOf 0) true).map (fun p =>
        p.2.map (fun c => fieldAt 0 c.text))).getD []
      = [ascii "$GPGSA", ascii "$GNGSA", ascii "$GPVTG", ascii "$GPRMC",
        ascii "$GPGGA"] := by
    decide +kernel
  rw [hrun] at heval
  have hmem : ascii "$GPVTG" ∈ calls.map (fun c => fieldAt 0 c.text) := by
    rw [show calls.map (fun c => fieldAt 0 c.text) = _ from heval]
    decide
  obtain ⟨c, hc, hname⟩ := List.mem_map.mp hmem
  exact ⟨c, hc, hname⟩

/-- North, with a deviation of ten degrees: the sentence says 0.0, where the
    magnetic track is 350. -/
theorem not_printsTrack_north : ∃ data' calls,
    loc_eng_nmea_generate_pos exact oneTime callbackData (bearingAt 0)
        (deviationOf 10) true = some (data', calls) ∧
      ∃ c ∈ calls, fieldAt 0 c.text = ascii "$GPVTG" ∧
        fieldAt 3 c.text = ascii "0.0" ∧
        ¬ PrintsTrack (bearingAt 0) (deviationOf 10) c.text := by
  have heval : (loc_eng_nmea_generate_pos exact oneTime callbackData
      (bearingAt 0) (deviationOf 10) true).map (fun p =>
        p.2.map (fun c => (fieldAt 0 c.text, fieldAt 3 c.text)))
      = some [(ascii "$GPGSA", []), (ascii "$GNGSA", []),
        (ascii "$GPVTG", ascii "0.0"), (ascii "$GPRMC", []),
        (ascii "$GPGGA", [])] := by
    decide +kernel
  obtain ⟨⟨data', calls⟩, hrun, hfields⟩ := Option.map_eq_some_iff.mp heval
  have hmem : (ascii "$GPVTG", ascii "0.0")
      ∈ calls.map (fun c => (fieldAt 0 c.text, fieldAt 3 c.text)) := by
    rw [show calls.map (fun c => (fieldAt 0 c.text, fieldAt 3 c.text)) = _
      from hfields]
    decide
  obtain ⟨c, hc, hpair⟩ := List.mem_map.mp hmem
  obtain ⟨hname, hprinted⟩ := Prod.mk.inj hpair
  refine ⟨data', calls, hrun, c, hc, hname, hprinted, ?_⟩
  rintro ⟨_, rfl, -, -, htrack⟩
  have hflag : (deviationOf 10).GPS_LOCATION_EXTENDED_HAS_MAG_DEV = true := rfl
  rw [MagneticTrack, if_pos hflag] at htrack
  obtain ⟨-, -, k, hk⟩ := htrack
  have hturn : (10 : ℚ) = 360 * k := by
    have hk : (0 : ℚ) = 0 - 10 + 360 * k := hk
    linarith
  have hcast : (10 : ℤ) = 360 * k := by exact_mod_cast hturn
  omega

end Places

end QcomNmea
