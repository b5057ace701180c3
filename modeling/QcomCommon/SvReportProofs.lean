import Mathlib.Data.Fin.VecNotation
import Mathlib.Data.List.Forall2
import QcomCommon.LocEngMuteProofs

/-! # Satellite reports

    `LocEngReportSv::proc` marks the satellites of a report that the last
    position used, by the masks the adapter keeps for four constellations,
    and passes the report on.

    The masks have 64 bits and the shift of the test has 32: it tests the bit
    of a satellite up to 31, and the sign of `1 << 31` reaches all the bits
    from 31 on.  From 32 on a satellite is marked right exactly where the
    bits that are tested agree with its own (`proc_tags_iff`). -/

namespace QcomSv

open QcomEng

/-! ## Reports -/

/-- The constellations the code names, and the others by their number. -/
inductive GnssConstellationType where
  | GNSS_CONSTELLATION_GPS
  | GNSS_CONSTELLATION_GLONASS
  | GNSS_CONSTELLATION_BEIDOU
  | GNSS_CONSTELLATION_GALILEO
  | other (type : UInt8)
deriving DecidableEq, Repr

/-- `GnssSvInfo`; `Float` are the values of a `float`. -/
structure GnssSvInfo (Float : Type) where
  svid : Int16
  constellation : GnssConstellationType
  c_n0_dbhz : Float
  elevation : Float
  azimuth : Float
  flags : UInt8
deriving DecidableEq

/-- `GnssSvStatus`: the first `num_svs` entries of its list. -/
structure GnssSvStatus (Float : Type) where
  gnss_sv_list : List (GnssSvInfo Float)
deriving DecidableEq

/-- The satellites used in a position, by constellation. -/
structure GnssSvUsedInPosition where
  gps_sv_used_ids_mask : BitVec 64
  glo_sv_used_ids_mask : BitVec 64
  gal_sv_used_ids_mask : BitVec 64
  bds_sv_used_ids_mask : BitVec 64
deriving DecidableEq, Repr

/-- The satellite members of `LocEngAdapter`. -/
structure SvAdapter where
  mGnssSvIdUsedInPosition : GnssSvUsedInPosition
  mGnssSvIdUsedInPosAvail : Bool
deriving DecidableEq, Repr

/-- The adapter keeps the masks, and that it has them. -/
def SvAdapter.setGnssSvUsedListData (_ : SvAdapter)
    (gnssSvUsedIds : GnssSvUsedInPosition) : SvAdapter :=
  ⟨gnssSvUsedIds, true⟩

/-- The choice of the mask by the constellation. -/
def svUsedIdMask (used : GnssSvUsedInPosition) :
    GnssConstellationType → BitVec 64
  | .GNSS_CONSTELLATION_GPS => used.gps_sv_used_ids_mask
  | .GNSS_CONSTELLATION_GLONASS => used.glo_sv_used_ids_mask
  | .GNSS_CONSTELLATION_BEIDOU => used.bds_sv_used_ids_mask
  | .GNSS_CONSTELLATION_GALILEO => used.gal_sv_used_ids_mask
  | .other _ => 0

/-- `1 << n` in an `int` of 32 bits, the amount modulo 32. -/
def oneShl (n : Int) : BitVec 32 := 1#32 <<< (n % 32).toNat

section Proc

variable {Float : Type} (GNSS_SV_FLAGS_USED_IN_FIX : UInt8)

/-- One pass of the loop; the `int` is converted to 64 bits with its sign. -/
def tagEntry (used : GnssSvUsedInPosition) (sv : GnssSvInfo Float) :
    GnssSvInfo Float :=
  if svUsedIdMask used sv.constellation
      &&& (oneShl (sv.svid.toInt - 1)).signExtend 64 ≠ 0 then
    { sv with flags := sv.flags ||| GNSS_SV_FLAGS_USED_IN_FIX }
  else { sv with flags := sv.flags &&& ~~~GNSS_SV_FLAGS_USED_IN_FIX }

/-- The report that is passed on. -/
def tagReport (adapter : SvAdapter) (mSvStatus : GnssSvStatus Float) :
    GnssSvStatus Float :=
  if adapter.mGnssSvIdUsedInPosAvail then
    ⟨mSvStatus.gnss_sv_list.map (tagEntry GNSS_SV_FLAGS_USED_IN_FIX
      adapter.mGnssSvIdUsedInPosition)⟩
  else mSvStatus

/-- `LocEngReportSv::proc`: what `gnss_sv_status_cb` is passed, and what
    `loc_eng_nmea_generate_sv` is. -/
def procReportSv (locEng : LocEngData) (adapter : SvAdapter)
    (mSvStatus : GnssSvStatus Float) :
    Option (GnssSvStatus Float) × Option (GnssSvStatus Float) :=
  if locEng.mute_session_state ≠ .LOC_MUTE_SESS_IN_SESSION then
    let gnssSvStatus := tagReport GNSS_SV_FLAGS_USED_IN_FIX adapter mSvStatus
    (if locEng.gnss_sv_status_cb then some gnssSvStatus else none,
      if locEng.generateNmea then some gnssSvStatus else none)
  else (none, none)

end Proc

/-- The calls are those of the engine, with as many sentences as are made of
    the report. -/
theorem procReportSv_calls {Float : Type} (flag : UInt8) (locEng : LocEngData)
    (adapter : SvAdapter) (mSvStatus : GnssSvStatus Float)
    (sentences : GnssSvStatus Float → Nat) :
    (reportSv locEng (sentences (tagReport flag adapter mSvStatus))).2
      = (procReportSv flag locEng adapter mSvStatus).1.toList.map
          (fun _ => Call.gnss_sv_status_cb)
        ++ (procReportSv flag locEng adapter mSvStatus).2.toList.flatMap
          (fun s => nmeaSend locEng (sentences s)) := by
  unfold reportSv procReportSv
  by_cases hm : locEng.mute_session_state ≠ .LOC_MUTE_SESS_IN_SESSION
  · rw [if_pos hm, if_pos hm]
    cases locEng.gnss_sv_status_cb <;> cases locEng.generateNmea <;> simp
  · rw [if_neg hm, if_neg hm]
    rfl

/-! ## The bits that are tested -/

theorem getLsbD_oneShl (n : Int) (i : Nat) :
    (oneShl n).getLsbD i = decide (i = (n % 32).toNat) := by
  have hlt : (n % 32).toNat < 32 := by omega
  rw [oneShl, ← BitVec.twoPow_eq, BitVec.getLsbD_twoPow]
  simp only [hlt, decide_true, Bool.true_and, eq_comm]

/-- The bits `k` of a mask that are tested: the one of the shift, and with
    the sign all those above it. -/
def Tests (n : Int) (k : Nat) : Prop :=
  k = (n % 32).toNat ∨ (n % 32 = 31 ∧ 31 ≤ k)

theorem and_oneShl_ne_zero (mask : BitVec 64) (n : Int) :
    mask &&& (oneShl n).signExtend 64 ≠ 0 ↔
      ∃ k, Tests n k ∧ mask.getLsbD k = true := by
  have hbit : ∀ k < 64, ((oneShl n).signExtend 64).getLsbD k = true ↔
      Tests n k := by
    intro k hk
    have hmsb : (oneShl n).msb = decide (31 = (n % 32).toNat) := by
      rw [BitVec.msb_eq_getLsbD_last, getLsbD_oneShl]
    rw [BitVec.getLsbD_signExtend, getLsbD_oneShl, hmsb, Tests]
    simp only [hk, decide_true, Bool.true_and]
    split
    · rw [decide_eq_true_eq]
      omega
    · rw [decide_eq_true_eq]
      omega
  constructor
  · intro hne
    by_contra hno
    refine hne (BitVec.zero_iff_eq_false.mpr (fun k => ?_))
    rw [BitVec.getLsbD_and, Bool.and_eq_false_iff]
    by_cases hm : mask.getLsbD k = true
    · refine Or.inr (Bool.eq_false_iff.mpr (fun hs => hno ⟨k, ?_, hm⟩))
      exact (hbit k (BitVec.lt_of_getLsbD hm)).mp hs
    · exact Or.inl (Bool.eq_false_iff.mpr hm)
  · rintro ⟨k, ht, hm⟩ hzero
    have hk : k < 64 := BitVec.lt_of_getLsbD hm
    have hand := BitVec.zero_iff_eq_false.mp hzero k
    rw [BitVec.getLsbD_and, hm, (hbit k hk).mpr ht] at hand
    cases hand

/-- The bits that are tested for a satellite from 32 on agree with its own. -/
structure BitsAgree (mask : BitVec 64) (svid : Int) : Prop where
  sign : svid % 32 = 0 → mask.getLsbD (svid.toNat - 1) = true ∨
    ∀ k < 64, 31 ≤ k → mask.getLsbD k = false
  above : 32 < svid → svid < 64 →
    mask.getLsbD (svid.toNat - 1) = mask.getLsbD (svid.toNat - 33)

instance (mask : BitVec 64) (svid : Int) : Decidable (BitsAgree mask svid) :=
  decidable_of_iff
    ((svid % 32 = 0 → mask.getLsbD (svid.toNat - 1) = true ∨
        ∀ k < 64, 31 ≤ k → mask.getLsbD k = false) ∧
      (32 < svid → svid < 64 →
        mask.getLsbD (svid.toNat - 1) = mask.getLsbD (svid.toNat - 33)))
    ⟨fun h => ⟨h.1, h.2⟩, fun h => ⟨h.1, h.2⟩⟩

/-- Where one bit is tested. -/
theorem tested_one {mask : BitVec 64} {n : Int} (hn : n % 32 ≠ 31) :
    (∃ k, Tests n k ∧ mask.getLsbD k = true) ↔
      mask.getLsbD (n % 32).toNat = true := by
  constructor
  · rintro ⟨k, rfl | ⟨hsign, -⟩, hm⟩
    · exact hm
    · exact absurd hsign hn
  · exact fun hm => ⟨_, Or.inl rfl, hm⟩

/-- Where the sign is tested too, with an own bit among these. -/
theorem tested_sign {mask : BitVec 64} {n : Int} (hn : n % 32 = 31)
    {own : Nat} (hown : 31 ≤ own) :
    ((∃ k, Tests n k ∧ mask.getLsbD k = true) ↔ mask.getLsbD own = true) ↔
      (mask.getLsbD own = true ∨ ∀ k < 64, 31 ≤ k → mask.getLsbD k = false)
      := by
  have hall : ∀ k, Tests n k ↔ 31 ≤ k := by
    intro k
    rw [Tests]
    omega
  constructor
  · intro h
    by_cases hm : mask.getLsbD own = true
    · exact Or.inl hm
    · refine Or.inr (fun k _ hk => Bool.eq_false_iff.mpr (fun hbit => ?_))
      exact hm (h.mp ⟨k, (hall k).mpr hk, hbit⟩)
  · rintro (hm | hnone)
    · exact iff_of_true ⟨own, (hall own).mpr hown, hm⟩ hm
    · refine iff_of_false ?_ ?_
      · rintro ⟨k, ht, hm⟩
        rw [hnone k (BitVec.lt_of_getLsbD hm) ((hall k).mp ht)] at hm
        cases hm
      · intro hm
        rw [hnone own (BitVec.lt_of_getLsbD hm) hown] at hm
        cases hm

/-- **THE TEST** is that of the satellite's own bit. -/
theorem tested_iff (mask : BitVec 64) {svid : Int} (hlo : 1 ≤ svid)
    (hhi : svid ≤ 64) :
    ((∃ k, Tests (svid - 1) k ∧ mask.getLsbD k = true) ↔
      mask.getLsbD (svid.toNat - 1) = true) ↔ BitsAgree mask svid := by
  by_cases hmul : svid % 32 = 0
  · rw [tested_sign (by omega) (by omega)]
    exact ⟨fun h => ⟨fun _ => h, by omega⟩, fun h => h.sign hmul⟩
  · rw [tested_one (by omega)]
    by_cases hgt : 32 < svid
    · have hbit : ((svid - 1) % 32).toNat = svid.toNat - 33 := by omega
      rw [hbit, ← Bool.eq_iff_iff]
      exact ⟨fun h => ⟨fun hz => absurd hz hmul, fun _ _ => h.symm⟩,
        fun h => (h.above hgt (by omega)).symm⟩
    · have hbit : ((svid - 1) % 32).toNat = svid.toNat - 1 := by omega
      rw [hbit]
      exact iff_of_true Iff.rfl ⟨fun hz => absurd hz hmul, by omega⟩

/-! ## What is passed on -/

/-- The satellite's bit in the mask of its constellation. -/
def usedBit {Float : Type} (used : GnssSvUsedInPosition)
    (sv : GnssSvInfo Float) : Bool :=
  match sv.constellation with
  | .GNSS_CONSTELLATION_GPS =>
      used.gps_sv_used_ids_mask.getLsbD (sv.svid.toInt.toNat - 1)
  | .GNSS_CONSTELLATION_GLONASS =>
      used.glo_sv_used_ids_mask.getLsbD (sv.svid.toInt.toNat - 1)
  | .GNSS_CONSTELLATION_BEIDOU =>
      used.bds_sv_used_ids_mask.getLsbD (sv.svid.toInt.toNat - 1)
  | .GNSS_CONSTELLATION_GALILEO =>
      used.gal_sv_used_ids_mask.getLsbD (sv.svid.toInt.toNat - 1)
  | .other _ => false

theorem getLsbD_svUsedIdMask {Float : Type} (used : GnssSvUsedInPosition)
    (sv : GnssSvInfo Float) :
    (svUsedIdMask used sv.constellation).getLsbD (sv.svid.toInt.toNat - 1)
      = usedBit used sv := by
  unfold usedBit svUsedIdMask
  cases sv.constellation with
  | other type => exact BitVec.getLsbD_zero
  | _ => rfl

/-! Setting and clearing a flag. -/

theorem or_and_flag (f flag : UInt8) : (f ||| flag) &&& flag = flag := by
  refine UInt8.toBitVec_inj.mp ?_
  ext i hi
  simp only [UInt8.toBitVec_and, UInt8.toBitVec_or, BitVec.getElem_and,
    BitVec.getElem_or]
  cases flag.toBitVec[i] <;> simp

theorem or_and_others (f flag : UInt8) :
    (f ||| flag) &&& ~~~flag = f &&& ~~~flag := by
  refine UInt8.toBitVec_inj.mp ?_
  ext i hi
  simp [Bool.and_or_distrib_right]

theorem clear_and_flag (f flag : UInt8) : f &&& ~~~flag &&& flag = 0 := by
  refine UInt8.toBitVec_inj.mp ?_
  ext i hi
  simp

theorem clear_and_others (f flag : UInt8) :
    f &&& ~~~flag &&& ~~~flag = f &&& ~~~flag := by
  rw [UInt8.and_assoc, UInt8.and_self]

section Tagged

variable {Float : Type} (flag : UInt8) (used : GnssSvUsedInPosition)

/-- The entry `sv'` that is passed on for `sv`: it has the flag if and only
    if the satellite's bit is set, and else is as it was. -/
structure Tagged (sv sv' : GnssSvInfo Float) : Prop where
  marked : sv'.flags &&& flag = flag ↔ usedBit used sv = true
  others : sv'.flags &&& ~~~flag = sv.flags &&& ~~~flag
  rest : { sv' with flags := sv.flags } = sv

variable {flag}

/-- **ONE ENTRY**. -/
theorem tagged_iff (hflag : flag ≠ 0) {sv : GnssSvInfo Float}
    (hlo : 1 ≤ sv.svid.toInt) (hhi : sv.svid.toInt ≤ 64) :
    Tagged flag used sv (tagEntry flag used sv) ↔
      BitsAgree (svUsedIdMask used sv.constellation) sv.svid.toInt := by
  rw [← tested_iff _ hlo hhi, ← and_oneShl_ne_zero, getLsbD_svUsedIdMask]
  by_cases ht : svUsedIdMask used sv.constellation
      &&& (oneShl (sv.svid.toInt - 1)).signExtend 64 ≠ 0
  · have heq : tagEntry flag used sv
        = { sv with flags := sv.flags ||| flag } := if_pos ht
    have hmarked := or_and_flag sv.flags flag
    rw [heq]
    constructor
    · intro h
      exact iff_of_true ht (h.marked.mp hmarked)
    · intro h
      exact ⟨iff_of_true hmarked (h.mp ht), or_and_others sv.flags flag, rfl⟩
  · have heq : tagEntry flag used sv
        = { sv with flags := sv.flags &&& ~~~flag } := if_neg ht
    have hclear : ¬ sv.flags &&& ~~~flag &&& flag = flag := by
      rw [clear_and_flag]
      exact hflag.symm
    rw [heq]
    constructor
    · intro h
      exact iff_of_false ht (fun hu => hclear (h.marked.mpr hu))
    · intro h
      exact ⟨iff_of_false hclear (fun hu => ht (h.mpr hu)),
        clear_and_others sv.flags flag, rfl⟩

/-- **USED IN FIX**: the flags of the report that is passed to the callback
    are the bits of the masks if and only if the bits that are tested for the
    satellites from 32 on agree with their own. -/
theorem proc_tags_iff (hflag : flag ≠ 0) (locEng : LocEngData)
    (adapter : SvAdapter) {mSvStatus out : GnssSvStatus Float}
    (hsvid : ∀ sv ∈ mSvStatus.gnss_sv_list,
      1 ≤ sv.svid.toInt ∧ sv.svid.toInt ≤ 64)
    (hout : (procReportSv flag locEng (adapter.setGnssSvUsedListData used)
      mSvStatus).1 = some out) :
    List.Forall₂ (Tagged flag used) mSvStatus.gnss_sv_list out.gnss_sv_list ↔
      ∀ sv ∈ mSvStatus.gnss_sv_list,
        BitsAgree (svUsedIdMask used sv.constellation) sv.svid.toInt := by
  have heq : out.gnss_sv_list
      = mSvStatus.gnss_sv_list.map (tagEntry flag used) := by
    unfold procReportSv at hout
    by_cases hm : locEng.mute_session_state ≠ .LOC_MUTE_SESS_IN_SESSION
    · rw [if_pos hm] at hout
      cases hcb : locEng.gnss_sv_status_cb with
      | true =>
          rw [hcb] at hout
          exact congrArg GnssSvStatus.gnss_sv_list (Option.some.inj hout).symm
      | false =>
          rw [hcb] at hout
          cases hout
    · rw [if_neg hm] at hout
      cases hout
  rw [heq, List.forall₂_map_right_iff, List.forall₂_same]
  refine forall₂_congr (fun sv hsv => ?_)
  exact tagged_iff used hflag (hsvid sv hsv).1 (hsvid sv hsv).2

end Tagged

/-- What was used of GPS, Galileo and BeiDou; three of the satellites are
    from 32 on, and the bits that are tested for these agree. -/
def mixedUsed : GnssSvUsedInPosition :=
  ⟨0x4, 0, 0x8000000800000008, 0x200000002⟩

/-- A report over all constellations, with the flags of its satellites. -/
def mixedReport (flags : Fin 8 → UInt8) : GnssSvStatus Nat :=
  ⟨[⟨3, .GNSS_CONSTELLATION_GPS, 30, 45, 90, flags 0⟩,
    ⟨32, .GNSS_CONSTELLATION_GPS, 31, 10, 20, flags 1⟩,
    ⟨10, .GNSS_CONSTELLATION_GLONASS, 32, 20, 30, flags 2⟩,
    ⟨34, .GNSS_CONSTELLATION_BEIDOU, 33, 30, 40, flags 3⟩,
    ⟨35, .GNSS_CONSTELLATION_BEIDOU, 34, 40, 50, flags 4⟩,
    ⟨36, .GNSS_CONSTELLATION_GALILEO, 35, 50, 60, flags 5⟩,
    ⟨64, .GNSS_CONSTELLATION_GALILEO, 36, 60, 70, flags 6⟩,
    ⟨33, .other 2, 37, 70, 80, flags 7⟩]⟩

theorem proc_tags_mixed :
    List.Forall₂ (Tagged 4 mixedUsed)
      (mixedReport ![0, 5, 5, 1, 5, 0, 0, 4]).gnss_sv_list
      (mixedReport ![4, 1, 1, 5, 1, 4, 4, 0]).gnss_sv_list := by
  have hout : (procReportSv 4 newEngine.locEng
      (SvAdapter.setGnssSvUsedListData ⟨⟨0, 0, 0, 0⟩, false⟩ mixedUsed)
      (mixedReport ![0, 5, 5, 1, 5, 0, 0, 4])).1
      = some (mixedReport ![4, 1, 1, 5, 1, 4, 4, 0]) := by
    decide
  exact (proc_tags_iff mixedUsed (by decide) newEngine.locEng
    ⟨⟨0, 0, 0, 0⟩, false⟩ (by decide) hout).mpr (by decide)

/-- The report on one satellite of Galileo. -/
def galReport (svid : Int16) (flags : UInt8) : GnssSvStatus Nat :=
  ⟨[⟨svid, .GNSS_CONSTELLATION_GALILEO, 30, 45, 90, flags⟩]⟩

/-- Satellite 33 of Galileo is marked where satellite 1 was used. -/
theorem galileo_33_marked :
    ¬ (∀ (flag : UInt8) (locEng : LocEngData) (adapter : SvAdapter)
      (used : GnssSvUsedInPosition) (mSvStatus out : GnssSvStatus Nat),
      flag ≠ 0 →
      (∀ sv ∈ mSvStatus.gnss_sv_list,
        1 ≤ sv.svid.toInt ∧ sv.svid.toInt ≤ 64) →
      (procReportSv flag locEng (adapter.setGnssSvUsedListData used)
        mSvStatus).1 = some out →
      List.Forall₂ (Tagged flag used) mSvStatus.gnss_sv_list
        out.gnss_sv_list) := by
  intro hall
  have htagged := hall 4 newEngine.locEng ⟨⟨0, 0, 0, 0⟩, false⟩ ⟨0, 0, 1, 0⟩
    (galReport 33 0) (galReport 33 4) (by decide) (by decide) (by decide)
  have hmarked := (List.forall₂_cons.mp htagged).1.marked.mp (by decide)
  exact absurd hmarked (by decide)

end QcomSv
