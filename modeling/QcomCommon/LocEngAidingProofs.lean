import Mathlib.Data.List.Induction
import QcomCommon.LocEngRestartProofs

/-! # Deleting aiding data

    Aiding data is deleted only while the engine is not on.  A request made
    while it is on parks its mask, and the status report that ends the
    engine deletes what is parked.

    Two paths lose a request: a further request while the engine is on
    replaces the parked mask, and a modem that goes down turns the engine
    off without a deletion.  `aiding_kept_iff` says when neither happens. -/

namespace QcomEng

open QcomTransition

/-! ## What is owed -/

/-- The aiding data a message asks to delete. -/
def EngineMsg.asked : EngineMsg → UInt32
  | .LocEngDelAidData mType => mType
  | _ => 0

/-- The aiding data the modem is told to delete, in order. -/
def deletedMasks (calls : List Call) : List UInt32 :=
  calls.filterMap fun c => match c with
    | .deleteAidingData f => some f
    | _ => none

/-- What is still owed after these calls. -/
def owedAfter (owed : UInt32) (calls : List Call) : UInt32 :=
  (deletedMasks calls).foldl (fun o f => o &&& ~~~f) owed

/-- The bits asked for and not deleted since, the masks asked for while
    the engine is on, and whether there was a deletion while it is. -/
structure AidingNote where
  owed : UInt32
  parked : List UInt32
  deletedOn : Bool
deriving DecidableEq, Repr

/-- Before the first message nothing is owed. -/
def noAiding : AidingNote := ⟨0, [], false⟩

/-- A deletion comes last in its handler, so the engine status a message
    leaves is the one its deletion meets. -/
def aidingNote (note : AidingNote) (d : LocEngData) (m : EngineMsg)
    (d' : LocEngData) : AidingNote where
  owed := owedAfter (note.owed ||| m.asked) (procEngine d m).2
  parked := if d'.engine_status = .GPS_STATUS_ENGINE_ON then
      match m with
      | .LocEngDelAidData mType => note.parked ++ [mType]
      | _ => note.parked
    else []
  deletedOn := note.deletedOn ||
    (d'.engine_status = .GPS_STATUS_ENGINE_ON &&
      deletedMasks (procEngine d m).2 != [])

/-- The engine with what is owed. -/
def aidingSys : TransSys (LocEngData × AidingNote) EngineMsg :=
  watched restartSys noAiding aidingNote

/-- No deletion while the engine is on, and nothing is owed while it is not. -/
def AidingKept (p : LocEngData × AidingNote) : Prop :=
  p.2.deletedOn = false ∧
    (p.1.engine_status ≠ .GPS_STATUS_ENGINE_ON → p.2.owed = 0)

/-- The mask of the last of these requests. -/
def lastAsked (parked : List UInt32) : UInt32 := parked.getLast?.getD 0

/-- The engine is turned off by a status report when the last mask asked for
    while it was on contains the others, by the modem going down when no bit
    was asked for. -/
def NothingReplaced (p : LocEngData × AidingNote) : EngineMsg → Prop
  | .msg (.LocEngReportStatus .GPS_STATUS_ENGINE_OFF) =>
      p.1.engine_status = .GPS_STATUS_ENGINE_ON →
        ∀ f ∈ p.2.parked, f &&& ~~~(lastAsked p.2.parked) = 0
  | .LocEngDown => p.1.engine_status = .GPS_STATUS_ENGINE_ON →
      ∀ f ∈ p.2.parked, f = 0
  | _ => True

instance (p : LocEngData × AidingNote) (m : EngineMsg) :
    Decidable (NothingReplaced p m) := by
  -- over the parked masks, not over all masks there are
  have hbelow := List.decidableBAll
    (fun f => f &&& ~~~(lastAsked p.2.parked) = 0) p.2.parked
  have hzero := List.decidableBAll (fun f => f = 0) p.2.parked
  unfold NothingReplaced
  split <;> infer_instance

/-! ## Masks -/

theorem or_and_eq_zero (a b c : UInt32) :
    (a ||| b) &&& c = 0 ↔ a &&& c = 0 ∧ b &&& c = 0 := by
  have hdistrib : (a ||| b) &&& c = (a &&& c) ||| (b &&& c) := by
    apply UInt32.toBitVec_inj.mp
    exact BitVec.and_or_distrib_right
  rw [hdistrib, UInt32.or_eq_zero_iff]

/-- The union of the masks. -/
def unionOf (masks : List UInt32) : UInt32 := masks.foldl (· ||| ·) 0

/-- One mask more. -/
theorem unionOf_append (masks : List UInt32) (f : UInt32) :
    unionOf (masks ++ [f]) = unionOf masks ||| f := by
  simp [unionOf]

/-- A union misses what all its masks miss. -/
theorem unionOf_and_eq_zero (masks : List UInt32) (c : UInt32) :
    unionOf masks &&& c = 0 ↔ ∀ f ∈ masks, f &&& c = 0 := by
  induction masks using List.reverseRecOn with
  | nil => simp [unionOf]
  | append_singleton masks f ih =>
      rw [unionOf_append, or_and_eq_zero, ih]
      constructor
      · rintro ⟨hmasks, hf⟩ f' hf'
        rcases List.mem_append.mp hf' with hf' | hf'
        · exact hmasks f' hf'
        · rw [List.mem_singleton.mp hf']
          exact hf
      · intro hall
        constructor
        · intro f' hf'
          exact hall f' (List.mem_append_left _ hf')
        · exact hall f (List.mem_append_right _ (List.mem_singleton_self f))

theorem unionOf_eq_zero (masks : List UInt32) :
    unionOf masks = 0 ↔ ∀ f ∈ masks, f = 0 := by
  have h := unionOf_and_eq_zero masks (~~~0)
  simpa using h

/-- The last mask that was asked for. -/
theorem lastAsked_append (masks : List UInt32) (f : UInt32) :
    lastAsked (masks ++ [f]) = f := by
  simp [lastAsked]

/-! ## What a handler does about aiding data -/

/-- A handler that has no part in it and does not turn the engine off. -/
structure Undisturbed (d : LocEngData) (p : LocEngData × List Call) :
    Prop where
  on : p.1.engine_status ≠ .GPS_STATUS_ENGINE_ON →
    d.engine_status ≠ .GPS_STATUS_ENGINE_ON
  pending : p.1.aiding_data_for_deletion = d.aiding_data_for_deletion
  silent : deletedMasks p.2 = []

theorem Undisturbed.refl (d : LocEngData) : Undisturbed d (d, []) :=
  ⟨id, rfl, rfl⟩

/-- Sentences delete nothing. -/
theorem nmeaSend_silent (d : LocEngData) (sentences : Nat) :
    deletedMasks (nmeaSend d sentences) = [] := by
  rw [nmeaSend]
  split
  · rw [deletedMasks, List.filterMap_eq_nil_iff]
    intro c hc
    rw [List.eq_of_mem_replicate hc]
  · rfl

/-- The end of a single shot leaves what is to be deleted. -/
theorem endSingleShot_undisturbed (d : LocEngData) (r : PositionReport) :
    Undisturbed d (endSingleShot d r) := by
  rw [endSingleShot]
  split
  · refine ⟨id, rfl, ?_⟩
    dsimp only
    split <;> rfl
  · exact .refl d

/-- What is deleted in two lists of calls. -/
theorem deletedMasks_append (calls calls' : List Call) :
    deletedMasks (calls ++ calls') =
      deletedMasks calls ++ deletedMasks calls' :=
  List.filterMap_append

/-- A position leaves what is to be deleted. -/
theorem reportPosition_undisturbed (d : LocEngData) (r : PositionReport) :
    Undisturbed d (reportPosition d r) := by
  rw [reportPosition]
  split
  · obtain ⟨hon, hpending, hsilent⟩ := endSingleShot_undisturbed d r
    refine ⟨hon, hpending, ?_⟩
    -- the location first, then the end of the session, then the sentences
    simp only [deletedMasks_append, hsilent, List.append_nil]
    have hloc : deletedMasks
        (if reportedFix d r then [Call.location_cb] else []) = [] := by
      split <;> rfl
    rw [hloc, List.nil_append]
    split
    · exact nmeaSend_silent _ _
    · rfl
  · exact .refl d

/-- A report of satellites leaves it. -/
theorem reportSv_undisturbed (d : LocEngData) (nmeaSv : Nat) :
    Undisturbed d (reportSv d nmeaSv) := by
  rw [reportSv]
  split
  · refine ⟨id, rfl, ?_⟩
    have hsv : deletedMasks (if d.gnss_sv_status_cb then
        [Call.gnss_sv_status_cb] else []) = [] := by
      split <;> rfl
    rw [deletedMasks_append, hsv, List.nil_append]
    split
    · exact nmeaSend_silent d nmeaSv
    · rfl
  · exact .refl d

/-- The start of a session leaves it. -/
theorem start_undisturbed (d : LocEngData) (ret : loc_api_adapter_err) :
    Undisturbed d (loc_eng_start_handler d ret) := by
  rw [loc_eng_start_handler]
  split
  · exact .refl d
  · split
    · exact ⟨id, rfl, rfl⟩
    · exact ⟨id, rfl, rfl⟩

/-- The restart leaves it. -/
theorem engine_up_undisturbed (d : LocEngData) (ret : loc_api_adapter_err) :
    Undisturbed d (loc_eng_handle_engine_up d ret) := by
  rw [loc_eng_handle_engine_up]
  split
  · obtain ⟨hon, hpending, hsilent⟩ := start_undisturbed
      { d with adapter := d.adapter.setInSession false } ret
    exact ⟨hon, hpending, hsilent⟩
  · exact .refl d

/-- Status reports apart, no message of the engine has a part in it. -/
theorem proc_undisturbed {d : LocEngData} {m : LocMsg}
    (hm : ∀ status, m ≠ .LocEngReportStatus status) :
    Undisturbed d (proc d m) := by
  cases m with
  | LocEngReportStatus mStatus => exact absurd rfl (hm mStatus)
  | LocEngReportPosition r => exact reportPosition_undisturbed d r
  | LocEngReportSv nmeaSv => exact reportSv_undisturbed d nmeaSv
  | LocEngReportNmea =>
      rw [proc, reportNmea]
      split
      · exact ⟨id, rfl, rfl⟩
      · exact .refl d
  | LocEngReportGnssMeasurement =>
      rw [proc, reportGnssMeasurement]
      split
      · split
        · exact ⟨id, rfl, rfl⟩
        · exact .refl d
      · exact .refl d
  | LocEngRequestNi r =>
      rw [proc, requestNi]
      split
      · exact ⟨id, rfl, rfl⟩
      · exact ⟨id, rfl, rfl⟩
  | LocEngPositionMode mPosMode => exact ⟨id, rfl, rfl⟩
  | LocEngStartFix ret => exact start_undisturbed d ret
  | LocEngStopFix =>
      rw [proc, loc_eng_stop_handler]
      split
      · exact ⟨id, rfl, rfl⟩
      · exact .refl d

/-! ## The deletion -/

/-- While the engine is on, nothing is deleted. -/
theorem update_on {d : LocEngData}
    (h : d.engine_status = .GPS_STATUS_ENGINE_ON) :
    update_aiding_data_for_deletion d = (d, []) := by
  rw [update_aiding_data_for_deletion, if_neg]
  rintro ⟨hne, _⟩
  exact hne h

/-- While it is not, the parked mask is deleted. -/
theorem update_off {d : LocEngData}
    (h : d.engine_status ≠ .GPS_STATUS_ENGINE_ON) (owed : UInt32) :
    (update_aiding_data_for_deletion d).1 =
      { d with aiding_data_for_deletion := 0 } ∧
    owedAfter owed (update_aiding_data_for_deletion d).2 =
      owed &&& ~~~d.aiding_data_for_deletion := by
  by_cases hmask : d.aiding_data_for_deletion = 0
  · rw [update_aiding_data_for_deletion, if_neg (fun hc => hc.2 hmask)]
    constructor
    · rw [← hmask]
    · simp [owedAfter, deletedMasks, hmask]
  · rw [update_aiding_data_for_deletion, if_pos ⟨h, hmask⟩]
    exact ⟨rfl, rfl⟩

/-- A status deletes nothing by itself. -/
theorem report_status_silent (d : LocEngData) (status : GpsStatusValue) :
    deletedMasks (loc_eng_report_status d status).2 = [] := by
  rw [loc_eng_report_status]
  dsimp only
  split <;> rfl

/-! ## Runs -/

/-- What is owed was parked, and the mask is the last one parked. -/
structure AidingLaw (d : LocEngData) (note : AidingNote) : Prop where
  owed : note.owed = unionOf note.parked
  pending : d.aiding_data_for_deletion = lastAsked note.parked
  parked : d.engine_status ≠ .GPS_STATUS_ENGINE_ON → note.parked = []
  kept : note.deletedOn = false

theorem AidingLaw.holds {p : LocEngData × AidingNote}
    (h : AidingLaw p.1 p.2) : AidingKept p := by
  refine ⟨h.kept, ?_⟩
  intro hoff
  rw [h.owed, h.parked hoff]
  rfl

/-- The history after a message that leaves the engine off. -/
theorem aidingNote_off {d d' : LocEngData} {note : AidingNote}
    (hkept : note.deletedOn = false)
    (hoff : d'.engine_status ≠ .GPS_STATUS_ENGINE_ON) (m : EngineMsg) :
    (aidingNote note d m d').parked = [] ∧
      (aidingNote note d m d').deletedOn = false := by
  simp [aidingNote, hoff, hkept]

/-- With the engine off, no mask left and nothing owed, the law holds. -/
theorem aidingLaw_off {d d' : LocEngData} {note : AidingNote}
    (hkept : note.deletedOn = false)
    (hoff : d'.engine_status ≠ .GPS_STATUS_ENGINE_ON)
    (hmask : d'.aiding_data_for_deletion = 0) {m : EngineMsg}
    (howed : (aidingNote note d m d').owed = 0) :
    AidingLaw d' (aidingNote note d m d') := by
  obtain ⟨hparked, hnot⟩ := aidingNote_off (d := d) hkept hoff m
  refine ⟨?_, ?_, fun _ => hparked, hnot⟩
  · rw [hparked, howed]
    rfl
  · rw [hparked, hmask]
    rfl

/-- A message that leaves what is to be deleted keeps the law. -/
theorem aidingLaw_undisturbed {d : LocEngData} {note : AidingNote}
    (h : AidingLaw d note) {m : EngineMsg}
    (hm : ∀ mType, m ≠ .LocEngDelAidData mType)
    (hd : Undisturbed d (procEngine d m)) :
    AidingLaw (procEngine d m).1 (aidingNote note d m (procEngine d m).1) := by
  have hasked : m.asked = 0 := by
    cases m with
    | LocEngDelAidData mType => exact absurd rfl (hm mType)
    | _ => rfl
  have howed : (aidingNote note d m (procEngine d m).1).owed = note.owed := by
    simp [aidingNote, owedAfter, hd.silent, hasked]
  have hparked : (aidingNote note d m (procEngine d m).1).parked =
      note.parked := by
    cases m with
    | LocEngDelAidData mType => exact absurd rfl (hm mType)
    | _ =>
        simp only [aidingNote, ite_eq_left_iff]
        intro hoff
        rw [h.parked (hd.on hoff)]
  refine ⟨?_, ?_, ?_, ?_⟩
  · rw [howed, hparked, h.owed]
  · rw [hd.pending, hparked, h.pending]
  · intro hoff
    rw [hparked, h.parked (hd.on hoff)]
  · simp [aidingNote, h.kept, hd.silent]

/-- A request is parked or served at once. -/
theorem aidingLaw_delAidData {d : LocEngData} {note : AidingNote}
    (h : AidingLaw d note) (mType : UInt32) :
    AidingLaw (delAidData d mType).1
      (aidingNote note d (.LocEngDelAidData mType)
        (delAidData d mType).1) := by
  by_cases hon : d.engine_status = .GPS_STATUS_ENGINE_ON
  · have hcall : delAidData d mType =
        ({ d with aiding_data_for_deletion := mType }, []) := update_on hon
    rw [hcall]
    refine ⟨?_, ?_, fun hoff => absurd hon hoff, ?_⟩
    · simp [aidingNote, procEngine, hcall, hon, owedAfter, deletedMasks,
        EngineMsg.asked, unionOf_append, h.owed]
    · simp [aidingNote, hon, lastAsked_append]
    · simp [aidingNote, procEngine, hcall, h.kept, deletedMasks]
  · obtain ⟨hleft, howed⟩ := update_off
      (d := { d with aiding_data_for_deletion := mType }) hon
      (note.owed ||| mType)
    have hnone : note.owed = 0 := AidingLaw.holds (p := (d, note)) h |>.2 hon
    apply aidingLaw_off h.kept
    · rw [delAidData, hleft]
      exact hon
    · rw [delAidData, hleft]
    · change owedAfter (note.owed ||| mType) (delAidData d mType).2 = 0
      rw [delAidData, howed, hnone]
      simp

/-- A status report that leaves the engine on has no part in it. -/
theorem reportStatus_on {d : LocEngData} {status : GpsStatusValue}
    (hon : (loc_eng_report_status d status).1.engine_status =
      .GPS_STATUS_ENGINE_ON) : Undisturbed d (reportStatus d status) := by
  rw [reportStatus, update_on hon]
  refine ⟨fun hoff => absurd hon hoff, rfl, ?_⟩
  rw [List.append_nil]
  exact report_status_silent d status

/-- One that leaves it off deletes the parked mask. -/
theorem reportStatus_off {d : LocEngData} {status : GpsStatusValue}
    (hoff : (loc_eng_report_status d status).1.engine_status ≠
      .GPS_STATUS_ENGINE_ON) (owed : UInt32) :
    (reportStatus d status).1.engine_status ≠ .GPS_STATUS_ENGINE_ON ∧
      (reportStatus d status).1.aiding_data_for_deletion = 0 ∧
      owedAfter owed (reportStatus d status).2 =
        owed &&& ~~~d.aiding_data_for_deletion := by
  obtain ⟨hleft, howed⟩ := update_off hoff owed
  rw [reportStatus]
  refine ⟨?_, ?_, ?_⟩
  · rw [hleft]
    exact hoff
  · rw [hleft]
  · rw [owedAfter, deletedMasks_append, report_status_silent]
    exact howed

/-- The engine goes off by the report that says so, or was off before. -/
theorem off_cases {d : LocEngData} {status : GpsStatusValue}
    (hoff : (loc_eng_report_status d status).1.engine_status ≠
      .GPS_STATUS_ENGINE_ON) :
    status = .GPS_STATUS_ENGINE_OFF ∨
      d.engine_status ≠ .GPS_STATUS_ENGINE_ON := by
  cases status with
  | GPS_STATUS_ENGINE_OFF => exact .inl rfl
  | GPS_STATUS_ENGINE_ON => exact absurd rfl hoff
  | _ => exact .inr hoff

/-- With the engine off nothing is replaced if the last mask covers the
    others. -/
theorem nothingReplaced_off {d : LocEngData} {note : AidingNote}
    (h : AidingLaw d note) {status : GpsStatusValue}
    (hoff : (loc_eng_report_status d status).1.engine_status ≠
      .GPS_STATUS_ENGINE_ON) :
    NothingReplaced (d, note) (.msg (.LocEngReportStatus status)) ↔
      unionOf note.parked &&& ~~~(lastAsked note.parked) = 0 := by
  rw [unionOf_and_eq_zero]
  by_cases hon : d.engine_status = .GPS_STATUS_ENGINE_ON
  · rcases off_cases hoff with rfl | hne
    · exact ⟨fun hg => hg hon, fun hall _ => hall⟩
    · exact absurd hon hne
  · -- nothing is parked while the engine is off
    have hnone := h.parked hon
    constructor
    · intro _
      rw [hnone]
      intro f hf
      cases hf
    · intro _
      cases status with
      | GPS_STATUS_ENGINE_OFF => exact fun hd => absurd hd hon
      | _ => trivial

/-- A status report serves what is parked, or loses what was replaced. -/
theorem reportStatus_law {d : LocEngData} {note : AidingNote}
    (h : AidingLaw d note) (status : GpsStatusValue)
    {note' : AidingNote}
    (hnote : note' = aidingNote note d (.msg (.LocEngReportStatus status))
      (reportStatus d status).1) :
    (NothingReplaced (d, note) (.msg (.LocEngReportStatus status)) →
      AidingLaw (reportStatus d status).1 note') ∧
    (AidingKept ((reportStatus d status).1, note') →
      NothingReplaced (d, note) (.msg (.LocEngReportStatus status))) := by
  subst hnote
  by_cases hon : (loc_eng_report_status d status).1.engine_status =
      .GPS_STATUS_ENGINE_ON
  · constructor
    · intro _
      exact aidingLaw_undisturbed h
        (m := .msg (.LocEngReportStatus status))
        (fun _ heq => by cases heq) (reportStatus_on hon)
    · intro _
      cases status with
      | GPS_STATUS_ENGINE_OFF => cases hon
      | _ => trivial
  · obtain ⟨hoff, hmask, howed⟩ := reportStatus_off hon note.owed
    rw [nothingReplaced_off h hon]
    have hleft : (aidingNote note d (.msg (.LocEngReportStatus status))
        (reportStatus d status).1).owed =
        unionOf note.parked &&& ~~~(lastAsked note.parked) := by
      change owedAfter (note.owed ||| 0) (reportStatus d status).2 = _
      rw [UInt32.or_zero, howed, h.owed, h.pending]
    constructor
    · intro hg
      exact aidingLaw_off h.kept hoff hmask (hleft.trans hg)
    · rintro ⟨_, hserved⟩
      exact hleft.symm.trans (hserved hoff)

theorem lastAsked_eq_zero {masks : List UInt32} (h : ∀ f ∈ masks, f = 0) :
    lastAsked masks = 0 := by
  rw [lastAsked]
  cases hlast : masks.getLast? with
  | none => rfl
  | some f => exact h f (List.mem_of_getLast? hlast)

/-- A modem that goes down loses what is parked. -/
theorem engine_down_law {d : LocEngData} {note : AidingNote}
    (h : AidingLaw d note) {note' : AidingNote}
    (hnote : note' = aidingNote note d .LocEngDown
      (loc_eng_handle_engine_down d).1) :
    (NothingReplaced (d, note) .LocEngDown →
      AidingLaw (loc_eng_handle_engine_down d).1 note') ∧
    (AidingKept ((loc_eng_handle_engine_down d).1, note') →
      NothingReplaced (d, note) .LocEngDown) := by
  subst hnote
  have hoff : (loc_eng_handle_engine_down d).1.engine_status ≠
      .GPS_STATUS_ENGINE_ON := by
    intro hon
    cases hon
  have hleft : (aidingNote note d .LocEngDown
      (loc_eng_handle_engine_down d).1).owed = unionOf note.parked := by
    change owedAfter (note.owed ||| 0) (loc_eng_handle_engine_down d).2 = _
    rw [UInt32.or_zero, h.owed, owedAfter, loc_eng_handle_engine_down,
      report_status_silent]
    rfl
  constructor
  · intro hg
    have hzero : ∀ f ∈ note.parked, f = 0 := by
      intro f hf
      by_cases hon : d.engine_status = .GPS_STATUS_ENGINE_ON
      · exact hg hon f hf
      · rw [h.parked hon] at hf
        cases hf
    apply aidingLaw_off h.kept hoff
    · exact h.pending.trans (lastAsked_eq_zero hzero)
    · rw [hleft]
      exact (unionOf_eq_zero _).mpr hzero
  · rintro ⟨_, hserved⟩ _
    exact (unionOf_eq_zero _).mp (hleft.symm.trans (hserved hoff))

/-- A step keeps the law if nothing is replaced, and only then. -/
theorem aiding_step {p p' : LocEngData × AidingNote} {m : EngineMsg}
    (h : AidingLaw p.1 p.2) (hs : aidingSys.step p m = some p') :
    (NothingReplaced p m → AidingLaw p'.1 p'.2) ∧
      (AidingKept p' → NothingReplaced p m) := by
  obtain ⟨d, note⟩ := p
  obtain ⟨d', note'⟩ := p'
  obtain ⟨hstep, hnote⟩ := watched_step hs
  injection hstep with hstep
  dsimp only at h hstep hnote ⊢
  subst hstep
  cases m with
  | msg m =>
      by_cases hm : ∃ status, m = .LocEngReportStatus status
      · obtain ⟨status, rfl⟩ := hm
        exact reportStatus_law h status hnote
      · have hne : ∀ status, m ≠ .LocEngReportStatus status :=
          fun status heq => hm ⟨status, heq⟩
        constructor
        · intro _
          rw [hnote]
          exact aidingLaw_undisturbed h (fun _ heq => by cases heq)
            (proc_undisturbed hne)
        · intro _
          cases m with
          | LocEngReportStatus status => exact absurd rfl (hne status)
          | _ => trivial
  | LocEngDelAidData mType =>
      rw [hnote]
      exact ⟨fun _ => aidingLaw_delAidData h mType, fun _ => trivial⟩
  | LocEngDown => exact engine_down_law h hnote
  | LocEngUp ret =>
      rw [hnote]
      exact ⟨fun _ => aidingLaw_undisturbed h (fun _ heq => by cases heq)
        (engine_up_undisturbed d ret), fun _ => trivial⟩

/-- **NO REQUEST IS LOST** exactly in the runs where no parked mask is
    replaced by one that lacks a bit of it, and no modem goes down on one. -/
theorem aiding_kept_iff {d : LocEngData}
    (hd : d.aiding_data_for_deletion = 0) (l : List EngineMsg) :
    HoldsAlong aidingSys AidingKept (d, noAiding) l ↔
      StepsMeet aidingSys NothingReplaced (d, noAiding) l := by
  apply holdsAlong_iff_stepsMeet (I := fun p => AidingLaw p.1 p.2)
  · intro p h
    exact h.holds
  · intro p m p' h hg hs
    exact (aiding_step h hs).1 hg
  · intro p m p' h hg hs hkept
    exact hg ((aiding_step h hs).2 hkept)
  · exact ⟨rfl, hd, fun _ => rfl, rfl⟩

/-- Two requests while the engine is on, and its end. -/
def requestsRun (f g : UInt32) : List EngineMsg :=
  [.msg (.LocEngReportStatus .GPS_STATUS_ENGINE_ON), .LocEngDelAidData f,
   .LocEngDelAidData g, .msg (.LocEngReportStatus .GPS_STATUS_ENGINE_OFF)]

/-- A further request for more is served with the first. -/
theorem aiding_kept_more :
    HoldsAlong aidingSys AidingKept (newEngine.locEng, noAiding)
      (requestsRun 1 3) :=
  (aiding_kept_iff (by rfl) (requestsRun 1 3)).mpr (by decide +kernel)

/-- A further request for something else replaces the first. -/
theorem aiding_replaced :
    ¬ (∀ (d : LocEngData) (l : List EngineMsg),
      d.aiding_data_for_deletion = 0 →
        HoldsAlong aidingSys AidingKept (d, noAiding) l) := by
  intro hall
  have hrun : (exec aidingSys (newEngine.locEng, noAiding)
      (requestsRun 1 2)).map (fun p => (p.1.engine_status, p.2.owed)) =
        some (.GPS_STATUS_ENGINE_OFF, 1) := by decide +kernel
  obtain ⟨p, hexec, hend⟩ := Option.map_eq_some_iff.mp hrun
  have hkept := (hall newEngine.locEng (requestsRun 1 2) rfl).last hexec
  injection hend with hoff howed
  have hnone := hkept.2 (by rw [hoff]; intro heq; cases heq)
  rw [howed] at hnone
  cases hnone

end QcomEng
