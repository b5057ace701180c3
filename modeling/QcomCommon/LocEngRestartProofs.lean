import QcomCommon.LocEngMuteProofs

/-! # A modem restart in a session

    The modem goes down and comes back: on the first message the engine
    counts as off, on the second a session is to be started again with the
    criteria in the adapter.  Ending the session first invalidates their
    mode, so the modem is started without one (`restart_criteria`); the
    other fields are what was given for the session. -/

namespace QcomEng

open QcomTransition QcomNi

/-! ## The messages of a restart -/

/-- `LocEngDelAidData::proc`. -/
def delAidData (d : LocEngData) (mType : UInt32) : LocEngData × List Call :=
  update_aiding_data_for_deletion { d with aiding_data_for_deletion := mType }

/-- `loc_eng_handle_engine_down`. -/
def loc_eng_handle_engine_down (d : LocEngData) : LocEngData × List Call :=
  loc_eng_report_status
    { d with loc_eng_ni_data := niReset d.loc_eng_ni_data }
    .GPS_STATUS_ENGINE_OFF

/-- `loc_eng_handle_engine_up`, where the modem answers `ret`; the
    configuration it is sent again is left out. -/
def loc_eng_handle_engine_up (d : LocEngData) (ret : loc_api_adapter_err) :
    LocEngData × List Call :=
  if d.adapter.mNavigating then
    let p := loc_eng_start_handler
      { d with adapter := d.adapter.setInSession false } ret
    (p.1, .setInSession false :: p.2)
  else (d, [])

/-- The messages, with those of a restart. -/
inductive EngineMsg where
  | msg (m : LocMsg)
  | LocEngDelAidData (mType : UInt32)
  | LocEngDown
  | LocEngUp (ret : loc_api_adapter_err)
deriving DecidableEq, Repr

/-- `proc` of one of these. -/
def procEngine (d : LocEngData) : EngineMsg → LocEngData × List Call
  | .msg m => proc d m
  | .LocEngDelAidData mType => delAidData d mType
  | .LocEngDown => loc_eng_handle_engine_down d
  | .LocEngUp ret => loc_eng_handle_engine_up d ret

/-- The engine handles one message after the other, from any state. -/
def restartSys : TransSys LocEngData EngineMsg where
  init _ := True
  step d m := some (procEngine d m).1

/-! ## What was given for the session -/

/-- The criteria most recently given for the session, and whether a restart
    lost them. -/
structure SessionNote where
  given : Option LocPosMode
  lost : Bool
deriving DecidableEq, Repr

/-- Criteria are given by a message; the end of a session ends what was
    given for it. -/
def givenAfter (given : Option LocPosMode) (d d' : LocEngData) :
    EngineMsg → Option LocPosMode
  | .msg (.LocEngPositionMode mPosMode) => some mPosMode
  | _ => if d.adapter.mNavigating && !d'.adapter.mNavigating then none
      else given

/-- The criteria the modem is started with. -/
def startedWith (calls : List Call) : List LocPosMode :=
  calls.filterMap fun c => match c with
    | .startFix criteria => some criteria
    | _ => none

/-- The modem is started once, with what was given, and a start that succeeds
    is a session. -/
def Survives (given : Option LocPosMode) (ret : loc_api_adapter_err)
    (p : LocEngData × List Call) : Prop :=
  (startedWith p.2).length = 1 ∧ (∀ g ∈ given, startedWith p.2 = [g]) ∧
    (ret = .LOC_API_ADAPTER_ERR_SUCCESS → p.1.adapter.mNavigating = true)

instance (given : Option LocPosMode) (ret : loc_api_adapter_err)
    (p : LocEngData × List Call) : Decidable (Survives given ret p) := by
  unfold Survives
  infer_instance

/-- Whether the session is lost by a message. -/
def losesSession (given : Option LocPosMode) (d : LocEngData) :
    EngineMsg → Bool
  | .LocEngUp ret => d.adapter.mNavigating &&
      !decide (Survives given ret (loc_eng_handle_engine_up d ret))
  | _ => false

/-- What is known of the session, behind a message. -/
def sessionNote (note : SessionNote) (d : LocEngData) (m : EngineMsg)
    (d' : LocEngData) : SessionNote where
  given := givenAfter note.given d d' m
  lost := note.lost || losesSession note.given d m

/-- The engine with what was given for the session. -/
def sessionSys : TransSys (LocEngData × SessionNote) EngineMsg :=
  watched restartSys ⟨none, false⟩ sessionNote

/-- A restart in a session finds that no mode was given for it. -/
def NoModeGiven (p : LocEngData × SessionNote) : EngineMsg → Prop
  | .LocEngUp _ => p.1.adapter.mNavigating = true →
      ∀ g ∈ p.2.given, g.mode = .LOC_POSITION_MODE_INVALID
  | _ => True

/-! ## Only the mode is lost -/

/-- The criteria are the same but for the mode. -/
def LocPosMode.Matches (c g : LocPosMode) : Prop :=
  { c with mode := g.mode } = g

theorem LocPosMode.Matches.refl (c : LocPosMode) : c.Matches c := rfl

/-- What matches a mode that matches matches. -/
theorem LocPosMode.Matches.trans {a b c : LocPosMode} (hab : a.Matches b)
    (hbc : b.Matches c) : a.Matches c := by
  rw [LocPosMode.Matches] at hab hbc ⊢
  rw [← hab] at hbc
  exact hbc

/-- The end of a session changes nothing but the mode. -/
theorem setInSession_matches (a : LocEngAdapter) (inSession : Bool) :
    (a.setInSession inSession).mFixCriteria.Matches a.mFixCriteria := by
  cases inSession with
  | true => rfl
  | false => rfl

/-- The start of one changes nothing of the criteria. -/
theorem start_matches (d : LocEngData) (ret : loc_api_adapter_err) :
    (loc_eng_start_handler d ret).1.adapter.mFixCriteria.Matches
      d.adapter.mFixCriteria := by
  rw [loc_eng_start_handler]
  split
  · exact .refl _
  · split
    · exact setInSession_matches d.adapter true
    · exact .refl _

/-- The stop keeps what is to be matched. -/
theorem stop_matches (d : LocEngData) :
    (loc_eng_stop_handler d).1.adapter.mFixCriteria.Matches
      d.adapter.mFixCriteria := by
  rw [loc_eng_stop_handler]
  split
  · exact setInSession_matches d.adapter false
  · exact .refl _

/-- So does a position. -/
theorem reportPosition_matches (d : LocEngData) (r : PositionReport) :
    (reportPosition d r).1.adapter.mFixCriteria.Matches
      d.adapter.mFixCriteria := by
  rw [reportPosition]
  split
  · change (endSingleShot d r).1.adapter.mFixCriteria.Matches _
    rw [endSingleShot]
    split
    · exact setInSession_matches d.adapter false
    · exact .refl _
  · exact .refl _

/-- The adapter has nothing to do with what is deleted. -/
theorem update_adapter (d : LocEngData) :
    (update_aiding_data_for_deletion d).1.adapter = d.adapter := by
  rw [update_aiding_data_for_deletion]
  split <;> rfl

/-- The restart keeps it too. -/
theorem engine_up_matches (d : LocEngData) (ret : loc_api_adapter_err) :
    (loc_eng_handle_engine_up d ret).1.adapter.mFixCriteria.Matches
      d.adapter.mFixCriteria := by
  rw [loc_eng_handle_engine_up]
  split
  · exact (start_matches _ ret).trans (setInSession_matches d.adapter false)
  · exact .refl _

/-- New criteria apart, a message leaves all but the mode. -/
theorem proc_matches {d : LocEngData} {m : LocMsg}
    (hm : ∀ g, m ≠ .LocEngPositionMode g) :
    (proc d m).1.adapter.mFixCriteria.Matches d.adapter.mFixCriteria := by
  cases m with
  | LocEngReportStatus mStatus =>
      change (reportStatus d mStatus).1.adapter.mFixCriteria.Matches _
      rw [reportStatus, update_adapter]
      exact .refl _
  | LocEngReportPosition r => exact reportPosition_matches d r
  | LocEngReportSv nmeaSv =>
      rw [proc, reportSv]
      split <;> exact .refl _
  | LocEngReportNmea => exact .refl _
  | LocEngReportGnssMeasurement =>
      rw [proc, reportGnssMeasurement]
      split <;> exact .refl _
  | LocEngRequestNi r =>
      rw [proc, requestNi]
      split <;> exact .refl _
  | LocEngPositionMode mPosMode => exact absurd rfl (hm mPosMode)
  | LocEngStartFix ret => exact start_matches d ret
  | LocEngStopFix => exact stop_matches d

/-- Every message but a new position mode does. -/
theorem procEngine_matches {d : LocEngData} {m : EngineMsg}
    (hm : ∀ g, m ≠ .msg (.LocEngPositionMode g)) :
    (procEngine d m).1.adapter.mFixCriteria.Matches
      d.adapter.mFixCriteria := by
  cases m with
  | msg m =>
      apply proc_matches
      rintro g rfl
      exact hm g rfl
  | LocEngDelAidData mType =>
      rw [procEngine, delAidData, update_adapter]
      exact .refl _
  | LocEngDown => exact .refl _
  | LocEngUp ret => exact engine_up_matches d ret

/-! ## The restart -/

/-- The modem is started again without a mode. -/
theorem restart_criteria {d : LocEngData} (hd : d.adapter.mNavigating = true)
    (ret : loc_api_adapter_err) :
    startedWith (loc_eng_handle_engine_up d ret).2 =
      [{ d.adapter.mFixCriteria with mode := .LOC_POSITION_MODE_INVALID }] := by
  rw [loc_eng_handle_engine_up, if_pos hd]
  cases ret <;> rfl

/-- And a start that counts is a session. -/
theorem restart_session {d : LocEngData} (hd : d.adapter.mNavigating = true)
    (ret : loc_api_adapter_err) :
    (loc_eng_handle_engine_up d ret).1.adapter.mNavigating =
      startsSession ret := by
  rw [loc_eng_handle_engine_up, if_pos hd]
  cases ret <;> rfl

/-- A restart keeps the session if and only if no mode was given for it. -/
theorem survives_iff {d : LocEngData} (hd : d.adapter.mNavigating = true)
    {given : Option LocPosMode}
    (hgiven : ∀ g ∈ given, d.adapter.mFixCriteria.Matches g)
    (ret : loc_api_adapter_err) :
    Survives given ret (loc_eng_handle_engine_up d ret) ↔
      ∀ g ∈ given, g.mode = .LOC_POSITION_MODE_INVALID := by
  rw [Survives, restart_criteria hd, restart_session hd]
  constructor
  · rintro ⟨_, hsame, _⟩ g hg
    rw [← List.singleton_inj.mp (hsame g hg)]
  · intro hmode
    refine ⟨rfl, ?_, ?_⟩
    · intro g hg
      have hmatch := hgiven g hg
      rw [LocPosMode.Matches, hmode g hg] at hmatch
      rw [hmatch]
    · rintro rfl
      rfl

/-! ## Runs -/

/-- What was given for the session is in the adapter, but for the mode. -/
structure SessionLaw (p : LocEngData × SessionNote) : Prop where
  matched : ∀ g ∈ p.2.given, p.1.adapter.mFixCriteria.Matches g
  kept : p.2.lost = false

theorem sessionLaw_new (d : LocEngData) : SessionLaw (d, ⟨none, false⟩) :=
  ⟨fun _ hg => (by cases hg), rfl⟩

/-- The criteria of the adapter are those that were given last. -/
theorem given_matches {d : LocEngData} {given : Option LocPosMode}
    (h : ∀ g ∈ given, d.adapter.mFixCriteria.Matches g) (m : EngineMsg) :
    ∀ g ∈ givenAfter given d (procEngine d m).1 m,
      (procEngine d m).1.adapter.mFixCriteria.Matches g := by
  by_cases hm : ∃ g, m = .msg (.LocEngPositionMode g)
  · obtain ⟨g, rfl⟩ := hm
    rintro g' hg'
    rw [Option.mem_some.mp hg']
    exact .refl _
  · have hne : ∀ g, m ≠ .msg (.LocEngPositionMode g) :=
      fun g heq => hm ⟨g, heq⟩
    -- what is still given was given before
    have hold : ∀ g ∈ givenAfter given d (procEngine d m).1 m,
        g ∈ given := by
      intro g hg
      rw [givenAfter.eq_2 _ _ _ _ hne] at hg
      split at hg
      · cases hg
      · exact hg
    intro g hg
    exact (procEngine_matches hne).trans (h g (hold g hg))

/-- A message loses the session if and only if it is a restart that finds a
    mode given for it. -/
theorem losesSession_iff {p : LocEngData × SessionNote} (h : SessionLaw p)
    (m : EngineMsg) :
    losesSession p.2.given p.1 m = false ↔ NoModeGiven p m := by
  cases m with
  | LocEngUp ret =>
      rw [losesSession, NoModeGiven]
      cases hd : p.1.adapter.mNavigating with
      | false => simp
      | true =>
          rw [← survives_iff hd h.matched ret]
          simp
  | _ => exact ⟨fun _ => trivial, fun _ => rfl⟩

/-- A step keeps that, and loses the mode exactly if the condition is not
    met. -/
theorem session_step {p p' : LocEngData × SessionNote} {m : EngineMsg}
    (h : SessionLaw p) (hs : sessionSys.step p m = some p') :
    (∀ g ∈ p'.2.given, p'.1.adapter.mFixCriteria.Matches g) ∧
      (p'.2.lost = false ↔ NoModeGiven p m) := by
  obtain ⟨hstep, hnote⟩ := watched_step hs
  injection hstep with hstep
  rw [hnote, ← hstep]
  constructor
  · exact given_matches h.matched m
  · rw [← losesSession_iff h m]
    simp [sessionNote, h.kept]

/-- **A RESTART KEEPS THE SESSION** exactly in the runs where no restart in a
    session finds a mode given for it. -/
theorem restart_keeps_session_iff (d : LocEngData) (l : List EngineMsg) :
    HoldsAlong sessionSys (fun p => p.2.lost = false) (d, ⟨none, false⟩) l ↔
      StepsMeet sessionSys NoModeGiven (d, ⟨none, false⟩) l := by
  apply holdsAlong_iff_stepsMeet (I := SessionLaw)
  · intro p h
    exact h.kept
  · intro p m p' h hg hs
    obtain ⟨hmatch, hlost⟩ := session_step h hs
    exact ⟨hmatch, hlost.mpr hg⟩
  · intro p m p' h hg hs hlost
    exact hg ((session_step h hs).2.mp hlost)
  · exact sessionLaw_new d

/-- A tracking session of the framework. -/
def trackingMode : LocPosMode :=
  ⟨.LOC_POSITION_MODE_MS_BASED, .GPS_POSITION_RECURRENCE_PERIODIC, 1000, 50,
    120000, .replicate 14 0, .replicate 8 0⟩

/-- A modem restart within it. -/
def restartRun : List EngineMsg :=
  [.msg (.LocEngPositionMode trackingMode),
   .msg (.LocEngStartFix .LOC_API_ADAPTER_ERR_SUCCESS), .LocEngDown,
   .LocEngUp .LOC_API_ADAPTER_ERR_SUCCESS]

/-- The modem is started again without the mode of the session. -/
theorem restart_loses_mode :
    ¬ (∀ (d : LocEngData) (l : List EngineMsg),
      HoldsAlong sessionSys (fun p => p.2.lost = false)
        (d, ⟨none, false⟩) l) := by
  intro hall
  have hrun : (exec sessionSys (newEngine.locEng, ⟨none, false⟩)
      restartRun).map (fun p => p.2.lost) = some true := by decide +kernel
  obtain ⟨p, hexec, hlost⟩ := Option.map_eq_some_iff.mp hrun
  have hkept := (hall newEngine.locEng restartRun).last hexec
  rw [hlost] at hkept
  cases hkept

end QcomEng
