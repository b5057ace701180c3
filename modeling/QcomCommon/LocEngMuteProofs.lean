import QcomCommon.LocEngMachineProofs

/-! # Muted sessions

    A network-initiated request that overrides the user's privacy mutes the
    session that follows: from the status report that takes the mute state
    from `WAIT` to `IN_SESSION` to the end of the session or of the engine,
    no position, satellite, NMEA or measurement callback is made.

    Two paths leak (`muted_nmea` is the first): a NMEA report is passed on
    without a look at the mute state, and a further override takes the state
    back to `WAIT` within the session.  Without them the session is silent
    (`muted_session_silent`). -/

namespace QcomEng

open QcomTransition QcomNi

/-! ## The muted interval -/

/-- A callback with location data. -/
def Call.tellsLocation : Call → Bool
  | .location_cb => true
  | .nmea_cb => true
  | .gnss_sv_status_cb => true
  | .gnss_measurement_cb => true
  | _ => false

/-- The engine with the muted interval and what it told in it. -/
structure Engine where
  locEng : LocEngData
  muted : Bool
  leaked : List Call
deriving DecidableEq, Repr

/-- A message, a step of the requests, or a call for measurements. -/
inductive EngAction where
  | msg (m : LocMsg)
  | ni (a : NiAction)
  | measurementInit
  | measurementClose
deriving DecidableEq, Repr

/-- The interval after a message: a report that takes the mute state from
    `WAIT` to `IN_SESSION` begins it, the end of a session or of the engine
    ends it. -/
def mutedAfter (muted : Bool) (d d' : LocEngData) : LocMsg → Bool
  | .LocEngReportStatus mStatus =>
      if mStatus.ends then false
      else muted || (d.mute_session_state = .LOC_MUTE_SESS_WAIT &&
        d'.mute_session_state = .LOC_MUTE_SESS_IN_SESSION)
  | _ => muted

/-- A message is handled. -/
def handle (e : Engine) (m : LocMsg) : Engine where
  locEng := (proc e.locEng m).1
  muted := mutedAfter e.muted e.locEng (proc e.locEng m).1 m
  leaked := if e.muted then
      e.leaked ++ (proc e.locEng m).2.filter Call.tellsLocation
    else e.leaked

/-- The request threads, the user's responses and the restarts move the
    request sessions in between; requests come as messages. -/
def niMove (e : Engine) (a : NiAction) : Option Engine :=
  (match a with
    | .request _ => none
    | a => niStep e.locEng.loc_eng_ni_data a).map fun n =>
      { e with locEng := { e.locEng with loc_eng_ni_data := n } }

/-- A step of the engine. -/
def engStep (e : Engine) : EngAction → Option Engine
  | .msg m => some (handle e m)
  | .ni a => niMove e a
  | .measurementInit => some { e with
      locEng := { e.locEng with gnss_measurement_cb := true } }
  | .measurementClose => some { e with
      locEng := { e.locEng with gnss_measurement_cb := false } }

/-- After `loc_eng_init`, with any callbacks and configuration. -/
def IsNewEngine (e : Engine) : Prop :=
  e.locEng.mute_session_state = .LOC_MUTE_SESS_NONE ∧
  e.locEng.engine_status = .GPS_STATUS_NONE ∧
  e.locEng.fix_session_status = .GPS_STATUS_NONE ∧
  e.locEng.aiding_data_for_deletion = 0 ∧
  e.locEng.adapter.mNavigating = false ∧
  niSys.init e.locEng.loc_eng_ni_data ∧ e.muted = false ∧ e.leaked = []

/-- An engine from its start on. -/
def engSys : TransSys Engine EngAction where
  init := IsNewEngine
  step := engStep

/-- While muted, no NMEA report finds a callback and no request that
    overrides the privacy is accepted. -/
def MuteKept (e : Engine) : EngAction → Prop
  | .msg .LocEngReportNmea => e.muted = true → e.locEng.nmea_cb = false
  | .msg (.LocEngRequestNi r) => e.muted = true →
      overridesPrivacy e.locEng.loc_eng_ni_data r = false
  | _ => True

instance (e : Engine) (a : EngAction) : Decidable (MuteKept e a) := by
  unfold MuteKept
  split <;> infer_instance

/-! ## What a handler says in a muted session -/

/-- No status is told by a location callback. -/
theorem reportStatus_calls (d : LocEngData) (status : GpsStatusValue) :
    ∀ c ∈ (reportStatus d status).2, c.tellsLocation = false := by
  intro c hc
  rcases List.mem_append.mp hc with hc | hc
  · simp only [loc_eng_report_status, List.mem_ite_nil_right,
      List.mem_singleton] at hc
    rw [hc.2]
    rfl
  · rw [update_aiding_data_for_deletion] at hc
    split at hc
    · rw [List.mem_singleton.mp hc]
      rfl
    · cases hc

/-- The start of a session tells no location. -/
theorem start_calls (d : LocEngData) (ret : loc_api_adapter_err) :
    ∀ c ∈ (loc_eng_start_handler d ret).2, c.tellsLocation = false := by
  intro c hc
  rw [loc_eng_start_handler] at hc
  split at hc
  · cases hc
  · split at hc
    · simp only [List.mem_cons, List.not_mem_nil, or_false] at hc
      rcases hc with rfl | rfl <;> rfl
    · rw [List.mem_singleton.mp hc]
      rfl

/-- Its end tells none. -/
theorem stop_calls (d : LocEngData) :
    ∀ c ∈ (loc_eng_stop_handler d).2, c.tellsLocation = false := by
  intro c hc
  rw [loc_eng_stop_handler] at hc
  split at hc
  · simp only [List.mem_cons, List.not_mem_nil, or_false] at hc
    rcases hc with rfl | rfl <;> rfl
  · cases hc

/-- In a muted session the handlers make no location callback, NMEA reports
    apart. -/
theorem proc_calls_of_muted {d : LocEngData}
    (hd : d.mute_session_state = .LOC_MUTE_SESS_IN_SESSION) {m : LocMsg}
    (hm : m = .LocEngReportNmea → d.nmea_cb = false) :
    ∀ c ∈ (proc d m).2, c.tellsLocation = false := by
  cases m with
  | LocEngReportStatus mStatus => exact reportStatus_calls d mStatus
  | LocEngReportPosition r =>
      intro c hc
      rw [proc, reportPosition, if_neg (fun hne => hne hd)] at hc
      cases hc
  | LocEngReportSv nmeaSv =>
      intro c hc
      rw [proc, reportSv, if_neg (fun hne => hne hd)] at hc
      cases hc
  | LocEngReportNmea =>
      intro c hc
      simp [proc, reportNmea, hm rfl] at hc
  | LocEngReportGnssMeasurement =>
      intro c hc
      rw [proc, reportGnssMeasurement, if_neg (fun hne => hne hd)] at hc
      cases hc
  | LocEngRequestNi r => exact fun c hc => by cases hc
  | LocEngPositionMode mPosMode =>
      intro c hc
      rw [List.mem_singleton.mp hc]
      rfl
  | LocEngStartFix ret => exact start_calls d ret
  | LocEngStopFix => exact stop_calls d

/-! ## What a handler does to the mute state -/

/-- A status is what changes the mute state. -/
theorem reportStatus_mute (d : LocEngData) (status : GpsStatusValue) :
    (reportStatus d status).1.mute_session_state =
      muteAfterStatus d.mute_session_state status := by
  rw [reportStatus, update_aiding_data_for_deletion]
  split <;> rfl

/-- A status that ends nothing keeps a muted session muted. -/
theorem muteAfterStatus_keeps {status : GpsStatusValue}
    (h : status.ends = false) :
    muteAfterStatus .LOC_MUTE_SESS_IN_SESSION status =
      .LOC_MUTE_SESS_IN_SESSION := by
  cases status <;> first | rfl | cases h

/-- A position does not. -/
theorem reportPosition_mute (d : LocEngData) (r : PositionReport) :
    (reportPosition d r).1.mute_session_state = d.mute_session_state := by
  rw [reportPosition]
  split
  · change (endSingleShot d r).1.mute_session_state = _
    rw [endSingleShot]
    split <;> rfl
  · rfl

/-- Nor does the start of a session. -/
theorem start_mute (d : LocEngData) (ret : loc_api_adapter_err) :
    (loc_eng_start_handler d ret).1.mute_session_state =
      d.mute_session_state := by
  rw [loc_eng_start_handler]
  split
  · rfl
  · split <;> rfl

/-- Nor its end. -/
theorem stop_mute (d : LocEngData) :
    (loc_eng_stop_handler d).1.mute_session_state =
      d.mute_session_state := by
  rw [loc_eng_stop_handler]
  split <;> rfl

/-- Status reports and overriding requests apart, no message touches the
    mute state. -/
theorem proc_mute {d : LocEngData} {m : LocMsg}
    (hs : ∀ status, m ≠ .LocEngReportStatus status)
    (hn : ∀ r, m = .LocEngRequestNi r →
      overridesPrivacy d.loc_eng_ni_data r = false) :
    (proc d m).1.mute_session_state = d.mute_session_state := by
  cases m with
  | LocEngReportStatus mStatus => exact absurd rfl (hs mStatus)
  | LocEngReportPosition r => exact reportPosition_mute d r
  | LocEngReportSv nmeaSv =>
      rw [proc, reportSv]
      split <;> rfl
  | LocEngReportNmea => rfl
  | LocEngReportGnssMeasurement =>
      rw [proc, reportGnssMeasurement]
      split <;> rfl
  | LocEngRequestNi r => simp [proc, requestNi, hn r rfl]
  | LocEngPositionMode mPosMode => rfl
  | LocEngStartFix ret => exact start_mute d ret
  | LocEngStopFix => exact stop_mute d

/-! ## Runs -/

/-- While muted, the mute state is `IN_SESSION`; nothing was told. -/
structure MuteLaw (e : Engine) : Prop where
  inSession : e.muted = true →
    e.locEng.mute_session_state = .LOC_MUTE_SESS_IN_SESSION
  silent : e.leaked = []

/-- A message that is handled keeps the law. -/
theorem muteLaw_handle {e : Engine} (h : MuteLaw e) {m : LocMsg}
    (hg : MuteKept e (.msg m)) : MuteLaw (handle e m) := by
  constructor
  · intro hmuted
    by_cases hs : ∃ status, m = .LocEngReportStatus status
    · obtain ⟨status, rfl⟩ := hs
      change (reportStatus e.locEng status).1.mute_session_state = _
      change mutedAfter e.muted e.locEng (reportStatus e.locEng status).1
        (.LocEngReportStatus status) = true at hmuted
      rw [reportStatus_mute]
      rw [mutedAfter, reportStatus_mute] at hmuted
      -- the report begins the interval or keeps it; the end clears it
      cases hend : status.ends with
      | true => simp [hend] at hmuted
      | false =>
          simp only [hend, Bool.false_eq_true, if_false, Bool.or_eq_true,
            Bool.and_eq_true, decide_eq_true_eq] at hmuted
          rcases hmuted with hold | ⟨_, hnew⟩
          · rw [h.inSession hold]
            exact muteAfterStatus_keeps hend
          · exact hnew
    · have hne : ∀ status, m ≠ .LocEngReportStatus status :=
        fun status heq => hs ⟨status, heq⟩
      -- no other message begins the interval
      have hold : e.muted = true := by
        cases m with
        | LocEngReportStatus mStatus => exact absurd rfl (hne mStatus)
        | _ => exact hmuted
      have hkeep := proc_mute (d := e.locEng) hne (by
        rintro r rfl
        exact hg hold)
      exact hkeep.trans (h.inSession hold)
  · cases hmuted : e.muted with
    | false =>
        -- outside the interval nothing is recorded
        have hleak : (handle e m).leaked = e.leaked := by
          simp [handle, hmuted]
        exact hleak.trans h.silent
    | true =>
        have hcalls := proc_calls_of_muted (h.inSession hmuted) (m := m) (by
          rintro rfl
          exact hg hmuted)
        have hnone : (proc e.locEng m).2.filter Call.tellsLocation = [] := by
          rw [List.filter_eq_nil_iff]
          intro c hc
          rw [hcalls c hc]
          exact Bool.false_ne_true
        have hleak : (handle e m).leaked = e.leaked := by
          simp [handle, hmuted, hnone]
        exact hleak.trans h.silent

/-- A step of the requests changes nothing else of the engine. -/
theorem niMove_eq {e e' : Engine} {a : NiAction}
    (hs : niMove e a = some e') :
    ∃ n, e' = { e with
      locEng := { e.locEng with loc_eng_ni_data := n } } := by
  obtain ⟨n, _, hn⟩ := Option.map_eq_some_iff.mp hs
  exact ⟨n, hn.symm⟩

/-- Every step that meets the condition keeps the law. -/
theorem muteLaw_step {e : Engine} {a : EngAction} {e' : Engine}
    (h : MuteLaw e) (hg : MuteKept e a) (hs : engStep e a = some e') :
    MuteLaw e' := by
  cases a with
  | msg m =>
      injection hs with hs
      exact hs ▸ muteLaw_handle h hg
  | ni a =>
      -- the request sessions have no part in the law
      obtain ⟨n, rfl⟩ := niMove_eq hs
      exact ⟨h.inSession, h.silent⟩
  | measurementInit =>
      injection hs with hs
      exact hs ▸ ⟨h.inSession, h.silent⟩
  | measurementClose =>
      injection hs with hs
      exact hs ▸ ⟨h.inSession, h.silent⟩

/-- **MUTED SESSIONS ARE SILENT**, where no NMEA report is passed on and no
    further override is accepted in them. -/
theorem muted_session_silent {e : Engine}
    (h : ReachUnder engSys MuteKept e) : e.leaked = [] := by
  have hlaw : MuteLaw e := by
    refine reachUnder_inv (I := MuteLaw) ?_ ?_ h
    · rintro e ⟨_, _, _, _, _, _, hmuted, hleaked⟩
      refine ⟨?_, hleaked⟩
      intro ht
      rw [hmuted] at ht
      cases ht
    · intro e a e' hI hg hs
      exact muteLaw_step hI hg hs
  exact hlaw.silent

/-! ## A report that is not muted -/

/-- An engine with all callbacks. -/
def newEngine : Engine where
  locEng := {
    adapter := ⟨⟨.LOC_POSITION_MODE_MS_BASED,
      .GPS_POSITION_RECURRENCE_PERIODIC, 1000, 50, 120000,
      .replicate 14 0, .replicate 8 0⟩, false⟩
    location_cb := true
    status_cb := true
    nmea_cb := true
    gnss_sv_status_cb := true
    gnss_measurement_cb := true
    intermediateFix := 0
    loc_eng_ni_data := newNiData
    engine_status := .GPS_STATUS_NONE
    fix_session_status := .GPS_STATUS_NONE
    aiding_data_for_deletion := 0
    mute_session_state := .LOC_MUTE_SESS_NONE
    generateNmea := false
    ACCURACY_THRES := 0 }
  muted := false
  leaked := []

theorem init_newEngine : engSys.init newEngine :=
  ⟨rfl, rfl, rfl, rfl, rfl, init_newNiData, rfl, rfl⟩

/-- A request that overrides the privacy, and the session it mutes. -/
def overrideRun : List EngAction :=
  [.ni .init, .msg (.LocEngRequestNi
      ⟨⟨.GPS_NI_TYPE_UMTS_SUPL, GPS_NI_PRIVACY_OVERRIDE, 20⟩, true, true⟩),
   .msg (.LocEngStartFix .LOC_API_ADAPTER_ERR_SUCCESS),
   .msg (.LocEngReportStatus .GPS_STATUS_SESSION_BEGIN)]

/-- Position, satellite and measurement reports of that session. -/
def mutedReports : List EngAction :=
  [.msg (.LocEngReportPosition ⟨.LOC_SESS_SUCCESS, 1, none, 5⟩),
   .msg (.LocEngReportSv 2), .msg .LocEngReportGnssMeasurement]

theorem muted_session_reports :
    ∃ e, exec engSys newEngine (overrideRun ++ mutedReports) = some e ∧
      e.muted = true ∧ e.leaked = [] := by
  have hmeet : StepsMeet engSys MuteKept newEngine
      (overrideRun ++ mutedReports) := by decide +kernel
  have hrun : (exec engSys newEngine (overrideRun ++ mutedReports)).map
      Engine.muted = some true := by decide +kernel
  obtain ⟨e, hexec, hmuted⟩ := Option.map_eq_some_iff.mp hrun
  exact ⟨e, hexec, hmuted, muted_session_silent
    (reachUnder_exec _ (.init init_newEngine) hmeet hexec)⟩

/-- A NMEA report of that session reaches the application. -/
theorem muted_nmea :
    ¬ (∀ e, Reach engSys e → e.leaked = []) := by
  intro hall
  have hrun : (exec engSys newEngine
      (overrideRun ++ [.msg .LocEngReportNmea])).map Engine.leaked
        = some [.nmea_cb] := by decide +kernel
  obtain ⟨e, hexec, hleaked⟩ := Option.map_eq_some_iff.mp hrun
  have hreach : Reach engSys e := reach_exec _ (.init init_newEngine) hexec
  rw [hall e hreach] at hleaked
  cases hleaked

end QcomEng
