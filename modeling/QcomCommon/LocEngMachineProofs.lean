import QcomCommon.NiSessionProofs

/-! # The location engine

    `loc_eng.cpp` handles the messages of the modem and of the framework one
    after the other.  Modelled here are the reports (status, position,
    satellites, NMEA, measurements), the network-initiated request and the
    messages that start, stop and configure a tracking session.

    A handler returns the new engine data and what it calls, in order: the
    framework's callbacks and the modem.  What a callback is passed is left
    out, and with it the satellite bookkeeping of the adapter; of the NMEA
    generator only the number of sentences it sends is kept, as a member of
    the report. -/

namespace QcomEng

open QcomNi

/-- What the modem reports of the session and of itself. -/
inductive GpsStatusValue where
  | GPS_STATUS_NONE
  | GPS_STATUS_SESSION_BEGIN
  | GPS_STATUS_SESSION_END
  | GPS_STATUS_ENGINE_ON
  | GPS_STATUS_ENGINE_OFF
deriving DecidableEq, Repr

/-- Whether the positions of the session are held back. -/
inductive loc_mute_session_e_type where
  | LOC_MUTE_SESS_NONE
  | LOC_MUTE_SESS_WAIT
  | LOC_MUTE_SESS_IN_SESSION
deriving DecidableEq, Repr

/-- How a position ends its fix. -/
inductive loc_sess_status where
  | LOC_SESS_SUCCESS
  | LOC_SESS_INTERMEDIATE
  | LOC_SESS_FAILURE
deriving DecidableEq, Repr

/-- `ENGINE_DOWN` is `PHONE_OFFLINE`. -/
inductive loc_api_adapter_err where
  | LOC_API_ADAPTER_ERR_SUCCESS
  | LOC_API_ADAPTER_ERR_GENERAL_FAILURE
  | LOC_API_ADAPTER_ERR_UNSUPPORTED
  | LOC_API_ADAPTER_ERR_INVALID_HANDLE
  | LOC_API_ADAPTER_ERR_INVALID_PARAMETER
  | LOC_API_ADAPTER_ERR_ENGINE_BUSY
  | LOC_API_ADAPTER_ERR_PHONE_OFFLINE
  | LOC_API_ADAPTER_ERR_TIMEOUT
  | LOC_API_ADAPTER_ERR_SERVICE_NOT_PRESENT
  | LOC_API_ADAPTER_ERR_INTERNAL
  | LOC_API_ADAPTER_ERR_FAILURE
  | LOC_API_ADAPTER_ERR_UNKNOWN
deriving DecidableEq, Repr

/-- The modes of a session. -/
inductive LocPositionMode where
  | LOC_POSITION_MODE_INVALID
  | LOC_POSITION_MODE_STANDALONE
  | LOC_POSITION_MODE_MS_BASED
  | LOC_POSITION_MODE_MS_ASSISTED
  | LOC_POSITION_MODE_RESERVED (n : Fin 5)
deriving DecidableEq, Repr

/-- Whether one position is wanted, or more of them. -/
inductive GpsPositionRecurrence where
  | GPS_POSITION_RECURRENCE_PERIODIC
  | GPS_POSITION_RECURRENCE_SINGLE
deriving DecidableEq, Repr

/-- The criteria of a session. -/
structure LocPosMode where
  mode : LocPositionMode
  recurrence : GpsPositionRecurrence
  min_interval : UInt32
  preferred_accuracy : UInt32
  preferred_time : UInt32
  credentials : Vector UInt8 14
  provider : Vector UInt8 8
deriving DecidableEq, Repr

/-- The state of `LocEngAdapter`. -/
structure LocEngAdapter where
  mFixCriteria : LocPosMode
  mNavigating : Bool
deriving DecidableEq, Repr

/-- `loc_eng_data_s_type`, with `gps_conf.ACCURACY_THRES`.  A callback is
    registered or not. -/
structure LocEngData where
  adapter : LocEngAdapter
  location_cb : Bool
  status_cb : Bool
  nmea_cb : Bool
  gnss_sv_status_cb : Bool
  gnss_measurement_cb : Bool
  intermediateFix : UInt8
  loc_eng_ni_data : NiData
  engine_status : GpsStatusValue
  fix_session_status : GpsStatusValue
  aiding_data_for_deletion : UInt32
  mute_session_state : loc_mute_session_e_type
  generateNmea : Bool
  ACCURACY_THRES : UInt32
deriving DecidableEq, Repr

/-- What a handler calls. -/
inductive Call where
  | location_cb
  | status_cb (status : GpsStatusValue)
  | nmea_cb
  | gnss_sv_status_cb
  | gnss_measurement_cb
  | startFix (criteria : LocPosMode)
  | stopFix
  | setPositionMode (criteria : LocPosMode)
  | setInSession (inSession : Bool)
  | deleteAidingData (f : UInt32)
deriving DecidableEq, Repr

/-! ## Reports -/

/-- A position by satellites. -/
def LOC_POS_TECH_MASK_SATELLITE : UInt32 := 0x00000001

/-- A position by sensors. -/
def LOC_POS_TECH_MASK_SENSORS : UInt32 := 0x00000008

/-- A position by several techniques. -/
def LOC_POS_TECH_MASK_HYBRID : UInt32 := 0x00000080

/-- A position report; `accuracy` is the one of a location that has one, and
    `nmeaPos` the number of sentences `loc_eng_nmea_generate_pos` sends. -/
structure PositionReport where
  mStatus : loc_sess_status
  mTechMask : UInt32
  accuracy : Option Rat
  nmeaPos : Nat
deriving DecidableEq, Repr

/-- `setInSession`. -/
def LocEngAdapter.setInSession (a : LocEngAdapter) (inSession : Bool) :
    LocEngAdapter :=
  if inSession then { a with mNavigating := true }
  else { a with
    mNavigating := false
    mFixCriteria := { a.mFixCriteria with mode := .LOC_POSITION_MODE_INVALID } }

/-- A final fix of the right technology, or an intermediate one that is
    accepted and accurate enough. -/
def acceptedFix (d : LocEngData) (r : PositionReport) : Bool :=
  (decide (r.mStatus = .LOC_SESS_SUCCESS) &&
    ((LOC_POS_TECH_MASK_SATELLITE ||| LOC_POS_TECH_MASK_SENSORS |||
      LOC_POS_TECH_MASK_HYBRID) &&& r.mTechMask) != 0) ||
  (d.intermediateFix == 1 &&
    !(match r.accuracy with
      | some accuracy => d.ACCURACY_THRES != 0 &&
          decide ((d.ACCURACY_THRES.toNat : Rat) < accuracy)
      | none => false))

/-- Whether the fix is passed to the framework. -/
def reportedFix (d : LocEngData) (r : PositionReport) : Bool :=
  d.location_cb && (decide (r.mStatus = .LOC_SESS_FAILURE) || acceptedFix d r)

/-- The end of a single-shot session on its first reported fix. -/
def endSingleShot (d : LocEngData) (r : PositionReport) :
    LocEngData × List Call :=
  if reportedFix d r && d.adapter.mFixCriteria.recurrence =
      .GPS_POSITION_RECURRENCE_SINGLE then
    ({ d with adapter := d.adapter.setInSession false },
      (if r.mStatus = .LOC_SESS_INTERMEDIATE then [.stopFix] else []) ++
        [.setInSession false])
  else (d, [])

/-- The sentences the NMEA generator sends. -/
def nmeaSend (d : LocEngData) (sentences : Nat) : List Call :=
  if d.nmea_cb then List.replicate sentences .nmea_cb else []

/-- `LocEngReportPosition::proc`. -/
def reportPosition (d : LocEngData) (r : PositionReport) :
    LocEngData × List Call :=
  if d.mute_session_state ≠ .LOC_MUTE_SESS_IN_SESSION then
    -- the NMEA sentences come after the session may have ended
    let p := endSingleShot d r
    (p.1, (if reportedFix d r then [.location_cb] else []) ++ p.2 ++
      if p.1.generateNmea && p.1.adapter.mNavigating then
        nmeaSend p.1 r.nmeaPos
      else [])
  else (d, [])

/-- `LocEngReportSv::proc`; `nmeaSv` is the number of sentences
    `loc_eng_nmea_generate_sv` sends. -/
def reportSv (d : LocEngData) (nmeaSv : Nat) : LocEngData × List Call :=
  if d.mute_session_state ≠ .LOC_MUTE_SESS_IN_SESSION then
    (d, (if d.gnss_sv_status_cb then [.gnss_sv_status_cb] else []) ++
      if d.generateNmea then nmeaSend d nmeaSv else [])
  else (d, [])

/-- `LocEngReportNmea::proc`. -/
def reportNmea (d : LocEngData) : LocEngData × List Call :=
  (d, if d.nmea_cb then [.nmea_cb] else [])

/-- `LocEngReportGnssMeasurement::proc`. -/
def reportGnssMeasurement (d : LocEngData) : LocEngData × List Call :=
  if d.mute_session_state ≠ .LOC_MUTE_SESS_IN_SESSION then
    (d, if d.gnss_measurement_cb then [.gnss_measurement_cb] else [])
  else (d, [])

/-! ## Status reports -/

/-- The status starts a session or the engine. -/
def GpsStatusValue.begins (status : GpsStatusValue) : Bool :=
  status = .GPS_STATUS_SESSION_BEGIN || status = .GPS_STATUS_ENGINE_ON

/-- The status ends a session or the engine. -/
def GpsStatusValue.ends (status : GpsStatusValue) : Bool :=
  status = .GPS_STATUS_SESSION_END || status = .GPS_STATUS_ENGINE_OFF

/-- The mute state after a status report. -/
def muteAfterStatus (mute : loc_mute_session_e_type)
    (status : GpsStatusValue) : loc_mute_session_e_type :=
  -- the end is tested on the state the beginning left
  let waited := if status.begins && mute = .LOC_MUTE_SESS_WAIT then
      .LOC_MUTE_SESS_IN_SESSION
    else mute
  if waited = .LOC_MUTE_SESS_IN_SESSION && status.ends then
    .LOC_MUTE_SESS_NONE
  else waited

/-- Whether the framework may hear of the status while navigating or not. -/
def informsStatus (navigating : Bool) (status : GpsStatusValue) : Bool :=
  decide (status ≠ .GPS_STATUS_NONE) &&
  !(decide (status = .GPS_STATUS_SESSION_END) && navigating) &&
  !(decide (status = .GPS_STATUS_SESSION_BEGIN) && !navigating)

/-- `loc_eng_report_status`. -/
def loc_eng_report_status (d : LocEngData) (status : GpsStatusValue) :
    LocEngData × List Call :=
  let mute := muteAfterStatus d.mute_session_state status
  ({ d with
      mute_session_state := mute
      engine_status :=
        if status = .GPS_STATUS_ENGINE_ON ∨ status = .GPS_STATUS_ENGINE_OFF
        then status else d.engine_status
      fix_session_status :=
        if status = .GPS_STATUS_SESSION_BEGIN ∨
            status = .GPS_STATUS_SESSION_END
        then status else d.fix_session_status },
    if informsStatus d.adapter.mNavigating status &&
        mute ≠ .LOC_MUTE_SESS_IN_SESSION && d.status_cb then
      [.status_cb status]
    else [])

/-- `update_aiding_data_for_deletion`. -/
def update_aiding_data_for_deletion (d : LocEngData) :
    LocEngData × List Call :=
  if d.engine_status ≠ .GPS_STATUS_ENGINE_ON ∧
      d.aiding_data_for_deletion ≠ 0 then
    ({ d with aiding_data_for_deletion := 0 },
      [.deleteAidingData d.aiding_data_for_deletion])
  else (d, [])

/-- `LocEngReportStatus::proc`. -/
def reportStatus (d : LocEngData) (status : GpsStatusValue) :
    LocEngData × List Call :=
  let p := loc_eng_report_status d status
  let q := update_aiding_data_for_deletion p.1
  (q.1, p.2 ++ q.2)

/-! ## Requests and sessions -/

/-- The flag of a request that overrides the privacy. -/
def GPS_NI_PRIVACY_OVERRIDE : UInt32 := 0x0004

/-- `loc_eng_mute_one_session`. -/
def loc_eng_mute_one_session (d : LocEngData) : LocEngData :=
  { d with mute_session_state := .LOC_MUTE_SESS_WAIT }

/-- The handler accepts the request, and its flags override the privacy. -/
def overridesPrivacy (n : NiData) (r : NiRequest) : Bool :=
  n.ni_notify_cb && (selectSession n r.notif.ni_type).isSome &&
    r.notif.notify_flags == GPS_NI_PRIVACY_OVERRIDE

/-- `LocEngRequestNi::proc`. -/
def requestNi (d : LocEngData) (r : NiRequest) : LocEngData × List Call :=
  let e := { d with loc_eng_ni_data := niRequestHandler d.loc_eng_ni_data r }
  (if overridesPrivacy d.loc_eng_ni_data r then loc_eng_mute_one_session e
    else e, [])

/-- `LocEngPositionMode::proc`. -/
def positionMode (d : LocEngData) (mPosMode : LocPosMode) :
    LocEngData × List Call :=
  ({ d with adapter := { d.adapter with mFixCriteria := mPosMode } },
    [.setPositionMode mPosMode])

/-- The session counts as started. -/
def startsSession : loc_api_adapter_err → Bool
  | .LOC_API_ADAPTER_ERR_SUCCESS => true
  | .LOC_API_ADAPTER_ERR_PHONE_OFFLINE => true
  | .LOC_API_ADAPTER_ERR_INTERNAL => true
  | _ => false

/-- `loc_eng_start_handler`, where the modem answers `ret`. -/
def loc_eng_start_handler (d : LocEngData) (ret : loc_api_adapter_err) :
    LocEngData × List Call :=
  if d.adapter.mNavigating then (d, [])
  else if startsSession ret then
    ({ d with adapter := d.adapter.setInSession true },
      [.startFix d.adapter.mFixCriteria, .setInSession true])
  else (d, [.startFix d.adapter.mFixCriteria])

/-- `loc_eng_stop_handler`. -/
def loc_eng_stop_handler (d : LocEngData) : LocEngData × List Call :=
  if d.adapter.mNavigating then
    ({ d with adapter := d.adapter.setInSession false },
      [.stopFix, .setInSession false])
  else (d, [])

/-! ## Messages -/

/-- The messages to the engine whose calls are modelled. -/
inductive LocMsg where
  | LocEngReportStatus (mStatus : GpsStatusValue)
  | LocEngReportPosition (r : PositionReport)
  | LocEngReportSv (nmeaSv : Nat)
  | LocEngReportNmea
  | LocEngReportGnssMeasurement
  | LocEngRequestNi (r : NiRequest)
  | LocEngPositionMode (mPosMode : LocPosMode)
  | LocEngStartFix (ret : loc_api_adapter_err)
  | LocEngStopFix
deriving DecidableEq, Repr

/-- `proc` of a message: the engine behind it, and the calls. -/
def proc (d : LocEngData) : LocMsg → LocEngData × List Call
  | .LocEngReportStatus mStatus => reportStatus d mStatus
  | .LocEngReportPosition r => reportPosition d r
  | .LocEngReportSv nmeaSv => reportSv d nmeaSv
  | .LocEngReportNmea => reportNmea d
  | .LocEngReportGnssMeasurement => reportGnssMeasurement d
  | .LocEngRequestNi r => requestNi d r
  | .LocEngPositionMode mPosMode => positionMode d mPosMode
  | .LocEngStartFix ret => loc_eng_start_handler d ret
  | .LocEngStopFix => loc_eng_stop_handler d

end QcomEng
