import QcomCommon.LocCfgPathsProofs
import QcomCommon.TransitionProofs

/-! # Configuration updates of a running engine

    `loc_eng_configuration_update` runs the parser over the whole table of
    `gps.conf`, sends the modem what has changed, and keeps seven fields of
    the result; the rest is put back.  `loc_eng_reinit` sends the values
    again when the engine is initialised and when the modem comes up.

    So no other field of `gps_conf` changes, and once the engine is
    initialised the last message of each kind has the current value
    (`update_frame_and_sync`). -/

namespace QcomLocConf

open QcomTransition QcomAssign QcomLocCfg

/-! ## The configuration -/

/-- `gps_conf`. -/
structure loc_gps_cfg_s_type where
  INTERMEDIATE_POS : UInt32
  ACCURACY_THRES : UInt32
  SUPL_VER : UInt32
  SUPL_MODE : UInt32
  SUPL_ES : UInt32
  CAPABILITIES : UInt32
  LPP_PROFILE : UInt32
  XTRA_VERSION_CHECK : UInt32
  XTRA_SERVER_1 : List UInt8
  XTRA_SERVER_2 : List UInt8
  XTRA_SERVER_3 : List UInt8
  USE_EMERGENCY_PDN_FOR_EMERGENCY_SUPL : UInt32
  NMEA_PROVIDER : UInt32
  GPS_LOCK : UInt32
  A_GLONASS_POS_PROTOCOL_SELECT : UInt32
  AGPS_CERT_WRITABLE_MASK : UInt32
  LPPE_CP_TECHNOLOGY : UInt32
  LPPE_UP_TECHNOLOGY : UInt32
deriving DecidableEq, Repr

/-- The address of a field of `gps_conf`. -/
inductive GpsField where
  | INTERMEDIATE_POS
  | ACCURACY_THRES
  | SUPL_VER
  | SUPL_MODE
  | SUPL_ES
  | CAPABILITIES
  | LPP_PROFILE
  | XTRA_VERSION_CHECK
  | XTRA_SERVER_1
  | XTRA_SERVER_2
  | XTRA_SERVER_3
  | USE_EMERGENCY_PDN_FOR_EMERGENCY_SUPL
  | NMEA_PROVIDER
  | GPS_LOCK
  | A_GLONASS_POS_PROTOCOL_SELECT
  | AGPS_CERT_WRITABLE_MASK
  | LPPE_CP_TECHNOLOGY
  | LPPE_UP_TECHNOLOGY
deriving DecidableEq, Repr

variable {Double : Type}

/-- What is stored at the field. -/
def loc_gps_cfg_s_type.get (c : loc_gps_cfg_s_type) : GpsField → Value Double
  | .INTERMEDIATE_POS => .n c.INTERMEDIATE_POS
  | .ACCURACY_THRES => .n c.ACCURACY_THRES
  | .SUPL_VER => .n c.SUPL_VER
  | .SUPL_MODE => .n c.SUPL_MODE
  | .SUPL_ES => .n c.SUPL_ES
  | .CAPABILITIES => .n c.CAPABILITIES
  | .LPP_PROFILE => .n c.LPP_PROFILE
  | .XTRA_VERSION_CHECK => .n c.XTRA_VERSION_CHECK
  | .XTRA_SERVER_1 => .s c.XTRA_SERVER_1
  | .XTRA_SERVER_2 => .s c.XTRA_SERVER_2
  | .XTRA_SERVER_3 => .s c.XTRA_SERVER_3
  | .USE_EMERGENCY_PDN_FOR_EMERGENCY_SUPL =>
      .n c.USE_EMERGENCY_PDN_FOR_EMERGENCY_SUPL
  | .NMEA_PROVIDER => .n c.NMEA_PROVIDER
  | .GPS_LOCK => .n c.GPS_LOCK
  | .A_GLONASS_POS_PROTOCOL_SELECT => .n c.A_GLONASS_POS_PROTOCOL_SELECT
  | .AGPS_CERT_WRITABLE_MASK => .n c.AGPS_CERT_WRITABLE_MASK
  | .LPPE_CP_TECHNOLOGY => .n c.LPPE_CP_TECHNOLOGY
  | .LPPE_UP_TECHNOLOGY => .n c.LPPE_UP_TECHNOLOGY

/-- A number field as it is read. -/
def number : Value Double → UInt32
  | .n value => value
  | _ => 0

/-- A string field as it is read. -/
def string : Value Double → List UInt8
  | .s value => value
  | _ => []

/-- `gps_conf` with what is stored at its fields. -/
def ofFields (m : GpsField → Value Double) : loc_gps_cfg_s_type where
  INTERMEDIATE_POS := number (m .INTERMEDIATE_POS)
  ACCURACY_THRES := number (m .ACCURACY_THRES)
  SUPL_VER := number (m .SUPL_VER)
  SUPL_MODE := number (m .SUPL_MODE)
  SUPL_ES := number (m .SUPL_ES)
  CAPABILITIES := number (m .CAPABILITIES)
  LPP_PROFILE := number (m .LPP_PROFILE)
  XTRA_VERSION_CHECK := number (m .XTRA_VERSION_CHECK)
  XTRA_SERVER_1 := string (m .XTRA_SERVER_1)
  XTRA_SERVER_2 := string (m .XTRA_SERVER_2)
  XTRA_SERVER_3 := string (m .XTRA_SERVER_3)
  USE_EMERGENCY_PDN_FOR_EMERGENCY_SUPL :=
    number (m .USE_EMERGENCY_PDN_FOR_EMERGENCY_SUPL)
  NMEA_PROVIDER := number (m .NMEA_PROVIDER)
  GPS_LOCK := number (m .GPS_LOCK)
  A_GLONASS_POS_PROTOCOL_SELECT := number (m .A_GLONASS_POS_PROTOCOL_SELECT)
  AGPS_CERT_WRITABLE_MASK := number (m .AGPS_CERT_WRITABLE_MASK)
  LPPE_CP_TECHNOLOGY := number (m .LPPE_CP_TECHNOLOGY)
  LPPE_UP_TECHNOLOGY := number (m .LPPE_UP_TECHNOLOGY)

/-- The bytes of a name. -/
def cstr (s : String) : List UInt8 :=
  s.toList.map (fun c => UInt8.ofNat c.toNat)

/-- The parameters of `gps.conf`; none of them has a flag. -/
def gps_conf_table : List (loc_param_s_type GpsField) :=
  [ ⟨cstr "GPS_LOCK", some .GPS_LOCK, none, 'n'⟩,
    ⟨cstr "SUPL_VER", some .SUPL_VER, none, 'n'⟩,
    ⟨cstr "LPP_PROFILE", some .LPP_PROFILE, none, 'n'⟩,
    ⟨cstr "A_GLONASS_POS_PROTOCOL_SELECT",
      some .A_GLONASS_POS_PROTOCOL_SELECT, none, 'n'⟩,
    ⟨cstr "LPPE_CP_TECHNOLOGY", some .LPPE_CP_TECHNOLOGY, none, 'n'⟩,
    ⟨cstr "LPPE_UP_TECHNOLOGY", some .LPPE_UP_TECHNOLOGY, none, 'n'⟩,
    ⟨cstr "AGPS_CERT_WRITABLE_MASK", some .AGPS_CERT_WRITABLE_MASK, none,
      'n'⟩,
    ⟨cstr "SUPL_MODE", some .SUPL_MODE, none, 'n'⟩,
    ⟨cstr "SUPL_ES", some .SUPL_ES, none, 'n'⟩,
    ⟨cstr "INTERMEDIATE_POS", some .INTERMEDIATE_POS, none, 'n'⟩,
    ⟨cstr "ACCURACY_THRES", some .ACCURACY_THRES, none, 'n'⟩,
    ⟨cstr "NMEA_PROVIDER", some .NMEA_PROVIDER, none, 'n'⟩,
    ⟨cstr "CAPABILITIES", some .CAPABILITIES, none, 'n'⟩,
    ⟨cstr "XTRA_VERSION_CHECK", some .XTRA_VERSION_CHECK, none, 'n'⟩,
    ⟨cstr "XTRA_SERVER_1", some .XTRA_SERVER_1, none, 's'⟩,
    ⟨cstr "XTRA_SERVER_2", some .XTRA_SERVER_2, none, 's'⟩,
    ⟨cstr "XTRA_SERVER_3", some .XTRA_SERVER_3, none, 's'⟩,
    ⟨cstr "USE_EMERGENCY_PDN_FOR_EMERGENCY_SUPL",
      some .USE_EMERGENCY_PDN_FOR_EMERGENCY_SUPL, none, 'n'⟩ ]

/-- `UTIL_UPDATE_CONF` of `gps_conf`. -/
def updateConf (lc : Strto Double) (memory : Bool) (config_data : List UInt8)
    (length : Nat) (gps_conf : loc_gps_cfg_s_type) : loc_gps_cfg_s_type :=
  ofFields (loc_update_conf lc memory config_data length gps_conf_table
    ⟨gps_conf.get, fun _ => 0⟩).2.value

/-- `sap_conf`. -/
structure loc_sap_cfg_s_type (Double : Type) where
  GYRO_BIAS_RANDOM_WALK_VALID : UInt8
  GYRO_BIAS_RANDOM_WALK : Double
  SENSOR_ACCEL_BATCHES_PER_SEC : UInt32
  SENSOR_ACCEL_SAMPLES_PER_BATCH : UInt32
  SENSOR_GYRO_BATCHES_PER_SEC : UInt32
  SENSOR_GYRO_SAMPLES_PER_BATCH : UInt32
  SENSOR_ACCEL_BATCHES_PER_SEC_HIGH : UInt32
  SENSOR_ACCEL_SAMPLES_PER_BATCH_HIGH : UInt32
  SENSOR_GYRO_BATCHES_PER_SEC_HIGH : UInt32
  SENSOR_GYRO_SAMPLES_PER_BATCH_HIGH : UInt32
  SENSOR_CONTROL_MODE : UInt32
  SENSOR_USAGE : UInt32
  SENSOR_ALGORITHM_CONFIG_MASK : UInt32
  ACCEL_RANDOM_WALK_SPECTRAL_DENSITY_VALID : UInt8
  ACCEL_RANDOM_WALK_SPECTRAL_DENSITY : Double
  ANGLE_RANDOM_WALK_SPECTRAL_DENSITY_VALID : UInt8
  ANGLE_RANDOM_WALK_SPECTRAL_DENSITY : Double
  RATE_RANDOM_WALK_SPECTRAL_DENSITY_VALID : UInt8
  RATE_RANDOM_WALK_SPECTRAL_DENSITY : Double
  VELOCITY_RANDOM_WALK_SPECTRAL_DENSITY_VALID : UInt8
  VELOCITY_RANDOM_WALK_SPECTRAL_DENSITY : Double
  SENSOR_PROVIDER : UInt32

/-! ## The engine -/

/-- All sentences of the modem. -/
def LOC_NMEA_ALL_SUPPORTED_MASK : UInt32 := 0x1ffff

/-- The event of the sentences. -/
def LOC_API_ADAPTER_BIT_NMEA_1HZ_REPORT : UInt32 := 0x4

/-- The sentences are made here. -/
def NMEA_PROVIDER_AP : UInt32 := 0

/-- They come from the modem. -/
def NMEA_PROVIDER_MP : UInt32 := 1

/-- Of `gps.h`. -/
def GPS_CAPABILITY_MEASUREMENTS : UInt32 := 0x40

/-- The messages of these functions; the numbers are the 32 bits that the
    constructors take. -/
inductive LocMsg (Double : Type) where
  | LocEngInit
  | LocEngUp
  | LocEngGnssConstellationConfig
  | LocEngSuplVer (suplVer : UInt32)
  | LocEngLppConfig (lppConfig : UInt32)
  | LocEngSensorControlConfig (sensorsDisabled sensorProvider : UInt32)
  | LocEngAGlonassProtocol (protocol : UInt32)
  | LocEngLPPeProtocol (lppeCP lppeUP : UInt32)
  | LocEngSuplMode
  | LocEngAdapterGpsLock (lockMask : UInt32)
  | LocEngSetNmeaTypes (typesMask : UInt32)
  | LocEngSensorProperties (gyroBiasRandomWalk accelRandomWalk
      angleRandomWalk rateRandomWalk velocityRandomWalk : Bool × Double)
  | LocEngSensorPerfControlConfig (controlMode accelSamplesPerBatch
      accelBatchesPerSec gyroSamplesPerBatch gyroBatchesPerSec
      accelSamplesPerBatchHigh accelBatchesPerSecHigh
      gyroSamplesPerBatchHigh gyroBatchesPerSecHigh
      algorithmConfig : UInt32)
  | LocEngEnableData (name : Option (List UInt8)) (length : UInt32)
      (enable : UInt32)
  | LocEngSetXtraVersionCheck (check : UInt32)
  | LocEngSetCapabilities
  | LocEngSetSystemInfo
deriving DecidableEq

/-- The adapter: its power vote and what it tells of the hardware. -/
structure LocEngAdapter where
  mPowerVote : UInt32
  year_of_hw : UInt16
deriving DecidableEq, Repr

/-- `mPowerVote & POWER_VOTE_VALUE`. -/
def LocEngAdapter.getPowerVote (adapter : LocEngAdapter) : Bool :=
  adapter.mPowerVote &&& 0x10 != 0

/-- The engine with the configuration, and the messages of the adapter:
    those in the queue, and those that the thread has taken from it. -/
structure LocEngData (Double : Type) where
  gps_conf : loc_gps_cfg_s_type
  sap_conf : loc_sap_cfg_s_type Double
  agpsStatus : Bool
  adapter : Option LocEngAdapter
  generateNmea : Bool
  queue : List (LocMsg Double)
  processed : List (LocMsg Double)

/-- Messages to the thread of the engine. -/
def LocEngData.sendMsgs (d : LocEngData Double) (l : List (LocMsg Double)) :
    LocEngData Double :=
  { d with queue := d.queue ++ l }

/-- Of the sensor properties one is specified at least. -/
def sensorPropertiesValid (sap_conf : loc_sap_cfg_s_type Double) : Bool :=
  sap_conf.GYRO_BIAS_RANDOM_WALK_VALID != 0 ||
  sap_conf.ACCEL_RANDOM_WALK_SPECTRAL_DENSITY_VALID != 0 ||
  sap_conf.ANGLE_RANDOM_WALK_SPECTRAL_DENSITY_VALID != 0 ||
  sap_conf.RATE_RANDOM_WALK_SPECTRAL_DENSITY_VALID != 0 ||
  sap_conf.VELOCITY_RANDOM_WALK_SPECTRAL_DENSITY_VALID != 0

/-- The modem makes the NMEA sentences, if this side does not. -/
def nmeaTypesMsgs (d : LocEngData Double) : List (LocMsg Double) :=
  if d.generateNmea then []
  else [.LocEngSetNmeaTypes LOC_NMEA_ALL_SUPPORTED_MASK]

/-- The message with the properties of the sensors, if these are valid. -/
def sensorPropertiesMsgs (d : LocEngData Double) : List (LocMsg Double) :=
  if sensorPropertiesValid d.sap_conf then
    [.LocEngSensorProperties
      (d.sap_conf.GYRO_BIAS_RANDOM_WALK_VALID != 0,
        d.sap_conf.GYRO_BIAS_RANDOM_WALK)
      (d.sap_conf.ACCEL_RANDOM_WALK_SPECTRAL_DENSITY_VALID != 0,
        d.sap_conf.ACCEL_RANDOM_WALK_SPECTRAL_DENSITY)
      (d.sap_conf.ANGLE_RANDOM_WALK_SPECTRAL_DENSITY_VALID != 0,
        d.sap_conf.ANGLE_RANDOM_WALK_SPECTRAL_DENSITY)
      (d.sap_conf.RATE_RANDOM_WALK_SPECTRAL_DENSITY_VALID != 0,
        d.sap_conf.RATE_RANDOM_WALK_SPECTRAL_DENSITY)
      (d.sap_conf.VELOCITY_RANDOM_WALK_SPECTRAL_DENSITY_VALID != 0,
        d.sap_conf.VELOCITY_RANDOM_WALK_SPECTRAL_DENSITY)]
  else []

/-- The messages of `loc_eng_reinit`, in order. -/
def reinitMsgs (d : LocEngData Double) : List (LocMsg Double) :=
  [ .LocEngGnssConstellationConfig,
    .LocEngSuplVer d.gps_conf.SUPL_VER,
    .LocEngLppConfig d.gps_conf.LPP_PROFILE,
    .LocEngSensorControlConfig d.sap_conf.SENSOR_USAGE
      d.sap_conf.SENSOR_PROVIDER,
    .LocEngAGlonassProtocol d.gps_conf.A_GLONASS_POS_PROTOCOL_SELECT,
    .LocEngLPPeProtocol d.gps_conf.LPPE_CP_TECHNOLOGY
      d.gps_conf.LPPE_UP_TECHNOLOGY ] ++
  nmeaTypesMsgs d ++ sensorPropertiesMsgs d ++
  [ .LocEngSensorPerfControlConfig d.sap_conf.SENSOR_CONTROL_MODE
      d.sap_conf.SENSOR_ACCEL_SAMPLES_PER_BATCH
      d.sap_conf.SENSOR_ACCEL_BATCHES_PER_SEC
      d.sap_conf.SENSOR_GYRO_SAMPLES_PER_BATCH
      d.sap_conf.SENSOR_GYRO_BATCHES_PER_SEC
      d.sap_conf.SENSOR_ACCEL_SAMPLES_PER_BATCH_HIGH
      d.sap_conf.SENSOR_ACCEL_BATCHES_PER_SEC_HIGH
      d.sap_conf.SENSOR_GYRO_SAMPLES_PER_BATCH_HIGH
      d.sap_conf.SENSOR_GYRO_BATCHES_PER_SEC_HIGH
      d.sap_conf.SENSOR_ALGORITHM_CONFIG_MASK,
    .LocEngEnableData none 0 (if d.agpsStatus then 1 else 0),
    .LocEngSetXtraVersionCheck d.gps_conf.XTRA_VERSION_CHECK ]

/-- What the configuration says is told to the modem. -/
def loc_eng_reinit (d : LocEngData Double) : LocEngData Double :=
  d.sendMsgs (reinitMsgs d)

/-- `loc_eng_init`; `callbacks` are given or not. -/
def loc_eng_init (d : LocEngData Double) (callbacks : Bool) (event : UInt32) :
    LocEngData Double :=
  if callbacks = false ∨ event = 0 then d
  -- already initialised
  else if d.adapter.isSome then d
  else
    let generateNmea :=
      event &&& LOC_API_ADAPTER_BIT_NMEA_1HZ_REPORT != 0 &&
        d.gps_conf.NMEA_PROVIDER == NMEA_PROVIDER_AP
    { d with generateNmea, adapter := some ⟨0, 2015⟩ }.sendMsgs [.LocEngInit]

/-- `loc_eng_handle_engine_up`.  The server addresses are sent again only
    after `loc_eng_agps_init`, and a session is started again without a
    message. -/
def loc_eng_handle_engine_up (d : LocEngData Double) : LocEngData Double :=
  loc_eng_reinit d

/-- What a message does when it is processed, but for what it tells the
    modem and the callbacks; `measurements` is what the modem answers to
    `gnssConstellationConfig`. -/
def proc (d : LocEngData Double) (measurements : Bool) :
    LocMsg Double → LocEngData Double
  | .LocEngInit =>
      (loc_eng_reinit d).sendMsgs [.LocEngSetCapabilities, .LocEngSetSystemInfo]
  | .LocEngUp => loc_eng_handle_engine_up d
  | .LocEngGnssConstellationConfig =>
      if measurements then
        { d with
          gps_conf := { d.gps_conf with
            CAPABILITIES :=
              d.gps_conf.CAPABILITIES ||| GPS_CAPABILITY_MEASUREMENTS }
          adapter := d.adapter.map ({ · with year_of_hw := 2016 }) }
      else { d with adapter := d.adapter.map ({ · with year_of_hw := 2015 }) }
  | _ => d

/-- What `loc_eng_configuration_update` sends for the configuration before
    and after the parser. -/
def updateMsgs (adapter : LocEngAdapter)
    (gps_conf_tmp gps_conf : loc_gps_cfg_s_type) : List (LocMsg Double) :=
  (if gps_conf_tmp.SUPL_VER ≠ gps_conf.SUPL_VER then
    [.LocEngSuplVer gps_conf.SUPL_VER] else []) ++
  (if gps_conf_tmp.LPP_PROFILE ≠ gps_conf.LPP_PROFILE then
    [.LocEngLppConfig gps_conf.LPP_PROFILE] else []) ++
  (if gps_conf_tmp.A_GLONASS_POS_PROTOCOL_SELECT
      ≠ gps_conf.A_GLONASS_POS_PROTOCOL_SELECT then
    [.LocEngAGlonassProtocol gps_conf.A_GLONASS_POS_PROTOCOL_SELECT]
    else []) ++
  (if gps_conf_tmp.SUPL_MODE ≠ gps_conf.SUPL_MODE then
    [.LocEngSuplMode] else []) ++
  -- with a power vote the HAL is on, and nothing is locked
  [.LocEngAdapterGpsLock
    (if adapter.getPowerVote then 0 else gps_conf.GPS_LOCK)]

/-- `gps_conf_tmp` with the fields that an update may change. -/
def keepUpdated (gps_conf_tmp gps_conf : loc_gps_cfg_s_type) :
    loc_gps_cfg_s_type :=
  { gps_conf_tmp with
    SUPL_VER := gps_conf.SUPL_VER
    LPP_PROFILE := gps_conf.LPP_PROFILE
    A_GLONASS_POS_PROTOCOL_SELECT := gps_conf.A_GLONASS_POS_PROTOCOL_SELECT
    SUPL_MODE := gps_conf.SUPL_MODE
    SUPL_ES := gps_conf.SUPL_ES
    GPS_LOCK := gps_conf.GPS_LOCK
    USE_EMERGENCY_PDN_FOR_EMERGENCY_SUPL :=
      gps_conf.USE_EMERGENCY_PDN_FOR_EMERGENCY_SUPL }

/-- `loc_eng_configuration_update` with `length` bytes of a text, if there is
    one; `memory` is whether the parser finds memory. -/
def loc_eng_configuration_update (lc : Strto Double) (memory : Bool)
    (d : LocEngData Double) (config_data : Option (List UInt8))
    (length : Int) : LocEngData Double :=
  match config_data with
  | none => d
  | some config_data =>
      if length > 0 then
        let gps_conf := updateConf lc memory config_data length.toNat d.gps_conf
        let d' := match d.adapter with
          -- it is possible that the HAL is not initialised at this time
          | none => d
          | some adapter => d.sendMsgs (updateMsgs adapter d.gps_conf gps_conf)
        { d' with gps_conf := keepUpdated d.gps_conf gps_conf }
      else d

/-! ## The system -/

/-- What is done with the engine. -/
inductive ConfAction where
  | init (callbacks : Bool) (event : UInt32)
  | procMsg (measurements : Bool)
  | update (memory : Bool) (config_data : Option (List UInt8)) (length : Int)
  | engineUp
  | setPowerVote (powerOn : Bool)

/-- The calls come in any order; a modem that comes up sends its message, and
    the message thread handles the first one. -/
def confStep (lc : Strto Double) (d : LocEngData Double) :
    ConfAction → Option (LocEngData Double)
  | .init callbacks event => some (loc_eng_init d callbacks event)
  | .procMsg measurements => match d.queue with
      | [] => none
      | msg :: queue =>
          some (proc { d with queue, processed := d.processed ++ [msg] }
            measurements msg)
  | .update memory config_data length =>
      some (loc_eng_configuration_update lc memory d config_data length)
  | .engineUp =>
      if d.adapter.isSome then some (d.sendMsgs [.LocEngUp]) else none
  | .setPowerVote powerOn => d.adapter.map (fun adapter =>
      { d with adapter := some { adapter with
        mPowerVote := if powerOn then adapter.mPowerVote ||| 0x10
          else adapter.mPowerVote &&& ~~~ 0x10 } })

/-- Before `loc_eng_init`, with any configuration. -/
def confSys (lc : Strto Double) : TransSys (LocEngData Double) ConfAction where
  init d := d.adapter = none ∧ d.queue = [] ∧ d.processed = []
  step := confStep lc

/-! ## The parser keeps the kinds

    Every entry of the table has the type of its field, so that a number
    stays a number and what is read back is what was stored. -/

/-- A number was stored. -/
def IsNumber : Value Double → Prop
  | .n _ => True
  | _ => False

/-- A string was stored. -/
def IsString : Value Double → Prop
  | .s _ => True
  | _ => False

/-- The fields that are strings. -/
def stringFields : List GpsField :=
  [.XTRA_SERVER_1, .XTRA_SERVER_2, .XTRA_SERVER_3]

/-- A value of the kind of the field. -/
def OfKind (f : GpsField) (v : Value Double) : Prop :=
  if f ∈ stringFields then IsString v else IsNumber v

theorem get_ofKind (c : loc_gps_cfg_s_type) (f : GpsField) :
    OfKind f (c.get f : Value Double) := by
  cases f <;> exact trivial

/-- What is stored is read back. -/
theorem get_ofFields {m : GpsField → Value Double} (h : ∀ f, OfKind f (m f))
    (f : GpsField) : (ofFields m).get f = m f := by
  have hnumber : ∀ v : Value Double, IsNumber v → Value.n (number v) = v := by
    rintro (v | v | v) hv
    · rfl
    · exact hv.elim
    · exact hv.elim
  have hstring : ∀ v : Value Double, IsString v → Value.s (string v) = v := by
    rintro (v | v | v) hv
    · exact hv.elim
    · rfl
    · exact hv.elim
  have hf := h f
  cases f
  all_goals first
    | exact hnumber _ hf
    | exact hstring _ hf

/-- The table of `gps.conf` has no name twice. -/
def gpsTable : Table GpsField where
  entries := gps_conf_table
  ne_nil := List.cons_ne_nil _ _
  names_nodup := by decide +kernel
  lt_range := by decide

/-- An entry stores at its field, and in its kind. -/
theorem table_kinds : ∀ e ∈ gps_conf_table, ∃ f,
    e.param_ptr = some f ∧
      e.param_type = if f ∈ stringFields then 's' else 'n' := by
  intro e he
  simp only [gps_conf_table, List.mem_cons, List.not_mem_nil, or_false] at he
  rcases he with rfl | rfl | rfl | rfl | rfl | rfl | rfl | rfl | rfl | rfl |
    rfl | rfl | rfl | rfl | rfl | rfl | rfl | rfl
  all_goals exact ⟨_, rfl, rfl⟩

theorem valueOf_ofKind {f : GpsField} {v : loc_param_v_type Double}
    {w : Value Double}
    (h : valueOf (if f ∈ stringFields then 's' else 'n') v = some w) :
    OfKind f w := by
  rw [OfKind]
  by_cases hf : f ∈ stringFields
  · rw [if_pos hf] at h ⊢
    obtain rfl := Option.some.inj h
    exact trivial
  · rw [if_neg hf] at h ⊢
    obtain rfl := Option.some.inj h
    exact trivial

/-- Whatever a line says, it stores a value of the kind of its field. -/
theorem assign_ofKind {lc : Strto Double} {l : List UInt8}
    {w : GpsField × Value Double} (h : assign lc gps_conf_table l = some w) :
    OfKind w.1 w.2 := by
  obtain ⟨r, -, hr⟩ := Option.bind_eq_some_iff.mp h
  obtain ⟨e, he, hsome⟩ := List.exists_of_findSome?_eq_some hr
  obtain ⟨f, hptr, htype⟩ := table_kinds e he
  rw [entryAssign, hptr, htype] at hsome
  by_cases hn : e.param_name = r.1
  · rw [if_pos hn] at hsome
    cases hv : valueOf (if f ∈ stringFields then 's' else 'n')
        (configValue lc r) with
    | none =>
        rw [hv] at hsome
        cases hsome
    | some v =>
        rw [hv] at hsome
        obtain rfl := Option.some.inj hsome
        exact valueOf_ofKind hv
  · rw [if_neg hn] at hsome
    cases hsome

theorem putAll_ofKind {m : GpsField → Value Double}
    {l : List (GpsField × Value Double)} (hm : ∀ f, OfKind f (m f))
    (hl : ∀ w ∈ l, OfKind w.1 w.2) (f : GpsField) :
    OfKind f (putAll m l f) := by
  induction l generalizing m with
  | nil => exact hm f
  | cons w l ih =>
      refine ih (fun f => ?_) (fun w' hw' => hl w' (List.mem_cons_of_mem w hw'))
      rw [put]
      by_cases hf : f = w.1
      · rw [if_pos hf, hf]
        exact hl w List.mem_cons_self
      · rw [if_neg hf]
        exact hm f

/-- **THE PARSER** stores every value in the kind of its field, for any
    text. -/
theorem update_ofKind (lc : Strto Double) (memory : Bool)
    (config_data : List UInt8) (length : Nat) (c : loc_gps_cfg_s_type)
    (f : GpsField) :
    OfKind f ((loc_update_conf lc memory config_data length gps_conf_table
      ⟨c.get, fun _ => 0⟩).2.value f) := by
  rw [loc_update_conf]
  by_cases hnone : length = 0 ∨ gps_conf_table = [] ∨ memory = false
  · rw [if_pos hnone]
    exact get_ofKind c f
  · rw [if_neg hnone]
    have hvalue := updateLoop_assigns lc gpsTable _
      (UInt32.ofNat gps_conf_table.length - 1)
      ((config_data.take length).takeWhile (· != NUL)) 0
      ⟨c.get, fun _ => 0⟩ (Nat.lt_succ_self _)
    refine (congrFun hvalue f) ▸ putAll_ofKind (get_ofKind c) ?_ f
    intro w hw
    obtain ⟨l, -, hl⟩ := List.mem_filterMap.mp (List.mem_of_mem_take hw)
    exact assign_ofKind hl

/-- What `UTIL_UPDATE_CONF` leaves in `gps_conf` is what it stored. -/
theorem updateConf_get (lc : Strto Double) (memory : Bool)
    (config_data : List UInt8) (length : Nat) (c : loc_gps_cfg_s_type)
    (f : GpsField) :
    (updateConf lc memory config_data length c).get f
      = (loc_update_conf lc memory config_data length gps_conf_table
          ⟨c.get, fun _ => 0⟩).2.value f :=
  get_ofFields (update_ofKind lc memory config_data length c) f

/-! ## The frame -/

/-- The fields that an update may change. -/
def updatable : List GpsField :=
  [.SUPL_VER, .LPP_PROFILE, .A_GLONASS_POS_PROTOCOL_SELECT, .SUPL_MODE,
    .SUPL_ES, .GPS_LOCK, .USE_EMERGENCY_PDN_FOR_EMERGENCY_SUPL]

theorem keepUpdated_get (tmp c : loc_gps_cfg_s_type) (f : GpsField) :
    ((keepUpdated tmp c).get f : Value Double)
      = if f ∈ updatable then c.get f else tmp.get f := by
  cases f <;> rfl

/-- **WHAT AN UPDATE LEAVES** in `gps_conf`: what the parser stored in the
    fields that may change, and what was there in the others. -/
theorem update_fields (lc : Strto Double) (memory : Bool)
    (d : LocEngData Double) (config_data : List UInt8) {length : Int}
    (h : length > 0) (f : GpsField) :
    ((loc_eng_configuration_update lc memory d (some config_data)
        length).gps_conf.get f : Value Double)
      = if f ∈ updatable then
          (loc_update_conf lc memory config_data length.toNat gps_conf_table
            ⟨d.gps_conf.get, fun _ => 0⟩).2.value f
        else d.gps_conf.get f := by
  rw [loc_eng_configuration_update, if_pos h, ← updateConf_get]
  exact keepUpdated_get _ _ f

/-- **NO OTHER FIELD** changes in an update. -/
theorem update_frame (lc : Strto Double) (memory : Bool)
    (d : LocEngData Double) (config_data : Option (List UInt8))
    (length : Int) {f : GpsField} (h : f ∉ updatable) :
    ((loc_eng_configuration_update lc memory d config_data
        length).gps_conf.get f : Value Double) = d.gps_conf.get f := by
  cases config_data with
  | none => rfl
  | some config_data =>
      by_cases hlen : length > 0
      · rw [update_fields lc memory d config_data hlen, if_neg h]
      · rw [loc_eng_configuration_update, if_neg hlen]

/-! ## The modem in step -/

/-- The value of the last message of a kind. -/
def lastOf (kind : LocMsg Double → Option UInt32) (l : List (LocMsg Double)) :
    Option UInt32 := (l.filterMap kind).getLast?

/-- The version a message tells. -/
def suplVer : LocMsg Double → Option UInt32
  | .LocEngSuplVer v => some v
  | _ => none

/-- The profile a message tells. -/
def lppConfig : LocMsg Double → Option UInt32
  | .LocEngLppConfig v => some v
  | _ => none

/-- The protocol a message tells. -/
def aGlonassProtocol : LocMsg Double → Option UInt32
  | .LocEngAGlonassProtocol v => some v
  | _ => none

theorem lastOf_append (kind : LocMsg Double → Option UInt32)
    (l l' : List (LocMsg Double)) :
    lastOf kind (l ++ l') = (lastOf kind l').or (lastOf kind l) := by
  rw [lastOf, List.filterMap_append, List.getLast?_append]
  rfl

/-- The messages sent, processed or not. -/
def LocEngData.sent (d : LocEngData Double) : List (LocMsg Double) :=
  d.processed ++ d.queue

@[simp] theorem sent_sendMsgs (d : LocEngData Double)
    (l : List (LocMsg Double)) : (d.sendMsgs l).sent = d.sent ++ l :=
  (List.append_assoc _ _ _).symm

/-- A message of the kind with the value was sent last. -/
def SentLast (d : LocEngData Double) (kind : LocMsg Double → Option UInt32)
    (v : UInt32) : Prop := lastOf kind d.sent = some v

/-- The modem has been, or is being, told the current values. -/
structure InStep (d : LocEngData Double) : Prop where
  suplVer : SentLast d suplVer d.gps_conf.SUPL_VER
  lppConfig : SentLast d lppConfig d.gps_conf.LPP_PROFILE
  aGlonass : SentLast d aGlonassProtocol
    d.gps_conf.A_GLONASS_POS_PROTOCOL_SELECT

/-- Messages of other kinds leave the last one. -/
theorem sentLast_others {d : LocEngData Double}
    {kind : LocMsg Double → Option UInt32} {v : UInt32}
    {l : List (LocMsg Double)} (hl : lastOf kind l = none)
    (h : SentLast d kind v) : SentLast (d.sendMsgs l) kind v := by
  rw [SentLast, sent_sendMsgs, lastOf_append, hl]
  exact h

theorem sentLast_new (d : LocEngData Double)
    {kind : LocMsg Double → Option UInt32} {v : UInt32}
    {l : List (LocMsg Double)} (hl : lastOf kind l = some v) :
    SentLast (d.sendMsgs l) kind v := by
  rw [SentLast, sent_sendMsgs, lastOf_append, hl]
  rfl

/-- The messages of `loc_eng_reinit` have the current values. -/
theorem reinitMsgs_last (d : LocEngData Double) :
    lastOf suplVer (reinitMsgs d) = some d.gps_conf.SUPL_VER ∧
      lastOf lppConfig (reinitMsgs d) = some d.gps_conf.LPP_PROFILE ∧
      lastOf aGlonassProtocol (reinitMsgs d)
        = some d.gps_conf.A_GLONASS_POS_PROTOCOL_SELECT := by
  have hnmea : ∀ kind : LocMsg Double → Option UInt32,
      (∀ v, kind (.LocEngSetNmeaTypes v) = none) →
      lastOf kind (nmeaTypesMsgs d) = none := by
    intro kind hkind
    rw [nmeaTypesMsgs]
    cases d.generateNmea <;> simp [lastOf, hkind]
  have hsensor : ∀ kind : LocMsg Double → Option UInt32,
      (∀ a b c e f, kind (.LocEngSensorProperties a b c e f) = none) →
      lastOf kind (sensorPropertiesMsgs d) = none := by
    intro kind hkind
    rw [sensorPropertiesMsgs]
    cases sensorPropertiesValid d.sap_conf <;> simp [lastOf, hkind]
  rw [reinitMsgs]
  simp only [lastOf_append, hnmea suplVer (fun _ => rfl),
    hsensor suplVer (fun _ _ _ _ _ => rfl), hnmea lppConfig (fun _ => rfl),
    hsensor lppConfig (fun _ _ _ _ _ => rfl),
    hnmea aGlonassProtocol (fun _ => rfl),
    hsensor aGlonassProtocol (fun _ _ _ _ _ => rfl)]
  exact ⟨rfl, rfl, rfl⟩

/-- `loc_eng_reinit` brings the modem in step. -/
theorem reinit_inStep (d : LocEngData Double) : InStep (loc_eng_reinit d) := by
  obtain ⟨hsupl, hlpp, hglonass⟩ := reinitMsgs_last d
  exact ⟨sentLast_new d hsupl, sentLast_new d hlpp, sentLast_new d hglonass⟩

/-- A value is sent when it changes. -/
theorem sentLast_update {d : LocEngData Double}
    {kind : LocMsg Double → Option UInt32} {old new : UInt32}
    {l : List (LocMsg Double)} (h : SentLast d kind old)
    (hl : lastOf kind l = if old ≠ new then some new else none) :
    SentLast (d.sendMsgs l) kind new := by
  by_cases hne : old ≠ new
  · rw [if_pos hne] at hl
    exact sentLast_new d hl
  · rw [if_neg hne] at hl
    rw [← not_not.mp hne]
    exact sentLast_others hl h

/-- The messages of an update have what has changed. -/
theorem updateMsgs_last (adapter : LocEngAdapter)
    (tmp c : loc_gps_cfg_s_type) :
    lastOf suplVer (updateMsgs adapter tmp c : List (LocMsg Double))
        = (if tmp.SUPL_VER ≠ c.SUPL_VER then some c.SUPL_VER else none) ∧
      lastOf lppConfig (updateMsgs adapter tmp c : List (LocMsg Double))
        = (if tmp.LPP_PROFILE ≠ c.LPP_PROFILE then some c.LPP_PROFILE
            else none) ∧
      lastOf aGlonassProtocol (updateMsgs adapter tmp c : List (LocMsg Double))
        = (if tmp.A_GLONASS_POS_PROTOCOL_SELECT
              ≠ c.A_GLONASS_POS_PROTOCOL_SELECT
            then some c.A_GLONASS_POS_PROTOCOL_SELECT else none) := by
  refine ⟨?_, ?_, ?_⟩
  all_goals
    rw [updateMsgs, lastOf_append, lastOf_append, lastOf_append, lastOf_append]
    split_ifs <;> rfl

/-- An update leaves the adapter and what was processed, and sends nothing
    without an adapter. -/
theorem update_keeps (lc : Strto Double) (memory : Bool)
    (d : LocEngData Double) (config_data : Option (List UInt8))
    (length : Int) :
    (loc_eng_configuration_update lc memory d config_data length).adapter
        = d.adapter ∧
      (loc_eng_configuration_update lc memory d config_data length).processed
        = d.processed ∧
      (d.adapter = none →
        (loc_eng_configuration_update lc memory d config_data length).sent
          = d.sent) := by
  cases config_data with
  | none => exact ⟨rfl, rfl, fun _ => rfl⟩
  | some config_data =>
      rw [loc_eng_configuration_update]
      by_cases hlen : length > 0
      · rw [if_pos hlen]
        cases ha : d.adapter with
        | none => exact ⟨ha, rfl, fun _ => rfl⟩
        | some adapter => exact ⟨ha, rfl, fun hnone => by cases hnone⟩
      · rw [if_neg hlen]
        exact ⟨rfl, rfl, fun _ => rfl⟩

/-- An update of an engine with an adapter keeps the modem in step. -/
theorem update_inStep {lc : Strto Double} {memory : Bool}
    {d : LocEngData Double} (config_data : Option (List UInt8))
    (length : Int) (hadapter : d.adapter ≠ none) (h : InStep d) :
    InStep (loc_eng_configuration_update lc memory d config_data length) := by
  cases config_data with
  | none => exact h
  | some config_data =>
      rw [loc_eng_configuration_update]
      by_cases hlen : length > 0
      · rw [if_pos hlen]
        obtain ⟨adapter, ha⟩ := Option.ne_none_iff_exists'.mp hadapter
        simp only [ha]
        generalize updateConf lc memory config_data length.toNat d.gps_conf = c
        obtain ⟨hsupl, hlpp, hglonass⟩ := updateMsgs_last adapter d.gps_conf c
        exact ⟨sentLast_update h.suplVer hsupl, sentLast_update h.lppConfig hlpp,
          sentLast_update h.aGlonass hglonass⟩
      · rw [if_neg hlen]
        exact h

/-! ## Every run -/

/-- Nothing is sent before there is an adapter, and the modem is in step once
    the engine is initialised. -/
structure ConfLaw (d : LocEngData Double) : Prop where
  quiet : d.adapter = none → d.sent = []
  inStep : .LocEngInit ∈ d.processed → InStep d

theorem LocEngData.adapter_of_mem {d : LocEngData Double} (h : ConfLaw d)
    {m : LocMsg Double} (hm : m ∈ d.sent) : d.adapter ≠ none := by
  intro hnone
  rw [h.quiet hnone] at hm
  cases hm

/-- Other messages keep the law. -/
theorem confLaw_send {d : LocEngData Double} (h : ConfLaw d)
    (ha : d.adapter ≠ none) {l : List (LocMsg Double)}
    (hl : lastOf suplVer l = none ∧ lastOf lppConfig l = none ∧
      lastOf aGlonassProtocol l = none) : ConfLaw (d.sendMsgs l) where
  quiet hnone := absurd hnone ha
  inStep hmem :=
    have hin := h.inStep hmem
    ⟨sentLast_others hl.1 hin.suplVer, sentLast_others hl.2.1 hin.lppConfig,
      sentLast_others hl.2.2 hin.aGlonass⟩

/-- **ONE MESSAGE** processed keeps the law. -/
theorem confLaw_proc {d : LocEngData Double} (h : ConfLaw d)
    {msg : LocMsg Double} {queue : List (LocMsg Double)}
    (hq : d.queue = msg :: queue) (measurements : Bool) :
    ConfLaw (proc { d with queue, processed := d.processed ++ [msg] }
      measurements msg) := by
  have hmem : msg ∈ d.sent := by
    rw [LocEngData.sent, hq]
    exact List.mem_append_right _ List.mem_cons_self
  have ha := LocEngData.adapter_of_mem h hmem
  have hsent : ({ d with queue, processed := d.processed ++ [msg] } :
      LocEngData Double).sent = d.sent := by
    rw [LocEngData.sent, LocEngData.sent, hq]
    exact List.append_assoc _ _ _
  -- a message that is neither of the two that send leaves what was sent
  have hkeep : ∀ d' : LocEngData Double, msg ≠ .LocEngInit →
      d'.sent = d.sent → d'.processed = d.processed ++ [msg] →
      d'.gps_conf.SUPL_VER = d.gps_conf.SUPL_VER →
      d'.gps_conf.LPP_PROFILE = d.gps_conf.LPP_PROFILE →
      d'.gps_conf.A_GLONASS_POS_PROTOCOL_SELECT
        = d.gps_conf.A_GLONASS_POS_PROTOCOL_SELECT →
      (d'.adapter = none → d.adapter = none) → ConfLaw d' := by
    intro d' hne hs hp hsupl hlpp hglonass had
    refine ⟨fun hnone => absurd (had hnone) ha, ?_⟩
    intro hinit
    rw [hp, List.mem_append, List.mem_singleton] at hinit
    have hin := h.inStep (hinit.resolve_right (fun e => hne e.symm))
    refine ⟨?_, ?_, ?_⟩
    · rw [SentLast, hs, hsupl]
      exact hin.suplVer
    · rw [SentLast, hs, hlpp]
      exact hin.lppConfig
    · rw [SentLast, hs, hglonass]
      exact hin.aGlonass
  cases msg with
  | LocEngInit =>
      refine ⟨fun hnone => absurd hnone ha, fun _ => ?_⟩
      have hin := reinit_inStep
        { d with queue, processed := d.processed ++ [.LocEngInit] }
      exact ⟨sentLast_others rfl hin.suplVer, sentLast_others rfl hin.lppConfig,
        sentLast_others rfl hin.aGlonass⟩
  | LocEngUp =>
      exact ⟨fun hnone => absurd hnone ha, fun _ => reinit_inStep _⟩
  | LocEngGnssConstellationConfig =>
      rw [proc]
      cases measurements with
      | false =>
          refine hkeep _ (by rintro ⟨⟩) hsent rfl rfl rfl rfl ?_
          exact Option.map_eq_none_iff.mp
      | true =>
          refine hkeep _ (by rintro ⟨⟩) hsent rfl rfl rfl rfl ?_
          exact Option.map_eq_none_iff.mp
  | _ => exact hkeep _ (by rintro ⟨⟩) hsent rfl rfl rfl rfl id

theorem confLaw_step {lc : Strto Double} {d d' : LocEngData Double}
    {a : ConfAction} (h : ConfLaw d) (hs : confStep lc d a = some d') :
    ConfLaw d' := by
  cases a with
  | init callbacks event =>
      obtain rfl := Option.some.inj hs
      rw [loc_eng_init]
      by_cases hbad : callbacks = false ∨ event = 0
      · rw [if_pos hbad]
        exact h
      · rw [if_neg hbad]
        by_cases hsome : d.adapter.isSome
        · rw [if_pos hsome]
          exact h
        · rw [if_neg hsome]
          have hnone : d.adapter = none := by
            rw [Option.isSome_iff_ne_none, not_not] at hsome
            exact hsome
          refine ⟨fun hn => (by cases hn), fun hmem => ?_⟩
          -- nothing was processed before there was an adapter
          have hempty := (List.append_eq_nil_iff.mp (h.quiet hnone)).1
          change .LocEngInit ∈ d.processed at hmem
          rw [hempty] at hmem
          cases hmem
  | procMsg measurements =>
      rw [confStep] at hs
      cases hq : d.queue with
      | nil =>
          rw [hq] at hs
          cases hs
      | cons msg queue =>
          rw [hq] at hs
          obtain rfl := Option.some.inj hs
          exact confLaw_proc h hq measurements
  | update memory config_data length =>
      obtain rfl := Option.some.inj hs
      obtain ⟨hadapter, hprocessed, hsent⟩ :=
        update_keeps lc memory d config_data length
      by_cases ha : d.adapter = none
      · refine ⟨fun _ => (hsent ha).trans (h.quiet ha), fun hmem => ?_⟩
        rw [hprocessed] at hmem
        exact absurd ha
          (LocEngData.adapter_of_mem h (List.mem_append_left _ hmem))
      · refine ⟨fun hnone => absurd (hadapter ▸ hnone) ha, fun hmem => ?_⟩
        rw [hprocessed] at hmem
        exact update_inStep config_data length ha (h.inStep hmem)
  | engineUp =>
      rw [confStep] at hs
      by_cases hsome : d.adapter.isSome
      · rw [if_pos hsome] at hs
        obtain rfl := Option.some.inj hs
        exact confLaw_send h (Option.isSome_iff_ne_none.mp hsome)
          ⟨rfl, rfl, rfl⟩
      · rw [if_neg hsome] at hs
        cases hs
  | setPowerVote powerOn =>
      obtain ⟨adapter, ha, rfl⟩ := Option.map_eq_some_iff.mp hs
      exact ⟨fun hn => (by cases hn), fun hmem =>
        have hin := h.inStep hmem
        ⟨hin.suplVer, hin.lppConfig, hin.aGlonass⟩⟩

theorem confLaw_reach {lc : Strto Double} {d : LocEngData Double}
    (h : Reach (confSys lc) d) : ConfLaw d := by
  refine reachUnder_inv ?_ ?_ h
  · rintro d ⟨-, hq, hp⟩
    refine ⟨fun _ => ?_, fun hmem => ?_⟩
    · rw [LocEngData.sent, hq, hp]
      rfl
    · rw [hp] at hmem
      cases hmem
  · exact fun d a d' hlaw _ hs => confLaw_step hlaw hs

/-- **CONFIGURATION UPDATES** change no other field, and once the engine is
    initialised the last message of each kind has the current value. -/
theorem update_frame_and_sync (lc : Strto Double) :
    (∀ (memory : Bool) (d : LocEngData Double)
        (config_data : Option (List UInt8)) (length : Int) (f : GpsField),
      f ∉ updatable →
      ((loc_eng_configuration_update lc memory d config_data
          length).gps_conf.get f : Value Double) = d.gps_conf.get f) ∧
      (∀ d, Reach (confSys lc) d → .LocEngInit ∈ d.processed →
        SentLast d suplVer d.gps_conf.SUPL_VER ∧
        SentLast d lppConfig d.gps_conf.LPP_PROFILE ∧
        SentLast d aGlonassProtocol
          d.gps_conf.A_GLONASS_POS_PROTOCOL_SELECT) := by
  refine ⟨fun memory d config_data length f hf => ?_, fun d hreach hinit => ?_⟩
  · exact update_frame lc memory d config_data length hf
  · have hin := (confLaw_reach hreach).inStep hinit
    exact ⟨hin.suplVer, hin.lppConfig, hin.aGlonass⟩

/-- An engine with the defaults of `loc_default_parameters`. -/
def newEngine : LocEngData UInt32 where
  gps_conf := {
    INTERMEDIATE_POS := 0, ACCURACY_THRES := 0, NMEA_PROVIDER := 0,
    GPS_LOCK := 0, SUPL_VER := 0x10000, SUPL_MODE := 0x3, SUPL_ES := 0,
    CAPABILITIES := 0x7, LPP_PROFILE := 0,
    A_GLONASS_POS_PROTOCOL_SELECT := 0, XTRA_VERSION_CHECK := 0,
    USE_EMERGENCY_PDN_FOR_EMERGENCY_SUPL := 1, LPPE_CP_TECHNOLOGY := 0,
    LPPE_UP_TECHNOLOGY := 0, AGPS_CERT_WRITABLE_MASK := 0,
    XTRA_SERVER_1 := [], XTRA_SERVER_2 := [], XTRA_SERVER_3 := [] }
  sap_conf := {
    GYRO_BIAS_RANDOM_WALK := 0, SENSOR_ACCEL_BATCHES_PER_SEC := 2,
    SENSOR_ACCEL_SAMPLES_PER_BATCH := 5, SENSOR_GYRO_BATCHES_PER_SEC := 2,
    SENSOR_GYRO_SAMPLES_PER_BATCH := 5,
    SENSOR_ACCEL_BATCHES_PER_SEC_HIGH := 4,
    SENSOR_ACCEL_SAMPLES_PER_BATCH_HIGH := 25,
    SENSOR_GYRO_BATCHES_PER_SEC_HIGH := 4,
    SENSOR_GYRO_SAMPLES_PER_BATCH_HIGH := 25, SENSOR_CONTROL_MODE := 0,
    SENSOR_USAGE := 0, SENSOR_ALGORITHM_CONFIG_MASK := 0,
    ACCEL_RANDOM_WALK_SPECTRAL_DENSITY := 0,
    ANGLE_RANDOM_WALK_SPECTRAL_DENSITY := 0,
    RATE_RANDOM_WALK_SPECTRAL_DENSITY := 0,
    VELOCITY_RANDOM_WALK_SPECTRAL_DENSITY := 0,
    GYRO_BIAS_RANDOM_WALK_VALID := 0,
    ACCEL_RANDOM_WALK_SPECTRAL_DENSITY_VALID := 0,
    ANGLE_RANDOM_WALK_SPECTRAL_DENSITY_VALID := 0,
    RATE_RANDOM_WALK_SPECTRAL_DENSITY_VALID := 0,
    VELOCITY_RANDOM_WALK_SPECTRAL_DENSITY_VALID := 0, SENSOR_PROVIDER := 1 }
  agpsStatus := false
  adapter := none
  generateNmea := false
  queue := []
  processed := []

/-- The engine is initialised, and an update names a field that may change
    and one that may not. -/
def carrierUpdate : List ConfAction :=
  [.init true 1, .procMsg false,
    .update true (some (cstr "SUPL_VER=2\nCAPABILITIES=1\n")) 27]

/-- The modem is told the new version, and the capabilities stay. -/
theorem update_frame_and_sync_run :
    ∃ d, exec (confSys decimal) newEngine carrierUpdate = some d ∧
      d.gps_conf.SUPL_VER = 2 ∧ d.gps_conf.CAPABILITIES = 7 ∧
      SentLast d suplVer d.gps_conf.SUPL_VER ∧
      ((loc_eng_configuration_update decimal true d
        (some (cstr "LPP_PROFILE=1\n")) 14).gps_conf.get .CAPABILITIES :
          Value UInt32) = d.gps_conf.get .CAPABILITIES := by
  have hrun : (exec (confSys decimal) newEngine carrierUpdate).map (fun d =>
      (d.gps_conf.SUPL_VER, d.gps_conf.CAPABILITIES,
        decide (.LocEngInit ∈ d.processed))) = some (2, 7, true) := by
    decide +kernel
  obtain ⟨d, hd, hvalues⟩ := Option.map_eq_some_iff.mp hrun
  simp only [Prod.mk.injEq, decide_eq_true_eq] at hvalues
  obtain ⟨hsupl, hcap, hinit⟩ := hvalues
  have hreach : Reach (confSys decimal) d := reach_exec _ (.init ⟨rfl, rfl, rfl⟩) hd
  have h := update_frame_and_sync decimal
  exact ⟨d, hd, hsupl, hcap, (h.2 d hreach hinit).1,
    h.1 true d _ 14 .CAPABILITIES (by decide)⟩

/-- With an empty queue the modem has been told the current values. -/
theorem drained_inStep {lc : Strto Double} {d : LocEngData Double}
    (h : Reach (confSys lc) d) (hinit : .LocEngInit ∈ d.processed)
    (hq : d.queue = []) :
    lastOf suplVer d.processed = some d.gps_conf.SUPL_VER ∧
      lastOf lppConfig d.processed = some d.gps_conf.LPP_PROFILE ∧
      lastOf aGlonassProtocol d.processed
        = some d.gps_conf.A_GLONASS_POS_PROTOCOL_SELECT := by
  have hin := (confLaw_reach h).inStep hinit
  have hsent : d.sent = d.processed := by
    rw [LocEngData.sent, hq, List.append_nil]
  exact ⟨hsent ▸ hin.suplVer, hsent ▸ hin.lppConfig, hsent ▸ hin.aGlonass⟩

end QcomLocConf
