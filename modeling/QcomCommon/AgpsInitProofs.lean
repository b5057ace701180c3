import QcomCommon.AgpsEngineProofs

/-! # When the network interface machines exist

    `loc_eng_init`, `loc_eng_agps_init` and the calls of the framework with
    their checks, over the engine's message task.  The three machines are
    made by `LocEngAgnssNifInit`, or on the way to an emergency SUPL machine;
    the messages of the modem look whether theirs is there, those of the
    daemons and of the framework do not.

    Which machines are there follows from the capabilities and from the
    messages handled so far (`found_eq`).  A message without a look finds
    its machine if and only if the adapter handles the requests, the
    capabilities ask for that machine and the message that makes it was
    handled before (`finds_machine_iff`).  With all capabilities every order
    is safe in which the daemons wait until AGPS is set up
    (`machines_found`). -/

namespace QcomAgps

open QcomTransition

/-! ## The calls of the framework -/

/-- `MSB = 0x02` and `MSA = 0x04` of gps.conf. -/
def GPS_CAPABILITY_MSB : UInt32 := 0x02

/-- The capability for MSA in `CAPABILITIES`. -/
def GPS_CAPABILITY_MSA : UInt32 := 0x04

/-- What is set up once: the adapter's `mSupportsAgpsRequests` and the members
    of `gps_conf` that are read. -/
structure Setup where
  mSupportsAgpsRequests : Bool
  CAPABILITIES : UInt32
  USE_EMERGENCY_PDN_FOR_EMERGENCY_SUPL : Bool
deriving DecidableEq, Repr

/-- The target has MSA or MSB. -/
def Setup.agpsCapable (c : Setup) : Bool :=
  c.CAPABILITIES &&& GPS_CAPABILITY_MSA != 0 ||
    c.CAPABILITIES &&& GPS_CAPABILITY_MSB != 0

/-- What a step is answered: whether the data service client starts, and the
    answers to a machine. -/
structure Reply where
  initDataServiceClient : Bool
  outside : Outside
deriving DecidableEq, Repr

/-- The configuration that the machines are made by. -/
def Setup.config (c : Setup) (r : Reply) : Config where
  mSupportsAgpsRequests := c.mSupportsAgpsRequests
  agpsCapable := c.agpsCapable
  USE_EMERGENCY_PDN_FOR_EMERGENCY_SUPL := c.USE_EMERGENCY_PDN_FOR_EMERGENCY_SUPL
  initDataServiceClient := r.initDataServiceClient
  outside := r.outside

/-- `loc_eng_data_s_type`: whether `adapter` and `agps_status_cb` are set, and
    the machines with the message task.  `missing`: a message has called a
    machine that is not there. -/
structure EngData where
  adapter : Bool
  agps_status_cb : Bool
  eng : LocEng
  missing : Bool

/-- The bound on the length of an APN. -/
def MAX_APN_LEN : Nat := 100

namespace EngData

/-- `loc_eng_init`; an engine that is set up is left alone. -/
def loc_eng_init (callbacks : Bool) (event : UInt32) (d : EngData) :
    Int × EngData :=
  if !callbacks || event == 0 then (-1, d)
  else if d.adapter then (0, d)
  else (0, { d with adapter := true, agps_status_cb := false, eng := locEngNew })

/-- `loc_eng_agps_init`; of the callbacks only whether there is a
    `status_cb`. -/
def loc_eng_agps_init (c : Setup) (callbacks : Option Bool) (d : EngData) :
    EngData :=
  if !d.adapter then d
  else if d.agps_status_cb then d
  else
    match callbacks with
    | none => d
    | some status_cb =>
        { d with
          agps_status_cb := status_cb
          eng := if c.mSupportsAgpsRequests
            then d.eng.sendMsg .LocEngAgnssNifInit else d.eng }

/-- `INIT_CHECK(adapter && agps_status_cb)` around a message. -/
def checked (d : EngData) (msg : LocMsg) : Int × EngData :=
  if d.adapter && d.agps_status_cb then
    (0, { d with eng := d.eng.sendMsg msg })
  else (-1, d)

/-- The framework has opened a connection; the name of its APN is cut. -/
def loc_eng_agps_open (agpsType : AGpsExtType) (apn : Option String)
    (bearerType : AGpsBearerType) (d : EngData) : Int × EngData :=
  match apn with
  | some apn =>
      d.checked (.LocEngAtlOpenSuccess agpsType
        (String.ofList (apn.toList.take MAX_APN_LEN)) bearerType)
  | none => (if d.adapter && d.agps_status_cb then 0 else -1, d)

/-- It has closed one. -/
def loc_eng_agps_closed (agpsType : AGpsExtType) (d : EngData) :
    Int × EngData :=
  d.checked (.LocEngAtlClosed agpsType)

/-- It could not open one. -/
def loc_eng_agps_open_failed (agpsType : AGpsExtType) (d : EngData) :
    Int × EngData :=
  d.checked (.LocEngAtlOpenFailed agpsType)

end EngData

/-! ## Runs -/

/-- What reaches the engine: the calls of the framework, the requests of the
    modem and of the daemons, the data call's reports, a retry timer, and the
    task that handles the first message of its queue. -/
inductive DataAction where
  | loc_eng_init (callbacks : Bool) (event : UInt32)
  | loc_eng_agps_init (callbacks : Option Bool)
  | loc_eng_agps_open (agpsType : AGpsExtType) (apn : Option String)
      (bearerType : AGpsBearerType)
  | loc_eng_agps_closed (agpsType : AGpsExtType)
  | loc_eng_agps_open_failed (agpsType : AGpsExtType)
  | requestATL (connHandle : UInt32) (agps_type : AGpsExtType)
  | releaseATL (connHandle : UInt32)
  | requestSuplES (connHandle : UInt32)
  | if_request (loc_api_handle : Bool) (pmsg : IfRequest)
  | if_release (pmsg : IfRequest)
  | reportDataCallOpened
  | reportDataCallClosed
  | delay_callback
  | proc
deriving DecidableEq, Repr

section Step

variable [SubscriberEquals] (c : Setup)

/-- What comes in through the adapter. -/
def EngData.arrive (r : Reply) (d : EngData) (a : EngAction) :
    Option EngData :=
  if d.adapter then
    (engStep (c.config r) d.eng a).map (fun eng => { d with eng := eng })
  else none

/-- The task handles the first message. -/
def EngData.proc (r : Reply) (d : EngData) : Option EngData :=
  match d.eng.msgQ with
  | [] => none
  | msg :: rest =>
      match msg.proc (c.config r) { d.eng with msgQ := rest } with
      | some eng => some { d with eng := eng }
      -- the machine it calls is NULL
      | none => some { d with
          eng := { d.eng with msgQ := rest }
          missing := true }

/-- A step of the engine with its data. -/
def dataStep (r : Reply) (d : EngData) : DataAction → Option EngData
  | .loc_eng_init callbacks event => some (d.loc_eng_init callbacks event).2
  | .loc_eng_agps_init callbacks => some (d.loc_eng_agps_init c callbacks)
  | .loc_eng_agps_open type apn bearer =>
      some (d.loc_eng_agps_open type apn bearer).2
  | .loc_eng_agps_closed type => some (d.loc_eng_agps_closed type).2
  | .loc_eng_agps_open_failed type => some (d.loc_eng_agps_open_failed type).2
  | .requestATL h type => d.arrive c r (.requestATL h type)
  | .releaseATL h => d.arrive c r (.releaseATL h)
  | .requestSuplES h => d.arrive c r (.requestSuplES h)
  | .if_request handle pmsg => d.arrive c r (.if_request handle pmsg)
  | .if_release pmsg => d.arrive c r (.if_release pmsg)
  | .reportDataCallOpened => d.arrive c r .reportDataCallOpened
  | .reportDataCallClosed => d.arrive c r .reportDataCallClosed
  | .delay_callback => d.arrive c r .delay_callback
  | .proc => d.proc c r

/-- `loc_eng_data` before `loc_eng_init`. -/
def engDataNew : EngData := ⟨false, false, locEngNew, false⟩

/-- The engine from its start under any order of what reaches it. -/
def dataSys : TransSys EngData (DataAction × Reply) where
  init d := d = engDataNew
  step d a := dataStep c a.2 d a.1

end Step

/-! ## Which machines there are -/

/-- There is a machine behind the pointer. -/
def LocEng.has (locEng : LocEng) (n : Nif) : Bool := (locEng.nif n).isSome

theorem has_put (locEng : LocEng) (n k : Nif) (m : AgpsStateMachine) :
    (locEng.put n m).has k = (decide (k = n) || locEng.has k) := by
  show (if k = n then some m else locEng.nif k).isSome = _
  by_cases hk : k = n
  · rw [if_pos hk, decide_eq_true hk]
    rfl
  · rw [if_neg hk, decide_eq_false hk]
    rfl

theorem has_create (locEng : LocEng) (n k : Nif) (type : AGpsExtType) :
    (locEng.create n type).has k = (decide (k = n) || locEng.has k) := by
  rw [LocEng.create]
  by_cases h : (locEng.nif n).isNone = true
  · rw [if_pos h, has_put]
  · rw [if_neg h]
    by_cases hk : k = n
    · have hn : locEng.has n = true := by
        rw [LocEng.has, ← Option.not_isNone, Bool.eq_false_iff.mpr h]
        rfl
      rw [hk, hn, Bool.or_true]
    · rw [decide_eq_false hk, Bool.false_or]

/-- `createAgnssNifs` may make the machine `n`. -/
def makes (conf : Config) : Nif → Bool
  | .internet_nif => conf.mSupportsAgpsRequests
  | .agnss_nif => conf.mSupportsAgpsRequests && conf.agpsCapable
  | .ds_nif => conf.mSupportsAgpsRequests && conf.agpsCapable
      && conf.USE_EMERGENCY_PDN_FOR_EMERGENCY_SUPL
      && conf.initDataServiceClient

/-- The machines behind `createAgnssNifs`: those there were, and those it
    makes. -/
theorem has_createAgnssNifs (conf : Config) (locEng : LocEng) (k : Nif) :
    (createAgnssNifs conf locEng).has k = (makes conf k || locEng.has k) := by
  unfold createAgnssNifs
  cases hs : conf.mSupportsAgpsRequests with
  | false =>
      rw [if_neg Bool.false_ne_true]
      cases k <;> simp only [makes, hs, Bool.false_and, Bool.false_or]
  | true =>
      rw [if_pos rfl]
      dsimp only
      cases hc : conf.agpsCapable with
      | false =>
          rw [if_neg Bool.false_ne_true, has_create]
          cases k <;>
            simp [makes, hs, hc]
      | true =>
          rw [if_pos rfl]
          by_cases hd : (conf.USE_EMERGENCY_PDN_FOR_EMERGENCY_SUPL
              && conf.initDataServiceClient) = true
          · rw [if_pos hd, has_create, has_create, has_create]
            obtain ⟨he, hi⟩ := Bool.and_eq_true_iff.mp hd
            cases k <;> simp [makes, hs, hc, he, hi]
          · rw [if_neg hd, has_create, has_create]
            cases k with
            | internet_nif => simp [makes, hs]
            | agnss_nif => simp [makes, hs, hc]
            | ds_nif =>
                have hmakes : makes conf .ds_nif = false := by
                  rw [makes, Bool.and_assoc, Bool.eq_false_iff.mpr hd,
                    Bool.and_false]
                rw [hmakes]
                rfl

/-- The message asks for the machines to be made: it is
    `LocEngAgnssNifInit`, or it is about emergency SUPL. -/
def asksToMake (conf : Config) : LocMsg → Bool
  | .LocEngAgnssNifInit => true
  | .LocEngRequestATL _ mType => esType conf mType
  | .LocEngReqRelBIT mType _ _ _ => esType conf mType
  | .LocEngAtlOpenSuccess mAgpsType _ _ => esType conf mAgpsType
  | .LocEngAtlClosed mAgpsType => esType conf mAgpsType
  | .LocEngAtlOpenFailed mAgpsType => esType conf mAgpsType
  | _ => false
where
  esType (conf : Config) (type : AGpsExtType) : Bool :=
    type == .AGPS_TYPE_SUPL_ES && conf.USE_EMERGENCY_PDN_FOR_EMERGENCY_SUPL

/-- The type of a message that calls its machine without a look whether it is
    there. -/
def unlooked : LocMsg → Option AGpsExtType
  | .LocEngReqRelBIT mType _ _ _ => some mType
  | .LocEngAtlOpenSuccess mAgpsType _ _ => some mAgpsType
  | .LocEngAtlClosed mAgpsType => some mAgpsType
  | .LocEngAtlOpenFailed mAgpsType => some mAgpsType
  | _ => none

/-- The engine once the message has asked for the machines. -/
def madeBy (conf : Config) (locEng : LocEng) : LocMsg → LocEng
  | .LocEngAgnssNifInit => createAgnssNifs conf locEng
  | .LocEngRequestATL _ mType => (getAgpsStateMachine conf locEng mType).1
  | .LocEngReqRelBIT mType _ _ _ => (getAgpsStateMachine conf locEng mType).1
  | .LocEngAtlOpenSuccess mAgpsType _ _ =>
      (getAgpsStateMachine conf locEng mAgpsType).1
  | .LocEngAtlClosed mAgpsType => (getAgpsStateMachine conf locEng mAgpsType).1
  | .LocEngAtlOpenFailed mAgpsType =>
      (getAgpsStateMachine conf locEng mAgpsType).1
  | _ => locEng

/-- The machine `getAgpsStateMachine` answers is there. -/
def found (conf : Config) (locEng : LocEng) (type : AGpsExtType) : Bool :=
  (getAgpsStateMachine conf locEng type).1.has
    (getAgpsStateMachine conf locEng type).2

/-- A message fails where its machine is not found. -/
theorem map_eq_none {conf : Config} {locEng : LocEng} {type : AGpsExtType}
    {f : AgpsStateMachine → LocEng} :
    ((getAgpsStateMachine conf locEng type).1.nif
      (getAgpsStateMachine conf locEng type).2).map f = none
      ↔ found conf locEng type = false := by
  rw [found, LocEng.has, Option.map_eq_none_iff, Option.isSome_eq_false_iff,
    Option.isNone_iff_eq_none]

section Proc

variable [SubscriberEquals]

/-- A call of a machine makes none. -/
theorem has_act (conf : Config) {locEng : LocEng} {n : Nif}
    {m : AgpsStateMachine} (hm : locEng.nif n = some m)
    (m' : AgpsStateMachine) (a : ClassAction) (k : Nif) :
    (locEng.act conf n m' a).has k = locEng.has k := by
  have hn : locEng.has n = true := by
    rw [LocEng.has, hm]
    rfl
  show (locEng.put n _).has k = _
  rw [has_put]
  by_cases hk : k = n
  · rw [hk, hn, Bool.or_true]
  · rw [decide_eq_false hk, Bool.false_or]

/-- What the calls of a machine and of the adapter do, a message does to the
    engine with the machines it asks for. -/
theorem proc_rel {conf : Config} {R : LocEng → LocEng → Prop}
    (hrefl : ∀ locEng, R locEng locEng)
    (htrans : ∀ l₁ l₂ l₃, R l₁ l₂ → R l₂ l₃ → R l₁ l₃)
    (hact : ∀ locEng n m m' a, locEng.nif n = some m →
      R locEng (locEng.act conf n m' a))
    (hcall : ∀ locEng c, R locEng (locEng.call c))
    {locEng locEng' : LocEng} {msg : LocMsg}
    (hs : msg.proc conf locEng = some locEng') :
    R (madeBy conf locEng msg) locEng' := by
  have hleave : ∀ (locEng : LocEng) (n : Nif) (s : Subscriber),
      R locEng (locEng.unsubscribe conf n s).2 := by
    intro locEng n s
    rw [LocEng.unsubscribe]
    cases hm : locEng.nif n with
    | none => exact hrefl locEng
    | some m => exact hact locEng n m m _ hm
  have hmap : ∀ {locEng locEng' : LocEng} {n : Nif}
      {f : AgpsStateMachine → AgpsStateMachine} {a : ClassAction},
      (locEng.nif n).map (fun sm => locEng.act conf n (f sm) a)
        = some locEng' → R locEng locEng' := by
    intro locEng locEng' n f a hs
    obtain ⟨sm, hsm, rfl⟩ := Option.map_eq_some_iff.mp hs
    exact hact locEng n sm (f sm) a hsm
  cases msg with
  | LocEngRequestATL mID mType =>
      rw [LocMsg.proc] at hs
      split at hs
      · next sm hsm => exact Option.some.inj hs ▸ hact _ _ sm sm _ hsm
      · exact Option.some.inj hs ▸ hcall _ _
  | LocEngReleaseATL mID =>
      have h1 := hleave locEng .agnss_nif (.ATLSubscriber mID false)
      have h2 := htrans _ _ _ h1
        (hleave _ .internet_nif (.ATLSubscriber mID false))
      have h3 := htrans _ _ _ h2 (hleave _ .ds_nif (.DSSubscriber mID false))
      rw [LocMsg.proc] at hs
      split at hs
      · exact Option.some.inj hs ▸ h1
      · dsimp only at hs
        split at hs
        · exact Option.some.inj hs ▸ h2
        · split at hs
          · exact Option.some.inj hs ▸ h3
          · exact Option.some.inj hs ▸ htrans _ _ _ h3 (hcall _ _)
  | LocEngRequestSuplEs mID =>
      rw [LocMsg.proc] at hs
      split at hs
      · next sm hsm _ => exact Option.some.inj hs ▸ hact _ _ sm sm _ hsm
      · split at hs
        · next sm hsm => exact Option.some.inj hs ▸ hact _ _ sm sm _ hsm
        · exact Option.some.inj hs ▸ hcall _ _
  | LocEngReqRelWifi mType mSenderId => exact Option.some.inj hs ▸ hcall _ _
  | LocEngReqRelBIT mType v4 v6 isReq => exact hmap hs
  | LocEngAtlOpenSuccess type apn bearer =>
      exact hmap
        (f := fun sm => { sm with mBearer := bearer, mAPN := some apn }) hs
  | LocEngAtlClosed type => exact hmap hs
  | LocEngAtlOpenFailed type => exact hmap hs
  | LocEngSuplEsOpened =>
      rw [LocMsg.proc] at hs
      split at hs
      · next sm hsm => exact Option.some.inj hs ▸ hact _ _ sm sm _ hsm
      · exact Option.some.inj hs ▸ hrefl _
  | LocEngSuplEsClosed =>
      rw [LocMsg.proc] at hs
      split at hs
      · next sm hsm => exact Option.some.inj hs ▸ hact _ _ sm sm _ hsm
      · exact Option.some.inj hs ▸ hrefl _
  | LocEngAgnssNifInit => exact Option.some.inj hs ▸ hrefl _

/-- A message makes the machines it asks for and no others. -/
theorem has_proc {conf : Config} {locEng locEng' : LocEng} {msg : LocMsg}
    (hs : msg.proc conf locEng = some locEng') (k : Nif) :
    locEng'.has k = (madeBy conf locEng msg).has k :=
  proc_rel (R := fun l l' => l'.has k = l.has k) (fun _ => rfl)
    (fun _ _ _ (h : _ = _) (h' : _ = _) => h'.trans h)
    (fun _ _ _ m' a hm => has_act conf hm m' a k) (fun _ _ => rfl) hs

/-- **NO STEP**: a message calls a machine that is not there exactly when it
    does not look and `getAgpsStateMachine` answers `NULL`. -/
theorem proc_none_iff {conf : Config} {locEng : LocEng} {msg : LocMsg} :
    msg.proc conf locEng = none ↔
      ∃ type, unlooked msg = some type ∧ found conf locEng type = false := by
  have hlooks : ∀ {locEng' : LocEng} {t : Option AGpsExtType}, t = none →
      (some locEng' = none ↔
        ∃ type, t = some type ∧ found conf locEng type = false) := by
    rintro locEng' t rfl
    exact ⟨fun h => (by cases h), fun ⟨_, h, _⟩ => (by cases h)⟩
  have hcalls : ∀ {type : AGpsExtType} {t : Option AGpsExtType},
      t = some type → ∀ {f : AgpsStateMachine → LocEng},
      (((getAgpsStateMachine conf locEng type).1.nif
        (getAgpsStateMachine conf locEng type).2).map f = none ↔
        ∃ type, t = some type ∧ found conf locEng type = false) := by
    rintro type t rfl f
    rw [map_eq_none]
    exact ⟨fun h => ⟨type, rfl, h⟩, fun ⟨_, ht, h⟩ => Option.some.inj ht ▸ h⟩
  cases msg with
  | LocEngRequestATL mID mType =>
      rw [LocMsg.proc]
      split <;> exact hlooks rfl
  | LocEngReleaseATL mID =>
      rw [LocMsg.proc]
      split
      · exact hlooks rfl
      · dsimp only
        split
        · exact hlooks rfl
        · split <;> exact hlooks rfl
  | LocEngRequestSuplEs mID =>
      rw [LocMsg.proc]
      split
      · exact hlooks rfl
      · split <;> exact hlooks rfl
  | LocEngReqRelWifi mType mSenderId => exact hlooks rfl
  | LocEngReqRelBIT mType v4 v6 isReq => exact hcalls rfl
  | LocEngAtlOpenSuccess type apn bearer => exact hcalls rfl
  | LocEngAtlClosed type => exact hcalls rfl
  | LocEngAtlOpenFailed type => exact hcalls rfl
  | LocEngSuplEsOpened =>
      rw [LocMsg.proc]
      split <;> exact hlooks rfl
  | LocEngSuplEsClosed =>
      rw [LocMsg.proc]
      split <;> exact hlooks rfl
  | LocEngAgnssNifInit => exact hlooks rfl

end Proc

/-! ## What was handled before -/

/-- Of the messages handled so far: one asked for the machines, and the data
    service client was started for one. -/
structure History where
  made : Bool
  started : Bool
deriving DecidableEq, Repr

/-- Nothing was asked yet. -/
def History.new : History := ⟨false, false⟩

/-- What was asked, behind a message. -/
def History.after (h : History) (conf : Config) (msg : LocMsg) : History :=
  if asksToMake conf msg then
    ⟨true, h.started || conf.initDataServiceClient⟩
  else h

/-- The client was not started for nothing. -/
def History.Sound (h : History) : Prop := h.started = true → h.made = true

/-- A message keeps the history sound. -/
theorem History.Sound.after {h : History} (hh : h.Sound) (conf : Config)
    (msg : LocMsg) : (h.after conf msg).Sound := by
  rw [History.after]
  by_cases ha : asksToMake conf msg = true
  · rw [if_pos ha]
    exact fun _ => rfl
  · rw [if_neg ha]
    exact hh

/-- The machines there are after it. -/
def Setup.ready (c : Setup) (h : History) : Nif → Bool
  | .internet_nif => c.mSupportsAgpsRequests && h.made
  | .agnss_nif => c.mSupportsAgpsRequests && c.agpsCapable && h.made
  | .ds_nif => c.mSupportsAgpsRequests && c.agpsCapable
      && c.USE_EMERGENCY_PDN_FOR_EMERGENCY_SUPL && h.started

/-- The machines are those of the history. -/
def Setup.Made (c : Setup) (h : History) (locEng : LocEng) : Prop :=
  ∀ k, locEng.has k = c.ready h k

/-- What was asked for is there. -/
theorem made_create {c : Setup} {h : History} {locEng : LocEng}
    (hm : c.Made h locEng) (r : Reply) :
    c.Made ⟨true, h.started || r.initDataServiceClient⟩
      (createAgnssNifs (c.config r) locEng) := by
  intro k
  rw [has_createAgnssNifs, hm k]
  show (makes ⟨c.mSupportsAgpsRequests, c.agpsCapable,
    c.USE_EMERGENCY_PDN_FOR_EMERGENCY_SUPL, r.initDataServiceClient,
    r.outside⟩ k || c.ready h k) = _
  cases k with
  | internet_nif =>
      show (c.mSupportsAgpsRequests || c.mSupportsAgpsRequests && h.made)
        = (c.mSupportsAgpsRequests && true)
      cases c.mSupportsAgpsRequests <;> rfl
  | agnss_nif =>
      show (c.mSupportsAgpsRequests && c.agpsCapable
          || c.mSupportsAgpsRequests && c.agpsCapable && h.made)
        = (c.mSupportsAgpsRequests && c.agpsCapable && true)
      cases c.mSupportsAgpsRequests && c.agpsCapable <;> rfl
  | ds_nif =>
      show (c.mSupportsAgpsRequests && c.agpsCapable
          && c.USE_EMERGENCY_PDN_FOR_EMERGENCY_SUPL && r.initDataServiceClient
          || c.mSupportsAgpsRequests && c.agpsCapable
            && c.USE_EMERGENCY_PDN_FOR_EMERGENCY_SUPL && h.started)
        = (c.mSupportsAgpsRequests && c.agpsCapable
          && c.USE_EMERGENCY_PDN_FOR_EMERGENCY_SUPL
          && (h.started || r.initDataServiceClient))
      rw [← Bool.and_or_distrib_left, Bool.or_comm]

/-- And on the way to an emergency SUPL machine. -/
theorem made_get {c : Setup} {h : History} (hh : h.Sound) {locEng : LocEng}
    (hm : c.Made h locEng) (r : Reply) (type : AGpsExtType) :
    c.Made (if asksToMake.esType (c.config r) type
        then ⟨true, h.started || r.initDataServiceClient⟩ else h)
      (getAgpsStateMachine (c.config r) locEng type).1 := by
  by_cases he : asksToMake.esType (c.config r) type = true
  · rw [if_pos he]
    obtain ⟨ht, hes⟩ := Bool.and_eq_true_iff.mp he
    obtain rfl := eq_of_beq ht
    have hget : (getAgpsStateMachine (c.config r) locEng
        .AGPS_TYPE_SUPL_ES).1 = if (locEng.nif .ds_nif).isNone
          then createAgnssNifs (c.config r) locEng else locEng := by
      rw [getAgpsStateMachine, if_pos hes]
    rw [hget]
    by_cases hds : (locEng.nif .ds_nif).isNone = true
    · rw [if_pos hds]
      exact made_create hm r
    · rw [if_neg hds]
      -- the machine is there, so the client was started before
      have hthere : c.ready h .ds_nif = true := by
        rw [← hm .ds_nif, LocEng.has, ← Option.not_isNone,
          Bool.eq_false_iff.mpr hds]
        rfl
      have hstarted : h.started = true := (Bool.and_eq_true_iff.mp hthere).2
      intro k
      rw [hm k]
      cases k <;>
        simp only [Setup.ready, hstarted, hh hstarted, Bool.true_or]
  · rw [if_neg he]
    have hget : (getAgpsStateMachine (c.config r) locEng type).1 = locEng := by
      cases type with
      | AGPS_TYPE_SUPL_ES =>
          have hes : ¬ (c.config r).USE_EMERGENCY_PDN_FOR_EMERGENCY_SUPL
              = true := fun h => he (Bool.and_eq_true_iff.mpr ⟨rfl, h⟩)
          rw [getAgpsStateMachine, if_neg hes]
      | AGPS_TYPE_INVALID => rfl
      | AGPS_TYPE_ANY => rfl
      | AGPS_TYPE_SUPL => rfl
      | AGPS_TYPE_C2K => rfl
      | AGPS_TYPE_WWAN_ANY => rfl
      | AGPS_TYPE_WIFI => rfl
    rw [hget]
    exact hm

/-- **ONE MESSAGE** adds itself to the history. -/
theorem made_madeBy {c : Setup} {h : History} (hh : h.Sound)
    {locEng : LocEng} (hm : c.Made h locEng) (r : Reply) (msg : LocMsg) :
    c.Made (h.after (c.config r) msg) (madeBy (c.config r) locEng msg) := by
  cases msg with
  | LocEngAgnssNifInit => exact made_create hm r
  | LocEngRequestATL mID mType => exact made_get hh hm r mType
  | LocEngReqRelBIT mType v4 v6 isReq => exact made_get hh hm r mType
  | LocEngAtlOpenSuccess type apn bearer => exact made_get hh hm r type
  | LocEngAtlClosed type => exact made_get hh hm r type
  | LocEngAtlOpenFailed type => exact made_get hh hm r type
  | LocEngReleaseATL mID => exact hm
  | LocEngRequestSuplEs mID => exact hm
  | LocEngReqRelWifi mType mSenderId => exact hm
  | LocEngSuplEsOpened => exact hm
  | LocEngSuplEsClosed => exact hm

/-- The machine for `type` is there when a message about it is handled. -/
def Setup.finds (c : Setup) (h : History) (r : Reply) (type : AGpsExtType) :
    Bool :=
  c.mSupportsAgpsRequests &&
    match type with
    | .AGPS_TYPE_INVALID => c.agpsCapable && h.made
    | .AGPS_TYPE_SUPL => c.agpsCapable && h.made
    | .AGPS_TYPE_SUPL_ES =>
        c.agpsCapable &&
          if c.USE_EMERGENCY_PDN_FOR_EMERGENCY_SUPL
          then h.started || r.initDataServiceClient else h.made
    | _ => h.made

/-- **WHICH MACHINE IS FOUND** follows from the capabilities and the
    history. -/
theorem found_eq {c : Setup} {h : History} (hh : h.Sound) {locEng : LocEng}
    (hm : c.Made h locEng) (r : Reply) (type : AGpsExtType) :
    found (c.config r) locEng type = c.finds h r type := by
  have hget := made_get hh hm r type
    (getAgpsStateMachine (c.config r) locEng type).2
  rw [found, hget]
  cases type with
  | AGPS_TYPE_SUPL_ES =>
      by_cases he : c.USE_EMERGENCY_PDN_FOR_EMERGENCY_SUPL = true
      · have hconf : (c.config r).USE_EMERGENCY_PDN_FOR_EMERGENCY_SUPL = true :=
          he
        have hes : asksToMake.esType (c.config r) .AGPS_TYPE_SUPL_ES = true :=
          Bool.and_eq_true_iff.mpr ⟨rfl, he⟩
        rw [getAgpsStateMachine, if_pos hconf, if_pos hes, Setup.finds]
        dsimp only
        rw [if_pos he, Setup.ready, he, Bool.and_true, Bool.and_assoc]
      · have hconf : ¬ (c.config r).USE_EMERGENCY_PDN_FOR_EMERGENCY_SUPL
            = true := he
        have hes : ¬ asksToMake.esType (c.config r) .AGPS_TYPE_SUPL_ES
            = true := fun h => he (Bool.and_eq_true_iff.mp h).2
        rw [getAgpsStateMachine, if_neg hconf, if_neg hes, Setup.finds]
        dsimp only
        rw [if_neg he, Setup.ready, Bool.and_assoc]
  | AGPS_TYPE_INVALID => exact Bool.and_assoc _ _ _
  | AGPS_TYPE_SUPL => exact Bool.and_assoc _ _ _
  | AGPS_TYPE_ANY => rfl
  | AGPS_TYPE_C2K => rfl
  | AGPS_TYPE_WWAN_ANY => rfl
  | AGPS_TYPE_WIFI => rfl

/-! ## Runs with their history -/

section Runs

variable (c : Setup)

/-- The message that is handled is noted. -/
def note (h : History) (d : EngData) (a : DataAction × Reply)
    (_ : EngData) : History :=
  match a.1, d.eng.msgQ with
  | .proc, msg :: _ => h.after (c.config a.2) msg
  | _, _ => h

/-- The engine with what it was asked. -/
def dataHistSys [SubscriberEquals] :
    TransSys (EngData × History) (DataAction × Reply) :=
  watched (dataSys c) History.new (note c)

/-- A message without a look is handled when its machine is there. -/
def FindsMachine (p : EngData × History) (a : DataAction × Reply) : Prop :=
  match a.1, p.1.eng.msgQ with
  | .proc, msg :: _ =>
      ∀ type, unlooked msg = some type → c.finds p.2 a.2 type = true
  | _, _ => True

/-- The invariant: what there is was asked for, and the other way round. -/
structure Tracked (p : EngData × History) : Prop where
  found : p.1.missing = false
  sound : p.2.Sound
  made : c.Made p.2 p.1.eng
  unset : p.1.adapter = false → p.2 = History.new ∧ p.1.eng.msgQ = []

/-- There is no machine yet. -/
theorem made_new : c.Made History.new locEngNew := by
  intro k
  cases k with
  | internet_nif => exact (Bool.and_false _).symm
  | agnss_nif => exact (Bool.and_false _).symm
  | ds_nif => exact (Bool.and_false _).symm

theorem tracked_new : Tracked c (engDataNew, History.new) :=
  ⟨rfl, fun h => (by cases h), made_new c, fun _ => ⟨rfl, rfl⟩⟩

variable {c} {d : EngData} {h : History}

/-- `loc_eng_init` makes no machine. -/
theorem Tracked.init (hk : Tracked c (d, h)) (callbacks : Bool) (event : UInt32) :
    Tracked c ((d.loc_eng_init callbacks event).2, h) := by
  rw [EngData.loc_eng_init]
  by_cases hbad : (!callbacks || event == 0) = true
  · rw [if_pos hbad]
    exact hk
  · rw [if_neg hbad]
    by_cases hset : d.adapter = true
    · rw [if_pos hset]
      exact hk
    · rw [if_neg hset]
      obtain rfl : h = History.new :=
        (hk.unset (Bool.eq_false_iff.mpr hset)).1
      exact ⟨hk.found, hk.sound, made_new c, fun hno => (by cases hno)⟩

/-- `loc_eng_agps_init` only asks for them. -/
theorem Tracked.agps_init (hk : Tracked c (d, h)) (callbacks : Option Bool) :
    Tracked c (d.loc_eng_agps_init c callbacks, h) := by
  unfold EngData.loc_eng_agps_init
  by_cases hset : (!d.adapter) = true
  · rw [if_pos hset]
    exact hk
  · rw [if_neg hset]
    by_cases hcb : d.agps_status_cb = true
    · rw [if_pos hcb]
      exact hk
    · rw [if_neg hcb]
      cases callbacks with
      | none => exact hk
      | some status_cb =>
          refine ⟨hk.found, hk.sound, fun k => ?_, fun hno => ?_⟩
          · have hsame : LocEng.has (if c.mSupportsAgpsRequests
                then d.eng.sendMsg .LocEngAgnssNifInit else d.eng) k
                = d.eng.has k := by
              split <;> rfl
            exact hsame.trans (hk.made k)
          · exact absurd (congrArg not hno) hset

/-- A call of the framework posts a message. -/
theorem Tracked.checked (hk : Tracked c (d, h)) (msg : LocMsg) :
    Tracked c ((d.checked msg).2, h) := by
  rw [EngData.checked]
  by_cases hset : (d.adapter && d.agps_status_cb) = true
  · rw [if_pos hset]
    refine ⟨hk.found, hk.sound, hk.made, fun hno => ?_⟩
    have hno' : d.adapter = false := hno
    rw [hno'] at hset
    cases hset
  · rw [if_neg hset]
    exact hk

section Machines

variable [SubscriberEquals]

/-- What comes in makes no machine. -/
theorem has_engStep {conf : Config} {locEng locEng' : LocEng} {a : EngAction}
    (ha : a ≠ .proc) (hs : engStep conf locEng a = some locEng') (k : Nif) :
    locEng'.has k = locEng.has k := by
  have hpass : ∀ (ID : UInt32) (msg : LocMsg),
      (locEng.pass conf ID msg).has k = locEng.has k := by
    intro ID msg
    rw [LocEng.pass]
    split <;> rfl
  have hhear : ∀ m, (locEng.hearDaemon m).has k = locEng.has k := by
    intro m
    rw [LocEng.hearDaemon]
    split <;> rfl
  have hreport : ∀ msg, (locEng.report conf msg).has k = locEng.has k := by
    intro msg
    rw [LocEng.report]
    split <;> rfl
  cases a with
  | requestATL ID type => exact Option.some.inj hs ▸ hpass ID _
  | releaseATL ID => exact Option.some.inj hs ▸ hpass ID _
  | requestSuplES ID => exact Option.some.inj hs ▸ hpass ID _
  | if_request handle pmsg => exact Option.some.inj hs ▸ hhear _
  | if_release pmsg => exact Option.some.inj hs ▸ hhear _
  | agps_open type apn bearer => exact Option.some.inj hs ▸ rfl
  | agps_closed type => exact Option.some.inj hs ▸ rfl
  | agps_open_failed type => exact Option.some.inj hs ▸ rfl
  | reportDataCallOpened => exact Option.some.inj hs ▸ hreport _
  | reportDataCallClosed => exact Option.some.inj hs ▸ hreport _
  | nif_init => exact Option.some.inj hs ▸ rfl
  | proc => exact absurd rfl ha
  | delay_callback =>
      obtain ⟨sm, hsm, rfl⟩ := Option.map_eq_some_iff.mp hs
      exact has_act conf hsm sm _ k

/-- What arrives from the modem or the daemons keeps the law. -/
theorem Tracked.arrive {d' : EngData} (hk : Tracked c (d, h)) {r : Reply}
    {a : EngAction} (ha : a ≠ .proc) (hs : d.arrive c r a = some d') :
    Tracked c (d', h) := by
  rw [EngData.arrive] at hs
  by_cases hset : d.adapter = true
  · rw [if_pos hset] at hs
    obtain ⟨eng, heng, rfl⟩ := Option.map_eq_some_iff.mp hs
    refine ⟨hk.found, hk.sound, fun k => (has_engStep ha heng k).trans
      (hk.made k), fun hno => ?_⟩
    have hno' : d.adapter = false := hno
    rw [hno'] at hset
    cases hset
  · rw [if_neg hset] at hs
    cases hs

/-- **THE TASK** finds the machine of the message it handles if and only if
    the condition is met, and keeps the history. -/
theorem Tracked.proc {d' : EngData} (hk : Tracked c (d, h)) {r : Reply}
    (hs : d.proc c r = some d') :
    (FindsMachine c (d, h) (.proc, r) →
      Tracked c (d', note c h d (.proc, r) d')) ∧
    (¬ FindsMachine c (d, h) (.proc, r) → d'.missing = true) := by
  rw [EngData.proc] at hs
  rw [FindsMachine, note]
  dsimp only
  rcases hq : d.eng.msgQ with _ | ⟨msg, rest⟩
  · rw [hq] at hs
    cases hs
  · rw [hq] at hs
    dsimp only at hs ⊢
    have hmade : c.Made h { d.eng with msgQ := rest } := hk.made
    have hfound := found_eq hk.sound hmade r
    cases hp : msg.proc (c.config r) { d.eng with msgQ := rest } with
    | none =>
        rw [hp] at hs
        obtain ⟨type, htype, hno⟩ := proc_none_iff.mp hp
        rw [hfound type] at hno
        refine ⟨fun hall => ?_, fun _ => ?_⟩
        · rw [hall type htype] at hno
          cases hno
        · exact Option.some.inj hs ▸ rfl
    | some eng =>
        rw [hp] at hs
        have hall : ∀ type, unlooked msg = some type →
            c.finds h r type = true := by
          intro type htype
          by_contra hno
          rw [Bool.not_eq_true, ← hfound type] at hno
          rw [proc_none_iff.mpr ⟨type, htype, hno⟩] at hp
          cases hp
        refine ⟨fun _ => ?_, fun hno => absurd hall hno⟩
        obtain rfl := Option.some.inj hs
        refine ⟨hk.found, hk.sound.after _ msg, fun k => ?_, fun hunset => ?_⟩
        · exact (has_proc hp k).trans (made_madeBy hk.sound hmade r msg k)
        · have hempty := (hk.unset hunset).2
          rw [hq] at hempty
          cases hempty

variable (c) in
/-- A step keeps the law if it finds its machine, and misses one otherwise. -/
theorem tracked_step {p p' : EngData × History} {a : DataAction × Reply}
    (hk : Tracked c p) (hs : (dataHistSys c).step p a = some p') :
    (FindsMachine c p a → Tracked c p') ∧
    (¬ FindsMachine c p a → p'.1.missing = true) := by
  obtain ⟨d, h⟩ := p
  obtain ⟨d', h'⟩ := p'
  obtain ⟨a, r⟩ := a
  obtain ⟨hstep, hnote⟩ := watched_step hs
  obtain rfl : h' = note c h d (a, r) d' := hnote
  have hquiet : Tracked c (d', h) → (True → Tracked c (d', h)) ∧
      (¬ True → d'.missing = true) :=
    fun hk' => ⟨fun _ => hk', fun hno => absurd trivial hno⟩
  have hdo : dataStep c r d a = some d' := hstep
  cases a with
  | loc_eng_init callbacks event =>
      exact hquiet (Option.some.inj hdo ▸ hk.init callbacks event)
  | loc_eng_agps_init callbacks =>
      exact hquiet (Option.some.inj hdo ▸ hk.agps_init callbacks)
  | loc_eng_agps_open type apn bearer =>
      refine hquiet (Option.some.inj hdo ▸ ?_)
      cases apn with
      | none => exact hk
      | some apn => exact hk.checked _
  | loc_eng_agps_closed type =>
      exact hquiet (Option.some.inj hdo ▸ hk.checked _)
  | loc_eng_agps_open_failed type =>
      exact hquiet (Option.some.inj hdo ▸ hk.checked _)
  | requestATL ID type => exact hquiet (hk.arrive (fun h => (by cases h)) hdo)
  | releaseATL ID => exact hquiet (hk.arrive (fun h => (by cases h)) hdo)
  | requestSuplES ID => exact hquiet (hk.arrive (fun h => (by cases h)) hdo)
  | if_request handle pmsg =>
      exact hquiet (hk.arrive (fun h => (by cases h)) hdo)
  | if_release pmsg => exact hquiet (hk.arrive (fun h => (by cases h)) hdo)
  | reportDataCallOpened =>
      exact hquiet (hk.arrive (fun h => (by cases h)) hdo)
  | reportDataCallClosed =>
      exact hquiet (hk.arrive (fun h => (by cases h)) hdo)
  | delay_callback => exact hquiet (hk.arrive (fun h => (by cases h)) hdo)
  | proc => exact hk.proc hdo

end Machines

end Runs

/-- **THE MACHINES ARE THERE**: along a run no message calls a machine that is
    not there, exactly when every message that does not look is handled with
    the capabilities and after the messages that make its machine. -/
theorem finds_machine_iff (castIPv6 : Subscriber → List UInt8) (c : Setup)
    (l : List (DataAction × Reply)) :
    HoldsAlong (@dataHistSys c (codeEquals castIPv6))
        (fun p => p.1.missing = false) (engDataNew, History.new) l
      ↔ StepsMeet (@dataHistSys c (codeEquals castIPv6)) (FindsMachine c)
        (engDataNew, History.new) l := by
  let _ : SubscriberEquals := codeEquals castIPv6
  refine holdsAlong_iff_stepsMeet (I := Tracked c) (fun _ hk => hk.found) ?_ ?_ l
    (tracked_new c)
  · exact fun p a p' hk hfind hs => (tracked_step c hk hs).1 hfind
  · intro p a p' hk hfind hs hno
    rw [(tracked_step c hk hs).2 hfind] at hno
    cases hno

/-! ## The order that is safe -/

/-- Every message that does not look comes after `LocEngAgnssNifInit`. -/
def Behind (made : Bool) : List LocMsg → Prop
  | [] => True
  | msg :: rest =>
      (unlooked msg = none ∨ made = true) ∧
        Behind (made || msg == .LocEngAgnssNifInit) rest

/-- New messages look for their machine, or it is made. -/
theorem behind_of_forall {made : Bool} {new : List LocMsg}
    (h : ∀ msg ∈ new, unlooked msg = none ∨ made = true) :
    Behind made new := by
  induction new generalizing made with
  | nil => trivial
  | cons msg new ih =>
      refine ⟨h msg List.mem_cons_self, ih fun m hm => ?_⟩
      refine (h m (List.mem_cons_of_mem msg hm)).imp_right fun hmade => ?_
      rw [hmade, Bool.true_or]

/-- Messages go behind those of the queue. -/
theorem Behind.append {made : Bool} {q new : List LocMsg} (h : Behind made q)
    (hnew : ∀ msg ∈ new, unlooked msg = none ∨ made = true ∨
      LocMsg.LocEngAgnssNifInit ∈ q) : Behind made (q ++ new) := by
  induction q generalizing made with
  | nil =>
      exact behind_of_forall fun msg hmsg =>
        (hnew msg hmsg).imp_right fun h => h.resolve_right List.not_mem_nil
  | cons a q ih =>
      refine ⟨h.1, ih h.2 fun msg hmsg => ?_⟩
      rcases hnew msg hmsg with hlook | hmade | hinit
      · exact Or.inl hlook
      · exact Or.inr (Or.inl (by rw [hmade, Bool.true_or]))
      · rcases List.mem_cons.mp hinit with rfl | hinit
        · exact Or.inr (Or.inl (Bool.or_true made))
        · exact Or.inr (Or.inr hinit)

/-- From `locEng` to `locEng'` only messages are posted that look. -/
def PostsLooking (locEng locEng' : LocEng) : Prop :=
  ∃ new, locEng'.msgQ = locEng.msgQ ++ new ∧
    ∀ msg ∈ new, unlooked msg = none

/-- What is posted in two steps. -/
theorem PostsLooking.trans {l₁ l₂ l₃ : LocEng} (h : PostsLooking l₁ l₂)
    (h' : PostsLooking l₂ l₃) : PostsLooking l₁ l₃ := by
  obtain ⟨new, hq, hnew⟩ := h
  obtain ⟨new', hq', hnew'⟩ := h'
  refine ⟨new ++ new', by rw [hq', hq, List.append_assoc], fun msg hmsg => ?_⟩
  exact (List.mem_append.mp hmsg).elim (hnew msg) (hnew' msg)

theorem PostsLooking.refl (locEng : LocEng) : PostsLooking locEng locEng :=
  ⟨[], (List.append_nil _).symm, fun _ h => (by cases h)⟩

/-- A message of a machine looks for it. -/
theorem adapterMsg_looks {call : Call} {msg : LocMsg}
    (h : adapterMsg call = some msg) : unlooked msg = none := by
  rcases adapterMsg_eq_some h with ⟨connHandle, type, -, rfl⟩ |
    ⟨connHandle, -, rfl⟩
  · rfl
  · rfl

/-- Machines that are made post nothing. -/
theorem msgQ_createAgnssNifs (conf : Config) (locEng : LocEng) :
    (createAgnssNifs conf locEng).msgQ = locEng.msgQ := by
  have hcreate : ∀ (locEng : LocEng) n type,
      (locEng.create n type).msgQ = locEng.msgQ := by
    intro locEng n type
    rw [LocEng.create]
    split <;> rfl
  unfold createAgnssNifs
  split
  · dsimp only
    split
    · split
      · rw [hcreate, hcreate, hcreate]
      · rw [hcreate, hcreate]
    · rw [hcreate]
  · rfl

theorem msgQ_madeBy (conf : Config) (locEng : LocEng) (msg : LocMsg) :
    (madeBy conf locEng msg).msgQ = locEng.msgQ := by
  have hget : ∀ type,
      (getAgpsStateMachine conf locEng type).1.msgQ = locEng.msgQ := by
    intro type
    cases type with
    | AGPS_TYPE_SUPL_ES =>
        rw [getAgpsStateMachine]
        split
        · dsimp only
          split
          · exact msgQ_createAgnssNifs conf locEng
          · rfl
        · rfl
    | AGPS_TYPE_INVALID => rfl
    | AGPS_TYPE_ANY => rfl
    | AGPS_TYPE_SUPL => rfl
    | AGPS_TYPE_C2K => rfl
    | AGPS_TYPE_WWAN_ANY => rfl
    | AGPS_TYPE_WIFI => rfl
  cases msg with
  | LocEngAgnssNifInit => exact msgQ_createAgnssNifs conf locEng
  | LocEngRequestATL mID mType => exact hget mType
  | LocEngReqRelBIT mType v4 v6 isReq => exact hget mType
  | LocEngAtlOpenSuccess type apn bearer => exact hget type
  | LocEngAtlClosed type => exact hget type
  | LocEngAtlOpenFailed type => exact hget type
  | LocEngReleaseATL mID => rfl
  | LocEngRequestSuplEs mID => rfl
  | LocEngReqRelWifi mType mSenderId => rfl
  | LocEngSuplEsOpened => rfl
  | LocEngSuplEsClosed => rfl

/-- The messages of the framework and of the daemons, which do not look. -/
def trusted : EngAction → Bool
  | .if_request _ _ => true
  | .if_release _ => true
  | .agps_open _ _ _ => true
  | .agps_closed _ => true
  | .agps_open_failed _ => true
  | _ => false

/-- A request of a daemon comes when AGPS is set up. -/
def DaemonWaits (p : EngData × History) : DataAction × Reply → Prop
  | (.if_request _ _, _) => p.1.agps_status_cb = true
  | (.if_release _, _) => p.1.agps_status_cb = true
  | _ => True

/-- The adapter handles the requests, `CAPABILITIES` has MSA or MSB, and
    emergency SUPL has no connection of its own. -/
structure Setup.Capable (c : Setup) : Prop where
  requests : c.mSupportsAgpsRequests = true
  capable : c.agpsCapable = true
  plain : c.USE_EMERGENCY_PDN_FOR_EMERGENCY_SUPL = false

/-- Nothing in the queue will miss its machine. -/
structure Ordered (c : Setup) (p : EngData × History) : Prop where
  tracked : Tracked c p
  behind : Behind p.2.made p.1.eng.msgQ
  posted : p.1.agps_status_cb = true →
    p.2.made = true ∨ LocMsg.LocEngAgnssNifInit ∈ p.1.eng.msgQ

section Ordered

variable [SubscriberEquals]

/-- A call of a machine posts only messages that look for it. -/
theorem postsLooking_act (conf : Config) (locEng : LocEng) (n : Nif)
    (m : AgpsStateMachine) (a : ClassAction) :
    PostsLooking locEng (locEng.act conf n m a) := by
  refine ⟨_, rfl, fun msg hmsg => ?_⟩
  split at hmsg
  · obtain ⟨call, -, hcall⟩ := List.mem_filterMap.mp hmsg
    exact adapterMsg_looks hcall
  · cases hmsg

/-- So does a message that is handled. -/
theorem postsLooking_proc {conf : Config} {locEng locEng' : LocEng}
    {msg : LocMsg} (hs : msg.proc conf locEng = some locEng') :
    PostsLooking locEng locEng' := by
  obtain ⟨new, hq, hnew⟩ := proc_rel (R := PostsLooking) .refl
    (fun _ _ _ => .trans) (fun locEng n _ m' a _ =>
      postsLooking_act conf locEng n m' a) (fun locEng _ => .refl locEng) hs
  exact ⟨new, by rw [hq, msgQ_madeBy], hnew⟩

omit [SubscriberEquals] in
/-- Then every machine that is asked for is there once `LocEngAgnssNifInit` was
    handled. -/
theorem finds_of_made {c : Setup} (hc : c.Capable) {h : History}
    (hmade : h.made = true) (r : Reply) (type : AGpsExtType) :
    c.finds h r type = true := by
  cases type <;>
    simp [Setup.finds, hc.requests, hc.capable, hc.plain, hmade]

omit [SubscriberEquals] in
/-- The machines are made by `LocEngAgnssNifInit`. -/
theorem made_after {c : Setup} (hc : c.Capable) (h : History) (r : Reply)
    (msg : LocMsg) : (h.after (c.config r) msg).made
      = (h.made || msg == .LocEngAgnssNifInit) := by
  have hes : ∀ type, asksToMake.esType (c.config r) type = false := by
    intro type
    have hplain : (c.config r).USE_EMERGENCY_PDN_FOR_EMERGENCY_SUPL = false :=
      hc.plain
    rw [asksToMake.esType, hplain, Bool.and_false]
  have hask : asksToMake (c.config r) msg = (msg == .LocEngAgnssNifInit) := by
    cases msg with
    | LocEngAgnssNifInit => rfl
    | LocEngRequestATL mID mType => exact hes mType
    | LocEngReqRelBIT mType v4 v6 isReq => exact hes mType
    | LocEngAtlOpenSuccess type apn bearer => exact hes type
    | LocEngAtlClosed type => exact hes type
    | LocEngAtlOpenFailed type => exact hes type
    | LocEngReleaseATL mID => rfl
    | LocEngRequestSuplEs mID => rfl
    | LocEngReqRelWifi mType mSenderId => rfl
    | LocEngSuplEsOpened => rfl
    | LocEngSuplEsClosed => rfl
  rw [History.after, hask]
  cases msg == .LocEngAgnssNifInit with
  | true =>
      rw [if_pos rfl]
      exact (Bool.or_true h.made).symm
  | false =>
      rw [if_neg Bool.false_ne_true]
      exact (Bool.or_false h.made).symm

omit [SubscriberEquals] in
/-- Messages are posted that look, or once AGPS is set up. -/
theorem Ordered.grow {c : Setup} {d d' : EngData} {h : History}
    (ho : Ordered c (d, h)) (hk : Tracked c (d', h)) {new : List LocMsg}
    (hcb : d'.agps_status_cb = d.agps_status_cb)
    (hq : d'.eng.msgQ = d.eng.msgQ ++ new)
    (hnew : ∀ msg ∈ new, unlooked msg = none ∨ d.agps_status_cb = true) :
    Ordered c (d', h) := by
  refine ⟨hk, ?_, fun hset => ?_⟩
  · show Behind h.made d'.eng.msgQ
    rw [hq]
    exact ho.behind.append fun msg hmsg => (hnew msg hmsg).imp_right ho.posted
  · have hset' : d'.agps_status_cb = true := hset
    rw [hcb] at hset'
    show h.made = true ∨ LocMsg.LocEngAgnssNifInit ∈ d'.eng.msgQ
    rw [hq]
    exact (ho.posted hset').imp_right (List.mem_append_left new)

/-- What comes in posts messages that look, but for the framework and the
    daemons. -/
theorem posts_engStep {conf : Config} {locEng locEng' : LocEng}
    {a : EngAction} (ha : a ≠ .proc)
    (hs : engStep conf locEng a = some locEng') :
    ∃ new, locEng'.msgQ = locEng.msgQ ++ new ∧
      ∀ msg ∈ new, unlooked msg = none ∨ trusted a = true := by
  have hlooks : PostsLooking locEng locEng' → ∃ new,
      locEng'.msgQ = locEng.msgQ ++ new ∧
      ∀ msg ∈ new, unlooked msg = none ∨ trusted a = true := by
    rintro ⟨new, hq, hnew⟩
    exact ⟨new, hq, fun msg hmsg => Or.inl (hnew msg hmsg)⟩
  have hsend : ∀ {l : LocEng} {msg : LocMsg} (b : Bool),
      unlooked msg = none → l.msgQ = locEng.msgQ →
      PostsLooking locEng (if b then l.sendMsg msg else l) := by
    intro l msg b hmsg hl
    cases b with
    | true =>
        refine ⟨[msg], congrArg (· ++ [msg]) hl, fun m hm => ?_⟩
        rw [List.mem_singleton.mp hm]
        exact hmsg
    | false =>
        exact ⟨[], hl.trans (List.append_nil _).symm, fun _ h => (by cases h)⟩
  have hhear : ∀ r, ∃ new, (locEng.hearDaemon r).msgQ = locEng.msgQ ++ new := by
    intro r
    rw [LocEng.hearDaemon]
    split
    · next msg _ => exact ⟨[msg], rfl⟩
    · exact ⟨[], (List.append_nil _).symm⟩
  cases a with
  | requestATL ID type =>
      exact hlooks (Option.some.inj hs ▸ hsend _ rfl rfl)
  | releaseATL ID => exact hlooks (Option.some.inj hs ▸ hsend _ rfl rfl)
  | requestSuplES ID => exact hlooks (Option.some.inj hs ▸ hsend _ rfl rfl)
  | reportDataCallOpened =>
      exact hlooks (Option.some.inj hs ▸ hsend _ rfl rfl)
  | reportDataCallClosed =>
      exact hlooks (Option.some.inj hs ▸ hsend _ rfl rfl)
  | delay_callback =>
      obtain ⟨sm, -, rfl⟩ := Option.map_eq_some_iff.mp hs
      exact hlooks (postsLooking_act conf locEng .ds_nif sm _)
  | nif_init => exact hlooks (Option.some.inj hs ▸ hsend true rfl rfl)
  | if_request handle pmsg =>
      obtain ⟨new, hq⟩ := hhear
        (loc_eng_dmn_conn_loc_api_server_if_request_handler handle pmsg)
      exact ⟨new, Option.some.inj hs ▸ hq, fun _ _ => Or.inr rfl⟩
  | if_release pmsg =>
      obtain ⟨new, hq⟩ := hhear
        (loc_eng_dmn_conn_loc_api_server_if_release_handler pmsg)
      exact ⟨new, Option.some.inj hs ▸ hq, fun _ _ => Or.inr rfl⟩
  | agps_open type apn bearer =>
      obtain rfl := Option.some.inj hs
      exact ⟨_, rfl, fun _ _ => Or.inr rfl⟩
  | agps_closed type =>
      obtain rfl := Option.some.inj hs
      exact ⟨_, rfl, fun _ _ => Or.inr rfl⟩
  | agps_open_failed type =>
      obtain rfl := Option.some.inj hs
      exact ⟨_, rfl, fun _ _ => Or.inr rfl⟩
  | proc => exact absurd rfl ha

/-- What arrives when it may keeps the order. -/
theorem Ordered.arrive {c : Setup} {d d' : EngData} {h : History}
    (ho : Ordered c (d, h)) {r : Reply} {a : EngAction} (ha : a ≠ .proc)
    (hwait : trusted a = true → d.agps_status_cb = true)
    (hs : d.arrive c r a = some d') : Ordered c (d', h) := by
  have hk := ho.tracked.arrive ha hs
  rw [EngData.arrive] at hs
  by_cases hset : d.adapter = true
  · rw [if_pos hset] at hs
    obtain ⟨eng, heng, rfl⟩ := Option.map_eq_some_iff.mp hs
    obtain ⟨new, hq, hnew⟩ := posts_engStep ha heng
    exact ho.grow hk rfl hq fun msg hmsg => (hnew msg hmsg).imp_right hwait
  · rw [if_neg hset] at hs
    cases hs

omit [SubscriberEquals] in
/-- A call of the framework keeps it. -/
theorem Ordered.checked {c : Setup} {d : EngData} {h : History}
    (ho : Ordered c (d, h)) (msg : LocMsg) :
    Ordered c ((d.checked msg).2, h) := by
  have hk := ho.tracked.checked msg
  rw [EngData.checked] at hk ⊢
  by_cases hset : (d.adapter && d.agps_status_cb) = true
  · rw [if_pos hset] at hk ⊢
    have hcb := (Bool.and_eq_true_iff.mp hset).2
    have hq : (d.eng.sendMsg msg).msgQ = d.eng.msgQ ++ [msg] := rfl
    exact ho.grow hk rfl hq fun _ _ => Or.inr hcb
  · rw [if_neg hset] at hk ⊢
    exact ho

omit [SubscriberEquals] in
/-- `LocEngAgnssNifInit` is posted with the callback. -/
theorem Ordered.agps_init {c : Setup} (hc : c.Capable) {d : EngData}
    {h : History} (ho : Ordered c (d, h)) (callbacks : Option Bool) :
    Ordered c (d.loc_eng_agps_init c callbacks, h) := by
  have hk := ho.tracked.agps_init callbacks
  unfold EngData.loc_eng_agps_init at hk ⊢
  by_cases hset : (!d.adapter) = true
  · rw [if_pos hset]
    exact ho
  · rw [if_neg hset] at hk ⊢
    by_cases hcb : d.agps_status_cb = true
    · rw [if_pos hcb]
      exact ho
    · rw [if_neg hcb] at hk ⊢
      cases callbacks with
      | none => exact ho
      | some status_cb =>
          dsimp only at hk ⊢
          rw [hc.requests, if_pos rfl] at hk ⊢
          refine ⟨hk, ho.behind.append fun msg hmsg => Or.inl ?_, fun _ =>
            Or.inr (List.mem_append_right _ List.mem_cons_self)⟩
          rw [List.mem_singleton.mp hmsg]
          rfl

omit [SubscriberEquals] in
theorem Ordered.init {c : Setup} {d : EngData} {h : History}
    (ho : Ordered c (d, h)) (callbacks : Bool) (event : UInt32) :
    Ordered c ((d.loc_eng_init callbacks event).2, h) := by
  have hk := ho.tracked.init callbacks event
  rw [EngData.loc_eng_init] at hk ⊢
  by_cases hbad : (!callbacks || event == 0) = true
  · rw [if_pos hbad]
    exact ho
  · rw [if_neg hbad] at hk ⊢
    by_cases hset : d.adapter = true
    · rw [if_pos hset]
      exact ho
    · rw [if_neg hset] at hk ⊢
      exact ⟨hk, trivial, fun hcb => (by cases hcb)⟩

/-- The task finds every machine. -/
theorem Ordered.proc {c : Setup} (hc : c.Capable) {d d' : EngData}
    {h : History} (ho : Ordered c (d, h)) {r : Reply}
    (hs : d.proc c r = some d') :
    Ordered c (d', note c h d (.proc, r) d') := by
  have hbehind : Behind h.made d.eng.msgQ := ho.behind
  have hposted : d.agps_status_cb = true →
    h.made = true ∨ LocMsg.LocEngAgnssNifInit ∈ d.eng.msgQ := ho.posted
  have hfinds : FindsMachine c (d, h) (.proc, r) := by
    rw [FindsMachine]
    dsimp only
    rcases hq : d.eng.msgQ with _ | ⟨msg, rest⟩
    · trivial
    · rw [hq] at hbehind
      intro type htype
      refine finds_of_made hc (hbehind.1.resolve_left ?_) r type
      rw [htype]
      exact Option.some_ne_none type
  have hk := (ho.tracked.proc hs).1 hfinds
  rw [note] at hk ⊢
  rw [EngData.proc] at hs
  dsimp only at hk ⊢
  rcases hq : d.eng.msgQ with _ | ⟨msg, rest⟩
  · rw [hq] at hs
    cases hs
  · rw [hq] at hs hk hbehind hposted
    dsimp only at hs hk ⊢
    cases hp : msg.proc (c.config r) { d.eng with msgQ := rest } with
    | none =>
        -- that is the branch without the machine
        rw [hp] at hs
        have hmissing := hk.found
        rw [← Option.some.inj hs] at hmissing
        cases hmissing
    | some eng =>
        rw [hp] at hs
        obtain rfl := Option.some.inj hs
        obtain ⟨new, hnewq, hnew⟩ := postsLooking_proc hp
        refine ⟨hk, ?_, fun hcb => ?_⟩
        · show Behind _ eng.msgQ
          rw [made_after hc, hnewq]
          exact hbehind.2.append fun msg hmsg => Or.inl (hnew msg hmsg)
        · show _ ∨ LocMsg.LocEngAgnssNifInit ∈ eng.msgQ
          rw [made_after hc, hnewq]
          rcases hposted hcb with hmade | hmem
          · exact Or.inl (by rw [hmade, Bool.true_or])
          · rcases List.mem_cons.mp hmem with rfl | hmem
            · exact Or.inl (Bool.or_true h.made)
            · exact Or.inr (List.mem_append_left new hmem)

/-- Every step keeps the order, if the daemons wait. -/
theorem ordered_step {c : Setup} (hc : c.Capable)
    {p p' : EngData × History} {a : DataAction × Reply} (ho : Ordered c p)
    (hwait : DaemonWaits p a) (hs : (dataHistSys c).step p a = some p') :
    Ordered c p' := by
  obtain ⟨d, h⟩ := p
  obtain ⟨d', h'⟩ := p'
  obtain ⟨a, r⟩ := a
  obtain ⟨hstep, hnote⟩ := watched_step hs
  obtain rfl : h' = note c h d (a, r) d' := hnote
  have hdo : dataStep c r d a = some d' := hstep
  have hin : ∀ {a : EngAction}, a ≠ .proc → trusted a = false →
      d.arrive c r a = some d' → Ordered c (d', h) := by
    intro a ha hno hs
    refine ho.arrive ha (fun htrust => ?_) hs
    rw [hno] at htrust
    cases htrust
  cases a with
  | loc_eng_init callbacks event =>
      exact Option.some.inj hdo ▸ ho.init callbacks event
  | loc_eng_agps_init callbacks =>
      exact Option.some.inj hdo ▸ ho.agps_init hc callbacks
  | loc_eng_agps_open type apn bearer =>
      refine Option.some.inj hdo ▸ ?_
      cases apn with
      | none => exact ho
      | some apn => exact ho.checked _
  | loc_eng_agps_closed type => exact Option.some.inj hdo ▸ ho.checked _
  | loc_eng_agps_open_failed type => exact Option.some.inj hdo ▸ ho.checked _
  | requestATL ID type => exact hin (fun h => (by cases h)) rfl hdo
  | releaseATL ID => exact hin (fun h => (by cases h)) rfl hdo
  | requestSuplES ID => exact hin (fun h => (by cases h)) rfl hdo
  | if_request handle pmsg =>
      exact ho.arrive (fun h => (by cases h)) (fun _ => hwait) hdo
  | if_release pmsg =>
      exact ho.arrive (fun h => (by cases h)) (fun _ => hwait) hdo
  | reportDataCallOpened => exact hin (fun h => (by cases h)) rfl hdo
  | reportDataCallClosed => exact hin (fun h => (by cases h)) rfl hdo
  | delay_callback => exact hin (fun h => (by cases h)) rfl hdo
  | proc => exact ho.proc hc hdo

/-- **A SAFE ORDER**: with all capabilities, and daemons that wait until AGPS
    is set up, every message finds its machine. -/
theorem machines_found {c : Setup} (hc : c.Capable) {p : EngData × History}
    (h : ReachUnder (dataHistSys c) DaemonWaits p) : p.1.missing = false := by
  refine (reachUnder_inv (I := Ordered c) ?_ ?_ h).tracked.found
  · rintro ⟨d, h⟩ ⟨rfl, rfl⟩
    exact ⟨tracked_new c, trivial, fun hcb => (by cases hcb)⟩
  · exact fun p a p' ho hwait hs => ordered_step hc ho hwait hs

end Ordered

/-- gps.conf without MSA and MSB. -/
def standaloneSetup : Setup := ⟨true, 0x10, false⟩

/-- The framework sets up GPS and AGPS and opens a data connection. -/
def openRun : List (DataAction × Reply) :=
  [(.loc_eng_init true 1, ⟨false, started⟩),
   (.loc_eng_agps_init (some true), ⟨false, started⟩),
   (.proc, ⟨false, started⟩),
   (.loc_eng_agps_open .AGPS_TYPE_SUPL (some "apn") .AGPS_APN_BEARER_IPV4,
     ⟨false, started⟩),
   (.proc, ⟨false, started⟩)]

/-- There is no machine for SUPL then, and the answer of the framework calls
    it. -/
theorem open_calls_missing :
    ¬ (∀ c l, HoldsAlong (@dataHistSys c (codeEquals (fun _ => [])))
      (fun p => p.1.missing = false) (engDataNew, History.new) l) := by
  intro hall
  let _ : SubscriberEquals := codeEquals (fun _ => [])
  obtain ⟨-, hrun⟩ := hall standaloneSetup openRun
  obtain ⟨-, hrun⟩ := hrun _ rfl
  obtain ⟨-, hrun⟩ := hrun _ rfl
  obtain ⟨-, hrun⟩ := hrun _ rfl
  obtain ⟨-, hrun⟩ := hrun _ rfl
  have hmissing := hrun _ rfl
  cases hmissing

end QcomAgps
