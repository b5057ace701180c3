import QcomCommon.LocEngMachineProofs
import QcomCommon.OwnershipProofs
import QcomCommon.TransitionProofs

/-! # The ULP proxy and what was asked of it

    `loc_eng_set_position_mode`, `loc_eng_start` and `loc_eng_stop` of
    `loc_eng.cpp` go to the ULP proxy of the adapter, which takes them or
    leaves them to the engine as messages.  The framework's thread gets the
    proxy and calls it with no lock, while `LocEngAdapter::setUlpProxy` on the
    engine's thread tells a new proxy what the old one remembers, deletes the
    old one and stores the new.

    What no proxy takes comes to the engine in its order in every
    interleaving.  But the present proxy knows what was asked last only if each
    call comes in time: before the old proxy is read, and before it is deleted
    (`ulp_handover`). -/

namespace QcomUlp

open QcomEng QcomOwnership QcomTransition

/-- What is asked of a proxy. -/
inductive Request where
  | sendFixMode (params : LocPosMode)
  | sendStartFix
  | sendStopFix
deriving DecidableEq

/-- `UlpProxyBase`. -/
structure UlpProxyBase where
  mPosMode : LocPosMode
  mFixSet : Bool
deriving DecidableEq

/-- `MIN_POSSIBLE_FIX_INTERVAL`. -/
def MIN_POSSIBLE_FIX_INTERVAL : UInt32 := 1000

/-- `UlpProxyBase()`. -/
def UlpProxyBase.new : UlpProxyBase where
  mPosMode :=
    { mode := .LOC_POSITION_MODE_INVALID
      recurrence := .GPS_POSITION_RECURRENCE_PERIODIC
      min_interval := MIN_POSSIBLE_FIX_INTERVAL
      preferred_accuracy := 50
      preferred_time := 120000
      credentials := Vector.replicate 14 0
      provider := Vector.replicate 8 0 }
  mFixSet := false

/-- `sendFixMode`, `sendStartFix` and `sendStopFix`: what is remembered. -/
def UlpProxyBase.send (p : UlpProxyBase) : Request → UlpProxyBase
  | .sendFixMode params => { p with mPosMode := params }
  | .sendStartFix => { p with mFixSet := true }
  | .sendStopFix => { p with mFixSet := false }

/-- An object, of `UlpProxyBase` or of a class outside of these sources, with
    all that it was told. -/
structure Proxy extends UlpProxyBase where
  outside : Bool
  told : List Request
deriving DecidableEq

/-- A proxy as it is made. -/
def Proxy.new (outside : Bool) : Proxy := ⟨.new, outside, []⟩

/-- How the classes outside of these sources change the members of
    `UlpProxyBase` when they are asked. -/
abbrev Remember := UlpProxyBase → Request → UlpProxyBase

/-- They remember what they are asked, as `setUlpProxy` relies on. -/
def Remember.AsBase (remember : Remember) : Prop :=
  ∀ p r, remember p r = p.send r

variable (remember : Remember)

/-- A call of the proxy. -/
def Proxy.ask (p : Proxy) (r : Request) : Proxy where
  toUlpProxyBase :=
    if p.outside then remember p.toUlpProxyBase r else p.toUlpProxyBase.send r
  outside := p.outside
  told := p.told ++ [r]

/-- A message to the thread of the engine: `LocEngPositionMode`,
    `LocEngStartFix` or `LocEngStopFix`, by the framework or by a proxy
    itself, or a proxy to be set. -/
inductive Msg where
  | fix (internal : Bool) (r : Request)
  | setUlpProxy (ulp : Option Nat)
deriving DecidableEq

/-- A request of the framework. -/
def Msg.asked : Msg → Option Request
  | .fix false r => some r
  | _ => none

/-- The framework's thread: it has got the proxy and not yet called it, or the
    proxy has not taken the request and the message is not yet sent. -/
inductive Caller where
  | idle
  | got (r : Request) (ulp : Nat)
  | refused (r : Request)

/-- The request that goes to the engine next. -/
def Caller.pending : Caller → List Request
  | refused r => [r]
  | idle | got _ _ => []

/-- The engine's thread in `setUlpProxy`, with the new proxy: in front of
    `mPosMode` of the old one, of its `mFixSet`, of the `delete` and of the
    last line. -/
inductive Engine where
  | idle
  | modeUnread (ulp : Nat)
  | startUnread (ulp : Nat)
  | deleting (ulp : Nat)
  | storing (ulp : Nat)

/-- The adapter with its messages, and the proxies in memory.  `requests` are
    those that the framework made, `left` those that no proxy took, and `done`
    what the engine has got. -/
structure Adapter where
  mUlp : Nat
  mem : Mem Proxy
  caller : Caller
  engine : Engine
  queue : List Msg
  requests : List Request
  left : List Request
  done : List Msg

/-- The mode of a target without MSB and MSA is standalone. -/
def allowedMode (standaloneOnly : Bool) (params : LocPosMode) : LocPosMode :=
  if standaloneOnly ∧ params.mode ≠ .LOC_POSITION_MODE_STANDALONE then
    { params with mode := .LOC_POSITION_MODE_STANDALONE }
  else params

/-- A step of the framework's thread, of the makers of proxies, or of the
    engine's thread; `taken` is the answer of a proxy outside of these
    sources. -/
inductive Step where
  | loc_eng_set_position_mode (params : LocPosMode)
  | loc_eng_start
  | loc_eng_stop
  | call (taken : Bool)
  | sendMsg
  | internal (r : Request)
  | makeProxy
  | requestUlp (ulp : Option Nat)
  | proc
  | setUlpProxy

/-- A proxy in memory is asked. -/
def tell (m : Mem Proxy) (ulp : Nat) (r : Request) : Mem Proxy :=
  (m.heap ulp).elim (m.touch ulp) fun p => m.write ulp (p.ask remember r)

/-- A new proxy is told what is read of the old one. -/
def hand (read : UlpProxyBase → Option Request) (m : Mem Proxy)
    (old ulp : Nat) : Mem Proxy :=
  (m.heap old).elim (m.touch old) fun p =>
    (read p.toUlpProxyBase).elim m (tell remember m ulp)

/-- The first read of the old proxy: a mode, if it has one. -/
def readMode (p : UlpProxyBase) : Option Request :=
  if p.mPosMode.mode ≠ .LOC_POSITION_MODE_INVALID then
    some (.sendFixMode p.mPosMode)
  else none

/-- The second one: a start, if there is a session. -/
def readStart (p : UlpProxyBase) : Option Request :=
  if p.mFixSet then some .sendStartFix else none

namespace Adapter

/-- `getUlpProxy`. -/
def get (s : Adapter) (r : Request) : Option Adapter :=
  match s.caller with
  | .idle => some { s with caller := .got r s.mUlp }
  | _ => none

/-- The call of the proxy that was got; `UlpProxyBase` takes nothing. -/
def call (s : Adapter) (taken : Bool) : Option Adapter :=
  match s.caller with
  | .got r ulp =>
      let t := { s with
        mem := tell remember s.mem ulp r
        requests := s.requests ++ [r] }
      some (if taken ∧ (s.mem.heap ulp).all (·.outside) then
        { t with caller := .idle }
      else { t with caller := .refused r, left := s.left ++ [r] })
  | _ => none

/-- `setUlpProxy` up to the first look at the old proxy. -/
def beginSet (s : Adapter) : Option Nat → Adapter
  | some ulp =>
      if ulp = s.mUlp then s else { s with engine := .modeUnread ulp }
  | none =>
      { s with
        engine := .modeUnread s.mem.next
        mem := (s.mem.allocate (some (.new false))).2 }

/-- A step in `setUlpProxy`. -/
def setUlpProxy (s : Adapter) : Option Adapter :=
  match s.engine with
  | .idle => none
  | .modeUnread ulp =>
      some { s with
        engine := .startUnread ulp
        mem := hand remember readMode s.mem s.mUlp ulp }
  | .startUnread ulp =>
      some { s with
        engine := .deleting ulp
        mem := hand remember readStart s.mem s.mUlp ulp }
  | .deleting ulp =>
      some { s with engine := .storing ulp, mem := s.mem.free s.mUlp }
  | .storing ulp => some { s with engine := .idle, mUlp := ulp }

/-- The engine's thread takes a message. -/
def proc (s : Adapter) : Option Adapter :=
  match s.engine, s.queue with
  | .idle, .fix internal r :: queue =>
      some { s with queue := queue, done := s.done ++ [.fix internal r] }
  | .idle, .setUlpProxy ulp :: queue =>
      some (({ s with queue := queue } : Adapter).beginSet ulp)
  | _, _ => none

end Adapter

/-- A step of one of the threads. -/
def step (standaloneOnly : Bool) (s : Adapter) : Step → Option Adapter
  | .loc_eng_set_position_mode params =>
      s.get (.sendFixMode (allowedMode standaloneOnly params))
  | .loc_eng_start => s.get .sendStartFix
  | .loc_eng_stop => s.get .sendStopFix
  | .call taken => s.call remember taken
  | .sendMsg =>
      match s.caller with
      | .refused r =>
          some { s with caller := .idle, queue := s.queue ++ [.fix false r] }
      | _ => none
  | .internal r => some { s with queue := s.queue ++ [.fix true r] }
  | .makeProxy =>
      some { s with mem := (s.mem.allocate (some (.new true))).2 }
  | .requestUlp ulp => some { s with queue := s.queue ++ [.setUlpProxy ulp] }
  | .proc => s.proc
  | .setUlpProxy => s.setUlpProxy remember

/-- `LocEngAdapter` as it is made, with a proxy of its own. -/
def created : Adapter where
  mUlp := 0
  mem := ⟨fun a => if a = 0 then some (.new false) else none, 1, false⟩
  caller := .idle
  engine := .idle
  queue := []
  requests := []
  left := []
  done := []

/-- An adapter from its start on. -/
def adapter (standaloneOnly : Bool) : TransSys Adapter Step where
  init s := s = created
  step := step remember standaloneOnly

/-! ## What the engine gets -/

/-- The engine gets what no proxy took, which the framework asked for. -/
structure Delivered (s : Adapter) : Prop where
  left : (s.done ++ s.queue).filterMap Msg.asked ++ s.caller.pending = s.left
  asked : s.left.Sublist s.requests

variable {remember} {s s' : Adapter}

theorem delivered_created : Delivered created := ⟨rfl, .slnil⟩

/-- A request that gets its proxy is on its way. -/
theorem delivered_get (h : Delivered s) {r : Request}
    (hs : s.get r = some s') : Delivered s' := by
  rw [Adapter.get] at hs
  split at hs
  · next hidle =>
      obtain rfl := Option.some.inj hs
      have hleft := h.left
      rw [hidle] at hleft
      exact ⟨hleft, h.asked⟩
  · cases hs

/-- It is taken, or goes to the engine next. -/
theorem delivered_call (h : Delivered s) {taken : Bool}
    (hs : s.call remember taken = some s') : Delivered s' := by
  rw [Adapter.call] at hs
  split at hs
  · next r ulp hgot =>
      have hleft := h.left
      rw [hgot, Caller.pending, List.append_nil] at hleft
      obtain rfl := Option.some.inj hs
      split
      · refine ⟨(List.append_nil _).trans hleft, ?_⟩
        exact h.asked.trans (List.sublist_append_left _ _)
      · exact ⟨congrArg (· ++ [r]) hleft, h.asked.append (.refl [r])⟩
  · cases hs

/-- A message that the engine takes is done. -/
theorem delivered_proc (h : Delivered s) (hs : s.proc = some s') :
    Delivered s' := by
  have hleft := h.left
  rw [Adapter.proc] at hs
  split at hs
  · next internal r queue _ hqueue =>
      obtain rfl := Option.some.inj hs
      refine ⟨?_, h.asked⟩
      rw [hqueue] at hleft
      simpa using hleft
  · next ulp queue _ hqueue =>
      obtain rfl := Option.some.inj hs
      rw [hqueue] at hleft
      have hpopped : (s.done ++ queue).filterMap Msg.asked
          ++ s.caller.pending = s.left := by
        simpa [Msg.asked, List.filterMap_cons] using hleft
      cases ulp with
      | none => exact ⟨hpopped, h.asked⟩
      | some ulp =>
          rw [Adapter.beginSet]
          split <;> exact ⟨hpopped, h.asked⟩
  · cases hs

/-- A proxy that is set changes nothing of that. -/
theorem delivered_setUlpProxy (h : Delivered s)
    (hs : s.setUlpProxy remember = some s') : Delivered s' := by
  rw [Adapter.setUlpProxy] at hs
  split at hs
  · cases hs
  all_goals
    obtain rfl := Option.some.inj hs
    exact ⟨h.left, h.asked⟩

/-- Every step keeps what is delivered, and its order. -/
theorem delivered_step {standaloneOnly : Bool} {a : Step} (h : Delivered s)
    (hs : step remember standaloneOnly s a = some s') : Delivered s' := by
  cases a with
  | loc_eng_set_position_mode params | loc_eng_start | loc_eng_stop =>
      exact delivered_get h hs
  | call taken => exact delivered_call h hs
  | sendMsg =>
      simp only [step] at hs
      split at hs
      · next r hrefused =>
          obtain rfl := Option.some.inj hs
          have hleft := h.left
          rw [hrefused] at hleft
          refine ⟨?_, h.asked⟩
          simpa [Msg.asked, Caller.pending] using hleft
      · cases hs
  | internal r | requestUlp ulp =>
      obtain rfl := Option.some.inj hs
      refine ⟨?_, h.asked⟩
      have hleft := h.left
      simpa [Msg.asked, List.filterMap_cons] using hleft
  | makeProxy =>
      obtain rfl := Option.some.inj hs
      exact ⟨h.left, h.asked⟩
  | proc => exact delivered_proc h hs
  | setUlpProxy => exact delivered_setUlpProxy h hs

/-! ## What was asked -/

/-- The mode and the session that were asked for last. -/
structure Wanted where
  mode : Option LocPosMode
  session : Bool

/-- What is wanted behind a request. -/
def Wanted.after (w : Wanted) : Request → Wanted
  | .sendFixMode params => { w with mode := some params }
  | .sendStartFix => { w with session := true }
  | .sendStopFix => { w with session := false }

/-- What is wanted behind all of them. -/
def wanted (l : List Request) : Wanted := l.foldl Wanted.after ⟨none, false⟩

/-- The last request counts behind the others. -/
theorem wanted_append (l : List Request) (r : Request) :
    wanted (l ++ [r]) = (wanted l).after r := by
  rw [wanted, List.foldl_append]
  rfl

/-- The members are as they are behind these requests. -/
structure Remembers (p : UlpProxyBase) (w : Wanted) : Prop where
  session : p.mFixSet = w.session
  mode : ∀ m ∈ w.mode,
    p.mPosMode = m ∧ m.mode ≠ .LOC_POSITION_MODE_INVALID
  noMode : w.mode = none → p.mPosMode.mode = .LOC_POSITION_MODE_INVALID

/-- A proxy was told of the mode and the session, and remembers them. -/
structure Holds (w : Wanted) (p : Proxy) : Prop where
  remembers : Remembers p.toUlpProxyBase w
  told : wanted p.told = w

/-- A new proxy was told nothing. -/
theorem holds_new (outside : Bool) : Holds ⟨none, false⟩ (.new outside) where
  remembers :=
    { session := rfl
      mode := fun m hm => absurd hm (Option.not_mem_none m)
      noMode := fun _ => rfl }
  told := rfl

/-- A mode is a valid one. -/
def Request.Valid : Request → Prop
  | .sendFixMode params => params.mode ≠ .LOC_POSITION_MODE_INVALID
  | _ => True

/-- The base class remembers what it is told. -/
theorem remembers_send {p : UlpProxyBase} {w : Wanted} (h : Remembers p w)
    {r : Request} (hr : r.Valid) : Remembers (p.send r) (w.after r) := by
  cases r with
  | sendFixMode params =>
      refine ⟨h.session, fun m hm => ?_, fun hnone => ?_⟩
      · obtain rfl := Option.some.inj hm
        exact ⟨rfl, hr⟩
      · cases hnone
  | sendStartFix | sendStopFix => exact ⟨rfl, h.mode, h.noMode⟩

/-- A proxy that is asked was told that too. -/
theorem holds_ask (houtside : remember.AsBase) {p : Proxy} {w : Wanted}
    (h : Holds w p) {r : Request} (hr : r.Valid) :
    Holds (w.after r) (p.ask remember r) where
  remembers := by
    have hsame : (p.ask remember r).toUlpProxyBase
        = p.toUlpProxyBase.send r := by
      rw [Proxy.ask]
      split
      · exact houtside _ r
      · rfl
    rw [hsame]
    exact remembers_send h.remembers hr
  told := by
    show wanted (p.told ++ [r]) = _
    rw [wanted_append, h.told]

/-- There is a proxy that holds this. -/
def Stands (w : Wanted) (m : Mem Proxy) (a : Nat) : Prop :=
  ∃ p, m.heap a = some p ∧ Holds w p

variable {m m' : Mem Proxy} {w w' : Wanted} {a old ulp : Nat}

/-- A proxy that stands for what is wanted is live. -/
theorem Stands.live (h : Stands w m a) : (m.heap a).isSome := by
  obtain ⟨p, hp, -⟩ := h
  rw [hp]
  rfl

/-- It stands as long as its memory is the same. -/
theorem Stands.congr (h : Stands w m a) (hsame : m'.heap a = m.heap a) :
    Stands w m' a := by
  obtain ⟨p, hp, hholds⟩ := h
  exact ⟨p, hsame.trans hp, hholds⟩

/-- A proxy that is asked holds that too, and no other changes. -/
theorem tell_effect (houtside : remember.AsBase) (hm : Bounded m)
    (h : Stands w m a) {r : Request} (hr : r.Valid) :
    Effect m (some a) (tell remember m a r) (some a)
      ∧ Stands (w.after r) (tell remember m a r) a := by
  have hlive := h.live
  obtain ⟨p, hp, hholds⟩ := h
  have htell : tell remember m a r = m.write a (p.ask remember r) := by
    rw [tell, hp]
    rfl
  rw [htell]
  refine ⟨(effect_write hm hlive _).1, p.ask remember r, ?_,
    holds_ask houtside hholds hr⟩
  rw [Mem.write, if_pos hlive]
  exact Function.update_self _ _ _

/-- What is read of the old proxy leads the new one from `w` to `w'`. -/
def Leads (read : UlpProxyBase → Option Request) (p : Proxy) (w w' : Wanted) :
    Prop :=
  match read p.toUlpProxyBase with
  | none => w' = w
  | some r => r.Valid ∧ w' = w.after r

/-- What the old proxy remembers is handed to the new one. -/
theorem hand_effect (houtside : remember.AsBase) (hm : Bounded m)
    {read : UlpProxyBase → Option Request} {p : Proxy}
    (hold : m.heap old = some p) (hread : Leads read p w w')
    (hnew : Stands w m ulp) :
    Effect m (some ulp) (hand remember read m old ulp) (some ulp)
      ∧ Stands w' (hand remember read m old ulp) ulp := by
  have hlive : Live m (some ulp) := by
    rintro _ ⟨⟩
    exact hnew.live
  rw [hand, hold, Option.elim_some]
  rw [Leads] at hread
  cases hr : read p.toUlpProxyBase with
  | none =>
      rw [hr] at hread
      obtain rfl : w' = w := hread
      exact ⟨.refl hm hlive, hnew⟩
  | some r =>
      rw [hr] at hread
      obtain ⟨hvalid, rfl⟩ : r.Valid ∧ w' = w.after r := hread
      exact tell_effect houtside hm hnew hvalid

/-- The mode that the old proxy remembers is the one asked for last. -/
theorem leads_mode {p : Proxy} (h : Holds w p) :
    Leads readMode p ⟨none, false⟩ ⟨w.mode, false⟩ := by
  obtain ⟨mode, session⟩ := w
  rw [Leads, readMode]
  cases mode with
  | none => rw [if_neg (not_not.mpr (h.remembers.noMode rfl))]
  | some params =>
      obtain ⟨hmode, hvalid⟩ := h.remembers.mode params rfl
      rw [hmode, if_pos hvalid]
      exact ⟨hvalid, rfl⟩

/-- And so is the session. -/
theorem leads_start {p : Proxy} (h : Holds w p) :
    Leads readStart p ⟨w.mode, false⟩ w := by
  obtain ⟨mode, session⟩ := w
  rw [Leads, readStart, h.remembers.session]
  cases session with
  | false => rfl
  | true => exact ⟨trivial, rfl⟩

/-! ## Calls that come in time -/

/-- What a request changes of the old proxy has not been read. -/
def Engine.Unread : Engine → Request → Prop
  | idle, _ | modeUnread _, _ => True
  | startUnread _, .sendFixMode _ => False
  | startUnread _, _ => True
  | deleting _, _ | storing _, _ => False

instance decidableUnread : ∀ e r, Decidable (Engine.Unread e r)
  | .idle, _ | .modeUnread _, _ => isTrue trivial
  | .startUnread _, .sendFixMode _ => isFalse id
  | .startUnread _, .sendStartFix | .startUnread _, .sendStopFix =>
      isTrue trivial
  | .deleting _, _ | .storing _, _ => isFalse id

/-- The proxy that was got is the present one, and the request is not late. -/
def Caller.InTime (mUlp : Nat) (e : Engine) : Caller → Prop
  | got r ulp => ulp = mUlp ∧ e.Unread r
  | idle | refused _ => True

instance decidableInTime (mUlp : Nat) (e : Engine) :
    ∀ c, Decidable (Caller.InTime mUlp e c)
  | .got r ulp => inferInstanceAs (Decidable (ulp = mUlp ∧ e.Unread r))
  | .idle | .refused _ => isTrue trivial

/-- The proxy that is set is the present one, or a new one. -/
def SetsNew (s : Adapter) : Msg → Prop
  | .setUlpProxy (some ulp) =>
      ulp = s.mUlp ∨ s.mem.heap ulp = some (.new true)
  | .setUlpProxy none | .fix _ _ => True

instance decidableSetsNew (s : Adapter) : ∀ m, Decidable (SetsNew s m)
  | .setUlpProxy (some ulp) => inferInstanceAs
      (Decidable (ulp = s.mUlp ∨ s.mem.heap ulp = some (.new true)))
  | .setUlpProxy none | .fix _ _ => isTrue trivial

/-- A call comes to the present proxy before what it changes is read, a proxy
    that is set is a new one or the present one, and the modes of
    `loc_set_position_mode` are valid. -/
def Timely (s : Adapter) : Step → Prop
  | .loc_eng_set_position_mode params =>
      params.mode ≠ .LOC_POSITION_MODE_INVALID
  | .call _ => s.caller.InTime s.mUlp s.engine
  | .proc => ∀ m ∈ s.queue.head?, SetsNew s m
  | _ => True

instance decidableTimely (s : Adapter) : ∀ a, Decidable (Timely s a)
  | .loc_eng_set_position_mode params => inferInstanceAs
      (Decidable (params.mode ≠ .LOC_POSITION_MODE_INVALID))
  | .call _ => decidableInTime _ _ _
  | .proc => inferInstanceAs (Decidable (∀ m ∈ s.queue.head?, SetsNew s m))
  | .loc_eng_start | .loc_eng_stop | .sendMsg | .internal _ | .makeProxy
  | .requestUlp _ | .setUlpProxy => isTrue trivial

/-- The proxies by the place of the engine's thread. -/
def Placed (w : Wanted) (m : Mem Proxy) (mUlp : Nat) : Engine → Prop
  | .idle => Stands w m mUlp
  | .modeUnread ulp =>
      ulp ≠ mUlp ∧ Stands w m mUlp ∧ Stands ⟨none, false⟩ m ulp
  | .startUnread ulp =>
      ulp ≠ mUlp ∧ Stands w m mUlp ∧ Stands ⟨w.mode, false⟩ m ulp
  | .deleting ulp => ulp ≠ mUlp ∧ (m.heap mUlp).isSome ∧ Stands w m ulp
  | .storing ulp => Stands w m ulp

/-- The invariant of the runs whose calls come in time. -/
structure Kept (s : Adapter) : Prop where
  bad : s.mem.bad = false
  bounded : Bounded s.mem
  valid : ∀ r ulp, s.caller = .got r ulp → r.Valid
  placed : Placed (wanted s.requests) s.mem s.mUlp s.engine

/-- The adapter starts with a proxy that is kept. -/
theorem kept_created : Kept created where
  bad := rfl
  bounded a ha := by
    by_cases h : a = 0
    · rw [h]
      exact Nat.one_pos
    · rw [show created.mem.heap a = none from if_neg h] at ha
      cases ha
  valid r ulp h := by cases h
  placed := ⟨.new false, rfl, holds_new false⟩

/-- What lives stays as it is. -/
theorem Placed.frame {mUlp : Nat} {e : Engine} (h : Placed w m mUlp e)
    (hframe : ∀ a, (m.heap a).isSome → m'.heap a = m.heap a) :
    Placed w m' mUlp e := by
  have hstands : ∀ {w a}, Stands w m a → Stands w m' a :=
    fun hs => hs.congr (hframe _ hs.live)
  cases e with
  | idle | storing ulp => exact hstands h
  | modeUnread ulp | startUnread ulp =>
      exact ⟨h.1, hstands h.2.1, hstands h.2.2⟩
  | deleting ulp =>
      refine ⟨h.1, ?_, hstands h.2.2⟩
      rw [hframe _ h.2.1]
      exact h.2.1

/-- **A CALL IN TIME**. -/
theorem placed_call (houtside : remember.AsBase) (hm : Bounded m)
    {e : Engine} {r : Request} (hr : r.Valid) (he : e.Unread r)
    (h : Placed w m a e) :
    (tell remember m a r).bad = m.bad ∧ Bounded (tell remember m a r)
      ∧ Placed (w.after r) (tell remember m a r) a e := by
  have hstands : Stands w m a := by
    cases e with
    | idle => exact h
    | modeUnread ulp | startUnread ulp => exact h.2.1
    | deleting ulp | storing ulp => exact he.elim
  obtain ⟨heffect, htold⟩ := tell_effect houtside hm hstands hr
  refine ⟨heffect.bad, heffect.bounded, ?_⟩
  have hother : ∀ {w' ulp}, ulp ≠ a → Stands w' m ulp →
      Stands w' (tell remember m a r) ulp :=
    fun hne hs => hs.congr
      (heffect.frame _ hs.live fun h => hne (Option.some.inj h).symm)
  cases e with
  | idle => exact htold
  | modeUnread ulp => exact ⟨h.1, htold, hother h.1 h.2.2⟩
  | startUnread ulp =>
      have hmode : (w.after r).mode = w.mode := by
        cases r with
        | sendFixMode params => exact he.elim
        | sendStartFix | sendStopFix => rfl
      refine ⟨h.1, htold, ?_⟩
      rw [hmode]
      exact hother h.1 h.2.2
  | deleting ulp | storing ulp => exact he.elim

/-- A request that gets the proxy keeps it. -/
theorem kept_get (h : Kept s) {r : Request} (hr : r.Valid)
    (hs : s.get r = some s') : Kept s' := by
  rw [Adapter.get] at hs
  split at hs
  · obtain rfl := Option.some.inj hs
    refine ⟨h.bad, h.bounded, fun r' ulp hgot => ?_, h.placed⟩
    obtain ⟨rfl, -⟩ := Caller.got.inj hgot
    exact hr
  · cases hs

/-- So does the call of it, as long as that comes in time. -/
theorem kept_call (houtside : remember.AsBase) (h : Kept s) {taken : Bool}
    (ht : Timely s (.call taken)) (hs : s.call remember taken = some s') :
    Kept s' := by
  rw [Adapter.call] at hs
  split at hs
  · next r ulp hgot =>
      obtain ⟨rfl, hunread⟩ : ulp = s.mUlp ∧ s.engine.Unread r := by
        rw [Timely, hgot] at ht
        exact ht
      obtain ⟨hbad, hbounded, hplaced⟩ := placed_call houtside h.bounded
        (h.valid r _ hgot) hunread h.placed
      rw [← wanted_append] at hplaced
      obtain rfl := Option.some.inj hs
      split
      · exact ⟨hbad.trans h.bad, hbounded, fun _ _ h => (by cases h), hplaced⟩
      · exact ⟨hbad.trans h.bad, hbounded, fun _ _ h => (by cases h), hplaced⟩
  · cases hs

/-- A new proxy comes into memory. -/
theorem kept_allocate (h : Kept s) (outside : Bool) :
    Kept { s with mem := (s.mem.allocate (some (.new outside))).2 } := by
  obtain ⟨heffect, -⟩ := effect_allocate h.bounded (some (Proxy.new outside))
  exact ⟨heffect.bad.trans h.bad, heffect.bounded, h.valid,
    h.placed.frame fun a ha => heffect.frame a ha nofun⟩

/-- A new proxy, the present one or none is about to be set. -/
theorem kept_beginSet (h : Kept s) (hidle : s.engine = .idle)
    {ulp : Option Nat} (hulp : ∀ a ∈ ulp,
      a = s.mUlp ∨ s.mem.heap a = some (.new true)) :
    Kept (s.beginSet ulp) := by
  have hstands : Stands (wanted s.requests) s.mem s.mUlp := by
    have hplaced := h.placed
    rwa [hidle] at hplaced
  cases ulp with
  | none =>
      obtain ⟨hbad, hbounded, hvalid, -⟩ := kept_allocate h false
      obtain ⟨heffect, -⟩ := effect_allocate h.bounded
        (some (Proxy.new false))
      refine ⟨hbad, hbounded, hvalid, ?_, ?_, .new false, ?_, holds_new false⟩
      · exact Nat.ne_of_gt (h.bounded _ hstands.live)
      · exact hstands.congr (heffect.frame _ hstands.live nofun)
      · exact Function.update_self _ _ _
  | some a =>
      rw [Adapter.beginSet]
      split
      · exact h
      · next hne =>
          have hnew := (hulp a rfl).resolve_left hne
          exact ⟨h.bad, h.bounded, h.valid, hne, hstands, .new true, hnew,
            holds_new true⟩

/-- The engine takes a message that comes in time. -/
theorem kept_proc (h : Kept s) (ht : Timely s .proc)
    (hs : s.proc = some s') : Kept s' := by
  rw [Adapter.proc] at hs
  split at hs
  · next internal r queue hidle _ =>
      obtain rfl := Option.some.inj hs
      exact ⟨h.bad, h.bounded, h.valid, h.placed⟩
  · next ulp queue hidle hqueue =>
      obtain rfl := Option.some.inj hs
      have hpopped : Kept { s with queue := queue } :=
        ⟨h.bad, h.bounded, h.valid, h.placed⟩
      refine kept_beginSet hpopped hidle ?_
      rintro a rfl
      exact ht (.setUlpProxy (some a)) (by rw [hqueue]; rfl)
  · cases hs

/-- **A STEP OF THE REPLACEMENT**. -/
theorem kept_setUlpProxy (houtside : remember.AsBase) (h : Kept s)
    (hs : s.setUlpProxy remember = some s') : Kept s' := by
  have hplaced := h.placed
  rw [Adapter.setUlpProxy] at hs
  split at hs
  · cases hs
  · next ulp hengine =>
      obtain rfl := Option.some.inj hs
      rw [hengine] at hplaced
      obtain ⟨hne, hold, hnew⟩ := hplaced
      have ⟨p, hp, hholds⟩ := hold
      obtain ⟨heffect, hmode⟩ := hand_effect houtside h.bounded hp
        (leads_mode hholds) hnew
      refine ⟨heffect.bad.trans h.bad, heffect.bounded, h.valid, hne,
        hold.congr (heffect.frame _ hold.live ?_), hmode⟩
      exact fun h => hne (Option.some.inj h)
  · next ulp hengine =>
      obtain rfl := Option.some.inj hs
      rw [hengine] at hplaced
      obtain ⟨hne, hold, hnew⟩ := hplaced
      have ⟨p, hp, hholds⟩ := hold
      obtain ⟨heffect, hstart⟩ := hand_effect houtside h.bounded hp
        (leads_start hholds) hnew
      have hkept := hold.congr
        (heffect.frame _ hold.live fun h => hne (Option.some.inj h))
      exact ⟨heffect.bad.trans h.bad, heffect.bounded, h.valid, hne,
        hkept.live, hstart⟩
  · next ulp hengine =>
      obtain rfl := Option.some.inj hs
      rw [hengine] at hplaced
      obtain ⟨hne, hold, hnew⟩ := hplaced
      obtain ⟨heffect, -⟩ := effect_free h.bounded hold
      refine ⟨heffect.bad.trans h.bad, heffect.bounded, h.valid,
        hnew.congr (heffect.frame _ hnew.live ?_)⟩
      exact fun h => hne (Option.some.inj h).symm
  · next ulp hengine =>
      obtain rfl := Option.some.inj hs
      rw [hengine] at hplaced
      exact ⟨h.bad, h.bounded, h.valid, hplaced⟩

/-- Every timely step keeps the proxy and what it was told. -/
theorem kept_step (houtside : remember.AsBase) {standaloneOnly : Bool}
    {a : Step} (h : Kept s) (ha : Timely s a)
    (hs : step remember standaloneOnly s a = some s') : Kept s' := by
  cases a with
  | loc_eng_set_position_mode params =>
      refine kept_get h ?_ hs
      show (allowedMode standaloneOnly params).mode ≠ _
      rw [allowedMode]
      split
      · exact fun h => by cases h
      · exact ha
  | loc_eng_start => exact kept_get (r := .sendStartFix) h trivial hs
  | loc_eng_stop => exact kept_get (r := .sendStopFix) h trivial hs
  | call taken => exact kept_call houtside h ha hs
  | sendMsg =>
      simp only [step] at hs
      split at hs
      · obtain rfl := Option.some.inj hs
        exact ⟨h.bad, h.bounded, fun _ _ h => (by cases h), h.placed⟩
      · cases hs
  | internal r | requestUlp ulp =>
      obtain rfl := Option.some.inj hs
      exact ⟨h.bad, h.bounded, h.valid, h.placed⟩
  | makeProxy =>
      obtain rfl := Option.some.inj hs
      exact kept_allocate h true
  | proc => exact kept_proc h ha hs
  | setUlpProxy => exact kept_setUlpProxy houtside h hs

/-- **THE HANDOVER**: in every interleaving the engine gets what no proxy took,
    each once and in its order.  If the proxies remember what they are asked
    and every call comes in time, then no proxy is used that was deleted, and
    whenever none is being replaced, the present one was told of the mode and
    the session last asked for and remembers them. -/
theorem ulp_handover (remember : Remember) (standaloneOnly : Bool)
    (s : Adapter) :
    (Reach (adapter remember standaloneOnly) s →
      (s.done ++ s.queue).filterMap Msg.asked ++ s.caller.pending = s.left
        ∧ s.left.Sublist s.requests)
      ∧ (remember.AsBase →
        ReachUnder (adapter remember standaloneOnly) Timely s →
        s.mem.bad = false
          ∧ (s.engine = .idle → ∃ p, s.mem.heap s.mUlp = some p
            ∧ wanted p.told = wanted s.requests
            ∧ p.mFixSet = (wanted s.requests).session
            ∧ ∀ m ∈ (wanted s.requests).mode, p.mPosMode = m)) := by
  constructor
  · intro h
    have hdelivered : Delivered s := by
      refine reachUnder_inv (I := Delivered) (fun t ht => ?_)
        (fun t a t' ht _ hs => delivered_step ht hs) h
      obtain rfl : t = created := ht
      exact delivered_created
    exact ⟨hdelivered.left, hdelivered.asked⟩
  · intro houtside h
    have hkept : Kept s := by
      refine reachUnder_inv (I := Kept) (fun t ht => ?_)
        (fun t a t' ht ha hs => kept_step houtside ht ha hs) h
      obtain rfl : t = created := ht
      exact kept_created
    refine ⟨hkept.bad, fun hidle => ?_⟩
    have hplaced := hkept.placed
    rw [hidle] at hplaced
    obtain ⟨p, hp, hholds⟩ := hplaced
    exact ⟨p, hp, hholds.told, hholds.remembers.session,
      fun m hm => (hholds.remembers.mode m hm).1⟩

/-- A session is started while a proxy is being replaced, and stopped by the
    new one. -/
def someSteps : List Step :=
  [.makeProxy, .requestUlp (some 1), .loc_eng_start, .proc, .setUlpProxy,
    .call true, .setUlpProxy, .sendMsg, .setUlpProxy, .setUlpProxy, .proc,
    .loc_eng_stop, .call true]

/-- An adapter behind these steps. -/
def someAdapter : Adapter :=
  (exec (adapter UlpProxyBase.send false) created someSteps).getD created

theorem ulp_handover_someAdapter :
    ((someAdapter.done ++ someAdapter.queue).filterMap Msg.asked
        ++ someAdapter.caller.pending = [.sendStartFix])
      ∧ someAdapter.mem.bad = false
      ∧ ∃ p, someAdapter.mem.heap 1 = some p
        ∧ wanted p.told = wanted [.sendStartFix, .sendStopFix]
        ∧ p.mFixSet = false := by
  have hsome : exec (adapter UlpProxyBase.send false) created someSteps
      = some someAdapter := rfl
  obtain ⟨hleft, htimely⟩ := ulp_handover UlpProxyBase.send false someAdapter
  obtain ⟨hbad, hidle⟩ := htimely (fun _ _ => rfl)
    (reachUnder_exec someSteps (.init rfl) (by decide) hsome)
  obtain ⟨p, hp, htold, hstart, -⟩ := hidle rfl
  exact ⟨(hleft (reach_exec someSteps (.init rfl) hsome)).1, hbad, p, hp, htold,
    hstart⟩

/-- A session that is started behind the look at `mFixSet` is lost to the new
    proxy. -/
example : ((exec (adapter UlpProxyBase.send false) created
    [.makeProxy, .requestUlp (some 1), .loc_eng_start, .proc, .setUlpProxy,
      .setUlpProxy, .call true, .setUlpProxy, .setUlpProxy]).map fun s =>
        (s.mem.bad, s.requests, (s.mem.heap s.mUlp).map (·.told)))
      = some (false, [.sendStartFix], some []) := rfl

end QcomUlp
