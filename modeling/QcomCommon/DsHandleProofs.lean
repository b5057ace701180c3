import QcomCommon.DsRetryProofs

/-! # Finished handles of the DS machine

    A handle is finished once its close is reported or it is handed over to
    ATL, and stays so until the modem subscribes it again.  Nothing should be
    opened, handed over or requested for it then, and it should not keep the
    data call up.

    The machine takes the entry out of its way on some of these paths only.
    A start that falls back and a close in Released leave the entry active, a
    retry may bring back a handle that closed meanwhile, and a denial is told
    to entries that closed already.  Away from these the law holds in every
    reachable state (`finished_handles_rest`). -/

namespace QcomAgps

open QcomTransition QcomLease AgpsStateMachine

/-! ## What is done for a handle -/

/-- The handle a call finishes. -/
def finishes : Call → List UInt32
  | .atlCloseStatus handle true => [handle]
  | .requestATL connHandle .AGPS_TYPE_SUPL => [connHandle]
  | _ => []

/-- The handle a call opens, hands over or requests. -/
def acts : Call → List UInt32
  | .atlOpenStatus handle _ _ _ _ => [handle]
  | .requestATL connHandle _ => [connHandle]
  | .requestSuplES connHandle => [connHandle]
  | _ => []

/-- The finished handles; those a call was made for while they were, and
    those that counted as active when a release was decided. -/
structure FinishLog where
  finished : List UInt32
  acted : List UInt32
  counted : List UInt32
deriving DecidableEq, Repr

/-- The log behind a call. -/
def noteCall (g : FinishLog) (c : Call) : FinishLog where
  finished := g.finished ++ finishes c
  acted := g.acted ++ (acts c).filter (fun h => h ∈ g.finished)
  counted := g.counted

/-- The calls act for no handle of `F` and for none that a call before
    finished. -/
def Calm : List UInt32 → List Call → Prop
  | _, [] => True
  | F, c :: cs => (∀ h ∈ acts c, h ∉ F) ∧ Calm (F ++ finishes c) cs

theorem calm_append (F : List UInt32) (cs ds : List Call) :
    Calm F (cs ++ ds) ↔ Calm F cs ∧ Calm (F ++ cs.flatMap finishes) ds := by
  induction cs generalizing F with
  | nil => simp [Calm]
  | cons c cs ih =>
      rw [List.cons_append, Calm, Calm, ih, List.flatMap_cons,
        List.append_assoc, and_assoc]

theorem noteCalls_finished (g : FinishLog) (cs : List Call) :
    (cs.foldl noteCall g).finished = g.finished ++ cs.flatMap finishes := by
  induction cs generalizing g with
  | nil => simp
  | cons c cs ih =>
      rw [List.foldl_cons, ih, List.flatMap_cons, ← List.append_assoc]
      rfl

theorem noteCalls_counted (g : FinishLog) (cs : List Call) :
    (cs.foldl noteCall g).counted = g.counted := by
  induction cs generalizing g with
  | nil => rfl
  | cons c cs ih => exact ih (noteCall g c)

theorem noteCalls_acted {g : FinishLog} {cs : List Call}
    (h : Calm g.finished cs) : (cs.foldl noteCall g).acted = g.acted := by
  induction cs generalizing g with
  | nil => rfl
  | cons c cs ih =>
      obtain ⟨hc, hcs⟩ := h
      have hnone : (acts c).filter (fun h => h ∈ g.finished) = [] := by
        rw [List.filter_eq_nil_iff]
        intro h hh
        simpa using hc h hh
      have hcalm : Calm (noteCall g c).finished cs := hcs
      rw [List.foldl_cons, ih hcalm, noteCall, hnone, List.append_nil]

/-- The calls do nothing for a handle. -/
def Quiet (cs : List Call) : Prop := ∀ c ∈ cs, acts c = [] ∧ finishes c = []

/-- Calls that finish nobody, for handles that are not finished. -/
theorem calm_of {F : List UInt32} {cs : List Call}
    (h : ∀ c ∈ cs, finishes c = [] ∧ ∀ ID ∈ acts c, ID ∉ F) : Calm F cs := by
  induction cs with
  | nil => trivial
  | cons c cs ih =>
      obtain ⟨hfin, hacts⟩ := h c List.mem_cons_self
      refine ⟨hacts, ?_⟩
      rw [hfin, List.append_nil]
      exact ih (fun d hd => h d (List.mem_cons_of_mem c hd))

theorem Quiet.calm {cs : List Call} (h : Quiet cs) (F : List UInt32) :
    Calm F cs := by
  refine calm_of (fun c hc => ⟨(h c hc).2, ?_⟩)
  rw [(h c hc).1]
  exact fun _ hh => by cases hh

theorem Quiet.finishes {cs : List Call} (h : Quiet cs) :
    cs.flatMap finishes = [] := by
  rw [List.flatMap_eq_nil_iff]
  exact fun c hc => (h c hc).2

/-! ## What a DS subscriber is told -/

/-- Subscribers of the DS machine. -/
def OfDs (s : Subscriber) : Prop := ∃ ID b, s = .DSSubscriber ID b

/-- The call a word is. -/
def dsWord (w : Subscriber × Word) : Call :=
  match w.2 with
  | .granted => .atlOpenStatus w.1.ID true none .AGPS_APN_BEARER_INVALID
      .AGPS_TYPE_INVALID
  | .ended => .closeDataCall
  | .refused => .requestATL w.1.ID .AGPS_TYPE_SUPL
  | .left => .atlCloseStatus w.1.ID true

theorem wordCalls_ds (m : AgpsStateMachine) {ws : List (Subscriber × Word)}
    (h : ∀ w ∈ ws, OfDs w.1) : wordCalls m ws = ws.map dsWord := by
  induction ws with
  | nil => rfl
  | cons w ws ih =>
      have hw : statusCalls m (wordStatus w.2) w.1 = [dsWord w] := by
        obtain ⟨s, word⟩ := w
        obtain ⟨ID, b, rfl⟩ := h _ List.mem_cons_self
        cases word <;> rfl
      rw [wordCalls, List.flatMap_cons, hw, List.map_cons]
      exact congrArg (List.cons _)
        (ih (fun v hv => h v (List.mem_cons_of_mem w hv)))

/-- DS subscribers that are all told the same word. -/
theorem wordCalls_told (m : AgpsStateMachine) {l : List Subscriber}
    (h : ∀ t ∈ l, OfDs t) (word : Word) :
    wordCalls m (l.map (fun s => (s, word)))
      = (l.map (fun s => (s, word))).map dsWord := by
  apply wordCalls_ds
  intro w hw
  obtain ⟨t, ht, rfl⟩ := List.mem_map.mp hw
  exact h t ht

/-- Granting those who are not finished. -/
theorem calm_granted {F : List UInt32} {l : List Subscriber}
    (h : ∀ s ∈ l, s.ID ∉ F) :
    Calm F ((l.map (fun s => (s, Word.granted))).map dsWord) := by
  refine calm_of (fun c hc => ?_)
  simp only [List.map_map, List.mem_map] at hc
  obtain ⟨s, hs, rfl⟩ := hc
  refine ⟨rfl, ?_⟩
  intro ID hID
  rw [List.mem_singleton.mp hID]
  exact h s hs

/-- Denying those who are not finished hands each over once. -/
theorem calm_refused {F : List UInt32} {l : List Subscriber}
    (h : ∀ s ∈ l, s.ID ∉ F) (hl : l.Pairwise (fun s t => s.ID ≠ t.ID)) :
    Calm F ((l.map (fun s => (s, Word.refused))).map dsWord) := by
  induction l generalizing F with
  | nil => trivial
  | cons s l ih =>
      obtain ⟨hs, hl⟩ := List.pairwise_cons.mp hl
      refine ⟨?_, ih ?_ hl⟩
      · intro ID hID
        rw [List.mem_singleton.mp hID]
        exact h s List.mem_cons_self
      · intro t ht hmem
        rcases List.mem_append.mp hmem with hF | hF
        · exact h t (List.mem_cons_of_mem s ht) hF
        · exact hs t ht (List.mem_singleton.mp hF).symm

theorem finishes_granted (l : List Subscriber) :
    ((l.map (fun s => (s, Word.granted))).map dsWord).flatMap finishes = [] := by
  rw [List.flatMap_eq_nil_iff]
  intro c hc
  simp only [List.map_map, List.mem_map] at hc
  obtain ⟨s, -, rfl⟩ := hc
  rfl

theorem mem_finishes_refused {l : List Subscriber} {ID : UInt32}
    (h : ID ∈ ((l.map (fun s => (s, Word.refused))).map dsWord).flatMap
      finishes) : ∃ s ∈ l, ID = s.ID := by
  obtain ⟨c, hc, hID⟩ := List.mem_flatMap.mp h
  simp only [List.map_map, List.mem_map] at hc
  obtain ⟨s, hs, rfl⟩ := hc
  exact ⟨s, hs, List.mem_singleton.mp hID⟩

theorem quiet_ended (l : List Subscriber) :
    Quiet ((l.map (fun s => (s, Word.ended))).map dsWord) := by
  intro c hc
  simp only [List.map_map, List.mem_map] at hc
  obtain ⟨s, -, rfl⟩ := hc
  exact ⟨rfl, rfl⟩

/-! ## The log of a run -/

/-- The handle an action unsubscribes. -/
def unsubscribed : DsAction → Option UInt32
  | .unsubscribeRsrc ID => some ID
  | _ => none

/-- The handle a retry brings back. -/
def broughtBack (r : DsRun) : DsAction → Option UInt32
  | .resubscribe => r.requested.head?
  | _ => none

/-- The modem subscribes a handle again: it is finished no longer. -/
def reopen (finished : List UInt32) : DsAction → List UInt32
  | .subscribeRsrc ID => finished.filter (fun h => h ≠ ID)
  | _ => finished

section Ds

variable [SubscriberEquals]

/-- The action is an unsubscription that decides whether the data call is
    released. -/
def decides (r : DsRun) (a : DsAction) : Bool :=
  match unsubscribed a with
  | none => false
  | some ID =>
      (r.sm.mStatePtr == .Pending || r.sm.mStatePtr == .Acquired) &&
        (r.sm.findSubscriber
          ⟨.rcver (.DSSubscriber ID false), .RSRC_STATUS_MAX, false⟩).isSome

/-- The calls of a step are noted one after the other, and then who counted
    as active. -/
def noteFinish (g : FinishLog) (r : DsRun) (a : DsAction × Outside)
    (r' : DsRun) : FinishLog :=
  let g' := (newCalls r.sm r'.sm).foldl noteCall
    { g with finished := reopen g.finished a.1 }
  { g' with
    counted := g'.counted ++
      if decides r a.1 then
        (r'.sm.mSubscribers.filter (fun s =>
          !s.isInactive && decide (s.ID ∈ g'.finished))).map Subscriber.ID
      else [] }

/-- The DS machine with its finished handles. -/
def finishSys : TransSys (DsRun × FinishLog) (DsAction × Outside) :=
  watched dsSys ⟨[], [], []⟩ noteFinish

end Ds

/-- Nothing was done for a finished handle, and none counted as active. -/
def AtRest (p : DsRun × FinishLog) : Prop :=
  p.2.acted = [] ∧ p.2.counted = []

/-! ## The steps that leave no finished handle behind -/

/-- The action starts the data call. -/
def startsCall (m : AgpsStateMachine) (a : DsAction) : Bool :=
  match a with
  | .subscribeRsrc _ => m.mStatePtr == .Released
  | .resubscribe => m.mStatePtr == .Released
  | a => terminal a && m.mStatePtr == .Releasing &&
      m.mSubscribers.any (fun s => !s.isInactive)

/-- The retry counter the start finds: a denial told before it has set it to
    zero. -/
def startRetries (m : AgpsStateMachine) (a : DsAction) : UInt8 :=
  if a = .onRsrcEvent .RSRC_DENIED ∧ m.mSubscribers.any Subscriber.isInactive
  then 0 else m.mRetries

/-- The action denies the entries that wait for the release. -/
def deniesWaiting (m : AgpsStateMachine) (a : DsAction) : Bool :=
  (terminal a && m.mStatePtr == .Pending) ||
    (a == .onRsrcEvent .RSRC_DENIED && m.mStatePtr == .Releasing)

/-- No start falls back, no entry is closed in Released, no retry brings back
    a handle that finished, and no denial is told to one. -/
structure NoLeftover (p : DsRun × FinishLog) (a : DsAction × Outside) :
    Prop where
  starts : startsCall p.1.sm a.1 = true →
    fallsBack a.2.openResult (startRetries p.1.sm a.1) = false
  closes : ∀ ID ∈ unsubscribed a.1, p.1.sm.mStatePtr = .Released →
    ∀ s ∈ p.1.sm.mSubscribers, s.ID ≠ ID
  retries : ∀ ID ∈ broughtBack p.1 a.1, ID ∈ p.2.finished →
    (p.1.sm.mStatePtr = .Pending ∨ p.1.sm.mStatePtr = .Releasing) ∧
      ∃ s ∈ p.1.sm.mSubscribers, s.ID = ID
  denials : deniesWaiting p.1.sm a.1 = true →
    ∀ s ∈ p.1.sm.mSubscribers, s.isInactive = true → s.ID ∉ p.2.finished

instance (p : DsRun × FinishLog) (a : DsAction × Outside) :
    Decidable (NoLeftover p a) :=
  -- over the one handle there may be, not over all of them
  have _ : Decidable (∀ ID ∈ unsubscribed a.1,
      p.1.sm.mStatePtr = .Released →
        ∀ s ∈ p.1.sm.mSubscribers, s.ID ≠ ID) :=
    Option.decidableForallMem _
  have _ : Decidable (∀ ID ∈ broughtBack p.1 a.1, ID ∈ p.2.finished →
      (p.1.sm.mStatePtr = .Pending ∨ p.1.sm.mStatePtr = .Releasing) ∧
        ∃ s ∈ p.1.sm.mSubscribers, s.ID = ID) :=
    Option.decidableForallMem _
  decidable_of_iff
    ((startsCall p.1.sm a.1 = true →
      fallsBack a.2.openResult (startRetries p.1.sm a.1) = false) ∧
    (∀ ID ∈ unsubscribed a.1, p.1.sm.mStatePtr = .Released →
      ∀ s ∈ p.1.sm.mSubscribers, s.ID ≠ ID) ∧
    (∀ ID ∈ broughtBack p.1 a.1, ID ∈ p.2.finished →
      (p.1.sm.mStatePtr = .Pending ∨ p.1.sm.mStatePtr = .Releasing) ∧
        ∃ s ∈ p.1.sm.mSubscribers, s.ID = ID) ∧
    (deniesWaiting p.1.sm a.1 = true →
      ∀ s ∈ p.1.sm.mSubscribers, s.isInactive = true →
        s.ID ∉ p.2.finished))
    ⟨fun h => ⟨h.1, h.2.1, h.2.2.1, h.2.2.2⟩,
      fun h => ⟨h.starts, h.closes, h.retries, h.denials⟩⟩

/-! ## One call -/

/-- What a machine that knows the finished handles `F` keeps to: its calls
    are calm, and its active entries are not finished. -/
structure Kept (F : List UInt32) (m m' : AgpsStateMachine) : Prop where
  calm : Calm F (newCalls m m')
  active : ∀ s ∈ m'.mSubscribers, s.isInactive = false →
    s.ID ∉ F ++ (newCalls m m').flatMap finishes

/-- The calls are words to DS subscribers and then nothing that matters. -/
theorem kept_of_words {F : List UInt32} {m m' : AgpsStateMachine}
    {ws : List (Subscriber × Word)} {cs : List Call}
    (hcalls : newCalls m m' = ws.map dsWord ++ cs) (hcs : Quiet cs)
    (hcalm : Calm F (ws.map dsWord))
    (hactive : ∀ s ∈ m'.mSubscribers, s.isInactive = false →
      s.ID ∉ F ∧ s.ID ∉ (ws.map dsWord).flatMap finishes) :
    Kept F m m' := by
  refine ⟨?_, ?_⟩
  · rw [hcalls, calm_append]
    exact ⟨hcalm, hcs.calm _⟩
  · intro s hs hact
    obtain ⟨hF, hws⟩ := hactive s hs hact
    rw [hcalls, List.flatMap_append, hcs.finishes, List.append_nil]
    exact fun h => (List.mem_append.mp h).elim hF hws

/-- Calls that do nothing for a handle. -/
theorem kept_quiet {F : List UInt32} {m m' : AgpsStateMachine}
    (hcalls : Quiet (newCalls m m'))
    (hactive : ∀ s ∈ m'.mSubscribers, s.isInactive = false → s.ID ∉ F) :
    Kept F m m' := by
  refine ⟨hcalls.calm F, ?_⟩
  intro s hs hact
  rw [hcalls.finishes, List.append_nil]
  exact hactive s hs hact

section Ds

variable [SubscriberEquals]

/-- A request that does not fall back does nothing for a handle. -/
theorem quiet_sent (o : Outside) {m : AgpsStateMachine} {ask : Option Ask}
    (h : ask = some .request → fallsBack o.openResult m.mRetries = false) :
    ∃ cs, Quiet cs ∧
      (sent (dsSendRsrcRequest o.openResult o.timer) ask m).calls
        = m.calls ++ cs := by
  have hquiet : ∀ {c : Call}, c = .loc_timer_start DATA_CALL_RETRY_DELAY_MSEC ∨
      (∃ action, c = .dataCall action) → acts c = [] ∧ finishes c = [] := by
    rintro c (rfl | ⟨action, rfl⟩) <;> exact ⟨rfl, rfl⟩
  cases ask with
  | none => exact ⟨[], (fun c hc => by cases hc), (List.append_nil _).symm⟩
  | some ask =>
      cases ask with
      | giveBack =>
          refine ⟨[.dataCall .GPS_RELEASE_AGPS_DATA_CONN], ?_, rfl⟩
          intro c hc
          exact hquiet (Or.inr ⟨_, List.mem_singleton.mp hc⟩)
      | request =>
          rw [sent, dsStart_kept (h rfl)]
          split
          · refine ⟨_, ?_, rfl⟩
            intro c hc
            rcases List.mem_cons.mp hc with hc | hc
            · exact hquiet (Or.inr ⟨_, hc⟩)
            · exact hquiet (Or.inl (List.mem_singleton.mp hc))
          · refine ⟨[.dataCall .GPS_REQUEST_AGPS_DATA_CONN], ?_, rfl⟩
            intro c hc
            exact hquiet (Or.inr ⟨_, List.mem_singleton.mp hc⟩)

/-- A start that does not fall back, after what was told before it. -/
def StartKept (o : Outside) (m : AgpsStateMachine) (e : RsrcEvent) : Prop :=
  (step agpsClients (o.openResult == LOC_API_ADAPTER_ERR_SUCCESS) (lease m)
      (leaseEvent e)).2 = some .request →
    fallsBack o.openResult
      (if (wordCalls m (told agpsClients (lease m) (leaseEvent e))).any
        fallback then 0 else m.mRetries) = false

/-- One event: the words, and then calls that do nothing for a handle. -/
theorem dsEvent_calls {o : Outside} {m : AgpsStateMachine} {e : RsrcEvent}
    (h : StartKept o m e) :
    ∃ cs, Quiet cs ∧
      newCalls m (m.stateEvent (dsSendRsrcRequest o.openResult o.timer) e)
        = wordCalls m (told agpsClients (lease m) (leaseEvent e)) ++ cs := by
  obtain ⟨cs, hcs, hcalls⟩ := quiet_sent o (m := m.withCalls
    (step agpsClients (o.openResult == LOC_API_ADAPTER_ERR_SUCCESS) (lease m)
      (leaseEvent e)).1.clients
    (wordCalls m (told agpsClients (lease m) (leaseEvent e)))) h
  refine ⟨cs, hcs, ?_⟩
  rw [newCalls, stateEvent_eq, lease_dsEvent]
  show List.drop _ (sent _ _ _).calls = _
  rw [hcalls, withCalls]
  show List.drop _ (m.calls ++ _ ++ cs) = _
  rw [List.append_assoc, List.drop_left]

theorem dsEvent_list (o : Outside) (m : AgpsStateMachine) (e : RsrcEvent) :
    (m.stateEvent (dsSendRsrcRequest o.openResult o.timer) e).mSubscribers
      = (step agpsClients (o.openResult == LOC_API_ADAPTER_ERR_SUCCESS)
        (lease m) (leaseEvent e)).1.clients := by
  obtain ⟨cs, -, hlease, -, -⟩ := dsEvent_spec o m e
  exact congrArg Lease.clients hlease

section Kept

variable {o : Outside} {m : AgpsStateMachine} {F : List UInt32}

/-- A subscription of a handle that is not finished, or that is in the list
    of a request or a release under way. -/
theorem kept_subscribe {s : Subscriber} (hs : OfDs s)
    (hids : ∀ t, OfDs t → SubscriberEquals.equals t s = (t.ID == s.ID))
    (hall : ∀ t ∈ m.mSubscribers, OfDs t)
    (hactive : ∀ t ∈ m.mSubscribers, t.isInactive = false → t.ID ∉ F)
    (hstart : StartKept o m (.subscribe s))
    (hjoin : s.ID ∉ F ∨ (m.mStatePtr = .Pending ∨ m.mStatePtr = .Releasing) ∧
      ∃ t ∈ m.mSubscribers, t.ID = s.ID) :
    Kept F m (m.stateEvent (dsSendRsrcRequest o.openResult o.timer)
      (.subscribe s)) := by
  obtain ⟨cs, hcs, hcalls⟩ := dsEvent_calls hstart
  have hlist := dsEvent_list o m (.subscribe s)
  rw [show leaseEvent (.subscribe s) = .join s from rfl] at hcalls hlist
  rw [join_clients] at hlist
  rcases hjoin with hF | ⟨hstate, t, ht, hID⟩
  · -- told at most that it is granted
    have htold : ∃ l : List Subscriber, told agpsClients (lease m) (.join s)
        = l.map (fun s => (s, Word.granted)) ∧ ∀ t ∈ l, t = s := by
      cases hp : m.mStatePtr with
      | Released =>
          rw [lease, hp]
          exact ⟨[], rfl, fun t ht => by cases ht⟩
      | Pending =>
          rw [lease, hp]
          exact ⟨[], rfl, fun t ht => by cases ht⟩
      | Releasing =>
          rw [lease, hp]
          exact ⟨[], rfl, fun t ht => by cases ht⟩
      | Acquired =>
          rw [lease, hp]
          show ∃ l : List Subscriber, hear agpsClients s .granted = _ ∧ _
          rw [hear]
          split
          · exact ⟨[s], rfl, fun t ht => List.mem_singleton.mp ht⟩
          · exact ⟨[], rfl, fun t ht => by cases ht⟩
    obtain ⟨l, hl, hls⟩ := htold
    rw [hl, wordCalls_told m (fun t ht => hls t ht ▸ hs)] at hcalls
    refine kept_of_words hcalls hcs (calm_granted ?_) ?_
    · intro t ht
      rw [hls t ht]
      exact hF
    · intro t ht hact
      rw [finishes_granted]
      refine ⟨?_, List.not_mem_nil⟩
      rw [hlist] at ht
      rcases mem_add ht with rfl | hmem
      · have hclone : (agpsClients.enter s).ID = s.ID := by
          obtain ⟨ID, b, rfl⟩ := hs
          rfl
        rw [hclone]
        exact hF
      · exact hactive t hmem hact
  · -- found in the list, so nothing changes
    have htold : told agpsClients (lease m) (.join s) = [] := by
      rw [lease]
      rcases hstate with hstate | hstate <;> rw [hstate] <;> rfl
    have hsame : agpsClients.same t s = true := by
      show SubscriberEquals.equals t s = true
      rw [hids t (hall t ht), hID, beq_self_eq_true]
    rw [htold] at hcalls
    rw [show (lease m).clients = m.mSubscribers from rfl,
      add_of_same ht hsame] at hlist
    refine kept_quiet (hcalls ▸ hcs) ?_
    intro x hx hact
    rw [hlist] at hx
    exact hactive x hx hact

/-- Two entries that are told apart have different handles. -/
theorem ID_ne (hids : ∀ s t, OfDs s → OfDs t →
      SubscriberEquals.equals s t = (s.ID == t.ID)) {x y : Subscriber}
    (hx : OfDs x) (hy : OfDs y) (h : agpsClients.same x y = false) :
    x.ID ≠ y.ID := by
  intro hID
  change SubscriberEquals.equals x y = false at h
  rw [hids x y hx hy, hID, beq_self_eq_true] at h
  cases h

/-- An unsubscription outside Released: the entry is inactive from then
    on. -/
theorem kept_unsubscribe {e : Subscriber} (hK : Lawful agpsClients OfDs)
    (hids : ∀ s t, OfDs s → OfDs t →
      SubscriberEquals.equals s t = (s.ID == t.ID))
    (hentries : Entries agpsClients OfDs m.mSubscribers)
    (hactive : ∀ t ∈ m.mSubscribers, t.isInactive = false → t.ID ∉ F)
    (hstart : StartKept o m (.unsubscribe e)) (he : e ∈ m.mSubscribers)
    (hstate : m.mStatePtr ≠ .Released) :
    Kept F m (m.stateEvent (dsSendRsrcRequest o.openResult o.timer)
      (.unsubscribe e)) := by
  obtain ⟨cs, hcs, hcalls⟩ := dsEvent_calls hstart
  have hlist := dsEvent_list o m (.unsubscribe e)
  have hds := hentries.all e he
  have hwaits : agpsClients.lingers e = true := by
    obtain ⟨ID, b, rfl⟩ := hds
    rfl
  have htold : told agpsClients (lease m) (.leave e) = [(e, .left)] := by
    have hbye : farewell agpsClients e m.mSubscribers = [(e, .left)] :=
      if_pos hwaits
    rw [← hbye, lease]
    cases hp : m.mStatePtr with
    | Released => exact absurd hp hstate
    | Pending => rfl
    | Acquired => rfl
    | Releasing => rfl
  have hstruck : (m.stateEvent (dsSendRsrcRequest o.openResult o.timer)
      (.unsubscribe e)).mSubscribers = strike agpsClients e m.mSubscribers := by
    rw [hlist, lease]
    cases hp : m.mStatePtr with
    | Released => exact absurd hp hstate
    | Pending => exact settle_clients _ _
    | Acquired => exact settle_clients _ _
    | Releasing => rfl
  have hafter := entries_strike hK hentries he
  rw [show leaseEvent (.unsubscribe e) = .leave e from rfl, htold,
    wordCalls_ds m (by
      intro w hw
      rw [List.mem_singleton.mp hw]
      exact hds)] at hcalls
  refine kept_of_words hcalls hcs ⟨(fun h hh => by cases hh), trivial⟩ ?_
  intro x hx hact
  rw [hstruck] at hx
  -- the entry itself is in the list, and inactive
  have hin : agpsClients.retire e ∈ strike agpsClients e m.mSubscribers := by
    rw [strike, if_pos hwaits]
    exact mem_replace_self he
  have hne : x ≠ agpsClients.retire e := by
    rintro rfl
    have hretired : (!(agpsClients.retire e).isInactive) = false :=
      agpsClients.active_retire e hwaits
    rw [hact] at hretired
    cases hretired
  have hold : x ∈ m.mSubscribers := by
    rw [strike, if_pos hwaits] at hx
    exact (mem_replace hx).resolve_left hne
  refine ⟨hactive x hold hact, ?_⟩
  intro hfin
  have hID : x.ID = e.ID := List.mem_singleton.mp hfin
  have hretire : (agpsClients.retire e).ID = e.ID := by
    obtain ⟨ID, b, rfl⟩ := hds
    rfl
  exact ID_ne hids (hafter.all x hx) (hafter.all _ hin)
    (hafter.same_false hK hx hin hne) (hID.trans hretire.symm)

/-- A grant tells the active entries. -/
theorem kept_granted (hall : ∀ t ∈ m.mSubscribers, OfDs t)
    (hactive : ∀ t ∈ m.mSubscribers, t.isInactive = false → t.ID ∉ F)
    (hstart : StartKept o m .granted) :
    Kept F m (m.stateEvent (dsSendRsrcRequest o.openResult o.timer)
      .granted) := by
  obtain ⟨cs, hcs, hcalls⟩ := dsEvent_calls hstart
  have hlist := dsEvent_list o m .granted
  rw [show leaseEvent .granted = .granted from rfl] at hcalls hlist
  have hsame : (m.stateEvent (dsSendRsrcRequest o.openResult o.timer)
      .granted).mSubscribers = m.mSubscribers := by
    rw [hlist, lease]
    cases m.mStatePtr <;> rfl
  have htold : ∃ l : List Subscriber, told agpsClients (lease m) .granted
      = l.map (fun s => (s, Word.granted)) ∧
      ∀ t ∈ l, t ∈ m.mSubscribers ∧ t.isInactive = false := by
    have hnone : ∀ t ∈ ([] : List Subscriber),
        t ∈ m.mSubscribers ∧ t.isInactive = false := fun t ht => by cases ht
    rw [lease]
    cases hp : m.mStatePtr with
    | Released => exact ⟨[], rfl, hnone⟩
    | Acquired => exact ⟨[], rfl, hnone⟩
    | Releasing => exact ⟨[], rfl, hnone⟩
    | Pending =>
        refine ⟨m.mSubscribers.filter agpsClients.active, rfl, ?_⟩
        intro t ht
        obtain ⟨hmem, hact⟩ := List.mem_filter.mp ht
        exact ⟨hmem, by simpa [agpsClients] using hact⟩
  obtain ⟨l, hl, hls⟩ := htold
  rw [hl, wordCalls_told m (fun t ht => hall t (hls t ht).1)] at hcalls
  refine kept_of_words hcalls hcs (calm_granted ?_) ?_
  · intro t ht
    exact hactive t (hls t ht).1 (hls t ht).2
  · intro t ht hact
    rw [hsame] at ht
    rw [finishes_granted]
    exact ⟨hactive t ht hact, List.not_mem_nil⟩

/-- The list after a release or a denial: what is kept of it. -/
theorem dsEvent_sublist {e : RsrcEvent} (he : e = .released ∨ e = .denied) :
    ∀ t ∈ (m.stateEvent (dsSendRsrcRequest o.openResult o.timer)
      e).mSubscribers, t ∈ m.mSubscribers := by
  rw [dsEvent_list, lease]
  rcases he with rfl | rfl
  · cases m.mStatePtr with
    | Released => exact fun t ht => ht
    | Pending => exact fun t ht => ht
    | Acquired => exact fun t ht => by cases ht
    | Releasing =>
        show ∀ t ∈ (renew agpsClients m.mSubscribers).1.clients, _
        rw [renew_clients]
        exact fun t ht => List.mem_of_mem_filter ht
  · cases m.mStatePtr with
    | Released => exact fun t ht => ht
    | Acquired => exact fun t ht => ht
    | Pending => exact fun t ht => by cases ht
    | Releasing =>
        show ∀ t ∈ (renew agpsClients m.mSubscribers).1.clients, _
        rw [renew_clients]
        exact fun t ht => List.mem_of_mem_filter ht

/-- The end of a release closes the data call and finishes nobody. -/
theorem kept_released (hall : ∀ t ∈ m.mSubscribers, OfDs t)
    (hactive : ∀ t ∈ m.mSubscribers, t.isInactive = false → t.ID ∉ F)
    (hstart : StartKept o m .released) :
    Kept F m (m.stateEvent (dsSendRsrcRequest o.openResult o.timer)
      .released) := by
  obtain ⟨cs, hcs, hcalls⟩ := dsEvent_calls hstart
  have hsub := dsEvent_sublist (o := o) (m := m) (Or.inl rfl)
  rw [show leaseEvent .released = .ended from rfl] at hcalls
  have htold : ∃ l : List Subscriber, told agpsClients (lease m) .ended
      = l.map (fun s => (s, Word.ended)) ∧ ∀ t ∈ l, t ∈ m.mSubscribers := by
    rw [lease]
    cases m.mStatePtr with
    | Released => exact ⟨[], rfl, fun t ht => by cases ht⟩
    | Pending => exact ⟨[], rfl, fun t ht => by cases ht⟩
    | Acquired => exact ⟨m.mSubscribers, rfl, fun t ht => ht⟩
    | Releasing => exact ⟨_, rfl, fun t ht => List.mem_of_mem_filter ht⟩
  obtain ⟨l, hl, hls⟩ := htold
  rw [hl, wordCalls_told m (fun t ht => hall t (hls t ht))] at hcalls
  refine kept_quiet ?_ (fun t ht => hactive t (hsub t ht))
  rw [hcalls]
  intro c hc
  rcases List.mem_append.mp hc with hc | hc
  · exact quiet_ended l c hc
  · exact hcs c hc

/-- A denial hands over those it is told to, and they are in the list no
    longer. -/
theorem kept_denied (hK : Lawful agpsClients OfDs)
    (hids : ∀ s t, OfDs s → OfDs t →
      SubscriberEquals.equals s t = (s.ID == t.ID))
    (hentries : Entries agpsClients OfDs m.mSubscribers)
    (hactive : ∀ t ∈ m.mSubscribers, t.isInactive = false → t.ID ∉ F)
    (hdeny : m.mStatePtr = .Pending ∨ m.mStatePtr = .Releasing →
      ∀ t ∈ m.mSubscribers, t.isInactive = true → t.ID ∉ F)
    (hstart : StartKept o m .denied) :
    Kept F m (m.stateEvent (dsSendRsrcRequest o.openResult o.timer)
      .denied) := by
  obtain ⟨cs, hcs, hcalls⟩ := dsEvent_calls hstart
  have hlist := dsEvent_list o m .denied
  have hsub := dsEvent_sublist (o := o) (m := m) (Or.inr rfl)
  rw [show leaseEvent .denied = .refused from rfl] at hcalls hlist
  have hdistinct : m.mSubscribers.Pairwise (fun s t => s.ID ≠ t.ID) := by
    refine List.Pairwise.imp_of_mem ?_ hentries.distinct
    intro x y hx hy hxy
    exact ID_ne hids (hentries.all x hx) (hentries.all y hy) hxy
  -- those told are not finished, and nobody of them is left active
  have htold : ∃ l : List Subscriber, told agpsClients (lease m) .refused
      = l.map (fun s => (s, Word.refused)) ∧ l.Sublist m.mSubscribers ∧
      (∀ t ∈ l, t.ID ∉ F) ∧
      ∀ x ∈ (m.stateEvent (dsSendRsrcRequest o.openResult o.timer)
        .denied).mSubscribers, x ∉ l := by
    have hboth : m.mStatePtr = .Pending ∨ m.mStatePtr = .Releasing →
        ∀ t ∈ m.mSubscribers, t.ID ∉ F := by
      intro hp t ht
      cases hact : t.isInactive with
      | false => exact hactive t ht hact
      | true => exact hdeny hp t ht hact
    rw [hlist, lease]
    cases hp : m.mStatePtr with
    | Released =>
        exact ⟨[], rfl, List.nil_sublist _, (fun t ht => by cases ht),
          fun x _ hx => by cases hx⟩
    | Acquired =>
        exact ⟨[], rfl, List.nil_sublist _, (fun t ht => by cases ht),
          fun x _ hx => by cases hx⟩
    | Pending =>
        exact ⟨m.mSubscribers, rfl, List.Sublist.refl _, hboth (Or.inl hp),
          fun x hx => by cases hx⟩
    | Releasing =>
        refine ⟨m.mSubscribers.filter (fun s => !agpsClients.active s), rfl,
          List.filter_sublist, ?_, ?_⟩
        · exact fun t ht => hboth (Or.inr hp) t (List.mem_of_mem_filter ht)
        · show ∀ x ∈ (renew agpsClients m.mSubscribers).1.clients, _
          rw [renew_clients]
          intro x hx hx'
          have hact := (List.mem_filter.mp hx).2
          have hnot := (List.mem_filter.mp hx').2
          rw [hact] at hnot
          cases hnot
  obtain ⟨l, hl, hsubl, hunf, hgone⟩ := htold
  rw [hl, wordCalls_told m (fun t ht => hentries.all t (hsubl.subset ht))]
    at hcalls
  refine kept_of_words hcalls hcs
    (calm_refused hunf (hdistinct.sublist hsubl)) ?_
  intro x hx hact
  refine ⟨hactive x (hsub x hx) hact, ?_⟩
  intro hfin
  obtain ⟨t, ht, hID⟩ := mem_finishes_refused hfin
  have hne : x ≠ t := fun h => hgone x hx (h ▸ ht)
  exact ID_ne hids (hentries.all x (hsub x hx))
    (hentries.all t (hsubl.subset ht))
    (hentries.same_false hK (hsub x hx) (hsubl.subset ht) hne) hID

end Kept

/-! ## The run -/

/-- What holds along the runs that leave no finished handle behind. -/
structure FinishLaw (p : DsRun × FinishLog) : Prop where
  multiple : p.1.sm.mEnforceSingleSubscriber = false
  entries : Entries agpsClients OfDs p.1.sm.mSubscribers
  active : ∀ s ∈ p.1.sm.mSubscribers, s.isInactive = false →
    s.ID ∉ p.2.finished
  rest : AtRest p

omit [SubscriberEquals] in
theorem reopen_subset {F : List UInt32} {a : DsAction} {ID : UInt32}
    (h : ID ∈ reopen F a) : ID ∈ F := by
  cases a with
  | subscribeRsrc ID' => exact List.mem_of_mem_filter h
  | resubscribe => exact h
  | unsubscribeRsrc ID' => exact h
  | onRsrcEvent event => exact h
  | retryCallback => exact h

/-- Calm calls and active entries that are not finished keep the law. -/
theorem finishLaw_of_kept {r r' : DsRun} {g : FinishLog}
    {a : DsAction × Outside} (h : FinishLaw (r, g))
    (hmult : r'.sm.mEnforceSingleSubscriber = false)
    (hentries : Entries agpsClients OfDs r'.sm.mSubscribers)
    (hkept : Kept (reopen g.finished a.1) r.sm r'.sm) :
    FinishLaw (r', noteFinish g r a r') := by
  obtain ⟨hacted, hcounted⟩ := h.rest
  have hfinished : (noteFinish g r a r').finished
      = reopen g.finished a.1 ++ (newCalls r.sm r'.sm).flatMap finishes :=
    noteCalls_finished _ _
  have hnone : r'.sm.mSubscribers.filter (fun s => !s.isInactive &&
      decide (s.ID ∈ (noteFinish g r a r').finished)) = [] := by
    rw [List.filter_eq_nil_iff, hfinished]
    intro s hs hboth
    simp only [Bool.and_eq_true, Bool.not_eq_true', decide_eq_true_eq]
      at hboth
    exact hkept.active s hs hboth.1 hboth.2
  refine ⟨hmult, hentries, ?_, ?_, ?_⟩
  · intro s hs hact
    rw [hfinished]
    exact hkept.active s hs hact
  · show (noteFinish g r a r').acted = []
    exact (noteCalls_acted hkept.calm).trans hacted
  · have hsame : ((newCalls r.sm r'.sm).foldl noteCall
        { g with finished := reopen g.finished a.1 }).counted = [] :=
      (noteCalls_counted _ _).trans hcounted
    show _ ++ (if decides r a.1 then (r'.sm.mSubscribers.filter (fun s =>
      !s.isInactive && decide (s.ID ∈ (noteFinish g r a r').finished))).map
        Subscriber.ID else []) = []
    rw [hsame, hnone]
    split <;> rfl

/-- What the machine is told at the end of a release falls back where an
    inactive entry is denied. -/
theorem any_fallback_inactive {m : AgpsStateMachine}
    (hall : ∀ t ∈ m.mSubscribers, OfDs t) (w : Word) :
    (wordCalls m ((m.mSubscribers.filter
        (fun s => !agpsClients.active s)).map (fun s => (s, w)))).any fallback
      = (w == .refused && m.mSubscribers.any Subscriber.isInactive) := by
  rw [wordCalls_ds m (by
    intro v hv
    obtain ⟨t, ht, rfl⟩ := List.mem_map.mp hv
    exact hall t (List.mem_of_mem_filter ht)), Bool.eq_iff_iff]
  cases w <;> simp [dsWord, fallback, agpsClients]

/-- Where the starts of an action do not fall back, nor does the request of
    its event. -/
theorem startKept_of {r : DsRun} {a : DsAction × Outside} {e : RsrcEvent}
    (hall : ∀ t ∈ r.sm.mSubscribers, OfDs t) (hcause : DsCause r a.1 e)
    (h : startsCall r.sm a.1 = true →
      fallsBack a.2.openResult (startRetries r.sm a.1) = false) :
    StartKept a.2 r.sm e := by
  intro hreq
  obtain ⟨a, o⟩ := a
  rcases request_step hreq with ⟨hidle, x, hx⟩ | ⟨hend, hev, hany⟩
  · -- the first subscriber: nobody is told before
    have hrel : r.sm.mStatePtr = .Released :=
      (phaseOf_eq_iff _ .Released).mp hidle
    have hlease : lease r.sm = ⟨.idle, r.sm.mSubscribers⟩ := lease_of hrel rfl
    have hstart : startsCall r.sm a = true ∧ startRetries r.sm a
        = r.sm.mRetries := by
      cases hcause with
      | subscribe ID => exact ⟨beq_iff_eq.mpr hrel, rfl⟩
      | resubscribe hID => exact ⟨beq_iff_eq.mpr hrel, rfl⟩
      | unsubscribe hs hID => cases hx
      | granted => cases hx
      | released hp hr => cases hx
      | disconnected hp => cases hx
      | denied => cases hx
    have htold : told agpsClients (lease r.sm) (leaseEvent e) = [] := by
      rw [hlease, hx]
      rfl
    rw [htold]
    show fallsBack o.openResult r.sm.mRetries = false
    rw [← hstart.2]
    exact h hstart.1
  · have hstate : r.sm.mStatePtr = .Releasing :=
      (phaseOf_eq_iff _ .Releasing).mp hend
    have hlease : lease r.sm = ⟨.ending, r.sm.mSubscribers⟩ :=
      lease_of hstate rfl
    have hstart : ∀ event, terminal (.onRsrcEvent event) = true →
        startsCall r.sm (.onRsrcEvent event) = true := by
      intro event hterm
      show (terminal (.onRsrcEvent event) && r.sm.mStatePtr == .Releasing &&
        r.sm.mSubscribers.any (fun s => !s.isInactive)) = true
      rw [hterm, hstate]
      exact hany
    cases hcause with
    | subscribe ID => rcases hev with hev | hev <;> cases hev
    | resubscribe hID => rcases hev with hev | hev <;> cases hev
    | unsubscribe hs hID => rcases hev with hev | hev <;> cases hev
    | granted => rcases hev with hev | hev <;> cases hev
    | disconnected hp =>
        rcases hp with hp | hp <;> rw [hstate] at hp <;> cases hp
    | released hp hr =>
        have htold : (wordCalls r.sm (told agpsClients (lease r.sm)
            (leaseEvent .released))).any fallback = false := by
          rw [hlease]
          exact any_fallback_inactive hall .ended
        rw [htold]
        exact h (hstart .RSRC_RELEASED rfl)
    | denied =>
        have htold : (wordCalls r.sm (told agpsClients (lease r.sm)
            (leaseEvent .denied))).any fallback
              = r.sm.mSubscribers.any Subscriber.isInactive := by
          rw [hlease]
          exact any_fallback_inactive hall .refused
        have hkept := h (hstart .RSRC_DENIED rfl)
        rw [htold]
        rw [startRetries] at hkept
        simpa using hkept

/-- An event of a step that meets the condition. -/
theorem kept_event {r : DsRun} {g : FinishLog} {a : DsAction × Outside}
    (hids : ∀ s t, OfDs s → OfDs t →
      SubscriberEquals.equals s t = (s.ID == t.ID))
    (hK : Lawful agpsClients OfDs) (h : FinishLaw (r, g))
    (hg : NoLeftover (r, g) a) {e : RsrcEvent} (hcause : DsCause r a.1 e) :
    Kept (reopen g.finished a.1) r.sm
      (r.sm.stateEvent (dsSendRsrcRequest a.2.openResult a.2.timer) e) := by
  have hall := h.entries.all
  have hstart := startKept_of hall hcause hg.starts
  have hactive : ∀ t ∈ r.sm.mSubscribers, t.isInactive = false →
      t.ID ∉ reopen g.finished a.1 :=
    fun t ht hact hmem => h.active t ht hact (reopen_subset hmem)
  have hdeny : deniesWaiting r.sm a.1 = true →
      ∀ t ∈ r.sm.mSubscribers, t.isInactive = true →
        t.ID ∉ reopen g.finished a.1 :=
    fun hd t ht hact hmem => hg.denials hd t ht hact (reopen_subset hmem)
  obtain ⟨a, o⟩ := a
  cases hcause with
  | subscribe ID =>
      -- the modem has opened the handle again
      refine kept_subscribe ⟨ID, false, rfl⟩
        (fun t ht => hids t _ ht ⟨ID, false, rfl⟩) hall hactive hstart
        (Or.inl ?_)
      intro hmem
      exact absurd rfl (of_decide_eq_true (List.mem_filter.mp hmem).2)
  | resubscribe hID =>
      rename_i ID
      refine kept_subscribe ⟨ID, false, rfl⟩
        (fun t ht => hids t _ ht ⟨ID, false, rfl⟩) hall hactive hstart ?_
      by_cases hfin : ID ∈ g.finished
      · exact Or.inr (hg.retries ID hID hfin)
      · exact Or.inl hfin
  | unsubscribe hs hID =>
      rename_i ID s
      rw [hids s _ (hall s hs) ⟨ID, false, rfl⟩, beq_iff_eq] at hID
      refine kept_unsubscribe hK hids h.entries hactive hstart hs ?_
      exact fun hrel => hg.closes ID rfl hrel s hs hID
  | granted => exact kept_granted hall hactive hstart
  | released hp hr => exact kept_released hall hactive hstart
  | disconnected hp =>
      refine kept_denied hK hids h.entries hactive ?_ hstart
      rintro (hpend | hend)
      · refine hdeny ?_
        rw [deniesWaiting, hpend]
        rfl
      · rcases hp with hp | hp <;> rw [hend] at hp <;> cases hp
  | denied =>
      refine kept_denied hK hids h.entries hactive ?_ hstart
      intro hp
      refine hdeny ?_
      rw [deniesWaiting]
      rcases hp with hp | hp <;> rw [hp] <;> rfl

/-- Who subscribes is a DS subscriber, who unsubscribes is in the list. -/
theorem DsCause.named {r : DsRun} {a : DsAction} {e : RsrcEvent}
    (h : DsCause r a e) : Named OfDs (lease r.sm) (leaseEvent e) := by
  cases h with
  | subscribe ID => exact ⟨ID, false, rfl⟩
  | resubscribe hID => exact ⟨_, false, rfl⟩
  | unsubscribe hs hID => exact hs
  | granted => trivial
  | released hp hr => trivial
  | disconnected hp => trivial
  | denied => trivial

/-- A step that meets the condition keeps the law. -/
theorem finishLaw_step (hK : Lawful agpsClients OfDs)
    (hids : ∀ s t, OfDs s → OfDs t →
      SubscriberEquals.equals s t = (s.ID == t.ID))
    {p p' : DsRun × FinishLog} {a : DsAction × Outside} (h : FinishLaw p)
    (hg : NoLeftover p a) (hs : finishSys.step p a = some p') :
    FinishLaw p' := by
  obtain ⟨r, g⟩ := p
  obtain ⟨r', g'⟩ := p'
  obtain ⟨hstep, hnote⟩ := watched_step hs
  obtain rfl : g' = noteFinish g r a r' := hnote
  rcases dsSys_move h.multiple hstep with ⟨e, hcause, hsm⟩ |
    ⟨hretry, hsm⟩ | ⟨hterm, hsm⟩
  · have hkept := kept_event hids hK h hg hcause
    obtain ⟨cs, -, -, hmult, -⟩ := dsEvent_spec a.2 r.sm e
    have hentries : Entries agpsClients OfDs (r.sm.stateEvent
        (dsSendRsrcRequest a.2.openResult a.2.timer) e).mSubscribers := by
      rw [dsEvent_list]
      exact entries_step hK h.entries hcause.named
    rw [← hsm] at hkept hmult hentries
    exact finishLaw_of_kept h (hmult.trans h.multiple) hentries hkept
  · obtain ⟨cs, hk, hcs⟩ := retryCallback_eq r.sm
    rw [hk] at hsm
    have hcalls : newCalls r.sm r'.sm = cs := by
      rw [hsm, newCalls, List.drop_left]
    have hreopen : reopen g.finished a.1 = g.finished := by
      rw [hretry]
      rfl
    refine finishLaw_of_kept h ?_ ?_ ⟨?_, ?_⟩
    · rw [hsm]
      exact h.multiple
    · rw [hsm]
      exact h.entries
    · -- the retry is for an active entry
      rw [hcalls, hreopen]
      refine calm_of (fun c hc => ?_)
      obtain ⟨s, hs, hact, rfl⟩ := hcs c hc
      refine ⟨rfl, ?_⟩
      intro ID hID
      rw [List.mem_singleton.mp hID]
      exact h.active s hs hact
    · have hnone : cs.flatMap finishes = [] := by
        rw [List.flatMap_eq_nil_iff]
        intro c hc
        obtain ⟨s, -, -, rfl⟩ := hcs c hc
        rfl
      rw [hcalls, hnone, hreopen, List.append_nil, hsm]
      exact h.active
  · have hcalls : newCalls r.sm r'.sm = [] := by
      rw [hsm, newCalls, List.drop_length]
    refine finishLaw_of_kept h ?_ ?_ (kept_quiet ?_ ?_)
    · rw [hsm]
      exact h.multiple
    · rw [hsm]
      exact h.entries
    · rw [hcalls]
      exact fun c hc => by cases hc
    · rw [hsm]
      exact fun s hs hact hmem => h.active s hs hact (reopen_subset hmem)

end Ds

/-- The code's `equals` is lawful on DS subscribers. -/
theorem lawful_ds (castIPv6 : Subscriber → List UInt8) :
    @Lawful Subscriber (@agpsClients (codeEquals castIPv6)) OfDs := by
  refine @lawful_of_ids (codeEquals castIPv6) _ ?_ ?_ ?_
  · rintro _ ⟨ID, b, rfl⟩
    exact ⟨ID, false, rfl⟩
  · rintro _ ⟨ID, b, rfl⟩
    exact ⟨ID, true, rfl⟩
  · rintro _ t ⟨ID, b, rfl⟩ -
    rfl

/-- **FINISHED HANDLES REST**: along the runs whose starts do not fall back,
    that close no entry in Released, bring back no finished handle and deny
    none, nothing is done for a finished handle and none counts as active
    when the release of the data call is decided. -/
theorem finished_handles_rest (castIPv6 : Subscriber → List UInt8)
    {p : DsRun × FinishLog}
    (h : ReachUnder (@finishSys (codeEquals castIPv6)) NoLeftover p) :
    AtRest p := by
  let _ : SubscriberEquals := codeEquals castIPv6
  have hids : ∀ s t, OfDs s → OfDs t →
      SubscriberEquals.equals s t = (s.ID == t.ID) := by
    rintro _ t ⟨ID, b, rfl⟩ -
    rfl
  have hlaw : FinishLaw p := by
    refine reachUnder_inv (I := FinishLaw) ?_ ?_ h
    · rintro ⟨r, g⟩ ⟨hr, hg⟩
      obtain rfl : r = dsNew := hr
      obtain rfl : g = ⟨[], [], []⟩ := hg
      exact ⟨rfl, entries_nil, (fun s hs => by cases hs), rfl, rfl⟩
    · intro p a p' hp ha hs
      exact finishLaw_step (lawful_ds castIPv6) hids hp ha hs
  exact hlaw.rest

/-- Handle 1 finds the engine busy once and has its data call at the second
    attempt; handle 2 joins it, and both leave. -/
def finishedInTurn : List (DsAction × Outside) :=
  [(.subscribeRsrc 1, busy), (.retryCallback, started),
   (.resubscribe, started), (.onRsrcEvent .RSRC_GRANTED, started),
   (.subscribeRsrc 2, started), (.unsubscribeRsrc 1, started),
   (.unsubscribeRsrc 2, started), (.onRsrcEvent .RSRC_RELEASED, started)]

/-- At its end both are finished. -/
theorem finished_handles_two :
    ∃ p, exec (@finishSys (codeEquals (fun _ => []))) (dsNew, ⟨[], [], []⟩)
        finishedInTurn = some p ∧ p.2.finished = [1, 2] ∧ AtRest p := by
  let _ : SubscriberEquals := codeEquals (fun _ => [])
  have hmeet : StepsMeet finishSys NoLeftover (dsNew, ⟨[], [], []⟩)
      finishedInTurn := by decide +kernel
  have hrun : (exec finishSys (dsNew, ⟨[], [], []⟩) finishedInTurn).map
      (fun p => p.2.finished) = some [1, 2] := by decide +kernel
  have hinit : ReachUnder finishSys NoLeftover (dsNew, ⟨[], [], []⟩) :=
    .init ⟨rfl, rfl⟩
  obtain ⟨p, hp, hfin⟩ := Option.map_eq_some_iff.mp hrun
  exact ⟨p, hp, hfin, finished_handles_rest _
    (reachUnder_exec finishedInTurn hinit hmeet hp)⟩

/-- Handle 1 is handed over at once, handle 2 has its data call. -/
def handedOver : List (DsAction × Outside) :=
  [(.subscribeRsrc 1, unsupported), (.subscribeRsrc 2, started),
   (.onRsrcEvent .RSRC_GRANTED, started)]

/-- Handle 1 is opened although ATL has it. -/
theorem handed_over_opened :
    ¬ (∀ p, Reach (@finishSys (codeEquals (fun _ => []))) p → AtRest p) := by
  intro hall
  let _ : SubscriberEquals := codeEquals (fun _ => [])
  have hrun : (exec finishSys (dsNew, ⟨[], [], []⟩) handedOver).map
      (fun p => p.2.acted) = some [1] := by decide +kernel
  have hinit : Reach finishSys (dsNew, ⟨[], [], []⟩) := .init ⟨rfl, rfl⟩
  obtain ⟨p, hp, hacted⟩ := Option.map_eq_some_iff.mp hrun
  have hrest := (hall p (reach_exec handedOver hinit hp)).1
  rw [hrest] at hacted
  cases hacted

end QcomAgps
