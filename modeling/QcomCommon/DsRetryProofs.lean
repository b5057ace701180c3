import QcomCommon.DsRunProofs

/-! # The retries of the DS machine

    A start of the data call that finds the engine busy is tried again
    later, up to four times; then the subscriber falls back to ATL.  The
    counter is a member of the machine: each busy answer counts it up, and
    only a denial sets it to zero.  What an earlier session left in it is
    missing from the retries of the next (`retry_budget_iff`). -/

namespace QcomAgps

open QcomTransition QcomLease AgpsStateMachine

/-! ## The budget -/

/-- The starts of the data call among the calls. -/
def starts (cs : List Call) : Nat :=
  cs.count (.dataCall .GPS_REQUEST_AGPS_DATA_CONN)

/-- The retries scheduled before the first fallback. -/
def scheduled (cs : List Call) : Nat :=
  (cs.takeWhile (fun c => !fallback c)).count
    (.loc_timer_start DATA_CALL_RETRY_DELAY_MSEC)

/-- Of busy starts, `n` are followed by a retry and the next by the
    fallback. -/
structure Budget (n : Nat) (cs : List Call) : Prop where
  retries : scheduled cs = min (starts cs) n
  falls : cs.any fallback = true ↔ n < starts cs

theorem starts_append (cs ds : List Call) :
    starts (cs ++ ds) = starts cs + starts ds :=
  List.count_append

theorem scheduled_append_of_fallback {cs : List Call}
    (h : cs.any fallback = true) (ds : List Call) :
    scheduled (cs ++ ds) = scheduled cs := by
  induction cs with
  | nil => cases h
  | cons c cs ih =>
      rw [scheduled, scheduled, List.cons_append, List.takeWhile_cons,
        List.takeWhile_cons]
      cases hc : fallback c with
      | true => rfl
      | false =>
          rw [List.any_cons, hc, Bool.false_or] at h
          have htail := ih h
          rw [scheduled, scheduled] at htail
          simp only [Bool.not_false, if_true, List.count_cons, htail]

theorem scheduled_append {cs : List Call} (h : cs.any fallback = false)
    (ds : List Call) : scheduled (cs ++ ds) = scheduled cs + scheduled ds := by
  have hall : ∀ c ∈ cs, (!fallback c) = true := by
    intro c hc
    rw [List.any_eq_false] at h
    simpa using h c hc
  have hself : (cs ++ []).takeWhile (fun c => !fallback c)
      = cs ++ [].takeWhile (fun c => !fallback c) :=
    List.takeWhile_append_of_pos hall
  rw [List.append_nil, List.takeWhile_nil, List.append_nil] at hself
  rw [scheduled, List.takeWhile_append_of_pos hall, List.count_append,
    scheduled, scheduled, hself]

/-- What one call with a busy engine does to the retry counter, and what is
    called: nothing that counts, a retry, or the fallback. -/
inductive RetryMove : Nat → Nat → List Call → Prop where
  | quiet (k : Nat) {cs : List Call} (hstart : starts cs = 0)
      (hretry : scheduled cs = 0) (hfall : cs.any fallback = false) :
      RetryMove k k cs
  | retry {k : Nat} (hk : k < 4) :
      RetryMove k (k + 1) [.dataCall .GPS_REQUEST_AGPS_DATA_CONN,
        .loc_timer_start DATA_CALL_RETRY_DELAY_MSEC]
  | fallback (ID : UInt32) :
      RetryMove 4 0 [.dataCall .GPS_REQUEST_AGPS_DATA_CONN,
        .requestATL ID .AGPS_TYPE_SUPL]

/-- The calls so far, from a counter of `4 - n` to one of `k`: within the
    budget once the fallback has come, and before it every start is one
    retry. -/
def Paced (n k : Nat) (cs : List Call) : Prop :=
  (cs.any fallback = true ∧ Budget n cs) ∨
  (cs.any fallback = false ∧ scheduled cs = starts cs ∧
    k + n = 4 + starts cs)

theorem Paced.budget {n k : Nat} {cs : List Call} (h : Paced n k cs)
    (hk : k ≤ 4) : Budget n cs := by
  rcases h with ⟨-, hbudget⟩ | ⟨hfall, hsched, hcount⟩
  · exact hbudget
  · refine ⟨by omega, ?_⟩
    rw [hfall]
    refine iff_of_false Bool.false_ne_true ?_
    omega

/-- After the fallback nothing more counts. -/
theorem Budget.append {n : Nat} {cs : List Call} (h : Budget n cs)
    (hfall : cs.any fallback = true) (ds : List Call) :
    Budget n (cs ++ ds) := by
  have hover := h.falls.mp hfall
  have hsched := h.retries
  refine ⟨?_, ?_⟩
  · rw [scheduled_append_of_fallback hfall, starts_append]
    omega
  · rw [List.any_append, hfall, Bool.true_or, starts_append]
    exact iff_of_true rfl (by omega)

theorem Paced.move {n k k' : Nat} {cs ds : List Call} (h : Paced n k cs)
    (hmove : RetryMove k k' ds) : Paced n k' (cs ++ ds) := by
  rcases h with ⟨hfall, hbudget⟩ | ⟨hfall, hsched, hcount⟩
  · refine Or.inl ⟨?_, hbudget.append hfall ds⟩
    rw [List.any_append, hfall, Bool.true_or]
  · have hs := starts_append cs ds
    have hr := scheduled_append hfall ds
    have ha : (cs ++ ds).any fallback = ds.any fallback := by
      rw [List.any_append, hfall, Bool.false_or]
    cases hmove with
    | quiet k hstart hretry hfall' =>
        refine Or.inr ⟨ha.trans hfall', ?_, ?_⟩ <;> omega
    | retry hk =>
        rw [show scheduled [.dataCall .GPS_REQUEST_AGPS_DATA_CONN,
          .loc_timer_start DATA_CALL_RETRY_DELAY_MSEC] = 1 from rfl] at hr
        rw [show starts [.dataCall .GPS_REQUEST_AGPS_DATA_CONN,
          .loc_timer_start DATA_CALL_RETRY_DELAY_MSEC] = 1 from rfl] at hs
        refine Or.inr ⟨ha, ?_, ?_⟩ <;> omega
    | fallback ID =>
        rw [show scheduled [.dataCall .GPS_REQUEST_AGPS_DATA_CONN,
          .requestATL ID .AGPS_TYPE_SUPL] = 0 from rfl] at hr
        rw [show starts [.dataCall .GPS_REQUEST_AGPS_DATA_CONN,
          .requestATL ID .AGPS_TYPE_SUPL] = 1 from rfl] at hs
        refine Or.inl ⟨ha, ⟨by omega, ?_⟩⟩
        exact iff_of_true ha (by omega)

/-! ## The counter -/

theorem next_toNat {k : UInt8} (h : k.toNat ≤ 4) :
    (k + 1).toNat = k.toNat + 1 := by
  rw [UInt8.toNat_add, UInt8.toNat_one]
  omega

/-- Within the budget the fifth busy answer is the one too many. -/
theorem busy_falls_iff {k : UInt8} (h : k.toNat ≤ 4) :
    fallsBack LOC_API_ADAPTER_ERR_ENGINE_BUSY k = true ↔ k.toNat = 4 := by
  have hmax : MAX_START_DATA_CALL_RETRIES.toNat = 4 := rfl
  rw [fallsBack_busy, decide_eq_true_iff, UInt8.lt_iff_toNat_lt, hmax,
    next_toNat h]
  omega

/-- The engine is busy, and the retry timer starts. -/
def busy : Outside := ⟨LOC_API_ADAPTER_ERR_ENGINE_BUSY, true⟩

/-- The law of a machine with its surroundings. -/
structure DsLaw (r : DsRun) : Prop where
  multiple : r.sm.mEnforceSingleSubscriber = false
  wanted : r.sm.mStatePtr ≠ .Released → r.sm.mSubscribers ≠ []
  retries : r.sm.mRetries.toNat ≤ 4

section Ds

variable [SubscriberEquals]

/-- No request counts the retries over the budget. -/
theorem sent_retries (o : Outside) (ask : Option Ask) {m : AgpsStateMachine}
    (h : m.mRetries.toNat ≤ 4) :
    (sent (dsSendRsrcRequest o.openResult o.timer) ask m).mRetries.toNat
      ≤ 4 := by
  cases ask with
  | none => exact h
  | some ask =>
      cases ask with
      | giveBack => exact h
      | request =>
          rw [sent]
          cases hf : fallsBack o.openResult m.mRetries with
          | true =>
              rw [dsStart_fallback hf o.timer]
              exact Nat.zero_le 4
          | false =>
              rw [dsStart_kept hf]
              split
              · next hbusy =>
                  have hlt : m.mRetries.toNat ≠ 4 := by
                    rw [hbusy] at hf
                    intro h4
                    rw [(busy_falls_iff h).mpr h4] at hf
                    cases hf
                  show (m.mRetries + 1).toNat ≤ 4
                  rw [next_toNat h]
                  omega
              · exact h

/-- Nor does an event. -/
theorem stateEvent_retries (o : Outside) {m : AgpsStateMachine}
    (h : m.mRetries.toNat ≤ 4) (e : RsrcEvent) :
    (m.stateEvent (dsSendRsrcRequest o.openResult o.timer) e).mRetries.toNat
      ≤ 4 := by
  rw [stateEvent_eq]
  refine sent_retries o _ ?_
  rw [withCalls]
  show (if _ then (0 : UInt8) else m.mRetries).toNat ≤ 4
  split
  · exact Nat.zero_le 4
  · exact h

theorem dsLaw_step {r r' : DsRun} {a : DsAction × Outside} (h : DsLaw r)
    (hs : dsSys.step r a = some r') : DsLaw r' := by
  rcases dsSys_move h.multiple hs with ⟨e, -, hsm⟩ |
    ⟨-, hsm⟩ | ⟨-, hsm⟩
  · obtain ⟨cs, -, hlease, hmult, -⟩ := dsEvent_spec a.2 r.sm e
    have hretries := stateEvent_retries a.2 h.retries e
    rw [← hsm] at hlease hmult hretries
    refine ⟨hmult.trans h.multiple, ?_, hretries⟩
    intro hstate
    have hwas : (lease r.sm).phase ≠ .idle → (lease r.sm).clients ≠ [] :=
      fun hp => h.wanted (fun hrel => hp ((phaseOf_eq_iff _ .Released).mpr hrel))
    have hnext : (step agpsClients
        (a.2.openResult == LOC_API_ADAPTER_ERR_SUCCESS) (lease r.sm)
        (leaseEvent e)).1.phase ≠ .idle → _ ≠ [] := ne_nil_step hwas
    rw [← hlease] at hnext
    exact hnext (fun hp => hstate ((phaseOf_eq_iff _ .Released).mp hp))
  · obtain ⟨cs, hk, -⟩ := retryCallback_eq r.sm
    rw [hk] at hsm
    refine ⟨?_, ?_, ?_⟩ <;> rw [hsm]
    · exact h.multiple
    · exact h.wanted
    · exact h.retries
  · refine ⟨?_, ?_, ?_⟩ <;> rw [hsm]
    · exact h.multiple
    · exact h.wanted
    · exact h.retries

theorem dsLaw_reach {r : DsRun} (h : Reach dsSys r) : DsLaw r := by
  refine reachUnder_inv (I := DsLaw) ?_ ?_ h
  · rintro r rfl
    exact ⟨rfl, fun hp => absurd rfl hp, Nat.zero_le 4⟩
  · intro r a r' hr _ hs
    exact dsLaw_step hr hs

/-! ## A session with a busy engine -/

/-- What one event in Released does to state, counter and calls. -/
def BusyMove (m m' : AgpsStateMachine) : Prop :=
  m'.mStatePtr = .Released ∧ ∃ cs, m'.calls = m.calls ++ cs ∧
    RetryMove m.mRetries.toNat m'.mRetries.toNat cs

omit [SubscriberEquals] in
theorem busyMove_quiet {m m' : AgpsStateMachine}
    (hstate : m'.mStatePtr = .Released) (hretries : m'.mRetries = m.mRetries)
    {cs : List Call} (hcalls : m'.calls = m.calls ++ cs)
    (hstart : starts cs = 0) (hretry : scheduled cs = 0)
    (hfall : cs.any fallback = false) : BusyMove m m' := by
  refine ⟨hstate, cs, hcalls, ?_⟩
  rw [hretries]
  exact .quiet _ hstart hretry hfall

/-- A first start that finds the engine busy. -/
theorem busyMove_subscribe {m : AgpsStateMachine}
    (hrel : m.mStatePtr = .Released) (hret : m.mRetries.toNat ≤ 4)
    {o : Outside} (hbusy : o.openResult = LOC_API_ADAPTER_ERR_ENGINE_BUSY)
    (s : Subscriber) :
    BusyMove m (m.stateEvent (dsSendRsrcRequest o.openResult o.timer)
      (.subscribe s)) := by
  have hok : sendOk (dsSendRsrcRequest o.openResult o.timer) m (.subscribe s)
      = false := by
    rw [sendOk, beq_eq_false_iff_ne, ne_eq, dsSend_ok, hbusy]
    decide
  have hlease : lease m = ⟨.idle, m.mSubscribers⟩ := lease_of hrel rfl
  have hev : m.stateEvent (dsSendRsrcRequest o.openResult o.timer)
      (.subscribe s) = { (dsSendRsrcRequest o.openResult o.timer
        .GPS_REQUEST_AGPS_DATA_CONN
        (m.withCalls (add agpsClients s m.mSubscribers) [])).2 with
          mStatePtr := .Released } := by
    rw [stateEvent_eq, hok, hlease]
    rfl
  rw [hev, hbusy]
  generalize hm : m.withCalls (add agpsClients s m.mSubscribers) [] = m₀
  have hretries : m₀.mRetries = m.mRetries := by rw [← hm]; rfl
  have hcalls : m₀.calls = m.calls := by rw [← hm]; exact List.append_nil _
  cases hf : fallsBack LOC_API_ADAPTER_ERR_ENGINE_BUSY m₀.mRetries with
  | true =>
      rw [dsStart_fallback hf o.timer]
      refine ⟨rfl, [.dataCall .GPS_REQUEST_AGPS_DATA_CONN,
        .requestATL (connHandle m₀.mSubscribers) .AGPS_TYPE_SUPL],
        congrArg (· ++ _) hcalls, ?_⟩
      rw [hretries, busy_falls_iff hret] at hf
      rw [hf]
      exact .fallback _
  | false =>
      have hlt : m.mRetries.toNat < 4 := by
        rw [hretries] at hf
        by_contra hge
        rw [(busy_falls_iff hret).mpr (by omega)] at hf
        cases hf
      rw [dsStart_kept hf, if_pos rfl]
      refine ⟨rfl, [.dataCall .GPS_REQUEST_AGPS_DATA_CONN,
        .loc_timer_start DATA_CALL_RETRY_DELAY_MSEC],
        congrArg (· ++ _) hcalls, ?_⟩
      show RetryMove m.mRetries.toNat (m₀.mRetries + 1).toNat _
      rw [hretries, next_toNat hret]
      exact .retry hlt

/-- In Released any other event tells at most that a subscriber left. -/
theorem busyMove_other {m : AgpsStateMachine} (hrel : m.mStatePtr = .Released)
    (o : Outside) {e : RsrcEvent} (he : ∀ s, e ≠ .subscribe s) :
    BusyMove m (m.stateEvent (dsSendRsrcRequest o.openResult o.timer) e) := by
  have hquiet : ∀ e, (stateOnRsrcEvent (dsSendRsrcRequest o.openResult o.timer)
      e m = (m.mStatePtr, m)) → BusyMove m
        (m.stateEvent (dsSendRsrcRequest o.openResult o.timer) e) := by
    intro e hev
    rw [stateEvent_quiet hev]
    exact busyMove_quiet hrel rfl (List.append_nil _).symm rfl rfl rfl
  cases e with
  | subscribe s => exact absurd rfl (he s)
  | granted => exact hquiet _ (by rw [stateOnRsrcEvent, hrel]; rfl)
  | released => exact hquiet _ (by rw [stateOnRsrcEvent, hrel]; rfl)
  | denied => exact hquiet _ (by rw [stateOnRsrcEvent, hrel]; rfl)
  | unsubscribe s =>
      have hev : m.stateEvent (dsSendRsrcRequest o.openResult o.timer)
          (.unsubscribe s) = { (notifyRsrcStatus
            ⟨.rcver s, .RSRC_UNSUBSCRIBE, false⟩ s m).2 with
              mStatePtr := .Released } := by
        rw [stateEvent, stateOnRsrcEvent, hrel]
        rfl
      rw [hev, notifyRsrcStatus_eq]
      split
      · cases s with
        | BITSubscriber ID v6 =>
            exact busyMove_quiet rfl rfl rfl rfl rfl rfl
        | ATLSubscriber ID mode =>
            exact busyMove_quiet rfl rfl rfl rfl rfl rfl
        | WIFISubscriber ID ssid pw b =>
            exact busyMove_quiet rfl rfl rfl rfl rfl rfl
        | DSSubscriber ID b =>
            exact busyMove_quiet rfl rfl rfl rfl rfl rfl
      · exact busyMove_quiet rfl rfl rfl rfl rfl rfl

/-- A step of a session in which the engine is busy. -/
theorem busyMove_step {r r' : DsRun} {a : DsAction × Outside} (h : DsLaw r)
    (hrel : r.sm.mStatePtr = .Released)
    (hbusy : a.2.openResult = LOC_API_ADAPTER_ERR_ENGINE_BUSY)
    (hs : dsSys.step r a = some r') : BusyMove r.sm r'.sm := by
  rcases dsSys_move h.multiple hs with ⟨e, -, hsm⟩ |
    ⟨-, hsm⟩ | ⟨-, hsm⟩
  · rw [hsm]
    cases e with
    | subscribe s => exact busyMove_subscribe hrel h.retries hbusy s
    | unsubscribe s => exact busyMove_other hrel a.2 (fun t h => by cases h)
    | granted => exact busyMove_other hrel a.2 (fun t h => by cases h)
    | released => exact busyMove_other hrel a.2 (fun t h => by cases h)
    | denied => exact busyMove_other hrel a.2 (fun t h => by cases h)
  · obtain ⟨cs, hk, hcs⟩ := retryCallback_eq r.sm
    rw [hsm, hk]
    have hstart : .dataCall .GPS_REQUEST_AGPS_DATA_CONN ∉ cs := by
      intro hmem
      obtain ⟨s, -, -, hs⟩ := hcs _ hmem
      cases hs
    have htimer : .loc_timer_start DATA_CALL_RETRY_DELAY_MSEC
        ∉ cs.takeWhile (fun c => !fallback c) := by
      intro hmem
      obtain ⟨s, -, -, hs⟩ := hcs _ (List.takeWhile_subset _ hmem)
      cases hs
    have hfall : cs.any fallback = false := by
      rw [List.any_eq_false]
      intro c hc
      obtain ⟨s, -, -, rfl⟩ := hcs c hc
      exact Bool.false_ne_true
    exact busyMove_quiet hrel rfl rfl (List.count_eq_zero.mpr hstart)
      (List.count_eq_zero.mpr htimer) hfall
  · rw [hsm]
    exact busyMove_quiet hrel rfl (List.append_nil _).symm rfl rfl rfl

/-- A subscription is one start. -/
theorem subscribe_starts {r r' : DsRun} {ID : UInt32} {o : Outside}
    (h : DsLaw r) (hrel : r.sm.mStatePtr = .Released)
    (hbusy : o.openResult = LOC_API_ADAPTER_ERR_ENGINE_BUSY)
    (hs : dsSys.step r (.subscribeRsrc ID, o) = some r') :
    ∃ cs, r'.sm.calls = r.sm.calls ++ cs ∧ starts cs = 1 := by
  obtain ⟨-, cs, hcalls, hmove⟩ := busyMove_step h hrel hbusy hs
  refine ⟨cs, hcalls, ?_⟩
  have hmem : .dataCall .GPS_REQUEST_AGPS_DATA_CONN ∈ cs := by
    have hact : r'.sm = r.sm.stateEvent
        (dsSendRsrcRequest o.openResult o.timer)
        (.subscribe (.DSSubscriber ID false)) := by
      have hne : ClassAction.subscribeRsrc (.DSSubscriber ID false)
          ≠ .retryCallback := fun h => by cases h
      obtain ⟨c, hc, rfl⟩ := dsSys_step hs
      cases Option.some.inj hc
      exact dsAct_eq h.multiple o hne
    have hlease : lease r.sm = ⟨.idle, r.sm.mSubscribers⟩ := lease_of hrel rfl
    have hstarts := (starts_iff o r.sm
      (.subscribe (.DSSubscriber ID false))).mpr (by rw [hlease]; rfl)
    rw [← hact, newCalls, hcalls, List.drop_left] at hstarts
    exact hstarts
  have hpos : 0 < starts cs := List.count_pos_iff.mpr hmem
  generalize r.sm.mRetries.toNat = k, r'.sm.mRetries.toNat = k' at hmove
  cases hmove with
  | quiet k hstart hretry hfall => omega
  | retry hk => rfl
  | fallback ID => rfl

/-- A session in which the engine is busy keeps the pace. -/
theorem paced_run {n : Nat} (l : List (DsAction × Outside)) :
    ∀ {r r' : DsRun}, DsLaw r → r.sm.mStatePtr = .Released →
      (∀ a ∈ l, a.2.openResult = LOC_API_ADAPTER_ERR_ENGINE_BUSY) →
      exec dsSys r l = some r' → ∀ {cs}, Paced n r.sm.mRetries.toNat cs →
      ∃ ds, r'.sm.calls = r.sm.calls ++ ds ∧ r'.sm.mRetries.toNat ≤ 4 ∧
        Paced n r'.sm.mRetries.toNat (cs ++ ds) := by
  induction l with
  | nil =>
      intro r r' h _ _ hrun cs hpaced
      cases Option.some.inj hrun
      exact ⟨[], (List.append_nil _).symm, h.retries,
        by rw [List.append_nil]; exact hpaced⟩
  | cons a l ih =>
      intro r r' h hrel hbusy hrun cs hpaced
      obtain ⟨t, hst, hrest⟩ := Option.bind_eq_some_iff.mp hrun
      obtain ⟨hrel', es, hcalls, hmove⟩ := busyMove_step h hrel
        (hbusy a List.mem_cons_self) hst
      obtain ⟨ds, hcalls', hretries, hpaced'⟩ := ih (dsLaw_step h hst) hrel'
        (fun b hb => hbusy b (List.mem_cons_of_mem a hb)) hrest
        (hpaced.move hmove)
      refine ⟨es ++ ds, ?_, hretries, ?_⟩
      · rw [hcalls', hcalls, List.append_assoc]
      · rw [← List.append_assoc]
        exact hpaced'

/-- Any number of subscriptions can come one after the other, and each is a
    start. -/
theorem subscribes_start (ID : UInt32) {o : Outside}
    (hbusy : o.openResult = LOC_API_ADAPTER_ERR_ENGINE_BUSY) (n : Nat) :
    ∀ {r : DsRun}, DsLaw r → r.sm.mStatePtr = .Released →
      ∃ r' cs, exec dsSys r (List.replicate n (.subscribeRsrc ID, o))
          = some r' ∧
        r'.sm.calls = r.sm.calls ++ cs ∧ starts cs = n := by
  induction n with
  | zero => exact fun _ _ => ⟨_, [], rfl, (List.append_nil _).symm, rfl⟩
  | succ n ih =>
      intro r h hrel
      have hst : dsSys.step r (.subscribeRsrc ID, o)
          = some (r.after (.subscribeRsrc ID) o (classAct .DSStateMachine o
            r.sm (.subscribeRsrc (.DSSubscriber ID false)))) := rfl
      obtain ⟨hrel', -⟩ := busyMove_step h hrel hbusy hst
      obtain ⟨ds, hcalls, hone⟩ := subscribe_starts h hrel hbusy hst
      obtain ⟨r', cs, hrun, hcalls', hn⟩ := ih (dsLaw_step h hst) hrel'
      refine ⟨r', ds ++ cs, ?_, ?_, ?_⟩
      · rw [List.replicate_succ, exec, hst]
        exact hrun
      · rw [hcalls', hcalls, List.append_assoc]
      · rw [starts_append, hone, hn, Nat.add_comm]

/-- In every session that begins now and finds the engine busy at every
    start, the budget is spent before the fallback. -/
def RetryBudget (r : DsRun) : Prop :=
  ∀ (ID : UInt32) (o : Outside) (l : List (DsAction × Outside)) (r' : DsRun),
    (∀ a ∈ (.subscribeRsrc ID, o) :: l,
      a.2.openResult = LOC_API_ADAPTER_ERR_ENGINE_BUSY) →
    exec dsSys r ((.subscribeRsrc ID, o) :: l) = some r' →
    Budget MAX_START_DATA_CALL_RETRIES.toNat (newCalls r.sm r'.sm)

/-- **RETRY BUDGET**: a machine without subscribers gives the next session
    all its retries exactly when its counter stands at zero. -/
theorem retry_budget_iff {r : DsRun} (h : Reach dsSys r)
    (hempty : r.sm.mSubscribers = []) :
    RetryBudget r ↔ r.sm.mRetries = 0 := by
  have hlaw := dsLaw_reach h
  have hrel : r.sm.mStatePtr = .Released := by
    by_contra hne
    exact hlaw.wanted hne hempty
  -- in any case the retries are what the counter leaves
  have hpaced : Paced (4 - r.sm.mRetries.toNat) r.sm.mRetries.toNat [] := by
    have hk := hlaw.retries
    exact Or.inr ⟨rfl, rfl, by show _ = 4 + 0; omega⟩
  have hbudget : ∀ {l r'},
      (∀ a ∈ l, a.2.openResult = LOC_API_ADAPTER_ERR_ENGINE_BUSY) →
      exec dsSys r l = some r' →
      Budget (4 - r.sm.mRetries.toNat) (newCalls r.sm r'.sm) := by
    intro l r' hbusy hrun
    obtain ⟨ds, hcalls, hk, hds⟩ := paced_run l hlaw hrel hbusy hrun hpaced
    rw [newCalls, hcalls, List.drop_left]
    exact hds.budget hk
  constructor
  · intro hall
    have hbusy : ∀ a ∈ List.replicate 5 (DsAction.subscribeRsrc 0, busy),
        a.2.openResult = LOC_API_ADAPTER_ERR_ENGINE_BUSY := by
      intro a ha
      rw [List.eq_of_mem_replicate ha]
      rfl
    obtain ⟨r', cs, hrun, hcalls, hfive⟩ :=
      subscribes_start 0 (o := busy) rfl 5 hlaw hrel
    have hfull := (hall 0 busy _ r' hbusy hrun).retries
    have hleft := (hbudget hbusy hrun).retries
    rw [newCalls, hcalls, List.drop_left, hfive] at hfull hleft
    rw [show MAX_START_DATA_CALL_RETRIES.toNat = 4 from rfl] at hfull
    have hzero : r.sm.mRetries.toNat = 0 := by omega
    exact UInt8.toNat_inj.mp hzero
  · intro hzero ID o l r' hbusy hrun
    have hleft := hbudget hbusy hrun
    rw [hzero] at hleft
    exact hleft

end Ds

/-- Handle 1 finds the engine busy once, has its data call at the second
    attempt and releases it. -/
def busyOnce : List (DsAction × Outside) :=
  [(.subscribeRsrc 1, busy), (.retryCallback, started),
   (.resubscribe, started), (.onRsrcEvent .RSRC_GRANTED, started),
   (.unsubscribeRsrc 1, started), (.onRsrcEvent .RSRC_RELEASED, started)]

/-- Handle 2 finds it busy at every attempt. -/
def busyAlways : List (DsAction × Outside) :=
  [(.subscribeRsrc 2, busy), (.retryCallback, busy), (.resubscribe, busy),
   (.retryCallback, busy), (.resubscribe, busy), (.retryCallback, busy),
   (.resubscribe, busy)]

/-- A new machine gives handle 2 all its retries. -/
theorem retry_budget_new :
    dsNew.sm.mSubscribers = [] ∧
      @RetryBudget (codeEquals (fun _ => [])) dsNew :=
  ⟨rfl, (@retry_budget_iff (codeEquals (fun _ => [])) _ (.init rfl)
    rfl).mpr rfl⟩

/-- After the session of handle 1 it falls back after three. -/
theorem retries_missing :
    ¬ (∀ r, Reach (@dsSys (codeEquals (fun _ => []))) r →
      r.sm.mSubscribers = [] → @RetryBudget (codeEquals (fun _ => [])) r) := by
  intro hall
  let _ : SubscriberEquals := codeEquals (fun _ => [])
  have hrun : (exec dsSys dsNew busyOnce).map
      (fun r => (r.sm.mSubscribers, (exec dsSys r busyAlways).map (fun r' =>
        (starts (newCalls r.sm r'.sm), (newCalls r.sm r'.sm).any fallback))))
      = some ([], some (4, true)) := by decide +kernel
  obtain ⟨r, hr, hend⟩ := Option.map_eq_some_iff.mp hrun
  obtain ⟨r', hr', hcalls⟩ := Option.map_eq_some_iff.mp
    (congrArg Prod.snd hend)
  have hbusy : ∀ a ∈ busyAlways,
      a.2.openResult = LOC_API_ADAPTER_ERR_ENGINE_BUSY := by decide
  have hbudget := hall r (reach_exec busyOnce (.init rfl) hr)
    (congrArg Prod.fst hend) 2 busy _ r' hbusy hr'
  have hstarts : starts (newCalls r.sm r'.sm) = 4 := congrArg Prod.fst hcalls
  have hfour := hbudget.falls.mp (congrArg Prod.snd hcalls)
  rw [hstarts] at hfour
  exact absurd hfour (by decide)

end QcomAgps
