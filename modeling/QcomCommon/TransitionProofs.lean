import Mathlib.Data.List.Basic

/-! # Transition systems and runs whose steps meet a condition

    A system is a set of initial states and a partial step function; every
    choice the environment makes is part of the action.  `ReachUnder G` are
    the states of the runs whose every step meets `G`: with `G` true it is
    plain reachability, with a condition on the inputs it is what a
    conditional safety result quantifies over.

    The invariant rule is stated once (`reachUnder_inv`) and a second time
    relative to facts already known of the same runs (`reachUnder_inv_of`).
    `exec` computes a run and `StepsMeet` decides whether its steps meet the
    condition, so that reachability of a given state is evaluated; where
    every other step ends badly, the condition is exact
    (`holdsAlong_iff_stepsMeet`).  A system refines another by a map of
    states that takes its steps to steps (`reachUnder_map`).  What a claim
    says of the past is kept in a history variable beside the state
    (`watched`). -/

namespace QcomTransition

variable {S A : Type}

/-- A labelled transition system: `step s a = none` where the action `a` is
    not enabled in `s`. -/
structure TransSys (S A : Type) where
  init : S → Prop
  step : S → A → Option S

/-- The states of the runs whose every step meets `G`. -/
inductive ReachUnder (M : TransSys S A) (G : S → A → Prop) : S → Prop where
  | init {s : S} (h : M.init s) : ReachUnder M G s
  | step {s s' : S} {a : A} (hr : ReachUnder M G s) (hg : G s a)
      (hs : M.step s a = some s') : ReachUnder M G s'

/-- The condition every step meets. -/
def anyStep (_ : S) (_ : A) : Prop := True

/-- The reachable states. -/
def Reach (M : TransSys S A) : S → Prop := ReachUnder M anyStep

/-- **INVARIANT RULE**: what the initial states have and the steps under `G`
    keep, every state of such a run has. -/
theorem reachUnder_inv {M : TransSys S A} {G : S → A → Prop} {I : S → Prop}
    (hinit : ∀ s, M.init s → I s)
    (hstep : ∀ s a s', I s → G s a → M.step s a = some s' → I s')
    {s : S} (h : ReachUnder M G s) : I s := by
  induction h with
  | init h => exact hinit _ h
  | step _ hg hs ih => exact hstep _ _ _ ih hg hs

/-- The invariant rule relative to a fact `J` of the same runs. -/
theorem reachUnder_inv_of {M : TransSys S A} {G : S → A → Prop}
    {I J : S → Prop} (hJ : ∀ s, ReachUnder M G s → J s)
    (hinit : ∀ s, M.init s → I s)
    (hstep : ∀ s a s', J s → I s → G s a → M.step s a = some s' → I s')
    {s : S} (h : ReachUnder M G s) : I s := by
  induction h with
  | init h => exact hinit _ h
  | step hr hg hs ih => exact hstep _ _ _ (hJ _ hr) ih hg hs

/-- A weaker condition admits more runs. -/
theorem reachUnder_mono {M : TransSys S A} {G G' : S → A → Prop}
    (hG : ∀ s a, G s a → G' s a) {s : S} (h : ReachUnder M G s) :
    ReachUnder M G' s := by
  induction h with
  | init h => exact .init h
  | step _ hg hs ih => exact .step ih (hG _ _ hg) hs

theorem reach_of_reachUnder {M : TransSys S A} {G : S → A → Prop} {s : S}
    (h : ReachUnder M G s) : Reach M s :=
  reachUnder_mono (fun _ _ _ => trivial) h

/-- **REFINEMENT RULE**: a map that takes the initial states of a system to
    those of another and each step, where the states have `I`, to a step of
    it, takes the runs of the one to runs of the other. -/
theorem reachUnder_map {T B : Type} {M : TransSys S A} {N : TransSys T B}
    {G : S → A → Prop} {H : T → B → Prop} {I : S → Prop} {f : S → T}
    (hI : ∀ s, ReachUnder M G s → I s)
    (hinit : ∀ s, M.init s → N.init (f s))
    (hstep : ∀ s a s', I s → G s a → M.step s a = some s' →
      ∃ b, H (f s) b ∧ N.step (f s) b = some (f s'))
    {s : S} (h : ReachUnder M G s) : ReachUnder N H (f s) := by
  induction h with
  | init h => exact .init (hinit _ h)
  | step hr hg hs ih =>
      obtain ⟨b, hb, hs'⟩ := hstep _ _ _ (hI _ hr) hg hs
      exact .step ih hb hs'

/-- Execute a list of actions. -/
def exec (M : TransSys S A) : S → List A → Option S
  | s, [] => some s
  | s, a :: l => (M.step s a).bind (fun s' => exec M s' l)

/-- Every step of the run from `s` meets `G`. -/
def StepsMeet (M : TransSys S A) (G : S → A → Prop) : S → List A → Prop
  | _, [] => True
  | s, a :: l => ∀ s' ∈ M.step s a, G s a ∧ StepsMeet M G s' l

instance decidableStepsMeet (M : TransSys S A) (G : S → A → Prop)
    [∀ s a, Decidable (G s a)] :
    ∀ (l : List A) (s : S), Decidable (StepsMeet M G s l)
  | [], _ => isTrue trivial
  | a :: l, s =>
      have : ∀ s', Decidable (StepsMeet M G s' l) :=
        decidableStepsMeet M G l
      inferInstanceAs
        (Decidable (∀ s' ∈ M.step s a, G s a ∧ StepsMeet M G s' l))

/-- Every state of the run from `s` has `P`. -/
def HoldsAlong (M : TransSys S A) (P : S → Prop) : S → List A → Prop
  | s, [] => P s
  | s, a :: l => P s ∧ ∀ s' ∈ M.step s a, HoldsAlong M P s' l

/-- A run keeps `P` to its end. -/
theorem HoldsAlong.head {M : TransSys S A} {P : S → Prop} {s : S} :
    ∀ {l : List A}, HoldsAlong M P s l → P s
  | [], h => h
  | _ :: _, h => h.1

/-- And at its end. -/
theorem HoldsAlong.last {M : TransSys S A} {P : S → Prop} :
    ∀ {l : List A} {s s' : S}, HoldsAlong M P s l → exec M s l = some s' →
      P s' := by
  intro l
  induction l with
  | nil =>
      intro s s' h hs
      exact Option.some.inj hs ▸ h
  | cons a l ih =>
      intro s s' h hs
      obtain ⟨t, hst, hrest⟩ := Option.bind_eq_some_iff.mp hs
      exact ih (h.2 t hst) hrest

/-- **EXACT CONDITION**: where `I` is kept by the steps that meet `G` and
    gives `P`, and a step that does not meet `G` ends outside `P`, the runs
    along which `P` holds are those whose every step meets `G`. -/
theorem holdsAlong_iff_stepsMeet {M : TransSys S A} {G : S → A → Prop}
    {I P : S → Prop} (hIP : ∀ s, I s → P s)
    (hstep : ∀ s a s', I s → G s a → M.step s a = some s' → I s')
    (hbad : ∀ s a s', I s → ¬ G s a → M.step s a = some s' → ¬ P s')
    (l : List A) {s : S} (h : I s) :
    HoldsAlong M P s l ↔ StepsMeet M G s l := by
  induction l generalizing s with
  | nil => exact ⟨fun _ => trivial, fun _ => hIP s h⟩
  | cons a l ih =>
      constructor
      · rintro ⟨_, hrest⟩ s' hs
        -- a step off the condition ends outside P, but the run keeps P
        have hg : G s a := by
          by_contra hg
          exact hbad s a s' h hg hs (hrest s' hs).head
        exact ⟨hg, (ih (hstep s a s' h hg hs)).mp (hrest s' hs)⟩
      · intro hmeet
        refine ⟨hIP s h, ?_⟩
        intro s' hs
        obtain ⟨hg, hrest⟩ := hmeet s' hs
        exact (ih (hstep s a s' h hg hs)).mpr hrest

/-- Two conditions that agree where the invariant holds are met by the same
    runs. -/
theorem stepsMeet_congr {M : TransSys S A} {G A₁ A₂ : S → A → Prop}
    {I : S → Prop}
    (hstep : ∀ s a s', I s → G s a → M.step s a = some s' → I s')
    (hiff : ∀ s a, I s → G s a → (A₁ s a ↔ A₂ s a)) :
    ∀ (l : List A) {s : S}, I s → (∀ a ∈ l, ∀ s, G s a) →
      (StepsMeet M A₁ s l ↔ StepsMeet M A₂ s l) := by
  intro l
  induction l with
  | nil => exact fun _ _ => Iff.rfl
  | cons a l ih =>
      intro s hs hl
      have ha : G s a := hl a List.mem_cons_self s
      have hrest : ∀ b ∈ l, ∀ s, G s b := fun b hb =>
        hl b (List.mem_cons_of_mem a hb)
      exact forall₂_congr fun s' hs' => and_congr (hiff s a hs ha)
        (ih (hstep s a s' hs ha hs') hrest)

/-- What every step keeps, a run keeps. -/
theorem exec_inv {M : TransSys S A} {I : S → Prop}
    (hI : ∀ s a s', I s → M.step s a = some s' → I s') :
    ∀ (l : List A) {s s' : S}, I s → exec M s l = some s' → I s' := by
  intro l
  induction l with
  | nil =>
      intro s s' hi h
      exact Option.some.inj h ▸ hi
  | cons a l ih =>
      intro s s' hi h
      obtain ⟨t, hst, hrest⟩ := Option.bind_eq_some_iff.mp h
      exact ih (hI _ _ _ hi hst) hrest

/-- **EXACT STEPS, EXACT RUNS**: where a step ends in `P` if and only if it
    began in `P` and met the condition, so does a run. -/
theorem exec_iff_of_step_iff {M : TransSys S A} {G : S → A → Prop}
    {I P : S → Prop} (hI : ∀ s a s', I s → M.step s a = some s' → I s')
    (hstep : ∀ s a s', I s → M.step s a = some s' → (P s' ↔ P s ∧ G s a)) :
    ∀ (l : List A) {s s' : S}, I s → exec M s l = some s' →
      (P s' ↔ P s ∧ StepsMeet M G s l) := by
  intro l
  induction l with
  | nil =>
      intro s s' _ h
      cases h
      exact ⟨fun h => ⟨h, trivial⟩, fun h => h.1⟩
  | cons a l ih =>
      intro s s' hi h
      obtain ⟨t, hst, hrest⟩ := Option.bind_eq_some_iff.mp h
      rw [ih (hI _ _ _ hi hst) hrest, hstep _ _ _ hi hst]
      constructor
      · rintro ⟨⟨hp, hg⟩, hmeet⟩
        refine ⟨hp, fun t' ht' => ?_⟩
        obtain rfl := Option.some.inj (hst.symm.trans ht')
        exact ⟨hg, hmeet⟩
      · rintro ⟨hp, hmeet⟩
        obtain ⟨hg, hmeet⟩ := hmeet t hst
        exact ⟨⟨hp, hg⟩, hmeet⟩

/-- **GOOD RUNS AND BAD RUNS**: where a step off the condition leads from a
    good state to a bad one, and bad states stay bad, a run from a good state
    ends in a good one if its every step meets the condition, and in a bad
    one if not. -/
theorem exec_good_or_bad {M : TransSys S A} {G : S → A → Prop}
    {I Good Bad : S → Prop}
    (hI : ∀ s a s', I s → M.step s a = some s' → I s')
    (hgood : ∀ s a s', I s → Good s → G s a → M.step s a = some s' → Good s')
    (hbad : ∀ s a s', I s → Good s → ¬ G s a → M.step s a = some s' → Bad s')
    (hstay : ∀ s a s', I s → Bad s → M.step s a = some s' → Bad s') :
    ∀ (l : List A) {s s' : S}, I s → Good s → exec M s l = some s' →
      (StepsMeet M G s l ∧ Good s') ∨ (¬ StepsMeet M G s l ∧ Bad s') := by
  -- once bad, bad to the end
  have hbadrun : ∀ (l : List A) {s s' : S}, I s → Bad s →
      exec M s l = some s' → Bad s' := by
    intro l s s' hi hb h
    refine (exec_inv (I := fun s => I s ∧ Bad s) ?_ l ⟨hi, hb⟩ h).2
    exact fun s a s' h hst => ⟨hI _ _ _ h.1 hst, hstay _ _ _ h.1 h.2 hst⟩
  intro l
  induction l with
  | nil =>
      intro s s' _ hg h
      exact Or.inl ⟨trivial, Option.some.inj h ▸ hg⟩
  | cons a l ih =>
      intro s s' hi hg h
      obtain ⟨t, hst, hrest⟩ := Option.bind_eq_some_iff.mp h
      have hit := hI _ _ _ hi hst
      by_cases hcond : G s a
      · rcases ih hit (hgood _ _ _ hi hg hcond hst) hrest with
          ⟨hmeet, hend⟩ | ⟨hmeet, hend⟩
        · refine Or.inl ⟨fun t' ht' => ?_, hend⟩
          obtain rfl := Option.some.inj (hst.symm.trans ht')
          exact ⟨hcond, hmeet⟩
        · exact Or.inr ⟨fun hall => hmeet (hall t hst).2, hend⟩
      · refine Or.inr ⟨fun hall => hcond (hall t hst).1, ?_⟩
        exact hbadrun l hit (hbad _ _ _ hi hg hcond hst) hrest

theorem stepsMeet_of_forall {M : TransSys S A} {G : S → A → Prop}
    (hG : ∀ s a, G s a) :
    ∀ (l : List A) (s : S), StepsMeet M G s l
  | [], _ => trivial
  | a :: l, s => fun s' _ => ⟨hG s a, stepsMeet_of_forall hG l s'⟩

/-- What `exec` reaches by steps that meet `G` is a state of such a run. -/
theorem reachUnder_exec {M : TransSys S A} {G : S → A → Prop} :
    ∀ (l : List A) {s s' : S}, ReachUnder M G s → StepsMeet M G s l →
      exec M s l = some s' → ReachUnder M G s' := by
  intro l
  induction l with
  | nil =>
      intro s s' hr _ h
      exact Option.some.inj h ▸ hr
  | cons a l ih =>
      intro s s' hr hmeet h
      obtain ⟨t, hst, hrest⟩ := Option.bind_eq_some_iff.mp h
      obtain ⟨hg, hmeet⟩ := hmeet t hst
      exact ih (.step hr hg hst) hmeet hrest

theorem reach_exec {M : TransSys S A} (l : List A) {s s' : S}
    (hr : Reach M s) (h : exec M s l = some s') : Reach M s' :=
  reachUnder_exec l hr (stepsMeet_of_forall (fun _ _ => trivial) l s) h

/-! ## History variables -/

/-- The system with a history variable: `note` keeps it from step to step,
    and no step depends on it. -/
def watched {H : Type} (M : TransSys S A) (start : H)
    (note : H → S → A → S → H) : TransSys (S × H) A where
  init p := M.init p.1 ∧ p.2 = start
  step p a := (M.step p.1 a).map (fun s' => (s', note p.2 p.1 a s'))

theorem watched_step {H : Type} {M : TransSys S A} {start : H}
    {note : H → S → A → S → H} {p p' : S × H} {a : A}
    (h : (watched M start note).step p a = some p') :
    M.step p.1 a = some p'.1 ∧ p'.2 = note p.2 p.1 a p'.1 := by
  obtain ⟨s', hs, rfl⟩ := Option.map_eq_some_iff.mp h
  exact ⟨hs, rfl⟩

end QcomTransition
