import Mathlib.Logic.Function.Basic
import Mathlib.Logic.Equiv.Basic

/-! # Who frees what

    A memory of buffers, and variables that point to them.  Every pointer is
    to a live buffer and no two point to the same one (`Owned`); if nothing
    leaks, every live buffer has its pointer (`Covered`).

    What an operation may do to the buffer of one variable is its `Effect`;
    effects compose (`Effect.trans`), and an operation with an effect keeps
    the ownership of all variables (`owned_effect`), as do a move between two
    variables (`owned_move`) and a swap (`owned_swap`). -/

namespace QcomOwnership

variable {C R : Type}

/-- The live buffers with what is in them, the next that will be allocated,
    and whether one was used that was not there. -/
structure Mem (C : Type) where
  heap : Nat → Option C
  next : Nat
  bad : Bool

namespace Mem

/-- A new buffer; `none` where there is no memory. -/
def allocate (m : Mem C) : Option C → Option Nat × Mem C
  | none => (none, m)
  | some c =>
      (some m.next, { m with
        heap := Function.update m.heap m.next (some c)
        next := m.next + 1 })

/-- A buffer is freed; one that is not live must not be. -/
def free (m : Mem C) (a : Nat) : Mem C :=
  if (m.heap a).isSome then { m with heap := Function.update m.heap a none }
  else { m with bad := true }

/-- What is in a buffer is replaced. -/
def write (m : Mem C) (a : Nat) (c : C) : Mem C :=
  if (m.heap a).isSome then
    { m with heap := Function.update m.heap a (some c) }
  else { m with bad := true }

/-- A buffer is read. -/
def touch (m : Mem C) (a : Nat) : Mem C :=
  if (m.heap a).isSome then m else { m with bad := true }

theorem touch_live {m : Mem C} {a : Nat} (h : (m.heap a).isSome) :
    m.touch a = m := if_pos h

end Mem

/-- The buffers that are live are those allocated so far. -/
def Bounded (m : Mem C) : Prop := ∀ a, (m.heap a).isSome → a < m.next

/-- A pointer that is not dangling. -/
def Live (m : Mem C) (b : Option Nat) : Prop := ∀ a ∈ b, (m.heap a).isSome

theorem live_none (m : Mem C) : Live m none :=
  fun _ ha => absurd ha (Option.not_mem_none _)

/-- What may happen to the memory when a variable goes from `b` to `b'`: no
    other buffer is touched, and the new one is the old or was not there. -/
structure Effect (m : Mem C) (b : Option Nat) (m' : Mem C) (b' : Option Nat) :
    Prop where
  bad : m'.bad = m.bad
  bounded : Bounded m'
  frame : ∀ a, (m.heap a).isSome → b ≠ some a → m'.heap a = m.heap a
  live : Live m' b'
  origin : ∀ a ∈ b', b = some a ∨ m.heap a = none

/-- Nothing leaks: what is live was so under other pointers, or is pointed
    to. -/
def Tight (m : Mem C) (b : Option Nat) (m' : Mem C) (b' : Option Nat) : Prop :=
  ∀ a, (m'.heap a).isSome → ((m.heap a).isSome ∧ b ≠ some a) ∨ b' = some a

variable {m m' m'' : Mem C} {b b' b'' : Option Nat}

theorem Effect.refl (hm : Bounded m) (h : Live m b) : Effect m b m b where
  bad := rfl
  bounded := hm
  frame _ _ _ := rfl
  live := h
  origin _ ha := .inl ha

theorem Tight.refl : Tight m b m b := by
  intro a ha
  by_cases hb : b = some a
  · exact .inr hb
  · exact .inl ⟨ha, hb⟩

/-- One effect after the other. -/
theorem Effect.trans (h : Effect m b m' b') (h' : Effect m' b' m'' b'') :
    Effect m b m'' b'' where
  bad := h'.bad.trans h.bad
  bounded := h'.bounded
  frame a ha hb := by
    have hsame := h.frame a ha hb
    have hb' : b' ≠ some a := fun hb' =>
      (h.origin a hb').elim hb fun hnone => by simp [hnone] at ha
    rw [h'.frame a (hsame ▸ ha) hb', hsame]
  live := h'.live
  origin a ha := by
    rcases h'.origin a ha with hb' | hnone
    · exact h.origin a hb'
    · by_contra hnot
      rw [not_or] at hnot
      have hlive : (m.heap a).isSome := Option.isSome_iff_ne_none.mpr hnot.2
      rw [h.frame a hlive hnot.1] at hnone
      exact hnot.2 hnone

theorem Tight.trans (h : Tight m b m' b') (h' : Tight m' b' m'' b'') :
    Tight m b m'' b'' := by
  intro a ha
  rcases h' a ha with ⟨hlive, hb'⟩ | hb''
  · exact (h a hlive).elim .inl fun hb => absurd hb hb'
  · exact .inr hb''

/-- A buffer for a second variable, and then what happens to the first, which
    ends empty and is given the second. -/
theorem Effect.beside (h : Effect m none m' b') (hb : Live m b)
    (h' : Effect m' b m'' none) : Effect m b m'' b' := by
  have hnew : ∀ a ∈ b', m.heap a = none := fun a ha =>
    (h.origin a ha).elim (nomatch ·) id
  have hapart : ∀ a ∈ b', b ≠ some a := fun a ha hba => by
    have hlive := hb a hba
    simp [hnew a ha] at hlive
  refine ⟨h'.bad.trans h.bad, h'.bounded, ?_, ?_, fun a ha => .inr (hnew a ha)⟩
  · intro a ha hba
    have hsame := h.frame a ha nofun
    rw [h'.frame a (hsame ▸ ha) hba, hsame]
  · intro a ha
    rw [h'.frame a (h.live a ha) (hapart a ha)]
    exact h.live a ha

theorem Tight.beside (h : Tight m none m' b') (h' : Tight m' b m'' none) :
    Tight m b m'' b' := by
  intro a ha
  rcases h' a ha with ⟨hlive, hba⟩ | hnone
  · exact (h a hlive).imp (fun h => ⟨h.1, hba⟩) id
  · exact nomatch hnone

/-! ## The operations -/

/-- An allocation for an empty variable. -/
theorem effect_allocate (hm : Bounded m) (c : Option C) :
    Effect m none (m.allocate c).2 (m.allocate c).1
      ∧ Tight m none (m.allocate c).2 (m.allocate c).1 := by
  cases c with
  | none => exact ⟨.refl hm (fun _ h => nomatch h), .refl⟩
  | some c =>
      have hfresh : m.heap m.next = none := by
        by_contra h
        exact Nat.lt_irrefl _ (hm _ (Option.isSome_iff_ne_none.mpr h))
      have hother : ∀ a, a ≠ m.next →
          (m.allocate (some c)).2.heap a = m.heap a := fun a ha =>
        Function.update_of_ne ha _ _
      have hself : (m.allocate (some c)).2.heap m.next = some c :=
        Function.update_self _ _ _
      constructor
      · refine ⟨rfl, ?_, ?_, ?_, ?_⟩
        · intro a ha
          by_cases hnext : a = m.next
          · exact hnext ▸ Nat.lt_succ_self _
          · rw [hother a hnext] at ha
            exact Nat.lt_succ_of_lt (hm a ha)
        · intro a ha _
          exact hother a (Nat.ne_of_lt (hm a ha))
        · rintro _ ⟨⟩
          rw [hself]
          rfl
        · rintro _ ⟨⟩
          exact .inr hfresh
      · intro a ha
        by_cases hnext : a = m.next
        · exact .inr (hnext ▸ rfl)
        · rw [hother a hnext] at ha
          exact .inl ⟨ha, nofun⟩

/-- The buffer of a variable is freed and the variable emptied. -/
theorem effect_free {a : Nat} (hm : Bounded m) (h : (m.heap a).isSome) :
    Effect m (some a) (m.free a) none ∧ Tight m (some a) (m.free a) none := by
  have hfree : m.free a = { m with heap := Function.update m.heap a none } :=
    if_pos h
  have hother : ∀ x, x ≠ a → (m.free a).heap x = m.heap x := fun x hx => by
    rw [hfree]
    exact Function.update_of_ne hx _ _
  have hself : (m.free a).heap a = none := by
    rw [hfree]
    exact Function.update_self _ _ _
  have hlive : ∀ x, ((m.free a).heap x).isSome → x ≠ a := by
    rintro x hx rfl
    simp [hself] at hx
  constructor
  · refine ⟨by rw [hfree], ?_, ?_, (fun _ h => nomatch h),
      fun _ h => nomatch h⟩
    · intro x hx
      rw [hother x (hlive x hx)] at hx
      rw [hfree]
      exact hm x hx
    · exact fun x _ hx => hother x fun hxa => hx (hxa ▸ rfl)
  · intro x hx
    have hxa := hlive x hx
    rw [hother x hxa] at hx
    exact .inl ⟨hx, fun h => hxa (Option.some.inj h).symm⟩

/-- What is in the buffer of a variable is replaced. -/
theorem effect_write {a : Nat} (hm : Bounded m) (h : (m.heap a).isSome)
    (c : C) : Effect m (some a) (m.write a c) (some a)
      ∧ Tight m (some a) (m.write a c) (some a) := by
  have hwrite : m.write a c
      = { m with heap := Function.update m.heap a (some c) } := if_pos h
  have hother : ∀ x, x ≠ a → (m.write a c).heap x = m.heap x := fun x hx => by
    rw [hwrite]
    exact Function.update_of_ne hx _ _
  have hself : (m.write a c).heap a = some c := by
    rw [hwrite]
    exact Function.update_self _ _ _
  constructor
  · refine ⟨by rw [hwrite], ?_, ?_, ?_, fun x hx => .inl hx⟩
    · intro x hx
      rw [hwrite]
      by_cases hxa : x = a
      · exact hm x (hxa ▸ h)
      · rw [hother x hxa] at hx
        exact hm x hx
    · exact fun x _ hx => hother x fun hxa => hx (hxa ▸ rfl)
    · rintro _ ⟨⟩
      rw [hself]
      rfl
  · intro x hx
    by_cases hxa : x = a
    · exact .inr (hxa ▸ rfl)
    · rw [hother x hxa] at hx
      exact .inl ⟨hx, fun h => hxa (Option.some.inj h).symm⟩

/-- A variable is emptied, and its buffer left as it is. -/
theorem effect_forget (hm : Bounded m) : Effect m b m none where
  bad := rfl
  bounded := hm
  frame _ _ _ := rfl
  live _ h := nomatch h
  origin _ h := nomatch h

/-! ## All variables -/

/-- No pointer dangles, and no two are the same. -/
structure Owned (m : Mem C) (v : R → Option Nat) : Prop where
  bad : m.bad = false
  bounded : Bounded m
  live : ∀ r, Live m (v r)
  unique : ∀ r r' a, v r = some a → v r' = some a → r = r'

/-- Every live buffer has a pointer. -/
def Covered (m : Mem C) (v : R → Option Nat) : Prop :=
  ∀ a, (m.heap a).isSome → ∃ r, v r = some a

variable {v : R → Option Nat} [DecidableEq R]

/-- **OWNERSHIP** is kept by an operation on one variable. -/
theorem owned_effect (h : Owned m v) {r : R} (he : Effect m (v r) m' b') :
    Owned m' (Function.update v r b') := by
  have hother : ∀ r' a, r' ≠ r → v r' = some a →
      m'.heap a = m.heap a ∧ b' ≠ some a := by
    intro r' a hr hv
    have hlive := h.live r' a hv
    have hne : v r ≠ some a := fun hva => hr (h.unique r' r a hv hva)
    refine ⟨he.frame a hlive hne, fun hb' => ?_⟩
    exact (he.origin a hb').elim hne fun hnone => by simp [hnone] at hlive
  refine ⟨he.bad.trans h.bad, he.bounded, ?_, ?_⟩
  · intro r' a ha
    by_cases hr : r' = r
    · subst hr
      rw [Function.update_self] at ha
      exact he.live a ha
    · rw [Function.update_of_ne hr] at ha
      exact (hother r' a hr ha).1 ▸ h.live r' a ha
  · intro r₁ r₂ a h₁ h₂
    by_cases hr₁ : r₁ = r <;> by_cases hr₂ : r₂ = r
    · exact hr₁.trans hr₂.symm
    · rw [hr₁, Function.update_self] at h₁
      rw [Function.update_of_ne hr₂] at h₂
      exact absurd h₁ (hother r₂ a hr₂ h₂).2
    · rw [Function.update_of_ne hr₁] at h₁
      rw [hr₂, Function.update_self] at h₂
      exact absurd h₂ (hother r₁ a hr₁ h₁).2
    · rw [Function.update_of_ne hr₁] at h₁
      rw [Function.update_of_ne hr₂] at h₂
      exact h.unique r₁ r₂ a h₁ h₂

theorem covered_effect (h : Covered m v) {r : R} (ht : Tight m (v r) m' b') :
    Covered m' (Function.update v r b') := by
  intro a ha
  rcases ht a ha with ⟨hlive, hne⟩ | hb'
  · obtain ⟨r', hr'⟩ := h a hlive
    have hr : r' ≠ r := fun heq => hne (heq ▸ hr')
    exact ⟨r', (Function.update_of_ne hr _ _).trans hr'⟩
  · exact ⟨r, (Function.update_self _ _ _).trans hb'⟩

/-- **A MOVE** from one variable to another. -/
theorem owned_move (h : Owned m v) {r r' : R} :
    Owned m (Function.update (Function.update v r none) r' (v r)) := by
  have hcases : ∀ x a,
      Function.update (Function.update v r none) r' (v r) x = some a →
      (x = r' ∧ v r = some a) ∨ (x ≠ r' ∧ x ≠ r ∧ v x = some a) := by
    intro x a hx
    by_cases hr' : x = r'
    · rw [hr', Function.update_self] at hx
      exact .inl ⟨hr', hx⟩
    · rw [Function.update_of_ne hr'] at hx
      by_cases hr : x = r
      · rw [hr, Function.update_self] at hx
        exact nomatch hx
      · rw [Function.update_of_ne hr] at hx
        exact .inr ⟨hr', hr, hx⟩
  refine ⟨h.bad, h.bounded, ?_, ?_⟩
  · intro x a hx
    rcases hcases x a hx with ⟨_, ha⟩ | ⟨_, _, ha⟩
    · exact h.live r a ha
    · exact h.live x a ha
  · intro x y a hx hy
    rcases hcases x a hx with ⟨hxr, ha⟩ | ⟨_, hxr, ha⟩ <;>
      rcases hcases y a hy with ⟨hyr, ha'⟩ | ⟨_, hyr, ha'⟩
    · exact hxr.trans hyr.symm
    · exact absurd (h.unique y r a ha' ha) hyr
    · exact absurd (h.unique x r a ha ha') hxr
    · exact h.unique x y a ha ha'

/-- Nothing leaks if the other was empty. -/
theorem covered_move (h : Covered m v) {r r' : R} (hempty : v r' = none) :
    Covered m (Function.update (Function.update v r none) r' (v r)) := by
  intro a ha
  obtain ⟨x, hx⟩ := h a ha
  by_cases hr : x = r
  · exact ⟨r', by rw [Function.update_self, ← hr, hx]⟩
  · have hr' : x ≠ r' := fun heq => by rw [heq, hempty] at hx; exact nomatch hx
    exact ⟨x, by rw [Function.update_of_ne hr', Function.update_of_ne hr, hx]⟩

/-- **A SWAP** of two variables. -/
theorem owned_swap (h : Owned m v) (r r' : R) :
    Owned m (v ∘ Equiv.swap r r') := by
  refine ⟨h.bad, h.bounded, fun x => h.live _, fun x y a hx hy => ?_⟩
  exact (Equiv.swap r r').injective (h.unique _ _ a hx hy)

theorem covered_swap (h : Covered m v) (r r' : R) :
    Covered m (v ∘ Equiv.swap r r') := by
  intro a ha
  obtain ⟨x, hx⟩ := h a ha
  refine ⟨Equiv.swap r r' x, ?_⟩
  rw [Function.comp_apply, Equiv.swap_apply_self]
  exact hx

end QcomOwnership
