import Mathlib.Data.List.Basic

/-! # Functions that return early

    A function as its statements, one after the other on a state, each of
    which may return.  What a statement meets has a condition for the next
    one and a condition for a return (`Meets`); a list of statements meets
    what its parts do (`Meets.cons`, `Meets.append`). -/

namespace QcomReturn

variable {σ : Type}

/-- Where a statement leaves the function. -/
inductive Outcome (σ : Type) where
  | next (s : σ)
  | returned (s : σ)

/-- The state in either case. -/
def Outcome.state : Outcome σ → σ
  | .next s => s
  | .returned s => s

/-- The conditions after a statement: for the next one, and for a return. -/
def Outcome.Ends (Q R : σ → Prop) : Outcome σ → Prop
  | .next s => Q s
  | .returned s => R s

/-- A statement; it has no result where its behaviour is undefined. -/
abbrev Stmt (σ : Type) := σ → Option (Outcome σ)

/-- A statement that changes the state and goes on. -/
def assign (f : σ → σ) : Stmt σ := fun s => some (.next (f s))

/-- The rest of a function after a statement. -/
def Outcome.andThen (rest : Stmt σ) : Outcome σ → Option (Outcome σ)
  | .next s => rest s
  | .returned s => some (.returned s)

/-- Statements one after the other. -/
def block : List (Stmt σ) → σ → Option (Outcome σ)
  | [], s => some (.next s)
  | f :: rest, s => (f s).bind (Outcome.andThen (block rest))

/-- The state a function leaves. -/
def call (body : List (Stmt σ)) (s : σ) : Option σ :=
  (block body s).map Outcome.state

/-- A statement has a result, and it ends as the conditions say. -/
def Meets (P : σ → Prop) (f : Stmt σ) (Q R : σ → Prop) : Prop :=
  ∀ s, P s → ∃ o, f s = some o ∧ o.Ends Q R

@[simp] theorem block_nil (s : σ) : block [] s = some (.next s) := rfl

/-- A statement that goes on leaves the rest of the block. -/
theorem block_cons_next {f : Stmt σ} {rest : List (Stmt σ)} {s t : σ}
    (h : f s = some (.next t)) : block (f :: rest) s = block rest t := by
  rw [block, h]
  rfl

/-- One that returns leaves nothing of it. -/
theorem block_cons_returned {f : Stmt σ} {rest : List (Stmt σ)} {s t : σ}
    (h : f s = some (.returned t)) :
    block (f :: rest) s = some (.returned t) := by
  rw [block, h]
  rfl

namespace Meets

variable {P Q R : σ → Prop}

/-- An assignment never returns. -/
theorem assign {f : σ → σ} (h : ∀ s, P s → Q (f s)) :
    Meets P (assign f) Q R := fun s hs => ⟨.next (f s), rfl, h s hs⟩

/-- The rule of consequence. -/
theorem weaken {f : Stmt σ} {P' Q' R' : σ → Prop} (h : Meets P f Q R)
    (hP : ∀ s, P' s → P s) (hQ : ∀ s, Q s → Q' s) (hR : ∀ s, R s → R' s) :
    Meets P' f Q' R' := by
  intro s hs
  obtain ⟨o, hf, ho⟩ := h s (hP s hs)
  refine ⟨o, hf, ?_⟩
  cases o with
  | next t => exact hQ t ho
  | returned t => exact hR t ho

theorem nil (h : ∀ s, P s → Q s) : Meets P (block []) Q R :=
  fun s hs => ⟨.next s, rfl, h s hs⟩

/-- **SEQUENCE**: the first statement leads to the condition of the rest. -/
theorem cons {f : Stmt σ} {rest : List (Stmt σ)} {M : σ → Prop}
    (hf : Meets P f M R) (hrest : Meets M (block rest) Q R) :
    Meets P (block (f :: rest)) Q R := by
  intro s hs
  obtain ⟨o, hrun, ho⟩ := hf s hs
  cases o with
  | next t =>
      obtain ⟨o', hrun', ho'⟩ := hrest t ho
      exact ⟨o', (block_cons_next hrun).trans hrun', ho'⟩
  | returned t => exact ⟨.returned t, block_cons_returned hrun, ho⟩

/-- Two lists of statements are one. -/
theorem append {fs gs : List (Stmt σ)} {M : σ → Prop}
    (hfs : Meets P (QcomReturn.block fs) M R)
    (hgs : Meets M (QcomReturn.block gs) Q R) :
    Meets P (QcomReturn.block (fs ++ gs)) Q R := by
  induction fs generalizing P with
  | nil =>
      refine hgs.weaken (fun s hs => ?_) (fun _ h => h) (fun _ h => h)
      obtain ⟨o, hrun, ho⟩ := hfs s hs
      cases hrun
      exact ho
  | cons f fs ih =>
      intro s hs
      obtain ⟨o, hrun, ho⟩ := hfs s hs
      rw [QcomReturn.block] at hrun
      obtain ⟨o', hf, ho'⟩ := Option.bind_eq_some_iff.mp hrun
      rw [List.cons_append]
      cases o' with
      | next t =>
          rw [block_cons_next hf]
          refine ih (P := (· = t)) ?_ t rfl
          rintro _ rfl
          exact ⟨o, ho', ho⟩
      | returned t =>
          cases ho'
          exact ⟨.returned t, block_cons_returned hf, ho⟩

/-- **A CALL** ends where both conditions lead. -/
theorem call {body : List (Stmt σ)} (h : Meets P (QcomReturn.block body) Q Q)
    {s : σ} (hs : P s) : ∃ t, call body s = some t ∧ Q t := by
  obtain ⟨o, hrun, ho⟩ := h s hs
  refine ⟨o.state, ?_, ?_⟩
  · rw [QcomReturn.call, hrun]
    rfl
  · cases o with
    | next t => exact ho
    | returned t => exact ho

end Meets

end QcomReturn
