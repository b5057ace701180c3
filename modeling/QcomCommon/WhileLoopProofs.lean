import Mathlib.Data.List.Basic

/-! # Loops that end by a test or a break

    The body of a loop as one pass, which goes on or leaves.  A pass that has
    no result ends the loop without one.  A loop whose passes count down ends
    where they lead (`loop_rule`); one that never leaves has no result with
    any number of passes (`loop_eq_none`). -/

namespace QcomWhile

variable {S : Type}

/-- Where a pass of a loop leads. -/
inductive Pass (S : Type) where
  | again (s : S)
  | leave (s : S)

/-- At most `n` passes of a loop. -/
def loop (body : S → Option (Pass S)) : Nat → S → Option S
  | 0, _ => none
  | n + 1, s =>
      (body s).bind fun p =>
        match p with
        | .again t => loop body n t
        | .leave t => some t

variable {body : S → Option (Pass S)} {s t : S}

theorem loop_again (h : body s = some (.again t)) (n : Nat) :
    loop body (n + 1) s = loop body n t := by
  rw [loop, h, Option.bind_some]

theorem loop_leave (h : body s = some (.leave t)) (n : Nat) :
    loop body (n + 1) s = some t := by
  rw [loop, h, Option.bind_some]

/-- **LOOP RULE**: the invariant counts the passes that are left.  Where each
    pass from it leaves as `Q` says, or leads to it with one pass less, the
    loop has a result and ends in `Q`. -/
theorem loop_rule {I : Nat → S → Prop} {Q : S → Prop}
    (hleave : ∀ s, I 0 s → ∃ t, body s = some (.leave t) ∧ Q t)
    (hpass : ∀ k s, I (k + 1) s →
      (∃ t, body s = some (.leave t) ∧ Q t) ∨
        ∃ t, body s = some (.again t) ∧ I k t)
    {k n : Nat} (h : I k s) (hn : k < n) :
    ∃ t, loop body n s = some t ∧ Q t := by
  induction n generalizing k s with
  | zero => exact absurd hn (Nat.not_lt_zero k)
  | succ n ih =>
      cases k with
      | zero =>
          obtain ⟨t, hbody, hQ⟩ := hleave s h
          exact ⟨t, loop_leave hbody n, hQ⟩
      | succ k =>
          rcases hpass k s h with ⟨t, hbody, hQ⟩ | ⟨t, hbody, hI⟩
          · exact ⟨t, loop_leave hbody n, hQ⟩
          · rw [loop_again hbody]
            exact ih hI (Nat.lt_of_succ_lt_succ hn)

/-- A loop that goes on until a pass has no result. -/
theorem loop_eq_none {J : S → Prop}
    (hpass : ∀ s, J s → body s = none ∨ ∃ t, body s = some (.again t) ∧ J t)
    (h : J s) (n : Nat) : loop body n s = none := by
  induction n generalizing s with
  | zero => rfl
  | succ n ih =>
      rcases hpass s h with hnone | ⟨t, hbody, hJ⟩
      · rw [loop, hnone, Option.bind_none]
      · rw [loop_again hbody]
        exact ih hJ

end QcomWhile
