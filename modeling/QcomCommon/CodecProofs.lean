import Mathlib.Data.List.Basic

/-! # Values on a stream of words

    A codec writes a value as words and reads it back off the front of a
    stream.  A reader that takes the values of a list one after the other
    gets back the list that was written, or fails with what it does not take
    (`readN_checked`); a loop that takes each value up into a state is a left
    fold over them (`foldN_eq`), as is a loop that checks the elements of a
    list (`foldlM_checked`). -/

namespace QcomCodec

variable {W E α σ : Type}

/-- A reader takes a value off the words, or fails. -/
abbrev Read (W E : Type) := StateT (List W) (Except E)

/-- How a value is written, and the reader that gets it back. -/
structure Codec (W α : Type) where
  Fits : α → Prop
  write : α → List W
  read : List W → Option (α × List W)
  read_write : ∀ a, Fits a → ∀ rest, read (write a ++ rest) = some (a, rest)

/-- What was written is read, and the rest stays. -/
theorem Codec.read_append (c : Codec W α) {a : α} (h : c.Fits a)
    (rest : List W) : c.read (c.write a ++ rest) = some (a, rest) :=
  c.read_write a h rest

/-- `n` values, one after the other. -/
def readN (r : Read W E α) : Nat → Read W E (List α)
  | 0 => pure []
  | n + 1 => do
      let a ← r
      let l ← readN r n
      return a :: l

/-- `n` values, each taken up by `f`. -/
def foldN (r : Read W E α) (f : σ → α → σ) : Nat → σ → Read W E σ
  | 0, s => pure s
  | n + 1, s => do
      let a ← r
      foldN r f n (f s a)

variable {r : Read W E α} {f : σ → α → σ} {w : α → List W}

/-- One value more, at the front. -/
theorem readN_succ_ok {n : Nat} {p p' : List W} {a : α}
    (h : r p = .ok (a, p')) :
    readN r (n + 1) p
      = (readN r n p').map fun q => (a :: q.1, q.2) := by
  show (r p).bind (fun q => (readN r n q.2).bind _) = _
  rw [h]
  show (readN r n p').bind _ = _
  cases readN r n p' <;> rfl

theorem readN_succ_error {n : Nat} {p : List W} {e : E}
    (h : r p = .error e) : readN r (n + 1) p = .error e := by
  show (r p).bind (fun q => (readN r n q.2).bind _) = _
  rw [h]
  rfl

/-- **READING BACK** the values of a list, each of which is checked, and `k`
    values behind them. -/
theorem readN_checked {P : α → Prop} [DecidablePred P] {e : E} {l : List α}
    (h : ∀ a ∈ l, ∀ rest,
      r (w a ++ rest) = if P a then .ok (a, rest) else .error e)
    (k : Nat) (rest : List W) :
    readN r (l.length + k) (l.flatMap w ++ rest)
      = if ∀ a ∈ l, P a then
          (readN r k rest).map fun q => (l ++ q.1, q.2)
        else .error e := by
  induction l with
  | nil =>
      rw [if_pos fun a ha => absurd ha List.not_mem_nil, List.length_nil,
        Nat.zero_add]
      show readN r k rest = _
      cases readN r k rest <;> rfl
  | cons a l ih =>
      have htail := ih fun b hb => h b (List.mem_cons_of_mem a hb)
      have hhead := h a List.mem_cons_self (l.flatMap w ++ rest)
      rw [List.flatMap_cons, List.append_assoc, List.length_cons,
        Nat.add_right_comm]
      by_cases ha : P a
      · rw [if_pos ha] at hhead
        rw [readN_succ_ok hhead, htail]
        simp only [List.forall_mem_cons, ha, true_and]
        split
        · cases readN r k rest <;> rfl
        · rfl
      · have hnot : ¬ ∀ b ∈ a :: l, P b := fun hall =>
          ha (hall a List.mem_cons_self)
        rw [if_neg ha] at hhead
        rw [readN_succ_error hhead, if_neg hnot]

/-- **A READING LOOP** is a fold over the values it reads. -/
theorem foldN_eq (n : Nat) (s : σ) (p : List W) :
    foldN r f n s p
      = (readN r n p).map fun q => (q.1.foldl f s, q.2) := by
  induction n generalizing s p with
  | zero => rfl
  | succ n ih =>
      show (r p).bind (fun q => foldN r f n (f s q.1) q.2) = _
      cases hr : r p with
      | error e =>
          rw [readN_succ_error hr]
          rfl
      | ok q =>
          rw [readN_succ_ok hr]
          show foldN r f n (f s q.1) q.2 = _
          rw [ih]
          cases readN r n q.2 <;> rfl

/-! ## What readers give -/

/-- What a reader gives meets `Q`, and what it fails with meets `F`. -/
structure Gives (r : Read W E α) (Q : α → Prop) (F : E → Prop) : Prop where
  ok : ∀ {p a p'}, r p = .ok (a, p') → Q a
  error : ∀ {p e}, r p = .error e → F e

namespace Gives

variable {Q : α → Prop} {F : E → Prop}

theorem pure {a : α} (h : Q a) : Gives (pure a : Read W E α) Q F where
  ok heq := by cases heq; exact h
  error heq := nomatch heq

/-- One reader after the other. -/
theorem bind {β : Type} {M : α → Prop} {Q : β → Prop} {g : α → Read W E β}
    (hr : Gives r M F) (hg : ∀ a, M a → Gives (g a) Q F) :
    Gives (r >>= g) Q F := by
  have hrun : ∀ p, (r >>= g) p = (r p).bind fun q => g q.1 q.2 := fun _ => rfl
  constructor
  · intro p b p' h
    rw [hrun] at h
    cases hp : r p with
    | error e =>
        rw [hp] at h
        cases h
    | ok q =>
        rw [hp] at h
        exact (hg q.1 (hr.ok hp)).ok h
  · intro p e h
    rw [hrun] at h
    cases hp : r p with
    | error e' =>
        rw [hp] at h
        cases h
        exact hr.error hp
    | ok q =>
        rw [hp] at h
        exact (hg q.1 (hr.ok hp)).error h

theorem ite {c : Prop} [Decidable c] {r' : Read W E α}
    (h : c → Gives r Q F) (h' : ¬ c → Gives r' Q F) :
    Gives (if c then r else r') Q F := by
  by_cases hc : c
  · rw [if_pos hc]
    exact h hc
  · rw [if_neg hc]
    exact h' hc

/-- As many values as asked for, and each meets what one does. -/
theorem readN (h : Gives r Q F) (n : Nat) :
    Gives (readN r n) (fun l => l.length = n ∧ ∀ a ∈ l, Q a) F := by
  induction n with
  | zero => exact pure ⟨rfl, fun _ hmem => absurd hmem List.not_mem_nil⟩
  | succ n ih =>
      refine h.bind fun a ha => ih.bind fun l hl => pure ⟨?_, ?_⟩
      · rw [List.length_cons, hl.1]
      · exact List.forall_mem_cons.mpr ⟨ha, hl.2⟩

end Gives

/-! ## Loops that check -/

/-- **A CHECKING LOOP**: a fold of what all of the list passes, or the one
    error of the check; `I` is what the passes keep. -/
theorem foldlM_checked {α σ E : Type} {step : σ → α → Except E σ}
    {f : σ → α → σ} {P : α → Prop} [DecidablePred P] {I : σ → Prop} {e : E}
    {l : List α} (hkeep : ∀ s a, I s → I (f s a))
    (hstep : ∀ s, I s → ∀ a ∈ l,
      step s a = if P a then .ok (f s a) else .error e)
    {s : σ} (hs : I s) :
    l.foldlM step s
      = if ∀ a ∈ l, P a then .ok (l.foldl f s) else .error e := by
  induction l generalizing s with
  | nil => exact (if_pos fun a h => absurd h List.not_mem_nil).symm
  | cons a l ih =>
      have htail := ih (fun s hs b hb => hstep s hs b (List.mem_cons_of_mem a hb))
        (hkeep s a hs)
      rw [List.foldlM_cons, hstep s hs a List.mem_cons_self]
      by_cases ha : P a
      · rw [if_pos ha]
        show l.foldlM step (f s a) = _
        rw [htail]
        simp only [List.forall_mem_cons, ha, true_and, List.foldl_cons]
      · have hnot : ¬ ∀ b ∈ a :: l, P b := fun h => ha (h a List.mem_cons_self)
        rw [if_neg ha, if_neg hnot]
        rfl

end QcomCodec
