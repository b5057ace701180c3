import Mathlib.Data.List.Basic

/-! # Sessions with a service

    A service answers calls one after the other and keeps a state.  A service
    behind a proxy that answers each call as the service does, seen in some
    way, and leaves the same state, gives a whole session the answers of the
    service, seen in that way (`session_view`).  A service behind one who
    answers some calls himself is left as by the others (`session_guarded`).

    A service that dies after some transactions cuts the session in two
    (`session_split`): the answers before are its own, and those behind are
    the ones that a caller of no service gets (`session_cut`), or one who goes
    on with a state of his own (`session_dies`). -/

namespace QcomSession

variable {Q A A' M S T : Type}

/-- The answers to some calls, and the state behind them. -/
def session (f : Q → S → A × S) : List Q → S → List A × S
  | [], s => ([], s)
  | q :: l, s =>
      let r := f q s
      let others := session f l r.2
      (r.1 :: others.1, others.2)

/-- A session is as each of its calls. -/
theorem session_congr {f g : Q → S → A × S} {Fits : Q → Prop}
    (h : ∀ q s, Fits q → g q s = f q s) :
    ∀ (l : List Q) (s : S), (∀ q ∈ l, Fits q) →
      session g l s = session f l s := by
  intro l
  induction l with
  | nil => exact fun _ _ => rfl
  | cons q l ih =>
      intro s hfits
      have hhead := h q s (hfits q List.mem_cons_self)
      have htail := ih (f q s).2 fun q' hq' =>
        hfits q' (List.mem_cons_of_mem q hq')
      simp only [session, hhead, htail]

/-- **A SESSION** with a proxy. -/
theorem session_view {f : Q → S → A × S} {g : Q → S → A' × S}
    {view : Q → A → A'} {Fits : Q → Prop}
    (h : ∀ q s, Fits q → g q s = (view q (f q s).1, (f q s).2)) :
    ∀ (l : List Q) (s : S), (∀ q ∈ l, Fits q) →
      session g l s
        = (List.zipWith view l (session f l s).1, (session f l s).2) := by
  intro l
  induction l with
  | nil => exact fun _ _ => rfl
  | cons q l ih =>
      intro s hfits
      have hhead := h q s (hfits q List.mem_cons_self)
      have htail := ih (f q s).2 fun q' hq' =>
        hfits q' (List.mem_cons_of_mem q hq')
      simp only [session, hhead, htail, List.zipWith_cons_cons]

/-- A service behind one who answers some calls himself. -/
def guarded (refused : Q → Option A) (f : Q → S → A × S) (q : Q) (s : S) :
    A × S :=
  (refused q).elim (f q s) fun a => (a, s)

/-- The service is left as by the calls that get through. -/
theorem session_guarded (refused : Q → Option A) (f : Q → S → A × S)
    (l : List Q) (s : S) :
    (session (guarded refused f) l s).2
      = (session f (l.filter fun q => (refused q).isNone) s).2 := by
  induction l generalizing s with
  | nil => rfl
  | cons q l ih =>
      cases hq : refused q with
      | none =>
          rw [List.filter_cons_of_pos (by rw [hq]; rfl)]
          simp only [session, guarded, hq, Option.elim_none]
          exact ih _
      | some a =>
          rw [List.filter_cons_of_neg (by rw [hq]; exact Bool.false_ne_true)]
          simp only [session, guarded, hq, Option.elim_some]
          exact ih s

/-- How many calls make a transaction, told by the state in front of each. -/
def spent (f : Q → S → A × S) (transacts : Q → S → Bool) : List Q → S → Nat
  | [], _ => 0
  | q :: l, s =>
      (if transacts q s then 1 else 0) + spent f transacts l (f q s).2

theorem spent_const (f : Q → S → A × S) (transacts : Q → Bool) (l : List Q)
    (s : S) : spent f (fun q _ => transacts q) l s = l.countP transacts := by
  induction l generalizing s with
  | nil => rfl
  | cons q l ih => rw [spent, ih, List.countP_cons, Nat.add_comm]

/-- **A SESSION CUT IN TWO**: the proxy `g` is in `state s n` while the
    service is there for `n` more transactions.  Up to the last of them the
    answers are those of the service; what is behind starts with none left. -/
theorem session_split {f : Q → S → A × S} {g : Q → T → A' × T}
    {transacts : Q → S → Bool} {Fits : Q → Prop} (state : S → Nat → T)
    (view : Q → A → A')
    (hlive : ∀ q s n, Fits q → g q (state s (n + 1))
      = (view q (f q s).1,
          state (f q s).2 (if transacts q s then n else n + 1))) :
    ∀ (l : List Q) (s : S) (n : Nat), (∀ q ∈ l, Fits q) →
      ∃ before behind left, l = before ++ behind
        ∧ spent f transacts before s + left = n
        ∧ (behind = [] ∨ left = 0)
        ∧ session g l (state s n)
          = (List.zipWith view before (session f before s).1
              ++ (session g behind (state (session f before s).2 left)).1,
            (session g behind (state (session f before s).2 left)).2) := by
  intro l
  induction l with
  | nil => exact fun _ n _ => ⟨[], [], n, rfl, Nat.zero_add n, .inl rfl, rfl⟩
  | cons q l ih =>
      intro s n hfits
      cases n with
      | zero => exact ⟨[], q :: l, 0, rfl, rfl, .inr rfl, rfl⟩
      | succ n =>
          have hhead := hlive q s n (hfits q List.mem_cons_self)
          obtain ⟨before, behind, left, rfl, hspent, hcut, hsession⟩ :=
            ih (f q s).2 (if transacts q s then n else n + 1)
              fun q' hq' => hfits q' (List.mem_cons_of_mem q hq')
          refine ⟨q :: before, behind, left, rfl, ?_, hcut, ?_⟩
          · rw [spent, Nat.add_assoc, hspent]
            cases transacts q s
            · exact Nat.zero_add (n + 1)
            · exact Nat.add_comm 1 n
          · simp only [session, hhead, hsession, List.zipWith_cons_cons,
              List.cons_append]

/-- Without a service. -/
theorem session_dead {g : Q → S × Nat → A' × (S × Nat)} {dead : Q → A'}
    (hdead : ∀ q s, g q (s, 0) = (dead q, (s, 0))) {l : List Q} {n : Nat}
    (h : l = [] ∨ n = 0) (s : S) :
    session g l (s, n) = (l.map dead, (s, n)) := by
  obtain rfl | rfl := h
  · rfl
  · induction l with
    | nil => rfl
    | cons q l ih => simp only [session, hdead, ih, List.map_cons]

/-- **A SERVICE THAT DIES**: the calls behind get the answers of no service. -/
theorem session_cut {f : Q → S → A × S} {g : Q → S × Nat → A' × (S × Nat)}
    {view : Q → A → A'} {dead : Q → A'} {transacts : Q → Bool}
    {Fits : Q → Prop}
    (hdead : ∀ q s, g q (s, 0) = (dead q, (s, 0)))
    (hlive : ∀ q s n, Fits q → g q (s, n + 1)
      = (view q (f q s).1, ((f q s).2, if transacts q then n else n + 1)))
    (l : List Q) (s : S) (n : Nat) (hfits : ∀ q ∈ l, Fits q) :
    ∃ before behind, l = before ++ behind
      ∧ before.countP transacts ≤ n
      ∧ (behind = [] ∨ before.countP transacts = n)
      ∧ (session g l (s, n)).1
        = List.zipWith view before (session f before s).1
          ++ behind.map dead
      ∧ (session g l (s, n)).2.1 = (session f before s).2 := by
  obtain ⟨before, behind, left, rfl, hspent, hcut, hsession⟩ :=
    session_split Prod.mk view hlive l s n hfits
  rw [spent_const] at hspent
  rw [session_dead hdead hcut] at hsession
  exact ⟨before, behind, rfl, by omega, hcut.imp_right (by omega),
    congrArg Prod.fst hsession, congrArg (fun r => r.2.1) hsession⟩

/-- What a caller with a state of his own sees of no service. -/
theorem session_gone {g : Q → M × (S × Nat) → A × (M × (S × Nat))}
    {dead : Q → M → A × M}
    (hdead : ∀ q m s, g q (m, (s, 0))
      = ((dead q m).1, ((dead q m).2, (s, 0)))) {l : List Q} {n : Nat}
    (h : l = [] ∨ n = 0) (m : M) (s : S) : session g l (m, (s, n))
      = ((session dead l m).1, ((session dead l m).2, (s, n))) := by
  obtain rfl | rfl := h
  · rfl
  · induction l generalizing m with
    | nil => rfl
    | cons q l ih => simp only [session, hdead, ih]

/-- The answers as they are. -/
theorem zipWith_session (f : Q → S → A × S) (l : List Q) (s : S) :
    List.zipWith (fun _ a => a) l (session f l s).1 = (session f l s).1 := by
  induction l generalizing s with
  | nil => rfl
  | cons q l ih => simp only [session, List.zipWith_cons_cons, ih]

/-- **A CALLER WHO GOES ON**: behind the cut he gets what he gets of no
    service, in the state that he is in. -/
theorem session_dies {f : Q → M × S → A × (M × S)}
    {g : Q → M × (S × Nat) → A × (M × (S × Nat))} {dead : Q → M → A × M}
    {transacts : Q → M × S → Bool} {Fits : Q → Prop}
    (hdead : ∀ q m s, g q (m, (s, 0))
      = ((dead q m).1, ((dead q m).2, (s, 0))))
    (hlive : ∀ q (p : M × S) n, Fits q → g q (p.1, (p.2, n + 1))
      = ((f q p).1, ((f q p).2.1,
          ((f q p).2.2, if transacts q p then n else n + 1))))
    (l : List Q) (p : M × S) (n : Nat) (hfits : ∀ q ∈ l, Fits q) :
    ∃ before behind, l = before ++ behind
      ∧ spent f transacts before p ≤ n
      ∧ (behind = [] ∨ spent f transacts before p = n)
      ∧ (session g l (p.1, (p.2, n))).1 = (session f before p).1
        ++ (session dead behind (session f before p).2.1).1
      ∧ (session g l (p.1, (p.2, n))).2.1
        = (session dead behind (session f before p).2.1).2
      ∧ (session g l (p.1, (p.2, n))).2.2.1 = (session f before p).2.2 := by
  obtain ⟨before, behind, left, rfl, hspent, hcut, hsession⟩ :=
    session_split (fun p n => (p.1, (p.2, n))) (fun _ a => a) hlive l p n hfits
  rw [session_gone hdead hcut, zipWith_session] at hsession
  exact ⟨before, behind, rfl, by omega, hcut.imp_right (by omega),
    congrArg Prod.fst hsession, congrArg (fun r => r.2.1) hsession,
    congrArg (fun r => r.2.2.1) hsession⟩

end QcomSession
