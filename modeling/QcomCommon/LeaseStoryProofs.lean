import QcomCommon.LeaseProofs

/-! # What one client hears

    A client that does not linger is watched (`q`), and the words it hears
    are collected from the moment it joins.  While it is on the books it has
    heard `granted` once if the lease is held and nothing otherwise; when it
    is off the books it has heard exactly one last word, and hears no more
    (`Story`).  Every event continues the story (`story_step`). -/

namespace QcomLease

variable {σ : Type} {K : Clients σ} {P : σ → Prop} {q : σ → Bool}

/-- `q` watches one client of the population, one that does not linger. -/
structure Watched (K : Clients σ) (P : σ → Prop) (q : σ → Bool) :
    Prop where
  stays {a : σ} : q a = true → K.lingers a = false
  enter (a : σ) : q (K.enter a) = q a
  retire (a : σ) : q (K.retire a) = q a
  same {a b : σ} : P a → P b → K.same b a = true → q a = true → q b = true

/-- The words the watched client hears. -/
def heard (q : σ → Bool) (ws : List (σ × Word)) : List Word :=
  (ws.filter (fun w => q w.1)).map Prod.snd

/-- The story so far of a client that joined, in phase `p`, with `on` its
    entries on the books. -/
def Story (p : Phase) (on : List σ) (ws : List Word) : Prop :=
  match on with
  | [] => ∃ w, w ≠ Word.granted ∧ (ws = [w] ∨ ws = [.granted, w])
  | [_] => ws = if p = .held then [.granted] else []
  | _ => False

theorem heard_map (l : List σ) (w : Word) :
    heard q (l.map (fun b => (b, w))) = (l.filter q).map (fun _ => w) := by
  induction l with
  | nil => rfl
  | cons a l ih =>
      rw [heard] at ih ⊢
      cases ha : q a with
      | true => simpa [ha] using ih
      | false => simpa [ha] using ih

/-- The watched client is active. -/
theorem Watched.active (hq : Watched K P q) {a : σ} (ha : q a = true) :
    K.active a = true := by
  cases hk : K.active a with
  | true => rfl
  | false =>
      cases (hq.stays ha).symm.trans (K.lingers_of_not_active a hk)

theorem filter_active (hq : Watched K P q) (l : List σ) :
    (l.filter K.active).filter q = l.filter q := by
  rw [List.filter_filter]
  refine List.filter_congr ?_
  intro a _
  cases ha : q a with
  | false => rfl
  | true => rw [hq.active ha, Bool.true_and]

theorem filter_inactive (hq : Watched K P q) (l : List σ) :
    (l.filter (fun a => !K.active a)).filter q = [] := by
  rw [List.filter_filter, List.filter_eq_nil_iff]
  intro a _
  cases ha : q a with
  | false => exact Bool.false_ne_true
  | true =>
      rw [hq.active ha]
      exact Bool.false_ne_true

/-- Another client's joining. -/
theorem filter_add_other (hq : Watched K P q) {a : σ} (ha : q a = false)
    (l : List σ) : (add K a l).filter q = l.filter q := by
  rw [add]
  split
  · rfl
  · have hent : ¬ q (K.enter a) = true := by
      rw [hq.enter, ha]
      exact Bool.false_ne_true
    rw [List.filter_cons_of_neg hent]

/-- The watched client's joining, when it is off the books. -/
theorem filter_add_watched (hq : Watched K P q) {a : σ} (ha : q a = true)
    (hPa : P a) {l : List σ} (hl : ∀ b ∈ l, P b) (hoff : l.filter q = []) :
    (add K a l).filter q = [K.enter a] := by
  have hno : ¬ l.any (fun b => K.same b a) = true := by
    rw [List.any_eq_true]
    rintro ⟨b, hb, hba⟩
    exact List.filter_eq_nil_iff.mp hoff b hb (hq.same hPa (hl b hb) hba ha)
  have hent : q (K.enter a) = true := by
    rw [hq.enter]
    exact ha
  rw [add, if_neg hno, List.filter_cons_of_pos hent, hoff]

theorem settle_phase (hq : Watched K P q) {p : Phase} {l : List σ}
    (h : l.filter q ≠ []) : (settle K p l).1.phase = p := by
  obtain ⟨a, ha⟩ := List.exists_mem_of_ne_nil _ h
  obtain ⟨hal, hqa⟩ := List.mem_filter.mp ha
  have hne : ¬ l.isEmpty = true := by
    rw [List.isEmpty_iff]
    exact List.ne_nil_of_mem hal
  have hact : l.any K.active = true :=
    List.any_eq_true.mpr ⟨a, hal, hq.active hqa⟩
  rw [settle, if_neg hne, if_pos hact]

section Step

variable [DecidableEq σ]

/-- Replacing an entry by another that is watched no more than it. -/
theorem filter_replace {e b : σ} (he : q e = false) (hb : q b = false)
    (l : List σ) : (l.replace e b).filter q = l.filter q := by
  induction l with
  | nil => rfl
  | cons a l ih =>
      by_cases hae : a = e
      · subst hae
        rw [List.replace_cons_self, List.filter_cons, List.filter_cons, he, hb]
        rfl
      · rw [replace_cons_of_ne hae, List.filter_cons, List.filter_cons, ih]

/-- Who leaves takes what `r` selects of the watched entries. -/
theorem filter_strike (hq : Watched K P q) (e : σ) (l : List σ) :
    ∃ r : σ → Bool,
      (strike K e l).filter q = (l.filter q).filter (fun a => !r a) ∧
      heard q (farewell K e l)
        = ((l.filter q).filter r).map (fun _ => Word.left) := by
  rw [strike, farewell]
  by_cases hw : K.lingers e = true
  · rw [if_pos hw, if_pos hw]
    -- who lingers is not watched, so nothing watched goes
    have he : q e = false := by
      cases he : q e with
      | false => rfl
      | true => cases (hq.stays he).symm.trans hw
    refine ⟨fun _ => false, ?_, ?_⟩
    · rw [filter_replace he (by rw [hq.retire]; exact he)]
      exact (List.filter_eq_self.mpr (fun _ _ => rfl)).symm
    · rw [List.filter_eq_nil_iff.mpr (fun _ _ => Bool.false_ne_true)]
      simp [heard, he]
  · rw [if_neg hw, if_neg hw]
    refine ⟨fun b => K.same b e, List.filter_comm _ _ _, ?_⟩
    rw [heard_map, List.filter_comm]

/-- What an event does to the watched entries: they are all granted, or
    those `r` selects are told a last word and go. -/
def Continues (p p' : Phase) (on on' : List σ) (ws : List Word) : Prop :=
  p = .asking ∧ p' = .held ∧ on' = on ∧ ws = on.map (fun _ => .granted) ∨
  ∃ (r : σ → Bool) (w : Word), w ≠ .granted ∧
    on' = on.filter (fun a => !r a) ∧ ws = (on.filter r).map (fun _ => w) ∧
    (on' ≠ [] → (p' = .held ↔ p = .held))

omit [DecidableEq σ] in
theorem continues_quiet {p p' : Phase} {on : List σ}
    (h : on ≠ [] → (p' = .held ↔ p = .held)) :
    Continues p p' on on [] := by
  refine Or.inr ⟨fun _ => false, .left, (fun hw => by cases hw), ?_, ?_, h⟩
  · exact (List.filter_eq_self.mpr (fun _ _ => rfl)).symm
  · rw [List.filter_eq_nil_iff.mpr (fun _ _ => Bool.false_ne_true)]
    rfl

omit [DecidableEq σ] in
theorem continues_last {p p' : Phase} {on : List σ} {w : Word}
    (hw : w ≠ .granted) :
    Continues p p' on [] (on.map (fun _ => w)) := by
  refine Or.inr ⟨fun _ => true, w, hw, ?_, ?_, fun h => absurd rfl h⟩
  · exact (List.filter_eq_nil_iff.mpr (fun _ _ => Bool.false_ne_true)).symm
  · rw [List.filter_eq_self.mpr (fun _ _ => rfl)]

theorem continues_leave (hq : Watched K P q) {p p' : Phase} {e : σ}
    {l : List σ}
    (h : (strike K e l).filter q ≠ [] → (p' = .held ↔ p = .held)) :
    Continues p p' (l.filter q) ((strike K e l).filter q)
      (heard q (farewell K e l)) := by
  obtain ⟨r, hon, hws⟩ := filter_strike hq e l
  exact Or.inr ⟨r, .left, (fun hw => by cases hw), hon, hws, h⟩

omit [DecidableEq σ] in
theorem continues_renew (hq : Watched K P q) {w : Word} (l : List σ) :
    Continues .ending (renew K l).1.phase (l.filter q)
      ((renew K l).1.clients.filter q)
      (heard q ((l.filter (fun b => !K.active b)).map (fun b => (b, w)))) := by
  rw [renew_clients, filter_active hq, heard_map, filter_inactive hq]
  refine continues_quiet (fun _ => ?_)
  rcases renew_ask (K := K) l with ⟨hp, -⟩ | ⟨hp, -⟩
  · rw [hp]
    exact ⟨(fun h => by cases h), fun h => by cases h⟩
  · rw [hp]
    exact ⟨(fun h => by cases h), fun h => by cases h⟩

/-- Every event that is not the watched client's own joining. -/
theorem continues_step (hq : Watched K P q) {L : Lease σ} {e : Event σ}
    (hidle : L.phase = .idle → L.clients = []) (hn : Named P L e)
    (hother : ∀ a, e = .join a → q a = false) :
    Continues L.phase (step K true L e).1.phase (L.clients.filter q)
      ((step K true L e).1.clients.filter q) (heard q (told K L e)) := by
  obtain ⟨p, l⟩ := L
  have hadd : ∀ a, e = .join a → (add K a l).filter q = l.filter q :=
    fun a ha => filter_add_other hq (hother a ha) l
  cases p with
  | idle =>
      have hl : l = [] := hidle rfl
      subst hl
      cases e with
      | join a =>
          show Continues .idle .asking [] ((add K a []).filter q) []
          rw [hadd a rfl]
          exact continues_quiet (fun h => absurd rfl h)
      | leave e => cases hn
      | granted => exact continues_quiet (fun h => absurd rfl h)
      | ended => exact continues_quiet (fun h => absurd rfl h)
      | refused => exact continues_quiet (fun h => absurd rfl h)
  | asking =>
      cases e with
      | join a =>
          show Continues .asking .asking (l.filter q) ((add K a l).filter q) []
          rw [hadd a rfl]
          exact continues_quiet (fun _ => Iff.rfl)
      | leave e =>
          show Continues .asking (settle K .asking (strike K e l)).1.phase
            (l.filter q) ((settle K .asking (strike K e l)).1.clients.filter q)
            (heard q (farewell K e l))
          rw [settle_clients]
          refine continues_leave hq (fun h => ?_)
          rw [settle_phase hq h]
      | granted =>
          refine Or.inl ⟨rfl, rfl, rfl, ?_⟩
          show heard q ((l.filter K.active).map (fun b => (b, .granted))) = _
          rw [heard_map, filter_active hq]
      | ended => exact continues_quiet (fun _ => Iff.rfl)
      | refused =>
          show Continues .asking .idle (l.filter q) []
            (heard q (l.map (fun b => (b, .refused))))
          rw [heard_map]
          exact continues_last (fun h => by cases h)
  | held =>
      cases e with
      | join a =>
          show Continues .held .held (l.filter q) ((add K a l).filter q)
            (heard q (hear K a .granted))
          have hquiet : heard q (hear K a .granted) = [] := by
            rw [hear]
            split
            · simp [heard, hother a rfl]
            · rfl
          rw [hadd a rfl, hquiet]
          exact continues_quiet (fun _ => Iff.rfl)
      | leave e =>
          show Continues .held (settle K .held (strike K e l)).1.phase
            (l.filter q) ((settle K .held (strike K e l)).1.clients.filter q)
            (heard q (farewell K e l))
          rw [settle_clients]
          refine continues_leave hq (fun h => ?_)
          rw [settle_phase hq h]
      | granted => exact continues_quiet (fun _ => Iff.rfl)
      | ended =>
          show Continues .held .idle (l.filter q) []
            (heard q (l.map (fun b => (b, .ended))))
          rw [heard_map]
          exact continues_last (fun h => by cases h)
      | refused => exact continues_quiet (fun _ => Iff.rfl)
  | ending =>
      cases e with
      | join a =>
          show Continues .ending .ending (l.filter q) ((add K a l).filter q) []
          rw [hadd a rfl]
          exact continues_quiet (fun _ => Iff.rfl)
      | leave e =>
          refine continues_leave hq (fun _ => ?_)
          show (if (strike K e l).isEmpty then Phase.idle else Phase.ending)
            = .held ↔ Phase.ending = .held
          split
          · exact ⟨(fun h => by cases h), fun h => by cases h⟩
          · exact Iff.rfl
      | granted => exact continues_quiet (fun _ => Iff.rfl)
      | ended => exact continues_renew hq l
      | refused => exact continues_renew hq l

omit [DecidableEq σ] in
theorem story_continues {p p' : Phase} {on on' : List σ}
    {ws ws' : List Word} (h : Story p on ws)
    (hc : Continues p p' on on' ws') : Story p' on' (ws ++ ws') := by
  match on, h with
  | [], hoff =>
      -- off the books: no word is for the client
      rcases hc with ⟨-, -, rfl, rfl⟩ | ⟨r, w, -, rfl, rfl, -⟩
      · show Story p' [] (ws ++ [])
        rw [List.append_nil]
        exact hoff
      · show Story p' [] (ws ++ [])
        rw [List.append_nil]
        exact hoff
  | [a], hon =>
      -- on the books: it is granted, or told its last word if r selects it
      have hws : ws = if p = .held then [.granted] else [] := hon
      subst hws
      rcases hc with ⟨rfl, rfl, rfl, rfl⟩ | ⟨r, w, hw, rfl, rfl, hp⟩
      · rfl
      · cases hr : r a with
        | true =>
            have hkeep : [a].filter (fun a => !r a) = [] := by simp [hr]
            have hgo : ([a].filter r).map (fun _ => w) = [w] := by simp [hr]
            rw [hkeep, hgo]
            refine ⟨w, hw, ?_⟩
            split
            · exact Or.inr rfl
            · exact Or.inl rfl
        | false =>
            have hkeep : [a].filter (fun a => !r a) = [a] := by simp [hr]
            have hgo : ([a].filter r).map (fun _ => w) = [] := by simp [hr]
            rw [hkeep] at hp ⊢
            rw [hgo, List.append_nil]
            have hiff := hp (List.cons_ne_nil a [])
            show (if p = .held then [Word.granted] else [])
              = if p' = .held then [Word.granted] else []
            by_cases hheld : p = .held
            · rw [if_pos hheld, if_pos (hiff.mpr hheld)]
            · rw [if_neg hheld, if_neg (fun h => hheld (hiff.mp h))]

omit [DecidableEq σ] in
/-- Words go to the books, and to who joins. -/
theorem told_mem {L : Lease σ} {e : Event σ} (hn : Named P L e)
    {w : σ × Word} (hw : w ∈ told K L e) :
    w.1 ∈ L.clients ∨ e = .join w.1 := by
  obtain ⟨p, l⟩ := L
  have hhear : ∀ {a v}, w ∈ hear K a v → w.1 = a := by
    intro a v h
    rw [hear] at h
    split at h
    · rw [List.mem_singleton.mp h]
    · cases h
  have hmap : ∀ {l' : List σ} {v}, (∀ b ∈ l', b ∈ l) →
      w ∈ l'.map (fun b => (b, v)) → w.1 ∈ l := by
    intro l' v hl' h
    obtain ⟨b, hb, rfl⟩ := List.mem_map.mp h
    exact hl' b hb
  have hfilter : ∀ {r : σ → Bool} {v}, w ∈ (l.filter r).map
      (fun b => (b, v)) → w.1 ∈ l :=
    fun h => hmap (fun b hb => List.mem_of_mem_filter hb) h
  have hbye : ∀ {e}, e ∈ l → w ∈ farewell K e l → w.1 ∈ l := by
    intro e he h
    rw [farewell] at h
    split at h
    · rw [List.mem_singleton.mp h]
      exact he
    · exact hfilter h
  cases p with
  | idle =>
      cases e with
      | leave e => exact Or.inl ((hhear hw).symm ▸ hn)
      | join a => cases hw
      | granted => cases hw
      | ended => cases hw
      | refused => cases hw
  | asking =>
      cases e with
      | leave e => exact Or.inl (hbye hn hw)
      | granted => exact Or.inl (hfilter hw)
      | refused => exact Or.inl (hmap (fun _ hb => hb) hw)
      | join a => cases hw
      | ended => cases hw
  | held =>
      cases e with
      | join a => exact Or.inr (by rw [hhear hw])
      | leave e => exact Or.inl (hbye hn hw)
      | ended => exact Or.inl (hmap (fun _ hb => hb) hw)
      | granted => cases hw
      | refused => cases hw
  | ending =>
      cases e with
      | leave e => exact Or.inl (hbye hn hw)
      | ended => exact Or.inl (hfilter hw)
      | refused => exact Or.inl (hfilter hw)
      | join a => cases hw
      | granted => cases hw

/-- **THE STORY GOES ON** with every event of others, and with the client's
    own leaving. -/
theorem story_step (hq : Watched K P q) {L : Lease σ} {e : Event σ}
    (hidle : L.phase = .idle → L.clients = []) (hn : Named P L e)
    (hother : ∀ a, e = .join a → q a = false) {ws : List Word}
    (h : Story L.phase (L.clients.filter q) ws) :
    Story (step K true L e).1.phase ((step K true L e).1.clients.filter q)
      (ws ++ heard q (told K L e)) :=
  story_continues h (continues_step hq hidle hn hother)

/-- The story begins with the client's joining. -/
theorem story_join (hq : Watched K P q) {L : Lease σ} {a : σ}
    (hl : ∀ b ∈ L.clients, P b) (ha : P a) (hqa : q a = true)
    (hself : K.same a a = true) (hoff : L.clients.filter q = []) :
    Story (step K true L (.join a)).1.phase
      ((step K true L (.join a)).1.clients.filter q)
      (heard q (told K L (.join a))) := by
  obtain ⟨p, l⟩ := L
  have hadd : (add K a l).filter q = [K.enter a] :=
    filter_add_watched hq hqa ha hl hoff
  cases p with
  | idle =>
      show Story .asking ((add K a l).filter q) []
      rw [hadd]
      rfl
  | asking =>
      show Story .asking ((add K a l).filter q) []
      rw [hadd]
      rfl
  | held =>
      show Story .held ((add K a l).filter q) (heard q (hear K a .granted))
      have hheard : heard q (hear K a .granted) = [.granted] := by
        rw [hear, if_pos hself]
        simp [heard, hqa]
      rw [hadd, hheard]
      rfl
  | ending =>
      show Story .ending ((add K a l).filter q) []
      rw [hadd]
      rfl

/-- A client that has not joined stays off the books. -/
theorem off_step (hq : Watched K P q) {L : Lease σ} {e : Event σ}
    (hidle : L.phase = .idle → L.clients = []) (hn : Named P L e)
    (hother : ∀ a, e = .join a → q a = false)
    (hoff : L.clients.filter q = []) :
    (step K true L e).1.clients.filter q = [] := by
  have hc := continues_step hq hidle hn hother
  rw [hoff] at hc
  rcases hc with ⟨-, -, hon, -⟩ | ⟨r, w, -, hon, -⟩
  · exact hon
  · exact hon

end Step

end QcomLease
