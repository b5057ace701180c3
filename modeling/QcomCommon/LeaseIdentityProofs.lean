import QcomCommon.LeaseProofs

/-! # Whose entry it is

    The protocol asks `same` of an entry; who a client is, is another
    question.  `mine` marks the entries of one client, and an entry of
    another that `same` takes for it is mistaken.

    A client that joins has an entry afterwards if and only if it had one or
    no entry is mistaken for it (`join_admits_iff`).  One that leaves, and
    does not linger, leaves the entries of the others alone if and only if
    none is mistaken for its own (`leave_spares_iff`), and then only its own
    hear of it (`farewell_mine`). -/

namespace QcomLease

variable {σ : Type} {K : Clients σ}

/-- The entry `b` is another client's, and is taken for `a`. -/
def Mistaken (K : Clients σ) (mine : σ → Bool) (a b : σ) : Prop :=
  mine b = false ∧ K.same b a = true

/-- **JOINING** is not in vain. -/
theorem join_admits_iff (mine : σ → Bool) {a : σ}
    (henter : mine (K.enter a) = true) (l : List σ) :
    (∃ b ∈ add K a l, mine b = true) ↔
      (∃ b ∈ l, mine b = true) ∨ ∀ b ∈ l, ¬ Mistaken K mine a b := by
  by_cases hl : l.any (fun b => K.same b a) = true
  · -- the list is left as it is
    obtain ⟨b, hb, hba⟩ := List.any_eq_true.mp hl
    rw [add, if_pos hl]
    refine ⟨Or.inl, ?_⟩
    rintro (h | hno)
    · exact h
    · cases hm : mine b with
      | true => exact ⟨b, hb, hm⟩
      | false => exact absurd ⟨hm, hba⟩ (hno b hb)
  · rw [add, if_neg hl]
    refine iff_of_true ⟨_, List.mem_cons_self, henter⟩ (Or.inr ?_)
    rintro b hb ⟨-, hba⟩
    exact hl (List.any_eq_true.mpr ⟨b, hb, hba⟩)

section Leaving

variable [DecidableEq σ] {e : σ}

theorem leave_clients {L : Lease σ} (hp : L.phase ≠ .idle) (ok : Bool) :
    (step K ok L (.leave e)).1.clients = strike K e L.clients := by
  obtain ⟨p, l⟩ := L
  cases p with
  | idle => exact absurd rfl hp
  | asking => exact settle_clients .asking _
  | held => exact settle_clients .held _
  | ending => rfl

omit [DecidableEq σ] in
theorem leave_told {L : Lease σ} (hp : L.phase ≠ .idle) :
    told K L (.leave e) = farewell K e L.clients := by
  obtain ⟨p, l⟩ := L
  cases p with
  | idle => exact absurd rfl hp
  | asking => rfl
  | held => rfl
  | ending => rfl

/-- **LEAVING** takes no one else along. -/
theorem leave_spares_iff (mine : σ → Bool) (he : K.lingers e = false)
    (l : List σ) :
    (strike K e l).filter (fun b => !mine b) = l.filter (fun b => !mine b) ↔
      ∀ b ∈ l, ¬ Mistaken K mine e b := by
  rw [strike, he, if_neg Bool.false_ne_true]
  constructor
  · rintro h b hb ⟨hother, hbe⟩
    have hmem : b ∈ l.filter (fun b => !mine b) :=
      List.mem_filter.mpr ⟨hb, by rw [hother]; rfl⟩
    rw [← h] at hmem
    have hkept := (List.mem_filter.mp (List.mem_of_mem_filter hmem)).2
    rw [hbe] at hkept
    cases hkept
  · intro hno
    rw [List.filter_filter]
    refine List.filter_congr fun b hb => ?_
    cases hm : mine b with
    | true => rfl
    | false =>
        cases hbe : K.same b e with
        | true => exact absurd ⟨hm, hbe⟩ (hno b hb)
        | false => rfl

omit [DecidableEq σ] in
/-- Then what is heard is heard by its own entries. -/
theorem farewell_mine {mine : σ → Bool} (he : K.lingers e = false) {l : List σ}
    (hno : ∀ b ∈ l, ¬ Mistaken K mine e b) :
    ∀ w ∈ farewell K e l, w.1 ∈ l ∧ mine w.1 = true ∧ w.2 = .left := by
  intro w hw
  rw [farewell, he, if_neg Bool.false_ne_true] at hw
  obtain ⟨b, hb, rfl⟩ := List.mem_map.mp hw
  obtain ⟨hmem, hbe⟩ := List.mem_filter.mp hb
  refine ⟨hmem, ?_, rfl⟩
  cases hm : mine b with
  | true => rfl
  | false => exact absurd ⟨hm, hbe⟩ (hno b hmem)

end Leaving

end QcomLease
