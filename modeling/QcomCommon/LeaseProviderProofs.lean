import QcomCommon.LeaseProofs

/-! # A lease and its provider

    The holder of a lease and the provider talk through two queues: asks in
    one direction, replies in the other, neither numbered.  The provider
    answers every ask once, in order, and the resource is up from a granted
    request to the next return.

    A reply that comes while the holder waits is taken for the reply to the
    last request.  `Current` is that it is.  Where every reply taken so is
    current, the two sides agree once the queues are empty
    (`agreed_quiescent`): the resource is up exactly when the lease is
    held. -/

namespace QcomLease

/-- What the provider answers. -/
inductive Reply where
  | granted
  | refused
  | ended
deriving DecidableEq, Repr

/-- What a reply does to the phase. -/
inductive ReplyMove : Reply → Phase → Phase → Option Ask → Prop where
  | granted : ReplyMove .granted .asking .held none
  | refused : ReplyMove .refused .asking .idle none
  | ended : ReplyMove .ended .held .idle none
  | finished {r : Reply} (hr : r ≠ .granted) : ReplyMove r .ending .idle none
  | again {r : Reply} (hr : r ≠ .granted) :
      ReplyMove r .ending .asking (some .request)
  | ignored {r : Reply} {p : Phase}
      (hp : p = .idle ∨ p = .asking ∧ r = .ended ∨
        p = .held ∧ r ≠ .ended ∨ p = .ending ∧ r = .granted) :
      ReplyMove r p p none

/-- The two sides and what is under way between them, oldest first. -/
structure Wire where
  phase : Phase
  asks : List Ask
  replies : List Reply
  up : Bool

/-- Once the asks are answered the resource is down. -/
def EndsDown (asks : List Ask) (up : Bool) : Prop :=
  asks = [] ∧ up = false ∨ ∃ as, asks = as ++ [.giveBack]

/-- The request the holder waits for: still asked, or answered last. -/
def Awaited (w : Wire) : Prop :=
  (∃ as, w.asks = as ++ [.request] ∧ EndsDown as w.up) ∨
    w.asks = [] ∧ ∃ rs, w.replies = rs ++ [.granted] ∧ w.up = true ∨
      w.replies = rs ++ [.refused] ∧ w.up = false

/-- What is on its way between the two fits where they are. -/
def Agreed (w : Wire) : Prop :=
  match w.phase with
  | .idle => EndsDown w.asks w.up
  | .asking => Awaited w
  | .held => w.asks = [] ∧ w.replies = [] ∧ w.up = true
  | .ending => EndsDown w.asks w.up

/-- The reply `r`, with `rest` behind it, answers the last request if the
    holder takes it for that. -/
def Current (w : Wire) (r : Reply) (rest : List Reply) : Prop :=
  w.phase = .asking → r ≠ .ended →
    Ask.request ∉ w.asks ∧ Reply.granted ∉ rest ∧ Reply.refused ∉ rest

/-! ## Clients -/

theorem agreed_client {w : Wire} (h : Agreed w) {q : Phase} {a : Option Ask}
    (hm : ClientMove w.phase q a) :
    Agreed { w with phase := q, asks := w.asks ++ a.toList } := by
  obtain ⟨p, asks, replies, up⟩ := w
  cases hm with
  | stay p =>
      show Agreed ⟨p, asks ++ [], replies, up⟩
      rw [List.append_nil]
      exact h
  | request => exact Or.inl ⟨asks, rfl, h⟩
  | giveBack hp hq =>
      have hdown : EndsDown (asks ++ [.giveBack]) up := Or.inr ⟨asks, rfl⟩
      rcases hq with hq | hq
      · subst hq
        exact hdown
      · subst hq
        exact hdown
  | last =>
      show Agreed ⟨.idle, asks ++ [], replies, up⟩
      rw [List.append_nil]
      exact h

/-! ## The provider -/

theorem endsDown_request {as : List Ask} {up up' : Bool}
    (h : EndsDown (.request :: as) up) : EndsDown as up' := by
  rcases h with ⟨hnil, -⟩ | ⟨bs, hbs⟩
  · cases hnil
  · cases bs with
    | nil => cases hbs
    | cons b bs => exact Or.inr ⟨bs, (List.cons.inj hbs).2⟩

theorem endsDown_giveBack {as : List Ask} {up : Bool}
    (h : EndsDown (.giveBack :: as) up) : EndsDown as false := by
  rcases h with ⟨hnil, -⟩ | ⟨bs, hbs⟩
  · cases hnil
  · cases bs with
    | nil => exact Or.inl ⟨(List.cons.inj hbs).2, rfl⟩
    | cons b bs => exact Or.inr ⟨bs, (List.cons.inj hbs).2⟩

/-- The provider answers a request. -/
theorem agreed_answer {p : Phase} {as : List Ask} {rs : List Reply}
    {up : Bool} (h : Agreed ⟨p, .request :: as, rs, up⟩) (grant : Bool) :
    Agreed ⟨p, as, rs ++ [if grant then .granted else .refused],
      if grant then true else up⟩ := by
  cases p with
  | idle => exact endsDown_request h
  | ending => exact endsDown_request h
  | held => cases h.1
  | asking =>
      rcases h with ⟨bs, hbs, hdown⟩ | ⟨hnil, -⟩
      · cases bs with
        | nil =>
            -- the awaited request itself is answered, and the resource was down
            obtain rfl : as = [] := (List.cons.inj hbs).2
            have hup : up = false := by
              rcases hdown with ⟨-, hup⟩ | ⟨cs, hcs⟩
              · exact hup
              · exact absurd hcs.symm (List.append_ne_nil_of_right_ne_nil _
                  (List.cons_ne_nil _ _))
            refine Or.inr ⟨rfl, rs, ?_⟩
            cases grant with
            | true => exact Or.inl ⟨rfl, rfl⟩
            | false => exact Or.inr ⟨rfl, hup⟩
        | cons b bs =>
            -- an older request is answered; the awaited one stays asked
            obtain ⟨hb, hbs'⟩ := List.cons.inj hbs
            subst hb
            exact Or.inl ⟨bs, hbs', endsDown_request hdown⟩
      · cases hnil

/-- The provider takes the resource back. -/
theorem agreed_return {p : Phase} {as : List Ask} {rs : List Reply}
    {up : Bool} (h : Agreed ⟨p, .giveBack :: as, rs, up⟩) :
    Agreed ⟨p, as, rs ++ [.ended], false⟩ := by
  cases p with
  | idle => exact endsDown_giveBack h
  | ending => exact endsDown_giveBack h
  | held => cases h.1
  | asking =>
      rcases h with ⟨bs, hbs, hdown⟩ | ⟨hnil, -⟩
      · cases bs with
        -- the last ask is the awaited request, not this return
        | nil => cases (List.cons.inj hbs).1
        | cons b bs =>
            obtain ⟨hb, hbs'⟩ := List.cons.inj hbs
            subst hb
            exact Or.inl ⟨bs, hbs', endsDown_giveBack hdown⟩
      · cases hnil

/-! ## Replies -/

/-- A reply that does not end the wait leaves the awaited one. -/
theorem awaited_tail {as : List Ask} {rs : List Reply} {up : Bool}
    (h : Awaited ⟨.asking, as, .ended :: rs, up⟩) :
    Awaited ⟨.asking, as, rs, up⟩ := by
  rcases h with h | ⟨hnil, bs, hbs⟩
  · exact Or.inl h
  · refine Or.inr ⟨hnil, ?_⟩
    cases bs with
    | nil =>
        rcases hbs with ⟨hbs, -⟩ | ⟨hbs, -⟩
        · cases (List.cons.inj hbs).1
        · cases (List.cons.inj hbs).1
    | cons b bs =>
        refine ⟨bs, ?_⟩
        rcases hbs with ⟨hbs, hup⟩ | ⟨hbs, hup⟩
        · exact Or.inl ⟨(List.cons.inj hbs).2, hup⟩
        · exact Or.inr ⟨(List.cons.inj hbs).2, hup⟩

/-- A current reply is the last one, and tells whether the resource is up. -/
theorem awaited_current {as : List Ask} {r : Reply} {rs : List Reply}
    {up : Bool} (h : Awaited ⟨.asking, as, r :: rs, up⟩) (hr : r ≠ .ended)
    (hc : Current ⟨.asking, as, r :: rs, up⟩ r rs) :
    as = [] ∧ rs = [] ∧ (r = .granted ∧ up = true ∨
      r = .refused ∧ up = false) := by
  obtain ⟨hreq, hgr, hrf⟩ := hc rfl hr
  rcases h with ⟨bs, hbs, -⟩ | ⟨hnil, bs, hbs⟩
  · have has : as = bs ++ [.request] := hbs
    rw [has] at hreq
    exact absurd (List.mem_append_right bs List.mem_cons_self) hreq
  · refine ⟨hnil, ?_⟩
    cases bs with
    | nil =>
        rcases hbs with ⟨hbs, hup⟩ | ⟨hbs, hup⟩
        · obtain ⟨hr', hrs⟩ := List.cons.inj hbs
          exact ⟨hrs, Or.inl ⟨hr', hup⟩⟩
        · obtain ⟨hr', hrs⟩ := List.cons.inj hbs
          exact ⟨hrs, Or.inr ⟨hr', hup⟩⟩
    | cons b bs =>
        -- an answer to the request would still be behind this one
        rcases hbs with ⟨hbs, -⟩ | ⟨hbs, -⟩
        · rw [(List.cons.inj hbs).2] at hgr
          exact absurd (List.mem_append_right bs List.mem_cons_self) hgr
        · rw [(List.cons.inj hbs).2] at hrf
          exact absurd (List.mem_append_right bs List.mem_cons_self) hrf

theorem agreed_reply {p q : Phase} {as : List Ask} {r : Reply}
    {rs : List Reply} {up : Bool} {a : Option Ask}
    (h : Agreed ⟨p, as, r :: rs, up⟩)
    (hc : Current ⟨p, as, r :: rs, up⟩ r rs) (hm : ReplyMove r p q a) :
    Agreed ⟨q, as ++ a.toList, rs, up⟩ := by
  cases hm with
  | granted =>
      obtain ⟨has, hrs, ⟨-, hup⟩ | ⟨hr, -⟩⟩ :=
        awaited_current h (fun h => by cases h) hc
      · subst has hrs hup
        exact ⟨rfl, rfl, rfl⟩
      · cases hr
  | refused =>
      obtain ⟨has, -, ⟨hr, -⟩ | ⟨-, hup⟩⟩ :=
        awaited_current h (fun h => by cases h) hc
      · cases hr
      · subst has hup
        exact Or.inl ⟨rfl, rfl⟩
  | ended => cases h.2.1
  | finished hr =>
      show Agreed ⟨.idle, as ++ [], rs, up⟩
      rw [List.append_nil]
      exact h
  | again hr => exact Or.inl ⟨as, rfl, h⟩
  | ignored hp =>
      show Agreed ⟨p, as ++ [], rs, up⟩
      rw [List.append_nil]
      rcases hp with hp | ⟨hp, hr⟩ | ⟨hp, hr⟩ | ⟨hp, hr⟩
      · subst hp
        exact h
      · subst hp hr
        exact awaited_tail h
      · subst hp
        cases h.2.1
      · subst hp
        exact h

/-- **AGREEMENT**: with nothing under way, the resource is up exactly when
    the lease is held. -/
theorem agreed_quiescent {p : Phase} {up : Bool}
    (h : Agreed ⟨p, [], [], up⟩) : up = true ↔ p = .held := by
  have hdown : EndsDown [] up → up = false := by
    rintro (⟨-, hup⟩ | ⟨as, has⟩)
    · exact hup
    · exact absurd has.symm (List.append_ne_nil_of_right_ne_nil _
        (List.cons_ne_nil _ _))
  cases p with
  | idle => rw [hdown h]; simp
  | ending => rw [hdown h]; simp
  | held => exact ⟨fun _ => rfl, fun _ => h.2.2⟩
  | asking =>
      rcases h with ⟨as, has, -⟩ | ⟨-, rs, ⟨hrs, -⟩ | ⟨hrs, -⟩⟩
      · exact absurd has.symm (List.append_ne_nil_of_right_ne_nil _
          (List.cons_ne_nil _ _))
      · exact absurd hrs.symm (List.append_ne_nil_of_right_ne_nil _
          (List.cons_ne_nil _ _))
      · exact absurd hrs.symm (List.append_ne_nil_of_right_ne_nil _
          (List.cons_ne_nil _ _))

end QcomLease
