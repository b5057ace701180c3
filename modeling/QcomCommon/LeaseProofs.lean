import Mathlib.Data.List.Basic

/-! # A shared lease and its clients

    One resource is leased from a provider on behalf of a changing set of
    clients.  It is asked for when the first client joins, handed back when
    no active client is left, and a client that lingers stays on the books,
    inactive, until the provider confirms the return.

    The protocol is stated over an arbitrary client type.  `Clients` is what
    it knows of a client; `Lawful` adds that clients are told apart by an
    equivalence, on the population that joins.  `step` moves the books and
    says what is asked of the provider, `told` what the clients hear.

    Three results, each by one event at a time: no client means no lease and
    a lease means an active client (`settled_step`, without any law of
    `same`), no client is on the books twice (`entries_step`), and a return
    under way is for an inactive client (`consistent_step`). -/

namespace QcomLease

variable {σ : Type}

/-- What the protocol knows of its clients.  `same` tells two clients
    apart, `lingers` are those that wait for the return to be confirmed,
    `enter` and `retire` are what joining and leaving do to the client. -/
structure Clients (σ : Type) where
  same : σ → σ → Bool
  active : σ → Bool
  lingers : σ → Bool
  enter : σ → σ
  retire : σ → σ
  active_enter (a : σ) : active (enter a) = true
  active_retire (a : σ) : lingers a = true → active (retire a) = false
  lingers_of_not_active (a : σ) : active a = false → lingers a = true

/-- On the population `P`, `same` is an equivalence that joining and leaving
    respect. -/
structure Lawful (K : Clients σ) (P : σ → Prop) : Prop where
  enter {a : σ} : P a → P (K.enter a)
  retire {a : σ} : P a → P (K.retire a)
  refl {a : σ} : P a → K.same a a = true
  symm {a b : σ} : P a → P b → K.same a b = true → K.same b a = true
  trans {a b c : σ} : P a → P b → P c → K.same a b = true →
    K.same b c = true → K.same a c = true
  same_enter {a : σ} : P a → K.same (K.enter a) a = true
  same_retire {a : σ} : P a → K.same (K.retire a) a = true

/-- Where the resource is. -/
inductive Phase where
  | idle
  | asking
  | held
  | ending
deriving DecidableEq, Repr

/-- The books: the phase of the lease and the clients. -/
structure Lease (σ : Type) where
  phase : Phase
  clients : List σ
deriving DecidableEq, Repr

/-- What is sent to the provider. -/
inductive Ask where
  | request
  | giveBack
deriving DecidableEq, Repr

/-- What a client is told. -/
inductive Word where
  | granted
  | ended
  | refused
  | left
deriving DecidableEq, Repr

/-- What the clients and the provider do. -/
inductive Event (σ : Type) where
  | join (a : σ)
  | leave (entry : σ)
  | granted
  | ended
  | refused

variable (K : Clients σ)

/-- A client joins unless it is on the books already. -/
def add (a : σ) (l : List σ) : List σ :=
  if l.any (fun b => K.same b a) then l else K.enter a :: l

/-- A lingering entry is retired in place, any other is struck off. -/
def strike [DecidableEq σ] (e : σ) (l : List σ) : List σ :=
  if K.lingers e then l.replace e (K.retire e)
  else l.filter (fun b => !K.same b e)

/-- The lease is given back once no active client is left. -/
def settle (p : Phase) (l : List σ) : Lease σ × Option Ask :=
  if l.isEmpty then (⟨.idle, l⟩, some .giveBack)
  else if l.any K.active then (⟨p, l⟩, none)
  else (⟨.ending, l⟩, some .giveBack)

/-- The return is confirmed: the inactive clients go, and the lease is asked
    for again when others are left. -/
def renew (l : List σ) : Lease σ × Option Ask :=
  if (l.filter K.active).isEmpty then (⟨.idle, []⟩, none)
  else (⟨.asking, l.filter K.active⟩, some .request)

/-- One event; `ok` tells whether a request made in phase idle could be
    sent. -/
def step [DecidableEq σ] (ok : Bool) (L : Lease σ) (e : Event σ) :
    Lease σ × Option Ask :=
  match L.phase, e with
  | .idle, .join a =>
      (⟨if ok then .asking else .idle, add K a L.clients⟩, some .request)
  | .idle, _ => (L, none)
  | .asking, .join a => (⟨.asking, add K a L.clients⟩, none)
  | .asking, .leave e => settle K .asking (strike K e L.clients)
  | .asking, .granted => (⟨.held, L.clients⟩, none)
  | .asking, .ended => (L, none)
  | .asking, .refused => (⟨.idle, []⟩, none)
  | .held, .join a => (⟨.held, add K a L.clients⟩, none)
  | .held, .leave e => settle K .held (strike K e L.clients)
  | .held, .granted => (L, none)
  | .held, .ended => (⟨.idle, []⟩, none)
  | .held, .refused => (L, none)
  | .ending, .join a => (⟨.ending, add K a L.clients⟩, none)
  | .ending, .leave e =>
      (⟨if (strike K e L.clients).isEmpty then .idle else .ending,
        strike K e L.clients⟩, none)
  | .ending, .granted => (L, none)
  | .ending, .ended => renew K L.clients
  | .ending, .refused => renew K L.clients

/-- A client hears only what it recognises as its own. -/
def hear (a : σ) (w : Word) : List (σ × Word) :=
  if K.same a a then [(a, w)] else []

/-- What the clients hear when the entry `e` leaves. -/
def farewell (e : σ) (l : List σ) : List (σ × Word) :=
  if K.lingers e then [(e, .left)]
  else (l.filter (fun b => K.same b e)).map (fun b => (b, .left))

/-- What the clients hear of one event. -/
def told (L : Lease σ) (e : Event σ) : List (σ × Word) :=
  match L.phase, e with
  | .idle, .leave e => hear K e .left
  | .idle, _ => []
  | .asking, .leave e => farewell K e L.clients
  | .asking, .granted =>
      (L.clients.filter K.active).map (fun b => (b, .granted))
  | .asking, .refused => L.clients.map (fun b => (b, .refused))
  | .asking, _ => []
  | .held, .join a => hear K a .granted
  | .held, .leave e => farewell K e L.clients
  | .held, .ended => L.clients.map (fun b => (b, .ended))
  | .held, _ => []
  | .ending, .leave e => farewell K e L.clients
  | .ending, .ended =>
      (L.clients.filter (fun b => !K.active b)).map (fun b => (b, .ended))
  | .ending, .refused =>
      (L.clients.filter (fun b => !K.active b)).map (fun b => (b, .refused))
  | .ending, _ => []

/-! ## The laws of the books -/

/-- No client, no lease; a lease or a request for it has an active client. -/
structure Settled (L : Lease σ) : Prop where
  idle_iff : L.phase = .idle ↔ L.clients = []
  wanted : L.phase = .asking ∨ L.phase = .held →
    ∃ a ∈ L.clients, K.active a = true

/-- No client is on the books twice. -/
def Distinct (l : List σ) : Prop :=
  l.Pairwise (fun a b => K.same a b = false)

/-- The entries: all of the population, none twice. -/
structure Entries (P : σ → Prop) (l : List σ) : Prop where
  all : ∀ a ∈ l, P a
  distinct : Distinct K l

/-- The clients fit the phase, and are as they came. -/
structure Consistent (P : σ → Prop) (L : Lease σ) : Prop where
  settled : Settled K L
  entries : Entries K P L.clients
  ending : L.phase = .ending → ∃ a ∈ L.clients, K.active a = false

/-- Who joins is of the population, who leaves is on the books. -/
def Named (P : σ → Prop) (L : Lease σ) : Event σ → Prop
  | .join a => P a
  | .leave e => e ∈ L.clients
  | _ => True

variable {K} {P : σ → Prop}

/-! ## Joining -/

theorem mem_add_of_mem {a b : σ} {l : List σ} (h : b ∈ l) :
    b ∈ add K a l := by
  rw [add]
  split
  · exact h
  · exact List.mem_cons_of_mem _ h

theorem mem_add {a b : σ} {l : List σ} (h : b ∈ add K a l) :
    b = K.enter a ∨ b ∈ l := by
  rw [add] at h
  by_cases hl : l.any (fun b => K.same b a) = true
  · rw [if_pos hl] at h
    exact Or.inr h
  · rw [if_neg hl] at h
    exact List.mem_cons.mp h

theorem add_ne_nil (a : σ) (l : List σ) : add K a l ≠ [] := by
  cases l with
  | nil => exact List.cons_ne_nil _ _
  | cons b l => exact List.ne_nil_of_mem (mem_add_of_mem List.mem_cons_self)

/-- Who joins is on the books. -/
theorem exists_same_add (a : σ) (l : List σ)
    (ha : K.same (K.enter a) a = true) :
    ∃ b ∈ add K a l, K.same b a = true ∧ (b ∈ l ∨ K.active b = true) := by
  rw [add]
  by_cases hl : l.any (fun b => K.same b a) = true
  · rw [if_pos hl]
    obtain ⟨b, hb, hba⟩ := List.any_eq_true.mp hl
    exact ⟨b, hb, hba, Or.inl hb⟩
  · rw [if_neg hl]
    exact ⟨K.enter a, List.mem_cons_self, ha, Or.inr (K.active_enter a)⟩

/-- Who is on the books already is not added. -/
theorem add_of_same {a b : σ} {l : List σ} (hb : b ∈ l)
    (hba : K.same b a = true) : add K a l = l := by
  rw [add, if_pos (List.any_eq_true.mpr ⟨b, hb, hba⟩)]

theorem settled_idle : Settled K ⟨.idle, []⟩ := by
  refine ⟨⟨fun _ => rfl, fun _ => rfl⟩, ?_⟩
  rintro (h | h) <;> cases h

/-- Joining in a phase other than idle. -/
theorem settled_join {L : Lease σ} (h : Settled K L)
    (hp : L.phase ≠ .idle) (a : σ) :
    Settled K ⟨L.phase, add K a L.clients⟩ := by
  refine ⟨⟨fun hi => absurd hi hp, fun hn => absurd hn (add_ne_nil a _)⟩, ?_⟩
  intro hw
  obtain ⟨b, hb, hact⟩ := h.wanted hw
  exact ⟨b, mem_add_of_mem hb, hact⟩

/-! ## Settling and renewing -/

theorem not_any_active {l : List σ} (h : ¬ l.any K.active = true) :
    ∀ a ∈ l, K.active a = false := by
  intro a ha
  cases hk : K.active a with
  | false => rfl
  | true => exact absurd (List.any_eq_true.mpr ⟨a, ha, hk⟩) h

theorem settled_settle (p : Phase) (hp : p ≠ .idle) (l : List σ) :
    Settled K (settle K p l).1 := by
  rw [settle]
  by_cases he : l.isEmpty = true
  · rw [if_pos he, List.isEmpty_iff.mp he]
    exact settled_idle
  · rw [if_neg he]
    have hne : l ≠ [] := fun h => he (List.isEmpty_iff.mpr h)
    by_cases ha : l.any K.active = true
    · rw [if_pos ha]
      exact ⟨⟨fun h => absurd h hp, fun h => absurd h hne⟩,
        fun _ => List.any_eq_true.mp ha⟩
    · rw [if_neg ha]
      refine ⟨⟨(fun h => by cases h), fun h => absurd h hne⟩, ?_⟩
      rintro (h | h) <;> cases h

/-- A lease that starts ending has an inactive client. -/
theorem ending_settle (p : Phase) (hp : p ≠ .ending) {l : List σ}
    (h : (settle K p l).1.phase = .ending) :
    ∃ a ∈ (settle K p l).1.clients, K.active a = false := by
  rw [settle] at h ⊢
  by_cases he : l.isEmpty = true
  · rw [if_pos he] at h
    cases h
  · rw [if_neg he] at h ⊢
    by_cases ha : l.any K.active = true
    · rw [if_pos ha] at h
      exact absurd h hp
    · rw [if_neg ha]
      have hne : l ≠ [] := fun h => he (List.isEmpty_iff.mpr h)
      obtain ⟨a, hal⟩ := List.exists_mem_of_ne_nil l hne
      exact ⟨a, hal, not_any_active ha a hal⟩

theorem settle_clients (p : Phase) (l : List σ) :
    (settle K p l).1.clients = l := by
  rw [settle]
  split
  · rfl
  · split <;> rfl

theorem settle_ask (p : Phase) (l : List σ) :
    (settle K p l).2 = none ∨
      (settle K p l).2 = some .giveBack ∧ l.any K.active = false := by
  rw [settle]
  by_cases he : l.isEmpty = true
  · rw [if_pos he, List.isEmpty_iff.mp he]
    exact Or.inr ⟨rfl, rfl⟩
  · rw [if_neg he]
    by_cases ha : l.any K.active = true
    · rw [if_pos ha]
      exact Or.inl rfl
    · rw [if_neg ha]
      exact Or.inr ⟨rfl, Bool.eq_false_iff.mpr ha⟩

/-- The renewed lease is idle, or asked for again. -/
theorem renew_ask (l : List σ) :
    (renew K l).1.phase = .idle ∧ (renew K l).2 = none ∨
      (renew K l).1.phase = .asking ∧ (renew K l).2 = some .request ∧
        (l.filter K.active).any K.active = true := by
  rw [renew]
  by_cases he : (l.filter K.active).isEmpty = true
  · rw [if_pos he]
    exact Or.inl ⟨rfl, rfl⟩
  · rw [if_neg he]
    have hne : l.filter K.active ≠ [] := fun h => he (List.isEmpty_iff.mpr h)
    obtain ⟨a, ha⟩ := List.exists_mem_of_ne_nil _ hne
    exact Or.inr ⟨rfl, rfl,
      List.any_eq_true.mpr ⟨a, ha, (List.mem_filter.mp ha).2⟩⟩

/-- With an active client left it is asked for again. -/
theorem renew_active {l : List σ} (h : l.any K.active = true) :
    (renew K l).1.phase = .asking ∧ (renew K l).2 = some .request := by
  obtain ⟨a, ha, hact⟩ := List.any_eq_true.mp h
  have hne : ¬ (l.filter K.active).isEmpty = true := by
    intro he
    have hmem : a ∈ l.filter K.active := List.mem_filter.mpr ⟨ha, hact⟩
    rw [List.isEmpty_iff.mp he] at hmem
    cases hmem
  rw [renew, if_neg hne]
  exact ⟨rfl, rfl⟩

/-- What a client's coming or going does to the phase: it stays, the lease
    is asked for or given back, or the last client leaves a lease that ends
    already. -/
inductive ClientMove : Phase → Phase → Option Ask → Prop where
  | stay (p : Phase) : ClientMove p p none
  | request : ClientMove .idle .asking (some .request)
  | giveBack {p q : Phase} (hp : p = .asking ∨ p = .held)
      (hq : q = .idle ∨ q = .ending) : ClientMove p q (some .giveBack)
  | last : ClientMove .ending .idle none

theorem clientMove_settle {p : Phase} (hp : p = .asking ∨ p = .held)
    (l : List σ) :
    ClientMove p (settle K p l).1.phase (settle K p l).2 := by
  rw [settle]
  by_cases he : l.isEmpty = true
  · rw [if_pos he]
    exact .giveBack hp (Or.inl rfl)
  · rw [if_neg he]
    by_cases ha : l.any K.active = true
    · rw [if_pos ha]
      exact .stay p
    · rw [if_neg ha]
      exact .giveBack hp (Or.inr rfl)

theorem settled_renew (l : List σ) : Settled K (renew K l).1 := by
  rw [renew]
  by_cases he : (l.filter K.active).isEmpty = true
  · rw [if_pos he]
    exact settled_idle
  · rw [if_neg he]
    have hne : l.filter K.active ≠ [] := fun h => he (List.isEmpty_iff.mpr h)
    refine ⟨⟨(fun h => by cases h), fun h => absurd h hne⟩, fun _ => ?_⟩
    obtain ⟨a, ha⟩ := List.exists_mem_of_ne_nil _ hne
    exact ⟨a, ha, (List.mem_filter.mp ha).2⟩

theorem renew_clients (l : List σ) :
    (renew K l).1.clients = l.filter K.active := by
  rw [renew]
  by_cases he : (l.filter K.active).isEmpty = true
  · rw [if_pos he]
    exact (List.isEmpty_iff.mp he).symm
  · rw [if_neg he]

theorem renew_not_ending (l : List σ) : (renew K l).1.phase ≠ .ending := by
  rw [renew]
  split <;> exact fun h => by cases h

/-! ## No client twice -/

theorem same_false_symm (hK : Lawful K P) {a b : σ} (ha : P a) (hb : P b)
    (h : K.same a b = false) : K.same b a = false := by
  cases hba : K.same b a with
  | false => rfl
  | true => rw [hK.symm hb ha hba] at h; cases h

theorem same_false_of_same (hK : Lawful K P) {a b c : σ} (ha : P a)
    (hb : P b) (hc : P c) (h : K.same a b = true)
    (hbc : K.same b c = false) : K.same a c = false := by
  cases hac : K.same a c with
  | false => rfl
  | true =>
      rw [hK.trans hb ha hc (hK.symm ha hb h) hac] at hbc
      cases hbc

theorem entries_nil : Entries K P [] :=
  ⟨(fun _ h => by cases h), List.Pairwise.nil⟩

theorem Entries.filter {l : List σ} (h : Entries K P l) (q : σ → Bool) :
    Entries K P (l.filter q) :=
  ⟨fun a ha => h.all a (List.mem_of_mem_filter ha), h.distinct.filter q⟩

/-- Two different entries are told apart. -/
theorem Entries.same_false (hK : Lawful K P) {l : List σ}
    (h : Entries K P l) {x y : σ} (hx : x ∈ l) (hy : y ∈ l) (hne : x ≠ y) :
    K.same x y = false := by
  have hsym : ∀ ⦃a⦄, a ∈ l → ∀ ⦃b⦄, b ∈ l → K.same a b = false →
      K.same b a = false :=
    fun a ha b hb => same_false_symm hK (h.all a ha) (h.all b hb)
  obtain ⟨i, hi, rfl⟩ := List.getElem_of_mem hx
  obtain ⟨j, hj, rfl⟩ := List.getElem_of_mem hy
  have hp := List.pairwise_iff_getElem.mp h.distinct
  rcases Nat.lt_trichotomy i j with hij | hij | hij
  · exact hp i j hi hj hij
  · subst hij
    exact absurd rfl hne
  · exact hsym hy hx (hp j i hj hi hij)

theorem entries_add (hK : Lawful K P) {l : List σ} (h : Entries K P l)
    {a : σ} (ha : P a) : Entries K P (add K a l) := by
  rw [add]
  by_cases hl : l.any (fun b => K.same b a) = true
  · rw [if_pos hl]
    exact h
  · rw [if_neg hl]
    refine ⟨?_, List.pairwise_cons.mpr ⟨?_, h.distinct⟩⟩
    · intro b hb
      rcases List.mem_cons.mp hb with hb | hb
      · exact hb ▸ hK.enter ha
      · exact h.all b hb
    · intro b hb
      have hPb := h.all b hb
      refine same_false_of_same hK (hK.enter ha) ha hPb (hK.same_enter ha)
        (same_false_symm hK hPb ha ?_)
      cases hba : K.same b a with
      | false => rfl
      | true => exact absurd (List.any_eq_true.mpr ⟨b, hb, hba⟩) hl

/-! ## Retiring an entry -/

section Retire

variable [DecidableEq σ]

theorem replace_cons_of_ne {a e : σ} (h : a ≠ e) (b : σ) (l : List σ) :
    (a :: l).replace e b = a :: l.replace e b := by
  rw [List.replace_cons, beq_eq_false_iff_ne.mpr h.symm]

theorem mem_replace {e b x : σ} {l : List σ} (h : x ∈ l.replace e b) :
    x = b ∨ x ∈ l := by
  induction l with
  | nil => cases h
  | cons a l ih =>
      by_cases hae : a = e
      · subst hae
        rw [List.replace_cons_self] at h
        rcases List.mem_cons.mp h with hx | hx
        · exact Or.inl hx
        · exact Or.inr (List.mem_cons_of_mem a hx)
      · rw [replace_cons_of_ne hae] at h
        rcases List.mem_cons.mp h with hx | hx
        · exact Or.inr (hx ▸ List.mem_cons_self)
        · rcases ih hx with hb | hl
          · exact Or.inl hb
          · exact Or.inr (List.mem_cons_of_mem a hl)

theorem mem_replace_self {e b : σ} {l : List σ} (h : e ∈ l) :
    b ∈ l.replace e b := by
  induction l with
  | nil => cases h
  | cons a l ih =>
      by_cases hae : a = e
      · subst hae
        rw [List.replace_cons_self]
        exact List.mem_cons_self
      · rw [replace_cons_of_ne hae]
        rcases List.mem_cons.mp h with hx | hx
        · exact absurd hx.symm hae
        · exact List.mem_cons_of_mem a (ih hx)

/-- **SETTLED**: every event keeps the first law, when requests can be
    sent. -/
theorem settled_step {L : Lease σ} (h : Settled K L) (e : Event σ) :
    Settled K (step K true L e).1 := by
  obtain ⟨p, l⟩ := L
  cases p with
  | idle =>
      have hl : l = [] := h.idle_iff.mp rfl
      subst hl
      cases e with
      | join a =>
          refine ⟨⟨(fun hi => by cases hi), fun hi => absurd hi (add_ne_nil a [])⟩,
            fun _ => ⟨K.enter a, List.mem_cons_self, K.active_enter a⟩⟩
      | leave e => exact settled_idle
      | granted => exact settled_idle
      | ended => exact settled_idle
      | refused => exact settled_idle
  | asking =>
      cases e with
      | join a => exact settled_join h (fun hi => by cases hi) a
      | leave e => exact settled_settle .asking (fun hi => by cases hi) _
      | granted =>
          exact ⟨⟨(fun hi => by cases hi), fun hi => by cases h.idle_iff.mpr hi⟩,
            fun _ => h.wanted (Or.inl rfl)⟩
      | ended => exact h
      | refused => exact settled_idle
  | held =>
      cases e with
      | join a => exact settled_join h (fun hi => by cases hi) a
      | leave e => exact settled_settle .held (fun hi => by cases hi) _
      | granted => exact h
      | ended => exact settled_idle
      | refused => exact h
  | ending =>
      cases e with
      | join a => exact settled_join h (fun hi => by cases hi) a
      | leave e =>
          show Settled K
            ⟨if (strike K e l).isEmpty then .idle else .ending, strike K e l⟩
          by_cases hs : (strike K e l).isEmpty = true
          · rw [if_pos hs, List.isEmpty_iff.mp hs]
            exact settled_idle
          · rw [if_neg hs]
            refine ⟨⟨(fun hi => by cases hi),
              fun hi => absurd (List.isEmpty_iff.mpr hi) hs⟩, ?_⟩
            rintro (hi | hi) <;> cases hi
      | granted => exact h
      | ended => exact settled_renew l
      | refused => exact settled_renew l

/-- The lease is asked for on behalf of an active client, and given back
    when there is none. -/
theorem ask_active {L : Lease σ} (h : Settled K L) (e : Event σ) :
    (step K true L e).2 = none ∨
    (step K true L e).2 = some .request ∧
      (step K true L e).1.clients.any K.active = true ∨
    (step K true L e).2 = some .giveBack ∧
      (step K true L e).1.clients.any K.active = false := by
  obtain ⟨p, l⟩ := L
  have hsettle : ∀ q e, (settle K q (strike K e l)).2 = none ∨
      (settle K q (strike K e l)).2 = some .request ∧
        (settle K q (strike K e l)).1.clients.any K.active = true ∨
      (settle K q (strike K e l)).2 = some .giveBack ∧
        (settle K q (strike K e l)).1.clients.any K.active = false := by
    intro q e
    rw [settle_clients]
    rcases settle_ask (K := K) q (strike K e l) with hs | hs
    · exact Or.inl hs
    · exact Or.inr (Or.inr hs)
  have hrenew : (renew K l).2 = none ∨
      (renew K l).2 = some .request ∧
        (renew K l).1.clients.any K.active = true ∨
      (renew K l).2 = some .giveBack ∧
        (renew K l).1.clients.any K.active = false := by
    rw [renew_clients]
    rcases renew_ask (K := K) l with hr | hr
    · exact Or.inl hr.2
    · exact Or.inr (Or.inl hr.2)
  cases p with
  | idle =>
      have hl : l = [] := h.idle_iff.mp rfl
      subst hl
      cases e with
      | join a =>
          refine Or.inr (Or.inl ⟨rfl, ?_⟩)
          exact List.any_eq_true.mpr
            ⟨K.enter a, List.mem_cons_self, K.active_enter a⟩
      | leave e => exact Or.inl rfl
      | granted => exact Or.inl rfl
      | ended => exact Or.inl rfl
      | refused => exact Or.inl rfl
  | asking =>
      cases e with
      | leave e => exact hsettle .asking e
      | join a => exact Or.inl rfl
      | granted => exact Or.inl rfl
      | ended => exact Or.inl rfl
      | refused => exact Or.inl rfl
  | held =>
      cases e with
      | leave e => exact hsettle .held e
      | join a => exact Or.inl rfl
      | granted => exact Or.inl rfl
      | ended => exact Or.inl rfl
      | refused => exact Or.inl rfl
  | ending =>
      cases e with
      | leave e => exact Or.inl rfl
      | join a => exact Or.inl rfl
      | granted => exact Or.inl rfl
      | ended => exact hrenew
      | refused => exact hrenew

theorem clientMove_join (L : Lease σ) (a : σ) :
    ClientMove L.phase (step K true L (.join a)).1.phase
      (step K true L (.join a)).2 := by
  obtain ⟨p, l⟩ := L
  cases p with
  | idle => exact .request
  | asking => exact .stay .asking
  | held => exact .stay .held
  | ending => exact .stay .ending

theorem clientMove_leave (L : Lease σ) (e : σ) :
    ClientMove L.phase (step K true L (.leave e)).1.phase
      (step K true L (.leave e)).2 := by
  obtain ⟨p, l⟩ := L
  cases p with
  | idle => exact .stay .idle
  | asking => exact clientMove_settle (Or.inl rfl) _
  | held => exact clientMove_settle (Or.inr rfl) _
  | ending =>
      show ClientMove .ending
        (if (strike K e l).isEmpty then Phase.idle else Phase.ending) none
      split
      · exact .last
      · exact .stay .ending

/-- Retiring an entry in place keeps the entries apart. -/
theorem entries_replace (hK : Lawful K P) {l : List σ} (h : Entries K P l)
    {e b : σ} (hb : P b) (hbe : K.same b e = true) (he : e ∈ l) :
    Entries K P (l.replace e b) := by
  refine ⟨?_, ?_⟩
  · intro x hx
    rcases mem_replace hx with hxb | hxl
    · exact hxb ▸ hb
    · exact h.all x hxl
  · obtain ⟨hall, hd⟩ := h
    have hPe := hall e he
    induction l with
    | nil => cases he
    | cons a l ih =>
        obtain ⟨ha, hl⟩ := List.pairwise_cons.mp hd
        have hPl : ∀ x ∈ l, P x := fun x hx => hall x (List.mem_cons_of_mem a hx)
        have hPa : P a := hall a List.mem_cons_self
        by_cases hae : a = e
        · subst hae
          rw [List.replace_cons_self]
          refine List.pairwise_cons.mpr ⟨?_, hl⟩
          intro x hx
          exact same_false_of_same hK hb hPa (hPl x hx) hbe (ha x hx)
        · rw [replace_cons_of_ne hae]
          have hel : e ∈ l := by
            rcases List.mem_cons.mp he with hx | hx
            · exact absurd hx.symm hae
            · exact hx
          refine List.pairwise_cons.mpr ⟨?_, ih hel hPl hl⟩
          intro x hx
          rcases mem_replace hx with hxb | hxl
          -- b stands in for e, which a was told apart from
          · rw [hxb]
            exact same_false_symm hK hb hPa (same_false_of_same hK hb hPe hPa
              hbe (same_false_symm hK hPa hPe (ha e hel)))
          · exact ha x hxl

theorem entries_strike (hK : Lawful K P) {l : List σ} (h : Entries K P l)
    {e : σ} (he : e ∈ l) : Entries K P (strike K e l) := by
  rw [strike]
  by_cases hw : K.lingers e = true
  · rw [if_pos hw]
    have hPe := h.all e he
    exact entries_replace hK h (hK.retire hPe) (hK.same_retire hPe) he
  · rw [if_neg hw]
    exact h.filter _

/-- **NO CLIENT TWICE**: every event keeps the entries apart, whether or not
    requests can be sent. -/
theorem entries_step (hK : Lawful K P) {L : Lease σ} {ok : Bool}
    (h : Entries K P L.clients) {e : Event σ} (hn : Named P L e) :
    Entries K P (step K ok L e).1.clients := by
  obtain ⟨p, l⟩ := L
  cases p with
  | idle =>
      cases e with
      | join a => exact entries_add hK h hn
      | leave e => exact h
      | granted => exact h
      | ended => exact h
      | refused => exact h
  | asking =>
      cases e with
      | join a => exact entries_add hK h hn
      | leave e =>
          show Entries K P (settle K .asking (strike K e l)).1.clients
          rw [settle_clients]
          exact entries_strike hK h hn
      | granted => exact h
      | ended => exact h
      | refused => exact entries_nil
  | held =>
      cases e with
      | join a => exact entries_add hK h hn
      | leave e =>
          show Entries K P (settle K .held (strike K e l)).1.clients
          rw [settle_clients]
          exact entries_strike hK h hn
      | granted => exact h
      | ended => exact entries_nil
      | refused => exact h
  | ending =>
      cases e with
      | join a => exact entries_add hK h hn
      | leave e => exact entries_strike hK h hn
      | granted => exact h
      | ended =>
          show Entries K P (renew K l).1.clients
          rw [renew_clients]
          exact h.filter _
      | refused =>
          show Entries K P (renew K l).1.clients
          rw [renew_clients]
          exact h.filter _

/-- Only a request to join in phase idle can fail to be sent. -/
theorem step_ok (ok ok' : Bool) (L : Lease σ) {e : Event σ}
    (he : ∀ a, e ≠ .join a) : step K ok L e = step K ok' L e := by
  obtain ⟨p, l⟩ := L
  cases e with
  | join a => exact absurd rfl (he a)
  | leave e => cases p <;> rfl
  | granted => cases p <;> rfl
  | ended => cases p <;> rfl
  | refused => cases p <;> rfl

theorem join_clients (ok : Bool) (L : Lease σ) (a : σ) :
    (step K ok L (.join a)).1.clients = add K a L.clients := by
  obtain ⟨p, l⟩ := L
  cases p <;> rfl

/-- Joining asks for the lease in phase idle only. -/
theorem join_ask (ok : Bool) {L : Lease σ} (hp : L.phase ≠ .idle) (a : σ) :
    (step K ok L (.join a)).2 = none := by
  obtain ⟨p, l⟩ := L
  cases p with
  | idle => exact absurd rfl hp
  | asking => rfl
  | held => rfl
  | ending => rfl

/-- Where a request is made: for the first client to join, and at the end of
    a return for the clients that are left. -/
theorem request_step {L : Lease σ} {ok : Bool} {e : Event σ}
    (h : (step K ok L e).2 = some .request) :
    (L.phase = .idle ∧ ∃ a, e = .join a) ∨
    (L.phase = .ending ∧ (e = .ended ∨ e = .refused) ∧
      L.clients.any K.active = true) := by
  obtain ⟨p, l⟩ := L
  have hrenew : (renew K l).2 = some .request → l.any K.active = true := by
    intro hr
    rcases renew_ask (K := K) l with ⟨-, hq⟩ | ⟨-, -, hany⟩
    · rw [hq] at hr
      cases hr
    · obtain ⟨a, ha, hact⟩ := List.any_eq_true.mp hany
      exact List.any_eq_true.mpr ⟨a, List.mem_of_mem_filter ha, hact⟩
  have hsettle : ∀ q l', (settle K q l').2 ≠ some .request := by
    intro q l' hq
    rcases settle_ask (K := K) q l' with hs | ⟨hs, -⟩ <;> rw [hs] at hq <;>
      cases hq
  cases p with
  | idle =>
      cases e with
      | join a => exact Or.inl ⟨rfl, a, rfl⟩
      | leave e => cases h
      | granted => cases h
      | ended => cases h
      | refused => cases h
  | asking =>
      cases e with
      | leave e => exact absurd h (hsettle _ _)
      | join a => cases h
      | granted => cases h
      | ended => cases h
      | refused => cases h
  | held =>
      cases e with
      | leave e => exact absurd h (hsettle _ _)
      | join a => cases h
      | granted => cases h
      | ended => cases h
      | refused => cases h
  | ending =>
      cases e with
      | ended => exact Or.inr ⟨rfl, Or.inl rfl, hrenew h⟩
      | refused => exact Or.inr ⟨rfl, Or.inr rfl, hrenew h⟩
      | leave e => cases h
      | join a => cases h
      | granted => cases h

/-- How a lease comes to be asked for: by a request that is sent in phase
    idle, by one at the end of a return whether it is sent or not, or it was
    asked for already and is not refused. -/
theorem asking_step {L : Lease σ} {ok : Bool} {e : Event σ}
    (h : (step K ok L e).1.phase = .asking) :
    (L.phase = .idle ∧ ok = true ∧ (step K ok L e).2 = some .request) ∨
    (L.phase = .ending ∧ (e = .ended ∨ e = .refused) ∧
      L.clients.any K.active = true ∧ (step K ok L e).2 = some .request) ∨
    (L.phase = .asking ∧ e ≠ .refused ∧ (step K ok L e).2 ≠ some .request) := by
  obtain ⟨p, l⟩ := L
  have hrenew : (renew K l).1.phase = .asking →
      (renew K l).2 = some .request := by
    intro hr
    rcases renew_ask (K := K) l with ⟨hi, -⟩ | ⟨-, hq, -⟩
    · rw [hi] at hr
      cases hr
    · exact hq
  cases p with
  | idle =>
      cases e with
      | join a =>
          cases ok with
          | true => exact Or.inl ⟨rfl, rfl, rfl⟩
          | false => cases h
      | leave e => cases h
      | granted => cases h
      | ended => cases h
      | refused => cases h
  | asking =>
      refine Or.inr (Or.inr ⟨rfl, ?_, ?_⟩)
      · rintro rfl
        cases h
      · intro hq
        rcases request_step hq with ⟨hp, -⟩ | ⟨hp, -⟩ <;> cases hp
  | held =>
      cases e with
      | leave e =>
          -- a lease that is held is kept or given back
          have hmove := clientMove_settle (K := K) (p := .held) (Or.inr rfl)
            (strike K e l)
          have hp : (settle K .held (strike K e l)).1.phase = .asking := h
          rw [hp] at hmove
          generalize (settle K .held (strike K e l)).2 = ask at hmove
          cases hmove with
          | giveBack _ hq => rcases hq with hq | hq <;> cases hq
      | join a => cases h
      | granted => cases h
      | ended => cases h
      | refused => cases h
  | ending =>
      have hany : (step K ok ⟨.ending, l⟩ e).2 = some .request →
          l.any K.active = true := by
        intro hq
        rcases request_step hq with ⟨hp, -⟩ | ⟨-, -, hleft⟩
        · cases hp
        · exact hleft
      cases e with
      | ended =>
          exact Or.inr (Or.inl ⟨rfl, Or.inl rfl, hany (hrenew h), hrenew h⟩)
      | refused =>
          exact Or.inr (Or.inl ⟨rfl, Or.inr rfl, hany (hrenew h), hrenew h⟩)
      | leave e =>
          have hp : (if (strike K e l).isEmpty then Phase.idle else .ending)
              = Phase.asking := h
          split at hp <;> cases hp
      | join a => cases h
      | granted => cases h

/-! ## Clients of a lease that is not idle -/

omit [DecidableEq σ] in
theorem settle_ne_nil {p : Phase} {l : List σ}
    (h : (settle K p l).1.phase ≠ .idle) :
    (settle K p l).1.clients ≠ [] := by
  rw [settle_clients]
  rintro rfl
  exact h rfl

omit [DecidableEq σ] in
theorem renew_ne_nil {l : List σ} (h : (renew K l).1.phase ≠ .idle) :
    (renew K l).1.clients ≠ [] := by
  rw [renew_clients]
  intro hl
  rw [renew, hl] at h
  exact h rfl

/-- Whether or not requests can be sent, a lease that is not idle has a
    client. -/
theorem ne_nil_step {L : Lease σ} {ok : Bool} {e : Event σ}
    (h : L.phase ≠ .idle → L.clients ≠ []) :
    (step K ok L e).1.phase ≠ .idle → (step K ok L e).1.clients ≠ [] := by
  obtain ⟨p, l⟩ := L
  intro hp
  cases p with
  | idle =>
      cases e with
      | join a => exact add_ne_nil a l
      | leave e => exact absurd rfl hp
      | granted => exact absurd rfl hp
      | ended => exact absurd rfl hp
      | refused => exact absurd rfl hp
  | asking =>
      have hl : l ≠ [] := h (fun hi => by cases hi)
      cases e with
      | join a => exact add_ne_nil a l
      | leave e => exact settle_ne_nil hp
      | granted => exact hl
      | ended => exact hl
      | refused => exact absurd rfl hp
  | held =>
      have hl : l ≠ [] := h (fun hi => by cases hi)
      cases e with
      | join a => exact add_ne_nil a l
      | leave e => exact settle_ne_nil hp
      | granted => exact hl
      | ended => exact absurd rfl hp
      | refused => exact hl
  | ending =>
      have hl : l ≠ [] := h (fun hi => by cases hi)
      cases e with
      | join a => exact add_ne_nil a l
      | leave e =>
          intro hnil
          have hempty : strike K e l = [] := hnil
          refine hp ?_
          show (if (strike K e l).isEmpty then Phase.idle else .ending) = .idle
          rw [hempty]
          rfl
      | granted => exact hl
      | ended => exact renew_ne_nil hp
      | refused => exact renew_ne_nil hp

/-! ## The clients of an idle lease -/

/-- An idle lease has active clients only, whether or not requests can be
    sent. -/
theorem active_of_idle_step {L : Lease σ} {ok : Bool} {e : Event σ}
    (h : L.phase = .idle → ∀ a ∈ L.clients, K.active a = true) :
    (step K ok L e).1.phase = .idle →
      ∀ a ∈ (step K ok L e).1.clients, K.active a = true := by
  obtain ⟨p, l⟩ := L
  have hsettle : ∀ q e, q ≠ .idle → (settle K q (strike K e l)).1.phase = .idle →
      ∀ a ∈ (settle K q (strike K e l)).1.clients, K.active a = true := by
    intro q e hq hidle
    rw [settle] at hidle ⊢
    by_cases he : (strike K e l).isEmpty = true
    · rw [if_pos he, List.isEmpty_iff.mp he]
      exact fun a ha => by cases ha
    · rw [if_neg he] at hidle
      split at hidle
      · exact absurd hidle hq
      · cases hidle
  have hrenew : ∀ a ∈ (renew K l).1.clients, K.active a = true := by
    rw [renew_clients]
    exact fun a ha => (List.mem_filter.mp ha).2
  cases p with
  | idle =>
      cases e with
      | join a =>
          intro _ b hb
          rcases mem_add hb with hb | hb
          · exact hb ▸ K.active_enter a
          · exact h rfl b hb
      | leave e => exact h
      | granted => exact h
      | ended => exact h
      | refused => exact h
  | asking =>
      cases e with
      | leave e => exact hsettle .asking e (fun hp => by cases hp)
      | refused => exact fun _ a ha => by cases ha
      | join a => exact fun hp => by cases hp
      | granted => exact fun hp => by cases hp
      | ended => exact fun hp => by cases hp
  | held =>
      cases e with
      | leave e => exact hsettle .held e (fun hp => by cases hp)
      | ended => exact fun _ a ha => by cases ha
      | join a => exact fun hp => by cases hp
      | granted => exact fun hp => by cases hp
      | refused => exact fun hp => by cases hp
  | ending =>
      cases e with
      | leave e =>
          -- only the last client to go leaves the lease idle
          show (if (strike K e l).isEmpty then Phase.idle else Phase.ending)
            = .idle → ∀ a ∈ strike K e l, K.active a = true
          by_cases hnil : (strike K e l).isEmpty = true
          · rw [List.isEmpty_iff.mp hnil]
            exact fun _ a ha => by cases ha
          · rw [if_neg hnil]
            exact fun hp => by cases hp
      | join a => exact fun hp => by cases hp
      | granted => exact fun hp => by cases hp
      | ended => exact fun _ => hrenew
      | refused => exact fun _ => hrenew

/-- So a request is made for a client that is active. -/
theorem active_of_request {L : Lease σ} {ok : Bool} {e : Event σ}
    (h : L.phase = .idle → ∀ a ∈ L.clients, K.active a = true)
    (hr : (step K ok L e).2 = some .request) :
    ∃ a ∈ (step K ok L e).1.clients, K.active a = true := by
  rcases request_step hr with ⟨hp, a, rfl⟩ | ⟨hp, he, hany⟩
  · rw [join_clients]
    obtain ⟨b, hb⟩ := List.exists_mem_of_ne_nil _ (add_ne_nil (K := K) a
      L.clients)
    refine ⟨b, hb, ?_⟩
    rcases mem_add hb with rfl | hl
    · exact K.active_enter a
    · exact h hp b hl
  · obtain ⟨b, hb, hact⟩ := List.any_eq_true.mp hany
    obtain ⟨p, l⟩ := L
    obtain rfl : p = .ending := hp
    have hclients : (step K ok ⟨.ending, l⟩ e).1.clients
        = l.filter K.active := by
      rcases he with rfl | rfl <;> exact renew_clients l
    rw [hclients]
    exact ⟨b, List.mem_filter.mpr ⟨hb, hact⟩, hact⟩

/-- A population that entering and retiring keep stays on the books, told
    apart or not. -/
theorem all_step (henter : ∀ a, P a → P (K.enter a))
    (hretire : ∀ a, P a → P (K.retire a)) {L : Lease σ} {ok : Bool}
    (h : ∀ a ∈ L.clients, P a) {e : Event σ} (hn : Named P L e) :
    ∀ a ∈ (step K ok L e).1.clients, P a := by
  obtain ⟨p, l⟩ := L
  have hadd : ∀ a, P a → ∀ b ∈ add K a l, P b := by
    intro a ha b hb
    rcases mem_add hb with rfl | hl
    · exact henter a ha
    · exact h b hl
  have hstrike : ∀ e ∈ l, ∀ b ∈ strike K e l, P b := by
    intro e he b hb
    rw [strike] at hb
    split at hb
    · rcases mem_replace hb with rfl | hl
      · exact hretire e (h e he)
      · exact h b hl
    · exact h b (List.mem_of_mem_filter hb)
  have hsettle : ∀ q, ∀ e ∈ l, ∀ b ∈ (settle K q (strike K e l)).1.clients,
      P b := by
    intro q e he
    rw [settle_clients]
    exact hstrike e he
  have hrenew : ∀ b ∈ (renew K l).1.clients, P b := by
    rw [renew_clients]
    exact fun b hb => h b (List.mem_of_mem_filter hb)
  have hnone : ∀ b ∈ ([] : List σ), P b := fun b hb => by cases hb
  cases p with
  | idle =>
      cases e with
      | join a => exact hadd a hn
      | leave e => exact h
      | granted => exact h
      | ended => exact h
      | refused => exact h
  | asking =>
      cases e with
      | join a => exact hadd a hn
      | leave e => exact hsettle .asking e hn
      | granted => exact h
      | ended => exact h
      | refused => exact hnone
  | held =>
      cases e with
      | join a => exact hadd a hn
      | leave e => exact hsettle .held e hn
      | granted => exact h
      | ended => exact hnone
      | refused => exact h
  | ending =>
      cases e with
      | join a => exact hadd a hn
      | leave e => exact hstrike e hn
      | granted => exact h
      | ended => exact hrenew
      | refused => exact hrenew

/-! ## A return under way -/

/-- Striking an entry leaves an inactive client where there was one. -/
theorem exists_inactive_strike (hK : Lawful K P) {l : List σ}
    (h : Entries K P l) {e x : σ} (he : e ∈ l) (hx : x ∈ l)
    (hi : K.active x = false) : ∃ y ∈ strike K e l, K.active y = false := by
  rw [strike]
  by_cases hw : K.lingers e = true
  · rw [if_pos hw]
    exact ⟨K.retire e, mem_replace_self he, K.active_retire e hw⟩
  · rw [if_neg hw]
    -- an inactive client lingers, so it is not the one struck off
    have hne : x ≠ e := by
      intro hxe
      exact hw (hxe ▸ K.lingers_of_not_active x hi)
    refine ⟨x, List.mem_filter.mpr ⟨hx, ?_⟩, hi⟩
    rw [h.same_false hK hx he hne]
    rfl

/-- **THE BOOKS STAY CONSISTENT**: one event, when requests can be sent. -/
theorem consistent_step (hK : Lawful K P) {L : Lease σ}
    (h : Consistent K P L) {e : Event σ} (hn : Named P L e) :
    Consistent K P (step K true L e).1 := by
  refine ⟨settled_step h.settled e, entries_step hK h.entries hn, ?_⟩
  obtain ⟨p, l⟩ := L
  cases p with
  | idle => cases e <;> exact fun hp => by cases hp
  | asking =>
      cases e with
      | leave e => exact ending_settle .asking (fun hp => by cases hp)
      | join a => exact fun hp => by cases hp
      | granted => exact fun hp => by cases hp
      | ended => exact fun hp => by cases hp
      | refused => exact fun hp => by cases hp
  | held =>
      cases e with
      | leave e => exact ending_settle .held (fun hp => by cases hp)
      | join a => exact fun hp => by cases hp
      | granted => exact fun hp => by cases hp
      | ended => exact fun hp => by cases hp
      | refused => exact fun hp => by cases hp
  | ending =>
      obtain ⟨x, hx, hi⟩ := h.ending rfl
      cases e with
      | join a => exact fun _ => ⟨x, mem_add_of_mem hx, hi⟩
      | leave e => exact fun _ => exists_inactive_strike hK h.entries hn hx hi
      | granted => exact fun _ => ⟨x, hx, hi⟩
      | ended => exact fun hp => absurd hp (renew_not_ending l)
      | refused => exact fun hp => absurd hp (renew_not_ending l)

end Retire

end QcomLease
