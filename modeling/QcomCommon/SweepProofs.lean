import Mathlib.Data.List.Basic

/-! # Visiting and sweeping a list with an acting test

    A test that acts on a world while it looks at the elements of a list:
    `visit` runs it up to the first element it accepts and may take that
    element out; `sweep` visits from the front again until nothing is
    accepted any more.

    When the test decides by a predicate on the element and acts only on what
    it accepts (`ActsOn`), a visit finds the first such element and a sweep
    is a filter together with one left fold over the elements taken out
    (`sweep_eq`): every one of them is acted on exactly once, in list order,
    although each visit starts over. -/

namespace QcomSweep

variable {α W : Type}

/-- Run the test along the list up to the first element it accepts, which is
    answered and, with `rm`, taken out. -/
def visit (t : α → W → Bool × W) (rm : Bool) :
    List α → W → Option α × List α × W
  | [], w => (none, [], w)
  | a :: l, w =>
      match t a w with
      | (true, w') => (some a, if rm then l else a :: l, w')
      | (false, w') =>
          ((visit t rm l w').1, a :: (visit t rm l w').2.1,
            (visit t rm l w').2.2)

/-- Visit from the front, taking out what is found, until nothing is found;
    `n` bounds the number of visits. -/
def sweep (t : α → W → Bool × W) : Nat → List α → W → List α × W
  | 0, l, w => (l, w)
  | n + 1, l, w =>
      match visit t true l w with
      | (none, l', w') => (l', w')
      | (some _, l', w') => sweep t n l' w'

/-- The test accepts by `p`, and acts by `f` on what it accepts only. -/
structure ActsOn (t : α → W → Bool × W) (p : α → Bool) (f : W → α → W) :
    Prop where
  yes : ∀ a w, p a = true → t a w = (true, f w a)
  no : ∀ a w, p a = false → t a w = (false, w)

/-- The test accepts nothing, and acts by `f` where `p` holds. -/
structure ActsOnly (t : α → W → Bool × W) (p : α → Bool) (f : W → α → W) :
    Prop where
  yes : ∀ a w, p a = true → t a w = (false, f w a)
  no : ∀ a w, p a = false → t a w = (false, w)

/-- The test accepts by `p`, and acts by `f` on what it accepts and by `g` on
    what it refuses. -/
structure Decides (t : α → W → Bool × W) (p : α → Bool) (f g : W → α → W) :
    Prop where
  yes : ∀ a w, p a = true → t a w = (true, f w a)
  no : ∀ a w, p a = false → t a w = (false, g w a)

/-- A visit of what is refused acts on all of it. -/
theorem visit_refused {t : α → W → Bool × W} {p : α → Bool}
    {f g : W → α → W} (ht : Decides t p f g) (rm : Bool) {l : List α}
    (hl : ∀ a ∈ l, p a = false) (w : W) :
    visit t rm l w = (none, l, l.foldl g w) := by
  induction l generalizing w with
  | nil => rfl
  | cons a l ih =>
      have hrest := ih (fun b hb => hl b (List.mem_cons_of_mem a hb)) (g w a)
      rw [visit, ht.no a w (hl a List.mem_cons_self)]
      dsimp only
      rw [hrest, List.foldl_cons]

/-- A visit stops at the first element that is accepted. -/
theorem visit_accepted {t : α → W → Bool × W} {p : α → Bool}
    {f g : W → α → W} (ht : Decides t p f g) (rm : Bool) {l₁ : List α} {a : α}
    (l₂ : List α) (hl : ∀ b ∈ l₁, p b = false) (ha : p a = true) (w : W) :
    visit t rm (l₁ ++ a :: l₂) w
      = (some a, if rm then l₁ ++ l₂ else l₁ ++ a :: l₂,
          f (l₁.foldl g w) a) := by
  induction l₁ generalizing w with
  | nil =>
      rw [List.nil_append, visit, ht.yes a w ha]
      rfl
  | cons b l₁ ih =>
      have hrest := ih (fun c hc => hl c (List.mem_cons_of_mem b hc)) (g w b)
      rw [List.cons_append, visit, ht.no b w (hl b List.mem_cons_self)]
      dsimp only
      rw [hrest, List.foldl_cons]
      cases rm <;> rfl

/-- What each test does to the world, in a preorder, a visit does. -/
theorem visit_rel {t : α → W → Bool × W} {R : W → W → Prop}
    (hrefl : ∀ w, R w w) (htrans : ∀ w₁ w₂ w₃, R w₁ w₂ → R w₂ w₃ → R w₁ w₃)
    (rm : Bool) {l : List α} (ht : ∀ a ∈ l, ∀ w, R w (t a w).2) (w : W) :
    R w (visit t rm l w).2.2 := by
  induction l generalizing w with
  | nil => exact hrefl w
  | cons a l ih =>
      have hone := ht a List.mem_cons_self w
      rw [visit]
      rcases h : t a w with ⟨_ | _, w'⟩
      · rw [h] at hone
        exact htrans _ _ _ hone
          (ih (fun b hb => ht b (List.mem_cons_of_mem a hb)) w')
      · rw [h] at hone
        exact hone

/-- What a visit answers is of the list, and is all that it takes out. -/
theorem visit_found {t : α → W → Bool × W} {rm : Bool} {l l' : List α} {a : α}
    {w w' : W} (h : visit t rm l w = (some a, l', w')) :
    ∃ l₁ l₂, l = l₁ ++ a :: l₂ ∧ l' = if rm then l₁ ++ l₂ else l := by
  induction l generalizing w l' with
  | nil => cases h
  | cons b l ih =>
      rw [visit] at h
      rcases hb : t b w with ⟨_ | _, w₁⟩
      · rw [hb] at h
        dsimp only at h
        rcases hr : visit t rm l w₁ with ⟨x, q, w₂⟩
        rw [hr] at h
        obtain ⟨rfl, rfl, rfl⟩ : x = some a ∧ b :: q = l' ∧ w₂ = w' := by
          simpa using h
        obtain ⟨l₁, l₂, rfl, rfl⟩ := ih hr
        exact ⟨b :: l₁, l₂, rfl, by cases rm <;> rfl⟩
      · rw [hb] at h
        obtain ⟨rfl, rfl, -⟩ : b = a ∧ (if rm then l else b :: l) = l' ∧
            w₁ = w' := by
          simpa using h
        exact ⟨[], l, rfl, rfl⟩

/-- A visit that answers nothing takes nothing out. -/
theorem visit_nothing {t : α → W → Bool × W} {rm : Bool} {l l' : List α}
    {w w' : W} (h : visit t rm l w = (none, l', w')) : l' = l := by
  induction l generalizing w l' with
  | nil =>
      cases h
      rfl
  | cons b l ih =>
      rw [visit] at h
      rcases hb : t b w with ⟨_ | _, w₁⟩
      · rw [hb] at h
        dsimp only at h
        rcases hr : visit t rm l w₁ with ⟨x, q, w₂⟩
        rw [hr] at h
        obtain ⟨rfl, rfl, rfl⟩ : x = none ∧ b :: q = l' ∧ w₂ = w' := by
          simpa using h
        rw [ih hr]
      · rw [hb] at h
        cases h

/-- A visit that takes nothing out keeps the list. -/
theorem visit_keeps (t : α → W → Bool × W) (l : List α) (w : W) :
    (visit t false l w).2.1 = l := by
  rcases hv : visit t false l w with ⟨_ | a, l', w'⟩
  · exact visit_nothing hv
  · obtain ⟨l₁, l₂, -, hl'⟩ := visit_found hv
    rwa [if_neg Bool.false_ne_true] at hl'

/-- A test that never acts visits for the first element it accepts. -/
theorem visit_pure (p : α → Bool) (l : List α) (w : W) :
    visit (fun a w => (p a, w)) false l w = (l.find? p, l, w) := by
  induction l with
  | nil => rfl
  | cons a l ih =>
      cases hp : p a with
      | true => simp [visit, hp]
      | false => simp [visit, hp, ih]

/-- A test that answers by `p` finds the first element where `p` holds. -/
theorem visit_find {t : α → W → Bool × W} {p : α → Bool}
    (ht : ∀ a w, (t a w).1 = p a) (rm : Bool) (l : List α) (w : W) :
    (visit t rm l w).1 = l.find? p := by
  induction l generalizing w with
  | nil => rfl
  | cons a l ih =>
      rw [visit, List.find?_cons, ← ht a w]
      rcases t a w with ⟨_ | _, w'⟩
      · exact ih w'
      · rfl

/-- And takes that element out, if any. -/
theorem visit_eraseP {t : α → W → Bool × W} {p : α → Bool}
    (ht : ∀ a w, (t a w).1 = p a) (rm : Bool) (l : List α) (w : W) :
    (visit t rm l w).2.1 = if rm then l.eraseP p else l := by
  induction l generalizing w with
  | nil => cases rm <;> rfl
  | cons a l ih =>
      rw [visit, List.eraseP_cons, ← ht a w]
      rcases t a w with ⟨_ | _, w'⟩
      · show a :: (visit t rm l w').2.1 = _
        rw [ih w']
        cases rm <;> rfl
      · cases rm <;> rfl

/-- A visit that accepts nothing acts once on every element where `p`
    holds and leaves the list alone. -/
theorem visit_actsOnly {t : α → W → Bool × W} {p : α → Bool}
    {f : W → α → W} (ht : ActsOnly t p f) (rm : Bool) :
    ∀ (l : List α) (w : W),
      visit t rm l w = (none, l, (l.filter p).foldl f w) := by
  intro l
  induction l with
  | nil => intro w; rfl
  | cons a l ih =>
      intro w
      cases hp : p a with
      | true => simp [visit, ht.yes a w hp, ih, hp]
      | false => simp [visit, ht.no a w hp, ih, hp]

/-- Where nothing is accepted a visit changes nothing. -/
theorem visit_none {t : α → W → Bool × W} {p : α → Bool} {f : W → α → W}
    (ht : ActsOn t p f) (rm : Bool) (l : List α) (w : W)
    (hl : ∀ a ∈ l, p a = false) : visit t rm l w = (none, l, w) := by
  induction l with
  | nil => rfl
  | cons a l ih =>
      have hrest := ih (fun b hb => hl b (List.mem_cons_of_mem a hb))
      simp [visit, ht.no a w (hl a List.mem_cons_self), hrest]

/-- A visit passes over the elements the test refuses. -/
theorem visit_append {t : α → W → Bool × W} {p : α → Bool} {f : W → α → W}
    (ht : ActsOn t p f) (rm : Bool) (l₁ l₂ : List α) (w : W)
    (hl : ∀ a ∈ l₁, p a = false) :
    visit t rm (l₁ ++ l₂) w
      = ((visit t rm l₂ w).1, l₁ ++ (visit t rm l₂ w).2.1,
          (visit t rm l₂ w).2.2) := by
  induction l₁ with
  | nil => rfl
  | cons a l ih =>
      have hrest := ih (fun b hb => hl b (List.mem_cons_of_mem a hb))
      simp [visit, ht.no a w (hl a List.mem_cons_self), hrest]

/-- Visiting the images of a list. -/
theorem visit_map {β : Type} (t : α → W → Bool × W) (f : β → α) (rm : Bool)
    (l : List β) (w : W) :
    visit t rm (l.map f) w
      = ((visit (fun b => t (f b)) rm l w).1.map f,
          (visit (fun b => t (f b)) rm l w).2.1.map f,
          (visit (fun b => t (f b)) rm l w).2.2) := by
  induction l generalizing w with
  | nil => rfl
  | cons b l ih =>
      rw [List.map_cons, visit, visit]
      rcases t (f b) w with ⟨_ | _, w'⟩
      · dsimp only
        rw [ih w']
        rfl
      · cases rm <;> rfl

/-- Nothing is accepted, or there is a first element that is. -/
theorem first_accepted (p : α → Bool) (l : List α) :
    (∀ a ∈ l, p a = false) ∨
    ∃ l₁ a l₂, l = l₁ ++ a :: l₂ ∧ (∀ b ∈ l₁, p b = false) ∧ p a = true := by
  rcases hf : l.find? p with _ | a
  · refine Or.inl ?_
    intro a ha
    simpa using List.find?_eq_none.mp hf a ha
  · obtain ⟨hp, l₁, l₂, hl, h₁⟩ := List.find?_eq_some_iff_append.mp hf
    exact Or.inr ⟨l₁, a, l₂, hl, fun b hb => by simpa using h₁ b hb, hp⟩

/-- What is refused is not taken out. -/
theorem filter_refused {p : α → Bool} {l : List α}
    (h : ∀ a ∈ l, p a = false) :
    l.filter p = [] ∧ l.filter (fun a => !p a) = l := by
  constructor
  · rw [List.filter_eq_nil_iff]
    intro a ha
    rw [h a ha]
    exact Bool.false_ne_true
  · rw [List.filter_eq_self]
    intro a ha
    rw [h a ha]
    rfl

/-- Taking out the first element that is accepted. -/
theorem filter_accepted {p : α → Bool} {l₁ : List α} {a : α} (l₂ : List α)
    (h : ∀ b ∈ l₁, p b = false) (ha : p a = true) :
    (l₁ ++ a :: l₂).filter p = a :: (l₁ ++ l₂).filter p ∧
      (l₁ ++ a :: l₂).filter (fun a => !p a)
        = (l₁ ++ l₂).filter (fun a => !p a) := by
  obtain ⟨hnone, hkeep⟩ := filter_refused h
  constructor
  · rw [List.filter_append, List.filter_append, hnone,
      List.filter_cons_of_pos ha]
    rfl
  · have hna : ¬ (!p a) = true := by
      rw [ha]
      exact Bool.false_ne_true
    rw [List.filter_append, List.filter_append, hkeep,
      List.filter_cons_of_neg (p := fun a => !p a) hna]

/-- Going on while elements are refused. -/
theorem dropWhile_refused {p : α → Bool} {l : List α}
    (h : ∀ a ∈ l, p a = false) : l.dropWhile (fun a => !p a) = [] := by
  have hall : ∀ a ∈ l, (!p a) = true := by
    intro a ha
    rw [h a ha]
    rfl
  rw [← List.append_nil l, List.dropWhile_append_of_pos hall]
  rfl

theorem while_accepted {p : α → Bool} {l₁ : List α} {a : α} (l₂ : List α)
    (h : ∀ b ∈ l₁, p b = false) (ha : p a = true) :
    (l₁ ++ a :: l₂).dropWhile (fun a => !p a) = a :: l₂ ∧
      (l₁ ++ a :: l₂).takeWhile (fun a => !p a) = l₁ := by
  have hall : ∀ b ∈ l₁, (!p b) = true := by
    intro b hb
    rw [h b hb]
    rfl
  have hna : ¬ (!p a) = true := by
    rw [ha]
    exact Bool.false_ne_true
  constructor
  · rw [List.dropWhile_append_of_pos hall]
    exact List.dropWhile_cons_of_neg (p := fun a => !p a) hna
  · rw [List.takeWhile_append_of_pos hall,
      List.takeWhile_cons_of_neg (p := fun a => !p a) hna, List.append_nil]

/-- **SWEEP**: with visits enough for the list, a sweep keeps exactly what
    the test refuses, in order, and acts once on each element taken out. -/
theorem sweep_eq {t : α → W → Bool × W} {p : α → Bool} {f : W → α → W}
    (ht : ActsOn t p f) :
    ∀ (n : Nat) (l : List α) (w : W), (l.filter p).length < n →
      sweep t n l w
        = (l.filter (fun a => !p a), (l.filter p).foldl f w) := by
  intro n
  induction n with
  | zero => intro l w h; exact absurd h (Nat.not_lt_zero _)
  | succ n ih =>
      intro l w h
      rw [sweep]
      -- split the list at the first element the test accepts
      rcases first_accepted p l with hnone | ⟨l₁, a, l₂, rfl, hno, ha⟩
      · obtain ⟨hfilter, hkeep⟩ := filter_refused hnone
        rw [visit_none ht true l w hnone, hfilter, hkeep]
        rfl
      · obtain ⟨hfilter, hkeep⟩ := filter_accepted l₂ hno ha
        have hvisit : visit t true (a :: l₂) w = (some a, l₂, f w a) := by
          simp [visit, ht.yes a w ha]
        rw [hfilter, List.length_cons] at h
        rw [visit_append ht true l₁ (a :: l₂) w hno, hvisit, hfilter, hkeep]
        exact ih (l₁ ++ l₂) (f w a) (Nat.lt_of_succ_lt_succ h)

end QcomSweep
