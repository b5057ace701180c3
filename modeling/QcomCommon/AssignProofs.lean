import Mathlib.Data.List.Basic
import Mathlib.Data.List.Induction

/-! # Runs of assignments

    A store is updated place by place, and each place holds what was assigned
    to it last (`putAll_eq_lastSome`).  Two runs are given as one list: what
    the first run assigns, and at the same place what the second assigns, if
    it assigns anything.  They end with the same store if and only if every
    assignment that is the last to its place is the same in both, or is left
    out where the place holds its value already (`runs_agree_iff`). -/

namespace QcomAssign

variable {P V : Type} [DecidableEq P]

/-- Point update of a store. -/
def put (f : P → V) (w : P × V) : P → V :=
  fun p => if p = w.1 then w.2 else f p

/-- Assignments one behind the other. -/
def putAll (f : P → V) (l : List (P × V)) : P → V := l.foldl put f

theorem putAll_append (f : P → V) (l l' : List (P × V)) :
    putAll f (l ++ l') = putAll (putAll f l) l' := List.foldl_append

/-- A place that is not assigned holds what it held. -/
theorem putAll_of_not_mem {p : P} {l : List (P × V)}
    (h : p ∉ l.map Prod.fst) (f : P → V) : putAll f l p = f p := by
  induction l generalizing f with
  | nil => rfl
  | cons w l ih =>
      rw [List.map_cons, List.mem_cons, not_or] at h
      show putAll (put f w) l p = f p
      rw [ih h.2, put, if_neg h.1]

/-! ## The last assignment -/

/-- The last value that `f` finds in the list. -/
def lastSome {A B : Type} (f : A → Option B) (l : List A) : Option B :=
  (l.filterMap f).getLast?

/-- The last value behind a filter. -/
theorem lastSome_filterMap {A B C : Type} (g : A → Option B) (f : B → Option C)
    (l : List A) :
    lastSome f (l.filterMap g) = lastSome (fun a => (g a).bind f) l := by
  unfold lastSome
  rw [List.filterMap_filterMap]

/-- The last element counts, if it has a value. -/
theorem lastSome_concat {A B : Type} (f : A → Option B) (l : List A) (a : A) :
    lastSome f (l ++ [a]) = (f a).or (lastSome f l) := by
  rw [lastSome, List.filterMap_append, lastSome, List.getLast?_append]
  cases h : f a with
  | none => rw [List.filterMap_cons_none h]; rfl
  | some b => rw [List.filterMap_cons_some h]; rfl

/-- The second list counts, if it has one. -/
theorem lastSome_append {A B : Type} (f : A → Option B) (l l' : List A) :
    lastSome f (l ++ l') = (lastSome f l').or (lastSome f l) := by
  rw [lastSome, List.filterMap_append, List.getLast?_append]
  rfl

/-- The last value has nothing with a value behind it. -/
theorem lastSome_eq_some_iff {A B : Type} {f : A → Option B} {l : List A}
    {b : B} : lastSome f l = some b ↔
      ∃ front a back, l = front ++ a :: back ∧ f a = some b ∧
        ∀ x ∈ back, f x = none := by
  rw [lastSome, List.getLast?_filterMap, List.findSome?_eq_some_iff]
  constructor
  · rintro ⟨back, a, front, hl, ha, hback⟩
    refine ⟨front.reverse, a, back.reverse, ?_, ha, fun x hx => ?_⟩
    · rw [← List.reverse_reverse l, hl]
      simp
    · exact hback x (List.mem_reverse.mp hx)
  · rintro ⟨front, a, back, rfl, ha, hback⟩
    refine ⟨back.reverse, a, front.reverse, by simp, ha, fun x hx => ?_⟩
    exact hback x (List.mem_reverse.mp hx)

/-- There is none if no element has one. -/
theorem lastSome_eq_none_iff {A B : Type} {f : A → Option B} {l : List A} :
    lastSome f l = none ↔ ∀ a ∈ l, f a = none := by
  rw [lastSome, List.getLast?_eq_none_iff, List.filterMap_eq_nil_iff]

/-- A place holds what was last assigned to it. -/
theorem putAll_eq_lastSome (f : P → V) (l : List (P × V)) (p : P) :
    putAll f l p
      = (lastSome (fun w => if w.1 = p then some w.2 else none) l).getD
        (f p) := by
  induction l using List.reverseRecOn with
  | nil => rfl
  | append_singleton l w ih =>
      rw [putAll_append, lastSome_concat]
      show put (putAll f l) w p = _
      by_cases hw : w.1 = p
      · rw [put, if_pos hw.symm, if_pos hw]
        rfl
      · rw [put, if_neg (Ne.symm hw), if_neg hw, ih]
        rfl

/-! ## Two runs -/

/-- One assignment as the two runs make it. -/
structure Twin (P V : Type) where
  place : P
  first : V
  second : Option V
deriving DecidableEq, Repr

/-- The assignments of the first reader. -/
def firsts (l : List (Twin P V)) : List (P × V) :=
  l.map (fun t => (t.place, t.first))

/-- Those of the second one, which may leave some out. -/
def seconds (l : List (Twin P V)) : List (P × V) :=
  l.filterMap (fun t => t.second.map (fun v => (t.place, v)))

omit [DecidableEq P] in
theorem seconds_append (l l' : List (Twin P V)) :
    seconds (l ++ l') = seconds l ++ seconds l' := List.filterMap_append

omit [DecidableEq P] in
theorem not_mem_firsts {p : P} {l : List (Twin P V)}
    (h : p ∉ l.map Twin.place) : p ∉ (firsts l).map Prod.fst := by
  rw [firsts, List.map_map]
  exact h

omit [DecidableEq P] in
theorem not_mem_seconds {p : P} {l : List (Twin P V)}
    (h : p ∉ l.map Twin.place) : p ∉ (seconds l).map Prod.fst := by
  intro hp
  obtain ⟨w, hw, rfl⟩ := List.mem_map.mp hp
  obtain ⟨t, ht, hsome⟩ := List.mem_filterMap.mp hw
  obtain ⟨v, -, rfl⟩ := Option.map_eq_some_iff.mp hsome
  exact h (List.mem_map_of_mem ht)

/-- What the first run leaves at the place of its last assignment. -/
theorem firsts_last (f : P → V) (front : List (Twin P V)) {t : Twin P V}
    {back : List (Twin P V)} (h : t.place ∉ back.map Twin.place) :
    putAll f (firsts (front ++ t :: back)) t.place = t.first := by
  have hsplit : firsts (front ++ t :: back)
      = firsts front ++ ((t.place, t.first) :: firsts back) := by
    simp [firsts]
  rw [hsplit, putAll_append]
  show putAll (put _ (t.place, t.first)) (firsts back) t.place = t.first
  rw [putAll_of_not_mem (not_mem_firsts h), put, if_pos rfl]

/-- And the second. -/
theorem seconds_last (f : P → V) (front : List (Twin P V)) {t : Twin P V}
    {back : List (Twin P V)} (h : t.place ∉ back.map Twin.place) :
    putAll f (seconds (front ++ t :: back)) t.place
      = t.second.getD (putAll f (seconds front) t.place) := by
  have hback := fun g : P → V => putAll_of_not_mem (not_mem_seconds h) g
  rw [seconds_append, putAll_append]
  cases hs : t.second with
  | none =>
      have hcons : seconds (t :: back) = seconds back := by
        rw [seconds, List.filterMap_cons, hs]
        rfl
      rw [hcons, hback]
      rfl
  | some v =>
      have hcons : seconds (t :: back) = (t.place, v) :: seconds back := by
        rw [seconds, List.filterMap_cons, hs]
        rfl
      rw [hcons]
      show putAll (put _ (t.place, v)) (seconds back) t.place = v
      rw [hback, put, if_pos rfl]

omit [DecidableEq P] in
/-- A place that is assigned is assigned a last time. -/
theorem exists_last {p : P} {l : List (Twin P V)}
    (h : p ∈ l.map Twin.place) :
    ∃ front t back, l = front ++ t :: back ∧ t.place = p ∧
      p ∉ back.map Twin.place := by
  induction l with
  | nil => cases h
  | cons t l ih =>
      by_cases hl : p ∈ l.map Twin.place
      · obtain ⟨front, u, back, rfl, hu, hback⟩ := ih hl
        exact ⟨t :: front, u, back, rfl, hu, hback⟩
      · rw [List.map_cons, List.mem_cons] at h
        refine ⟨[], t, l, rfl, ?_, hl⟩
        rcases h with h | h
        · exact h.symm
        · exact absurd h hl

/-- The last assignment to each place is the same in both runs, or is left
    out where the place holds its value. -/
def Harmless (f : P → V) (l : List (Twin P V)) : Prop :=
  ∀ front t back, l = front ++ t :: back → t.place ∉ back.map Twin.place →
    t.second.getD (putAll f (seconds front) t.place) = t.first

/-- **TWO RUNS** end with the same store if and only if what they do
    differently is harmless. -/
theorem runs_agree_iff (f : P → V) (l : List (Twin P V)) :
    (∀ p ∈ l.map Twin.place, putAll f (seconds l) p = putAll f (firsts l) p)
      ↔ Harmless f l := by
  constructor
  · rintro h front t back rfl hback
    have hmem : t.place ∈ (front ++ t :: back).map Twin.place :=
      List.mem_map_of_mem (List.mem_append_right _ List.mem_cons_self)
    rw [← seconds_last f front hback, h t.place hmem, firsts_last f front hback]
  · intro h p hp
    obtain ⟨front, t, back, rfl, rfl, hback⟩ := exists_last hp
    rw [seconds_last f front hback, firsts_last f front hback]
    exact h front t back rfl hback

end QcomAssign
