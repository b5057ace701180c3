import Mathlib.Data.Multiset.UnionInter
import QcomCommon.LocHeapProofs
import QcomCommon.TransitionProofs

/-! # The heap as a priority multiset

    What the heap holds is the multiset of the objects pushed and not yet
    taken out.  Over a ranking that comes from a total preorder no child
    outranks its parent, so the top is not outranked, and the search of
    `remove`, which turns back where the object outranks the top of a
    subtree, misses nothing.

    The ranking is asked of a population `P` only: rankings computed in
    machine integers are total preorders on part of their type. -/

namespace QcomHeap

open QcomTransition

/-- On the objects of `P` the ranking is that of the total preorder `le`. -/
structure RankedOn {α : Type} [LocRankable α] (P : α → Prop)
    (le : α → α → Prop) : Prop where
  total : ∀ {a b}, P a → P b → le a b ∨ le b a
  trans : ∀ {a b c}, P a → P b → P c → le a b → le b c → le a c
  pos : ∀ {a b}, P a → P b → (0 < LocRankable.ranks a b ↔ ¬ le a b)

namespace LocHeapNode

variable {α : Type}

/-- The objects in the tree, each as often as it is there. -/
def objects : LocHeapNode α → Multiset α
  | .null => 0
  | .node _ l r d => d ::ₘ (l.objects + r.objects)

/-- The objects are the nodes. -/
theorem mem_objects {t : LocHeapNode α} {y : α} :
    y ∈ t.objects ↔ t.Mem y := by
  induction t with
  | null => exact ⟨fun h => absurd h (Multiset.notMem_zero y), False.elim⟩
  | node s l r d ihl ihr =>
      rw [objects, Multiset.mem_cons, Multiset.mem_add, ihl, ihr]
      exact Iff.rfl

theorem objects_eq_zero {t : LocHeapNode α} : t.objects = 0 ↔ t = .null := by
  cases t with
  | null => exact ⟨fun _ => rfl, fun _ => rfl⟩
  | node s l r d =>
      constructor
      · intro h
        exact absurd h (Multiset.cons_ne_zero)
      · intro h
        cases h

/-- `mSize` of every node is the node count of its subtree. -/
def Sized : LocHeapNode α → Prop
  | .null => True
  | .node s l r _ => s = l.mSize + r.mSize + 1 ∧ Sized l ∧ Sized r

/-- The size is their number. -/
theorem Sized.card {t : LocHeapNode α} (h : t.Sized) :
    t.objects.card = t.mSize := by
  induction t with
  | null => rfl
  | node s l r d ihl ihr =>
      obtain ⟨hs, hl, hr⟩ := h
      rw [objects, Multiset.card_cons, Multiset.card_add, ihl hl, ihr hr]
      exact hs.symm

variable [LocRankable α]

/-- No child outranks its parent. -/
def Sorted : LocHeapNode α → Prop
  | .null => True
  | .node _ l r d =>
      (∀ e, l.peek = some e → outRanks e d = false) ∧
      (∀ e, r.peek = some e → outRanks e d = false) ∧ Sorted l ∧ Sorted r

/-- `LocHeapNode::checkNodes`. -/
def checkNodes : LocHeapNode α → Bool
  | .null => true
  | .node s l r d =>
      !(l.peek.any (fun e => outRanks e d) || !l.checkNodes) &&
      !(r.peek.any (fun e => outRanks e d) || !r.checkNodes) &&
      decide ((s : Int) - l.mSize - r.mSize = 1)

/-- `LocHeap::checkTree`. -/
def checkTree (t : LocHeapNode α) : Bool :=
  t.peek.isNone || t.checkNodes

theorem any_peek {t : LocHeapNode α} {d : α} :
    t.peek.any (fun e => outRanks e d) = false ↔
      ∀ e, t.peek = some e → outRanks e d = false := by
  cases t.peek with
  | none => exact ⟨fun _ e he => (by cases he), fun _ => rfl⟩
  | some f =>
      constructor
      · intro h e he
        exact Option.some.inj he ▸ h
      · intro h
        exact h f rfl

/-- What the check checks. -/
theorem checkNodes_iff {t : LocHeapNode α} :
    t.checkNodes = true ↔ t.Sized ∧ t.Sorted := by
  induction t with
  | null => exact ⟨fun _ => ⟨trivial, trivial⟩, fun _ => rfl⟩
  | node s l r d ihl ihr =>
      have hsize : ((s : Int) - l.mSize - r.mSize = 1) ↔
          s = l.mSize + r.mSize + 1 := by omega
      rw [checkNodes, Bool.and_eq_true, Bool.and_eq_true,
        Bool.not_eq_true', Bool.not_eq_true', Bool.or_eq_false_iff,
        Bool.or_eq_false_iff, any_peek, any_peek, Bool.not_eq_false',
        Bool.not_eq_false', ihl, ihr, decide_eq_true_iff, hsize]
      constructor
      · rintro ⟨⟨⟨hld, hls, hlo⟩, hrd, hrs, hro⟩, hs⟩
        exact ⟨⟨hs, hls, hrs⟩, hld, hrd, hlo, hro⟩
      · rintro ⟨⟨hs, hls, hrs⟩, hld, hrd, hlo, hro⟩
        exact ⟨⟨⟨hld, hls, hlo⟩, hrd, hrs, hro⟩, hs⟩

/-- `checkTree` checks the sizes and the order. -/
theorem checkTree_iff {t : LocHeapNode α} :
    t.checkTree = true ↔ t.Sized ∧ t.Sorted := by
  cases t with
  | null => exact ⟨fun _ => ⟨trivial, trivial⟩, fun _ => rfl⟩
  | node s l r d => exact checkNodes_iff

/-! ## What a pop and a removal do to a node -/

/-- A pop takes out a single node, or gives its top the data of the higher
    child, which is popped in turn. -/
inductive PopMove (s : Nat) (l r : LocHeapNode α) (d : α) :
    LocHeapNode α → Prop where
  | last (hl : l = .null) (hr : r = .null) : PopMove s l r d .null
  | left {e : α} (hl : l.peek = some e)
      (hr : ∀ f, r.peek = some f → outRanks e f = true) :
      PopMove s l r d (.node (s - 1) l.popNode r e)
  | right {e : α} (hr : r.peek = some e)
      (hl : ∀ f, l.peek = some f → outRanks f e = false) :
      PopMove s l r d (.node (s - 1) l r.popNode e)

/-- What a pop does at a node. -/
theorem popNode_move (s : Nat) (l r : LocHeapNode α) (d : α) :
    PopMove s l r d (popNode (.node s l r d)) := by
  have hnone : ∀ {t : LocHeapNode α} {P : α → Prop}, t.peek = none →
      ∀ f, t.peek = some f → P f := by
    intro t P ht f hf
    rw [ht] at hf
    cases hf
  rw [popNode]
  split
  · rename_i hl hr
    exact .last (peek_eq_none.mp hl) (peek_eq_none.mp hr)
  · rename_i e hl hr
    exact .right hr (hnone hl)
  · rename_i e hl hr
    exact .left hl (hnone hr)
  · rename_i e f hl hr
    split
    · rename_i hout
      exact .left hl (fun g hg => Option.some.inj (hr.symm.trans hg) ▸ hout)
    · rename_i hout
      refine .right hr (fun g hg => ?_)
      rw [← Option.some.inj (hl.symm.trans hg)]
      exact Bool.eq_false_of_not_eq_true hout

/-- A removal pops the node that has the object, turns back at a top the
    object outranks, or goes on in the sides, the left one first. -/
inductive RemoveMove [DecidableEq α] (s : Nat) (l r : LocHeapNode α) (d x : α) :
    Option α × LocHeapNode α → Prop where
  | top (hx : x = d) :
      RemoveMove s l r d x (some d, popNode (.node s l r d))
  | back (hx : x ≠ d) (hout : outRanks x d = true) :
      RemoveMove s l r d x (none, .node s l r d)
  | left {y : α} (hx : x ≠ d) (hl : (l.remove x).1 = some y) :
      RemoveMove s l r d x (some y, .node (s - 1) (l.remove x).2 r d)
  | right {y : α} (hx : x ≠ d) (hr : (r.remove x).1 = some y) :
      RemoveMove s l r d x (some y, .node (s - 1) l (r.remove x).2 d)
  | missed (hx : x ≠ d) (hl : (l.remove x).1 = none)
      (hr : (r.remove x).1 = none) :
      RemoveMove s l r d x (none, .node s l r d)

/-- What a removal does at a node. -/
theorem remove_move [DecidableEq α] (s : Nat) (l r : LocHeapNode α)
    (d x : α) : RemoveMove s l r d x (remove (.node s l r d) x) := by
  rw [remove]
  split
  · rename_i hx
    exact .top hx
  · rename_i hx
    split
    · rename_i hout
      exact .back hx hout
    · simp only
      cases hl : (l.remove x).1 with
      | some y =>
          simp only [Option.isSome_some, if_true]
          exact .left hx hl
      | none =>
          simp only [Option.isSome_none, Bool.false_eq_true, if_false]
          cases hr : (r.remove x).1 with
          | some y =>
              simp only [Option.isSome_some, if_true]
              exact .right hx hr
          | none =>
              simp only [Option.isSome_none, Bool.false_eq_true, if_false]
              exact .missed hx hl hr

/-! ## The objects -/

/-- A push adds its object. -/
theorem objects_push (t : LocHeapNode α) (x : α) :
    (t.push x).objects = x ::ₘ t.objects := by
  induction t generalizing x with
  | null => rfl
  | node s l r d ihl ihr =>
      have hswap : higher x d ::ₘ lower x d ::ₘ (l.objects + r.objects) =
          x ::ₘ d ::ₘ (l.objects + r.objects) := by
        rcases higher_lower x d with ⟨hh, hl⟩ | ⟨hh, hl⟩
        · rw [hh, hl]
        · rw [hh, hl, Multiset.cons_swap]
      rcases push_node s l r d x with h | h
      · rw [h, objects, ihl, Multiset.cons_add, hswap, objects]
      · rw [h, objects, ihr, Multiset.add_cons, hswap, objects]

/-- What leaves by a pop is the top. -/
theorem objects_popNode {t : LocHeapNode α} {d : α} (h : t.peek = some d) :
    d ::ₘ t.popNode.objects = t.objects := by
  induction t generalizing d with
  | null => cases h
  | node s l r e ihl ihr =>
      obtain rfl := Option.some.inj h
      have hmove := popNode_move s l r e
      generalize popNode (.node s l r e) = t at hmove ⊢
      cases hmove with
      | last hl hr =>
          rw [hl, hr]
          rfl
      | left hl hr =>
          rw [objects, objects, ← ihl hl, Multiset.cons_add]
      | right hr hl =>
          rw [objects, objects, ← ihr hr, Multiset.add_cons]

/-- A removal that finds an object finds the one it was asked for. -/
theorem objects_remove [DecidableEq α] {t : LocHeapNode α} {x y : α}
    (h : (t.remove x).1 = some y) :
    y = x ∧ x ::ₘ (t.remove x).2.objects = t.objects := by
  induction t generalizing y with
  | null => cases h
  | node s l r d ihl ihr =>
      have hmove := remove_move s l r d x
      generalize remove (.node s l r d) x = p at hmove h ⊢
      cases hmove with
      | top hx =>
          obtain rfl := Option.some.inj h
          exact ⟨hx.symm, by rw [hx]; exact objects_popNode rfl⟩
      | back hx hout => cases h
      | left hx hl =>
          obtain rfl := Option.some.inj h
          obtain ⟨hy, hobj⟩ := ihl hl
          refine ⟨hy, ?_⟩
          rw [objects, objects, ← hobj, Multiset.cons_add,
            Multiset.cons_swap]
      | right hx hr =>
          obtain rfl := Option.some.inj h
          obtain ⟨hy, hobj⟩ := ihr hr
          refine ⟨hy, ?_⟩
          rw [objects, objects, ← hobj, Multiset.add_cons,
            Multiset.cons_swap]
      | missed hx hl hr => cases h

/-- A removal that finds nothing leaves the tree. -/
theorem remove_eq_of_none [DecidableEq α] {t : LocHeapNode α} {x : α}
    (h : (t.remove x).1 = none) : t.remove x = (none, t) := by
  cases t with
  | null => rfl
  | node s l r d =>
      have hmove := remove_move s l r d x
      generalize remove (.node s l r d) x = p at hmove h ⊢
      cases hmove with
      | top hx => cases h
      | back hx hout => rfl
      | left hx hl => cases h
      | right hx hr => cases h
      | missed hx hl hr => rfl

/-! ## The sizes -/

/-- A push adds 1 to the size. -/
theorem mSize_push (t : LocHeapNode α) (x : α) :
    (t.push x).mSize = t.mSize + 1 := by
  cases t with
  | null => rfl
  | node s l r d =>
      rcases push_node s l r d x with h | h
      · rw [h]
        rfl
      · rw [h]
        rfl

theorem Sized.push {t : LocHeapNode α} (h : t.Sized) (x : α) :
    (t.push x).Sized := by
  induction t generalizing x with
  | null => exact ⟨rfl, trivial, trivial⟩
  | node s l r d ihl ihr =>
      obtain ⟨hs, hl, hr⟩ := h
      rcases push_node s l r d x with hp | hp
      · rw [hp]
        refine ⟨?_, ihl hl _, hr⟩
        rw [mSize_push]
        omega
      · rw [hp]
        refine ⟨?_, hl, ihr hr _⟩
        rw [mSize_push]
        omega

omit [LocRankable α] in
/-- A tree with a top has a size. -/
theorem Sized.size_pos {t : LocHeapNode α} (h : t.Sized) (ht : t ≠ .null) :
    0 < t.mSize := by
  cases t with
  | null => exact absurd rfl ht
  | node s l r e =>
      have hs : s = l.mSize + r.mSize + 1 := h.1
      show 0 < s
      omega

/-- A pop takes 1 of it. -/
theorem Sized.popNode {t : LocHeapNode α} (h : t.Sized) :
    t.popNode.Sized ∧ t.popNode.mSize = t.mSize - 1 := by
  induction t with
  | null => exact ⟨trivial, rfl⟩
  | node s l r d ihl ihr =>
      obtain ⟨hs, hl, hr⟩ := h
      have hmove := popNode_move s l r d
      generalize LocHeapNode.popNode (.node s l r d) = t at hmove ⊢
      cases hmove with
      | last hln hrn =>
          rw [hln, hrn] at hs
          refine ⟨trivial, ?_⟩
          show 0 = s - 1
          rw [hs]
          rfl
      | left hpeek _ =>
          obtain ⟨hpop, hsize⟩ := ihl hl
          have hpos := hl.size_pos (fun hn => by rw [hn] at hpeek; cases hpeek)
          exact ⟨⟨by omega, hpop, hr⟩, rfl⟩
      | right hpeek _ =>
          obtain ⟨hpop, hsize⟩ := ihr hr
          have hpos := hr.size_pos (fun hn => by rw [hn] at hpeek; cases hpeek)
          exact ⟨⟨by omega, hl, hpop⟩, rfl⟩

/-- So does a removal that finds its node. -/
theorem Sized.remove [DecidableEq α] {t : LocHeapNode α} (h : t.Sized)
    (x : α) : (t.remove x).2.Sized ∧
      ∀ y, (t.remove x).1 = some y → (t.remove x).2.mSize = t.mSize - 1 := by
  induction t with
  | null => exact ⟨trivial, fun _ hy => (by cases hy)⟩
  | node s l r d ihl ihr =>
      obtain ⟨hs, hl, hr⟩ := h
      have hmove := remove_move s l r d x
      have hpop := Sized.popNode (t := .node s l r d) ⟨hs, hl, hr⟩
      generalize LocHeapNode.remove (.node s l r d) x = p at hmove ⊢
      cases hmove with
      | top hx => exact ⟨hpop.1, fun _ _ => hpop.2⟩
      | back hx hout => exact ⟨⟨hs, hl, hr⟩, fun _ hy => (by cases hy)⟩
      | left hx hfound =>
          obtain ⟨hrem, hsize⟩ := ihl hl
          have hsize' := hsize _ hfound
          have hpos := hl.size_pos (fun hn => by rw [hn] at hfound; cases hfound)
          exact ⟨⟨by omega, hrem, hr⟩, fun _ _ => rfl⟩
      | right hx hfound =>
          obtain ⟨hrem, hsize⟩ := ihr hr
          have hsize' := hsize _ hfound
          have hpos := hr.size_pos (fun hn => by rw [hn] at hfound; cases hfound)
          exact ⟨⟨by omega, hl, hrem⟩, fun _ _ => rfl⟩
      | missed hx _ _ => exact ⟨⟨hs, hl, hr⟩, fun _ hy => (by cases hy)⟩

/-! ## The order -/

section Order

variable {P : α → Prop} {le : α → α → Prop}

/-- The rank is the opposite of the order. -/
theorem outRanks_eq_false (hle : RankedOn P le) {a b : α} (ha : P a)
    (hb : P b) : outRanks a b = false ↔ le a b := by
  rw [outRanks, decide_eq_false_iff_not, hle.pos ha hb, not_not]

theorem le_refl (hle : RankedOn P le) {a : α} (ha : P a) : le a a := by
  rcases hle.total ha ha with h | h
  · exact h
  · exact h

/-- An object that outranks another is not below it. -/
theorem le_of_outRanks (hle : RankedOn P le) {a b : α} (ha : P a) (hb : P b)
    (h : outRanks a b = true) : le b a := by
  have hnot : ¬ le a b := (hle.pos ha hb).mp (of_decide_eq_true h)
  rcases hle.total ha hb with hab | hba
  · exact absurd hab hnot
  · exact hba

/-- Both objects of a swap are below the one that stays. -/
theorem le_higher (hle : RankedOn P le) {x d : α} (hx : P x) (hd : P d) :
    le x (higher x d) ∧ le d (higher x d) := by
  rw [higher]
  split
  · rename_i h
    exact ⟨le_refl hle hx, le_of_outRanks hle hx hd h⟩
  · rename_i h
    have h := Bool.eq_false_of_not_eq_true h
    exact ⟨(outRanks_eq_false hle hx hd).mp h, le_refl hle hd⟩

/-- **THE TOP**: nothing in a sorted tree is above its top. -/
theorem Sorted.le_top (hle : RankedOn P le) {t : LocHeapNode α}
    (hP : ∀ y, t.Mem y → P y) (h : t.Sorted) {d y : α}
    (hd : t.peek = some d) (hy : t.Mem y) : le y d := by
  induction t generalizing d y with
  | null => cases hd
  | node s l r e ihl ihr =>
      obtain rfl := Option.some.inj hd
      obtain ⟨hl, hr, hls, hrs⟩ := h
      have he : P e := hP e (Or.inl rfl)
      have hPl : ∀ y, l.Mem y → P y := fun y h => hP y (Or.inr (Or.inl h))
      have hPr : ∀ y, r.Mem y → P y := fun y h => hP y (Or.inr (Or.inr h))
      -- a member of a side is below that side's top, which is below e
      rcases hy with rfl | hy | hy
      · exact le_refl hle he
      · cases hpeek : l.peek with
        | none =>
            rw [peek_eq_none.mp hpeek] at hy
            cases hy
        | some f =>
            have hf : P f := hPl f (mem_of_peek hpeek)
            have hfe := (outRanks_eq_false hle hf he).mp (hl f hpeek)
            exact hle.trans (hPl y hy) hf he (ihl hPl hls hpeek hy) hfe
      · cases hpeek : r.peek with
        | none =>
            rw [peek_eq_none.mp hpeek] at hy
            cases hy
        | some f =>
            have hf : P f := hPr f (mem_of_peek hpeek)
            have hfe := (outRanks_eq_false hle hf he).mp (hr f hpeek)
            exact hle.trans (hPr y hy) hf he (ihr hPr hrs hpeek hy) hfe

/-- The sides of a sorted node are below its object. -/
theorem Sorted.le_side (hle : RankedOn P le) {s : Nat} {l r : LocHeapNode α}
    {d y : α} (hP : ∀ y, (LocHeapNode.node s l r d).Mem y → P y)
    (h : (LocHeapNode.node s l r d).Sorted) (hy : l.Mem y ∨ r.Mem y) :
    le y d :=
  h.le_top hle hP rfl (Or.inr hy)

/-- A push keeps the order. -/
theorem Sorted.push (hle : RankedOn P le) {t : LocHeapNode α} {x : α}
    (hP : ∀ y, t.Mem y → P y) (hx : P x) (h : t.Sorted) :
    (t.push x).Sorted := by
  induction t generalizing x with
  | null =>
      exact ⟨fun _ he => (by cases he), fun _ he => (by cases he), trivial,
        trivial⟩
  | node s l r d ihl ihr =>
      have hd : P d := hP d (Or.inl rfl)
      have hPl : ∀ y, l.Mem y → P y := fun y h => hP y (Or.inr (Or.inl h))
      have hPr : ∀ y, r.Mem y → P y := fun y h => hP y (Or.inr (Or.inr h))
      obtain ⟨hxh, hdh⟩ := le_higher hle hx hd
      have hh : P (higher x d) ∧ P (lower x d) ∧
          le (lower x d) (higher x d) := by
        rcases higher_lower x d with ⟨h1, h2⟩ | ⟨h1, h2⟩
        · rw [h1] at hdh
          rw [h1, h2]
          exact ⟨hx, hd, hdh⟩
        · rw [h1] at hxh
          rw [h1, h2]
          exact ⟨hd, hx, hxh⟩
      obtain ⟨hPh, hPlow, hlow⟩ := hh
      -- a side keeps below the object that stays, pushed into or not
      have hside : ∀ y, l.Mem y ∨ r.Mem y → outRanks y (higher x d) = false
          := by
        intro y hy
        have hPy : P y := hP y (Or.inr hy)
        have hyd : le y d := h.le_side hle hP hy
        exact (outRanks_eq_false hle hPy hPh).mpr
          (hle.trans hPy hd hPh hyd hdh)
      have hnew : outRanks (lower x d) (higher x d) = false :=
        (outRanks_eq_false hle hPlow hPh).mpr hlow
      obtain ⟨_, _, hls, hrs⟩ := h
      rcases push_node s l r d x with hp | hp
      · rw [hp]
        refine ⟨?_, fun e he => hside e (Or.inr (mem_of_peek he)),
          ihl hPl hPlow hls, hrs⟩
        intro e he
        rcases mem_push (mem_of_peek he) with rfl | hm
        · exact hnew
        · exact hside e (Or.inl hm)
      · rw [hp]
        refine ⟨fun e he => hside e (Or.inl (mem_of_peek he)), ?_, hls,
          ihr hPr hPlow hrs⟩
        intro e he
        rcases mem_push (mem_of_peek he) with rfl | hm
        · exact hnew
        · exact hside e (Or.inr hm)

/-- A pop keeps it. -/
theorem Sorted.popNode (hle : RankedOn P le) {t : LocHeapNode α}
    (hP : ∀ y, t.Mem y → P y) (h : t.Sorted) : t.popNode.Sorted := by
  induction t with
  | null => trivial
  | node s l r d ihl ihr =>
      have hPl : ∀ y, l.Mem y → P y := fun y h => hP y (Or.inr (Or.inl h))
      have hPr : ∀ y, r.Mem y → P y := fun y h => hP y (Or.inr (Or.inr h))
      obtain ⟨_, _, hls, hrs⟩ := h
      -- what is left of a side is below the top the side had
      have hleft : ∀ {t : LocHeapNode α} {e f : α}, (∀ y, t.Mem y → P y) →
          t.Sorted → t.peek = some e → t.popNode.peek = some f →
          outRanks f e = false := by
        intro t e f hPt hts he hf
        have hmem : t.Mem f := mem_popNode (mem_of_peek hf)
        exact (outRanks_eq_false hle (hPt f hmem)
          (hPt e (mem_of_peek he))).mpr (hts.le_top hle hPt he hmem)
      have hmove := popNode_move s l r d
      generalize LocHeapNode.popNode (.node s l r d) = t at hmove ⊢
      cases hmove with
      | last hl hr => trivial
      | left hl hr =>
          refine ⟨fun f hf => hleft hPl hls hl hf, ?_, ihl hPl hls, hrs⟩
          intro f hf
          have hPe := hPl _ (mem_of_peek hl)
          have hPf := hPr f (mem_of_peek hf)
          exact (outRanks_eq_false hle hPf hPe).mpr
            (le_of_outRanks hle hPe hPf (hr f hf))
      | right hr hl =>
          exact ⟨hl, fun f hf => hleft hPr hrs hr hf, hls, ihr hPr hrs⟩

/-- So does a removal. -/
theorem Sorted.remove [DecidableEq α] (hle : RankedOn P le)
    {t : LocHeapNode α} (hP : ∀ y, t.Mem y → P y) (h : t.Sorted) (x : α) :
    (t.remove x).2.Sorted := by
  induction t with
  | null => trivial
  | node s l r d ihl ihr =>
      have hPl : ∀ y, l.Mem y → P y := fun y h => hP y (Or.inr (Or.inl h))
      have hPr : ∀ y, r.Mem y → P y := fun y h => hP y (Or.inr (Or.inr h))
      have hpop := Sorted.popNode hle hP h
      have hside : ∀ y, l.Mem y ∨ r.Mem y → outRanks y d = false := by
        intro y hy
        exact (outRanks_eq_false hle (hP y (Or.inr hy))
          (hP d (Or.inl rfl))).mpr (h.le_side hle hP hy)
      have hsorted := h
      obtain ⟨hl, hr, hls, hrs⟩ := h
      have hmove := remove_move s l r d x
      generalize LocHeapNode.remove (.node s l r d) x = p at hmove ⊢
      cases hmove with
      | top hx => exact hpop
      | back hx hout => exact hsorted
      | left hx hfound =>
          refine ⟨?_, hr, ihl hPl hls, hrs⟩
          intro e he
          exact hside e (Or.inl (mem_remove (mem_of_peek he)))
      | right hx hfound =>
          refine ⟨hl, ?_, hls, ihr hPr hrs⟩
          intro e he
          exact hside e (Or.inr (mem_remove (mem_of_peek he)))
      | missed hx _ _ => exact hsorted

/-- **THE SEARCH MISSES NOTHING**: an object of a sorted tree is found. -/
theorem Sorted.remove_mem [DecidableEq α] (hle : RankedOn P le)
    {t : LocHeapNode α} (hP : ∀ y, t.Mem y → P y) (h : t.Sorted) {x : α}
    (hx : t.Mem x) : (t.remove x).1 = some x := by
  induction t with
  | null => cases hx
  | node s l r d ihl ihr =>
      have hPl : ∀ y, l.Mem y → P y := fun y h => hP y (Or.inr (Or.inl h))
      have hPr : ∀ y, r.Mem y → P y := fun y h => hP y (Or.inr (Or.inr h))
      have hxd : outRanks x d = false :=
        (outRanks_eq_false hle (hP x hx) (hP d (Or.inl rfl))).mpr
          (h.le_top hle hP rfl hx)
      obtain ⟨_, _, hls, hrs⟩ := h
      have hmove := remove_move s l r d x
      generalize LocHeapNode.remove (.node s l r d) x = p at hmove ⊢
      cases hmove with
      | top hxd => exact congrArg some hxd.symm
      | back _ hout =>
          rw [hxd] at hout
          cases hout
      | left _ hfound => exact congrArg some (objects_remove hfound).1
      | right _ hfound => exact congrArg some (objects_remove hfound).1
      | missed hne hl hr =>
          rcases hx with heq | hm | hm
          · exact absurd heq hne
          · rw [ihl hPl hls hm] at hl
            cases hl
          · rw [ihr hPr hrs hm] at hr
            cases hr

end Order

/-! ## Draining -/

/-- The loop that pops until nothing comes, with what is left after `n`
    rounds. -/
def drain : Nat → LocHeapNode α → List α × LocHeapNode α
  | 0, t => ([], t)
  | n + 1, t =>
      match t.pop with
      | (none, t') => ([], t')
      | (some d, t') => (d :: (drain n t').1, (drain n t').2)

/-- The heap is drained from its top on. -/
theorem drain_some {n : Nat} {t : LocHeapNode α} {d : α}
    (h : t.peek = some d) :
    drain (n + 1) t = (d :: (drain n t.popNode).1, (drain n t.popNode).2) := by
  rw [drain, pop, h]

/-- Draining yields the contents, none above an earlier one. -/
theorem drain_spec {P : α → Prop} {le : α → α → Prop} (hle : RankedOn P le)
    {n : Nat} {t : LocHeapNode α} (hP : ∀ y, t.Mem y → P y) (hsize : t.Sized)
    (hsort : t.Sorted) (hn : t.mSize ≤ n) :
    ((drain n t).1 : Multiset α) = t.objects ∧ (drain n t).2 = .null ∧
      (drain n t).1.Pairwise (fun a b => outRanks b a = false) := by
  induction n generalizing t with
  | zero =>
      have ht : t = .null := by
        by_contra hne
        have := hsize.size_pos hne
        omega
      rw [ht]
      exact ⟨rfl, rfl, .nil⟩
  | succ n ih =>
      cases hpeek : t.peek with
      | none =>
          rw [peek_eq_none.mp hpeek]
          exact ⟨rfl, rfl, .nil⟩
      | some d =>
          have hPpop : ∀ y, t.popNode.Mem y → P y :=
            fun y hy => hP y (mem_popNode hy)
          obtain ⟨hpsize, hless⟩ := hsize.popNode
          obtain ⟨hobj, hnull, hpair⟩ := ih hPpop hpsize
            (hsort.popNode hle hP) (by omega)
          rw [drain_some hpeek]
          refine ⟨?_, hnull, ?_⟩
          · rw [← Multiset.cons_coe, hobj, objects_popNode hpeek]
          · refine List.pairwise_cons.mpr ⟨?_, hpair⟩
            intro b hb
            have hm : t.popNode.Mem b := by
              rw [← mem_objects, ← hobj]
              exact hb
            exact (outRanks_eq_false hle (hPpop b hm)
              (hP d (mem_of_peek hpeek))).mpr
              (hsort.le_top hle hP hpeek (mem_popNode hm))

end LocHeapNode

/-! ## Runs -/

/-- A call of the heap. -/
inductive HeapOp (α : Type) where
  | push (node : α)
  | pop
  | peek
  | remove (rankable : α)

/-- A heap with the priority multiset it stands for: what was pushed and not
    yet popped or removed. -/
structure HeapRun (α : Type) where
  mTree : LocHeapNode α
  held : Multiset α

section Runs

variable {α : Type} [LocRankable α] [DecidableEq α]

/-- What an operation that answered `out` leaves of the contents. -/
def without (held : Multiset α) (out : Option α) : Multiset α :=
  match out with
  | some x => held.erase x
  | none => held

/-- Only an object that is not in the heap is pushed. -/
def heapStep (s : HeapRun α) : HeapOp α → Option (HeapRun α)
  | .push node =>
      if node ∈ s.held then none
      else some ⟨s.mTree.push node, node ::ₘ s.held⟩
  | .pop => some ⟨s.mTree.pop.2, without s.held s.mTree.pop.1⟩
  | .peek => some s
  | .remove rankable =>
      some ⟨(s.mTree.remove rankable).2,
        without s.held (s.mTree.remove rankable).1⟩

/-- A heap from the empty one on. -/
def heapSys (α : Type) [LocRankable α] [DecidableEq α] :
    TransSys (HeapRun α) (HeapOp α) where
  init s := s = ⟨.null, 0⟩
  step := heapStep

/-- What every heap of a run has. -/
structure HeapLaw (s : HeapRun α) : Prop where
  objects : s.mTree.objects = s.held
  nodup : s.held.Nodup
  sized : s.mTree.Sized
  sorted : s.mTree.Sorted

/-- Every call keeps the law of the heap. -/
theorem heapLaw_step {le : α → α → Prop} (hle : RankedOn (fun _ => True) le)
    {s s' : HeapRun α} {op : HeapOp α} (h : HeapLaw s)
    (hs : heapStep s op = some s') : HeapLaw s' := by
  have hP : ∀ y, s.mTree.Mem y → True := fun _ _ => trivial
  cases op with
  | push node =>
      rw [heapStep] at hs
      split at hs
      · cases hs
      · rename_i hnew
        injection hs with hs
        subst hs
        refine ⟨?_, Multiset.nodup_cons.mpr ⟨hnew, h.nodup⟩,
          h.sized.push node, h.sorted.push hle hP trivial⟩
        rw [LocHeapNode.objects_push, h.objects]
  | pop =>
      injection hs with hs
      subst hs
      cases hpeek : s.mTree.peek with
      | none =>
          have hpop : s.mTree.pop = (none, s.mTree) := by
            rw [LocHeapNode.pop, LocHeapNode.peek_eq_none.mp hpeek]
            rfl
          rw [hpop]
          exact h
      | some d =>
          have hobj := LocHeapNode.objects_popNode hpeek
          rw [LocHeapNode.pop, hpeek]
          refine ⟨?_, h.nodup.erase d, h.sized.popNode.1,
            h.sorted.popNode hle hP⟩
          show s.mTree.popNode.objects = s.held.erase d
          rw [← h.objects, ← hobj, Multiset.erase_cons_head]
  | peek =>
      injection hs with hs
      exact hs ▸ h
  | remove rankable =>
      injection hs with hs
      subst hs
      cases hfound : (s.mTree.remove rankable).1 with
      | none =>
          rw [LocHeapNode.remove_eq_of_none hfound]
          exact h
      | some y =>
          obtain ⟨rfl, hobj⟩ := LocHeapNode.objects_remove hfound
          refine ⟨?_, h.nodup.erase y, (h.sized.remove y).1,
            h.sorted.remove hle hP y⟩
          show (s.mTree.remove y).2.objects = s.held.erase y
          rw [← h.objects, ← hobj, Multiset.erase_cons_head]

/-- The law holds in every history. -/
theorem heapLaw_of_reach {le : α → α → Prop}
    (hle : RankedOn (fun _ => True) le) {s : HeapRun α}
    (h : Reach (heapSys α) s) : HeapLaw s := by
  refine reachUnder_inv (I := HeapLaw) ?_ ?_ h
  · rintro s rfl
    exact ⟨rfl, Multiset.nodup_zero, trivial, trivial⟩
  · intro s op s' hI _ hs
    exact heapLaw_step hle hI hs

/-- **THE HEAP IS A PRIORITY MULTISET**: after any operations the tree holds
    what was pushed and not taken out, each object once, and passes its
    check; its top is a highest object; a removal takes out its object alone,
    or leaves the tree; draining yields the contents from the highest down. -/
theorem heap_refines {le : α → α → Prop} (hle : RankedOn (fun _ => True) le)
    {s : HeapRun α} (h : Reach (heapSys α) s) :
    s.mTree.objects = s.held ∧ s.held.Nodup ∧ s.mTree.checkTree = true ∧
    (s.mTree.peek = none ↔ s.held = 0) ∧
    s.mTree.pop.1 = s.mTree.peek ∧
    (∀ d, s.mTree.peek = some d → d ∈ s.held ∧
      ∀ y ∈ s.held, outRanks y d = false) ∧
    (∀ x ∈ s.held, (s.mTree.remove x).1 = some x ∧
      (s.mTree.remove x).2.objects = s.held.erase x) ∧
    (∀ x, x ∉ s.held → s.mTree.remove x = (none, s.mTree)) ∧
    ∀ n, s.mTree.mSize ≤ n →
      ((s.mTree.drain n).1 : Multiset α) = s.held ∧
      (s.mTree.drain n).2 = .null ∧
      (s.mTree.drain n).1.Pairwise (fun a b => outRanks b a = false) := by
  have hlaw := heapLaw_of_reach hle h
  have hobj := hlaw.objects
  have hP : ∀ y, s.mTree.Mem y → True := fun _ _ => trivial
  have hmem : ∀ {y}, y ∈ s.held ↔ s.mTree.Mem y := by
    intro y
    rw [← hobj, LocHeapNode.mem_objects]
  refine ⟨hobj, hlaw.nodup,
    LocHeapNode.checkTree_iff.mpr ⟨hlaw.sized, hlaw.sorted⟩, ?_, rfl, ?_, ?_,
    ?_, ?_⟩
  · rw [← hobj, LocHeapNode.objects_eq_zero]
    exact LocHeapNode.peek_eq_none
  · intro d hd
    refine ⟨hmem.mpr (LocHeapNode.mem_of_peek hd), ?_⟩
    intro y hy
    exact (LocHeapNode.outRanks_eq_false hle trivial trivial).mpr
      (hlaw.sorted.le_top hle hP hd (hmem.mp hy))
  · intro x hx
    have hfound := hlaw.sorted.remove_mem hle hP (hmem.mp hx)
    refine ⟨hfound, ?_⟩
    obtain ⟨_, hleft⟩ := LocHeapNode.objects_remove hfound
    rw [← hobj, ← hleft, Multiset.erase_cons_head]
  · intro x hx
    cases hfound : (s.mTree.remove x).1 with
    | none => exact LocHeapNode.remove_eq_of_none hfound
    | some y =>
        obtain ⟨_, hleft⟩ := LocHeapNode.objects_remove hfound
        refine absurd ?_ hx
        rw [← hobj, ← hleft]
        exact Multiset.mem_cons_self x _
  · intro n hn
    rw [← hobj]
    exact LocHeapNode.drain_spec hle hP hlaw.sized hlaw.sorted hn

end Runs

/-! ## The objects of the heap's own test -/

/-- `LocHeapDebugData`, an object with its address. -/
structure LocHeapDebugData where
  addr : Nat
  mID : Nat
deriving DecidableEq, Repr

instance : LocRankable LocHeapDebugData :=
  ⟨fun a b => (b.mID : Int) - a.mID⟩

/-- The lower number ranks higher. -/
theorem ranked_debugData : RankedOn (fun _ : LocHeapDebugData => True)
    (fun a b => b.mID ≤ a.mID) where
  total {a b} _ _ := Nat.le_total b.mID a.mID
  trans _ _ _ hab hbc := Nat.le_trans hbc hab
  pos {a b} _ _ := by
    show (0 : Int) < (b.mID : Int) - a.mID ↔ ¬ b.mID ≤ a.mID
    omega

/-- Two objects of one rank below a higher one: the removal of the one that
    is searched last takes out that one. -/
theorem heap_refines_equals :
    (LocHeapNode.remove (.node 3 (.node 1 .null .null ⟨1, 5⟩)
        (.node 1 .null .null ⟨0, 5⟩) ⟨2, 3⟩)
      (⟨0, 5⟩ : LocHeapDebugData)).1 = some ⟨0, 5⟩ := by
  have hreach : Reach (heapSys LocHeapDebugData) ⟨.node 3
        (.node 1 .null .null ⟨1, 5⟩) (.node 1 .null .null ⟨0, 5⟩) ⟨2, 3⟩,
      {⟨2, 3⟩, ⟨1, 5⟩, ⟨0, 5⟩}⟩ :=
    reach_exec [.push ⟨0, 5⟩, .push ⟨1, 5⟩, .push ⟨2, 3⟩]
      (ReachUnder.init rfl) rfl
  exact ((heap_refines ranked_debugData hreach).2.2.2.2.2.2.1 ⟨0, 5⟩
    (by decide)).1

end QcomHeap
