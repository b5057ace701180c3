import Mathlib.Data.List.Basic

/-! # The heap of rankable objects

    `LocHeap.cpp`: a binary tree sorted vertically by rank.  `push` keeps the
    tree balanced by the sizes of the subtrees; `pop` swaps the top's data
    down to a leaf and takes the leaf out; `remove` searches a given object
    and pops the subtree it is the top of.

    The results here hold of any ranking: what the operations do to the top
    and which objects are in the tree afterwards. -/

namespace QcomHeap

/-- `LocRankable`: positive if the first ranks higher. -/
class LocRankable (α : Type) where
  ranks : α → α → Int

/-- The first goes out before the second. -/
def outRanks {α : Type} [LocRankable α] (a b : α) : Bool :=
  decide (0 < LocRankable.ranks a b)

/-- A pointer to a `LocHeapNode`. -/
inductive LocHeapNode (α : Type) where
  | null
  | node (mSize : Nat) (mLeft mRight : LocHeapNode α) (mData : α)
deriving DecidableEq, Repr

namespace LocHeapNode

variable {α : Type}

/-- The member `mSize`; 0 without a node. -/
def mSize : LocHeapNode α → Nat
  | .null => 0
  | .node s _ _ _ => s

/-- `LocHeap::peek`. -/
def peek : LocHeapNode α → Option α
  | .null => none
  | .node _ _ _ d => some d

theorem peek_eq_none {t : LocHeapNode α} : t.peek = none ↔ t = .null := by
  cases t with
  | null => exact ⟨fun _ => rfl, fun _ => rfl⟩
  | node s l r d => constructor <;> intro h <;> cases h

/-- The objects in the tree. -/
def Mem (x : α) : LocHeapNode α → Prop
  | .null => False
  | .node _ l r d => x = d ∨ Mem x l ∨ Mem x r

variable [LocRankable α]

/-- What stays at a node when `x` comes to it. -/
def higher (x d : α) : α := if outRanks x d then x else d

/-- What goes on into a subtree. -/
def lower (x d : α) : α := if outRanks x d then d else x

/-- `LocHeapNode::push`: the lower of the two goes down, to a free side or
    to the smaller one. -/
def push : LocHeapNode α → α → LocHeapNode α
  | .null, x => .node 1 .null .null x
  | .node s l r d, x =>
      if l.peek.isNone then
        .node (s + 1) (l.push (lower x d)) r (higher x d)
      else if r.peek.isNone then
        .node (s + 1) l (r.push (lower x d)) (higher x d)
      else if l.mSize ≤ r.mSize then
        .node (s + 1) (l.push (lower x d)) r (higher x d)
      else .node (s + 1) l (r.push (lower x d)) (higher x d)

/-- `LocHeapNode::pop`, the tree after it: each top on the way takes the data
    of its higher child, so the data that leaves is the top's. -/
def popNode : LocHeapNode α → LocHeapNode α
  | .null => .null
  | .node s l r _ =>
      match l.peek, r.peek with
      | none, none => .null
      | none, some e => .node (s - 1) l r.popNode e
      | some e, none => .node (s - 1) l.popNode r e
      | some e, some f =>
          if outRanks e f then .node (s - 1) l.popNode r e
          else .node (s - 1) l r.popNode f

/-- `LocHeap::pop`. -/
def pop (t : LocHeapNode α) : Option α × LocHeapNode α :=
  (t.peek, t.popNode)

/-- `LocHeap::remove`: the object removed, if it was found. -/
def remove [DecidableEq α] : LocHeapNode α → α → Option α × LocHeapNode α
  | .null, _ => (none, .null)
  | .node s l r d, x =>
      if x = d then (some d, popNode (.node s l r d))
      else if outRanks x d then (none, .node s l r d)
      else
        let p := l.remove x
        if p.1.isSome then (p.1, .node (s - 1) p.2 r d)
        else
          let q := r.remove x
          if q.1.isSome then (q.1, .node (s - 1) l q.2 d)
          else (none, .node s l r d)

/-! ## The top -/

/-- The swap leaves the two objects. -/
theorem higher_lower (x d : α) :
    higher x d = x ∧ lower x d = d ∨ higher x d = d ∧ lower x d = x := by
  rw [higher, lower]
  split
  · exact Or.inl ⟨rfl, rfl⟩
  · exact Or.inr ⟨rfl, rfl⟩

/-- A push goes into one of the two sides. -/
theorem push_node (s : Nat) (l r : LocHeapNode α) (d x : α) :
    push (.node s l r d) x =
        .node (s + 1) (l.push (lower x d)) r (higher x d) ∨
      push (.node s l r d) x =
        .node (s + 1) l (r.push (lower x d)) (higher x d) := by
  rw [push]
  split
  · exact Or.inl rfl
  · split
    · exact Or.inr rfl
    · split
      · exact Or.inl rfl
      · exact Or.inr rfl

/-- After a push the top is the new object if that outranks the old top. -/
theorem peek_push (t : LocHeapNode α) (x : α) :
    (t.push x).peek = some (match t.peek with
      | none => x
      | some d => higher x d) := by
  cases t with
  | null => rfl
  | node s l r d =>
      rcases push_node s l r d x with h | h
      · rw [h]
        rfl
      · rw [h]
        rfl

/-- A removal that does not find its object at the top leaves the top. -/
theorem peek_remove [DecidableEq α] {t : LocHeapNode α} {x : α}
    (h : (t.remove x).1 ≠ t.peek) : (t.remove x).2.peek = t.peek := by
  cases t with
  | null => rfl
  | node s l r d =>
      by_cases hxd : x = d
      · rw [remove, if_pos hxd] at h
        exact absurd rfl h
      · rw [remove, if_neg hxd]
        split
        · rfl
        · simp only
          split
          · rfl
          · split <;> rfl

/-! ## The objects -/

omit [LocRankable α] in
theorem mem_of_peek {t : LocHeapNode α} {d : α} (h : t.peek = some d) :
    t.Mem d := by
  cases t with
  | null => cases h
  | node s l r e => exact Or.inl (Option.some.inj h).symm

/-- A push adds its object and no other. -/
theorem mem_push {t : LocHeapNode α} {x y : α} (h : (t.push x).Mem y) :
    y = x ∨ t.Mem y := by
  induction t generalizing x with
  | null =>
      rcases h with h | h | h
      · exact Or.inl h
      · cases h
      · cases h
  | node s l r d ihl ihr =>
      have hside : y = higher x d ∨ y = lower x d ∨ l.Mem y ∨ r.Mem y := by
        rcases push_node s l r d x with hp | hp
        · rw [hp] at h
          rcases h with h | h | h
          · exact Or.inl h
          · rcases ihl h with h | h
            · exact Or.inr (Or.inl h)
            · exact Or.inr (Or.inr (Or.inl h))
          · exact Or.inr (Or.inr (Or.inr h))
        · rw [hp] at h
          rcases h with h | h | h
          · exact Or.inl h
          · exact Or.inr (Or.inr (Or.inl h))
          · rcases ihr h with h | h
            · exact Or.inr (Or.inl h)
            · exact Or.inr (Or.inr (Or.inr h))
      have htwo : y = x ∨ y = d ∨ l.Mem y ∨ r.Mem y := by
        rcases higher_lower x d with ⟨hh, hl⟩ | ⟨hh, hl⟩
        · rw [hh, hl] at hside
          exact hside
        · rw [hh, hl] at hside
          rcases hside with h | h | h
          · exact Or.inr (Or.inl h)
          · exact Or.inl h
          · exact Or.inr (Or.inr h)
      exact htwo

/-- A pop leaves only objects that were there. -/
theorem mem_popNode {t : LocHeapNode α} {y : α} (h : t.popNode.Mem y) :
    t.Mem y := by
  induction t with
  | null => exact h
  | node s l r d ihl ihr =>
      rw [popNode] at h
      split at h
      · cases h
      · rename_i e _ hr
        rcases h with h | h | h
        · exact Or.inr (Or.inr (h ▸ mem_of_peek hr))
        · exact Or.inr (Or.inl h)
        · exact Or.inr (Or.inr (ihr h))
      · rename_i e hl _
        rcases h with h | h | h
        · exact Or.inr (Or.inl (h ▸ mem_of_peek hl))
        · exact Or.inr (Or.inl (ihl h))
        · exact Or.inr (Or.inr h)
      · rename_i e f hl hr
        split at h
        · rcases h with h | h | h
          · exact Or.inr (Or.inl (h ▸ mem_of_peek hl))
          · exact Or.inr (Or.inl (ihl h))
          · exact Or.inr (Or.inr h)
        · rcases h with h | h | h
          · exact Or.inr (Or.inr (h ▸ mem_of_peek hr))
          · exact Or.inr (Or.inl h)
          · exact Or.inr (Or.inr (ihr h))

/-- So does a removal. -/
theorem mem_remove [DecidableEq α] {t : LocHeapNode α} {x y : α}
    (h : (t.remove x).2.Mem y) : t.Mem y := by
  induction t with
  | null => exact h
  | node s l r d ihl ihr =>
      rw [remove] at h
      split at h
      · exact mem_popNode h
      · split at h
        · exact h
        · simp only at h
          split at h
          · rcases h with h | h | h
            · exact Or.inl h
            · exact Or.inr (Or.inl (ihl h))
            · exact Or.inr (Or.inr h)
          · split at h
            · rcases h with h | h | h
              · exact Or.inl h
              · exact Or.inr (Or.inl h)
              · exact Or.inr (Or.inr (ihr h))
            · exact h

end LocHeapNode

end QcomHeap
