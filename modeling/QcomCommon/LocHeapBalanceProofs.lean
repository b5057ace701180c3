import QcomCommon.BalanceProofs
import QcomCommon.LocHeapOrderProofs
import Mathlib.Data.List.Induction

/-! # The shape of the heap

    `LocHeapNode::push` compares the stored sizes of the two children and goes
    down into the smaller one; with correct sizes that is the growth that
    keeps a tree balanced (`push_placed`).  After pushes alone the heap has
    the least height for its objects, and no operation calls itself deeper
    than that (`pushes_balanced`). -/

namespace QcomHeap

open QcomBalance

namespace LocHeapNode

variable {α : Type}

/-- The tree without the stored sizes. -/
def toTree : LocHeapNode α → BinaryTree α
  | .null => .nil
  | .node _ l r d => .node d l.toTree r.toTree

/-- A stored size is the number of nodes. -/
theorem Sized.numNodes {t : LocHeapNode α} (h : t.Sized) :
    t.toTree.numNodes = t.mSize := by
  induction t with
  | null => rfl
  | node s l r d ihl ihr =>
      obtain ⟨hs, hl, hr⟩ := h
      rw [toTree, BinaryTree.numNodes, ihl hl, ihr hr]
      exact hs.symm

/-- A side without a node counts 0. -/
theorem mSize_of_peek_isNone {t : LocHeapNode α} (h : t.peek.isNone = true) :
    t.mSize = 0 := by
  rw [peek_eq_none.mp (Option.isNone_iff_eq_none.mp h)]
  rfl

variable [LocRankable α]

/-- **PUSH** goes down to a child that is not larger than its sibling, at every
    node on the way. -/
theorem push_placed {t : LocHeapNode α} (h : t.Sized) (x : α) :
    Placed t.toTree (t.push x).toTree := by
  induction t generalizing x with
  | null => exact .leaf x
  | node s l r d ihl ihr =>
      obtain ⟨-, hl, hr⟩ := h
      have hln := hl.numNodes
      have hrn := hr.numNodes
      rw [push]
      split
      · next hleft =>
          -- the left side is free
          have hzero := mSize_of_peek_isNone hleft
          exact .left _ _ (by omega) (ihl hl _)
      · next hleft =>
          have hne : l ≠ .null := fun h0 => hleft (by rw [h0]; rfl)
          have hpos := hl.size_pos hne
          split
          · next hright =>
              have hzero := mSize_of_peek_isNone hright
              exact .right _ _ (by omega) (ihr hr _)
          · split
            · next hle => exact .left _ _ (by omega) (ihl hl _)
            · next hle => exact .right _ _ (by omega) (ihr hr _)

/-! ## Recursion -/

/-- How deep `LocHeapNode::push` calls itself. -/
def pushDepth : LocHeapNode α → Nat
  | .null => 0
  | .node _ l r _ =>
      if l.peek.isNone then 1
      else if r.peek.isNone then 1
      else if l.mSize ≤ r.mSize then l.pushDepth + 1
      else r.pushDepth + 1

/-- How deep `LocHeapNode::pop` calls itself. -/
def popDepth : LocHeapNode α → Nat
  | .null => 0
  | .node _ l r _ =>
      match l.peek, r.peek with
      | none, none => 1
      | none, some _ => r.popDepth + 1
      | some _, none => l.popDepth + 1
      | some e, some f =>
          if outRanks e f then l.popDepth + 1 else r.popDepth + 1

/-- How deep `LocHeapNode::remove` calls itself. -/
def removeDepth [DecidableEq α] : LocHeapNode α → α → Nat
  | .null, _ => 0
  | .node _ l r d, x =>
      if x = d then 1
      else if outRanks x d then 1
      else if (l.remove x).1.isSome then l.removeDepth x + 1
      else max (l.removeDepth x) (r.removeDepth x) + 1

omit [LocRankable α] in
/-- A push goes down no further than the tree. -/
theorem pushDepth_le (t : LocHeapNode α) : t.pushDepth ≤ t.toTree.height := by
  induction t with
  | null => exact Nat.le_refl 0
  | node s l r d ihl ihr =>
      rw [toTree, BinaryTree.height, pushDepth]
      split
      · omega
      · split
        · omega
        · split <;> omega

/-- Nor does a pop. -/
theorem popDepth_le (t : LocHeapNode α) : t.popDepth ≤ t.toTree.height := by
  induction t with
  | null => exact Nat.le_refl 0
  | node s l r d ihl ihr =>
      rw [toTree, BinaryTree.height, popDepth]
      split
      · omega
      · omega
      · omega
      · split <;> omega

/-- Nor a removal. -/
theorem removeDepth_le [DecidableEq α] (t : LocHeapNode α) (x : α) :
    t.removeDepth x ≤ t.toTree.height := by
  induction t with
  | null => exact Nat.le_refl 0
  | node s l r d ihl ihr =>
      rw [toTree, BinaryTree.height, removeDepth]
      split
      · omega
      · split
        · omega
        · split <;> omega

/-! ## Pushes alone -/

/-- The heap after pushes alone. -/
def pushes (xs : List α) : LocHeapNode α := xs.foldl push .null

theorem pushes_sized (xs : List α) : (pushes xs).Sized := by
  induction xs using List.reverseRecOn with
  | nil => trivial
  | append_singleton xs x ih =>
      rw [pushes, List.foldl_concat]
      exact ih.push x

/-- Pushes count their nodes. -/
theorem mSize_pushes (xs : List α) : (pushes xs).mSize = xs.length := by
  induction xs using List.reverseRecOn with
  | nil => rfl
  | append_singleton xs x ih =>
      rw [pushes, List.foldl_concat, mSize_push, List.length_append]
      exact congrArg Nat.succ ih

/-- They fill the left side first. -/
theorem pushes_leftHeavy (xs : List α) : LeftHeavy (pushes xs).toTree := by
  induction xs using List.reverseRecOn with
  | nil => trivial
  | append_singleton xs x ih =>
      rw [pushes, List.foldl_concat]
      exact (push_placed (pushes_sized xs) x).leftHeavy ih

/-- So the tree is as high as the logarithm of their number says. -/
theorem height_pushes {xs : List α} (h : xs ≠ []) :
    (pushes xs).toTree.height = Nat.log 2 xs.length + 1 := by
  have hcount := (pushes_sized xs).numNodes
  rw [mSize_pushes] at hcount
  rw [(pushes_leftHeavy xs).height, hcount,
    if_neg fun h0 => h (List.length_eq_zero_iff.mp h0)]

/-- **BALANCE**: a push goes to a smaller child all the way, so that after
    pushes alone the heap is balanced and of the least height; and no deeper
    than that do the operations call themselves. -/
theorem pushes_balanced [DecidableEq α] {t : LocHeapNode α} (ht : t.Sized)
    (node : α) {xs : List α} (hxs : xs ≠ []) :
    Placed t.toTree (t.push node).toTree ∧
      LeftHeavy (pushes xs).toTree ∧
      (pushes xs).toTree.height = Nat.log 2 xs.length + 1 ∧
      (pushes xs).pushDepth ≤ Nat.log 2 xs.length + 1 ∧
      (pushes xs).popDepth ≤ Nat.log 2 xs.length + 1 ∧
      ∀ x, (pushes xs).removeDepth x ≤ Nat.log 2 xs.length + 1 := by
  have hheight := height_pushes hxs
  refine ⟨push_placed ht node, pushes_leftHeavy xs, hheight, ?_, ?_, ?_⟩
  · exact hheight ▸ pushDepth_le (pushes xs)
  · exact hheight ▸ popDepth_le (pushes xs)
  · exact fun x => hheight ▸ removeDepth_le (pushes xs) x

/-- Five objects, and a heap of one. -/
theorem pushes_balanced_five :
    Placed (LocHeapNode.node 1 .null .null ⟨0, 5⟩).toTree
        ((LocHeapNode.node 1 .null .null ⟨0, 5⟩).push
          (⟨1, 3⟩ : LocHeapDebugData)).toTree ∧
      (pushes ((List.range 5).map fun i => LocHeapDebugData.mk i i)).toTree.height
        = Nat.log 2 5 + 1 := by
  have hone : (LocHeapNode.node 1 .null .null
      (⟨0, 5⟩ : LocHeapDebugData)).Sized := ⟨rfl, trivial, trivial⟩
  have hne : (List.range 5).map (fun i => LocHeapDebugData.mk i i) ≠ [] := by
    decide
  have hspec := pushes_balanced hone ⟨1, 3⟩ hne
  exact ⟨hspec.1, hspec.2.2.1⟩

end LocHeapNode

end QcomHeap
