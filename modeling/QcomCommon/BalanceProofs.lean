import Mathlib.Data.Nat.Log
import Mathlib.Data.Tree.Basic

/-! # Trees balanced by size

    A node that is added goes down into the smaller subtree, into the left one
    of two that are equal (`Placed`).  A tree that grows so from nothing has at
    every node as many nodes on the left as on the right, or one more
    (`Placed.leftHeavy`), and with that the least height its nodes allow
    (`LeftHeavy.height`). -/

namespace QcomBalance

variable {α : Type}

/-- One node more, below a chain of children none of which is larger than its
    sibling.  The values on the way may change. -/
inductive Placed : BinaryTree α → BinaryTree α → Prop where
  | leaf (x : α) : Placed .nil (.node x .nil .nil)
  | left {l l' r : BinaryTree α} (x y : α) (h : l.numNodes ≤ r.numNodes)
      (hl : Placed l l') : Placed (.node x l r) (.node y l' r)
  | right {l r r' : BinaryTree α} (x y : α) (h : r.numNodes < l.numNodes)
      (hr : Placed r r') : Placed (.node x l r) (.node y l r')

/-- At every node the left subtree has as many nodes as the right one, or one
    more. -/
def LeftHeavy : BinaryTree α → Prop
  | .nil => True
  | .node _ l r =>
      (l.numNodes = r.numNodes ∨ l.numNodes = r.numNodes + 1) ∧ LeftHeavy l ∧
        LeftHeavy r

theorem Placed.numNodes {t t' : BinaryTree α} (h : Placed t t') :
    t'.numNodes = t.numNodes + 1 := by
  induction h with
  | leaf x => rfl
  | left x y h hl ih =>
      rw [BinaryTree.numNodes, BinaryTree.numNodes, ih]
      omega
  | right x y h hr ih =>
      rw [BinaryTree.numNodes, BinaryTree.numNodes, ih]
      omega

/-- **GROWTH** keeps the balance. -/
theorem Placed.leftHeavy {t t' : BinaryTree α} (h : Placed t t')
    (ht : LeftHeavy t) : LeftHeavy t' := by
  induction h with
  | leaf x => exact ⟨Or.inl rfl, trivial, trivial⟩
  | left x y h hl ih =>
      obtain ⟨hsize, hleft, hright⟩ := ht
      refine ⟨?_, ih hleft, hright⟩
      rw [hl.numNodes]
      omega
  | right x y h hr ih =>
      obtain ⟨hsize, hleft, hright⟩ := ht
      refine ⟨?_, hleft, ih hright⟩
      rw [hr.numNodes]
      omega

/-- The left subtree has half of the nodes. -/
theorem LeftHeavy.half {x : α} {l r : BinaryTree α}
    (h : LeftHeavy (.node x l r)) :
    l.numNodes = (BinaryTree.node x l r).numNodes / 2 := by
  have hsize := h.1
  rw [BinaryTree.numNodes]
  omega

/-- **HEIGHT** of a balanced tree. -/
theorem LeftHeavy.height {t : BinaryTree α} (h : LeftHeavy t) :
    t.height = if t.numNodes = 0 then 0 else Nat.log 2 t.numNodes + 1 := by
  induction t with
  | nil => rfl
  | node x l r ihl ihr =>
      have hhalf := h.half
      obtain ⟨hsize, hl, hr⟩ := h
      have hpos : (BinaryTree.node x l r).numNodes ≠ 0 := Nat.succ_ne_zero _
      rw [if_neg hpos, BinaryTree.height, ihl hl, ihr hr]
      by_cases hlnil : l.numNodes = 0
      · -- a leaf
        have hrnil : r.numNodes = 0 := by omega
        rw [if_pos hlnil, if_pos hrnil, BinaryTree.numNodes, hlnil, hrnil]
        rfl
      · have htwo : 2 ≤ (BinaryTree.node x l r).numNodes := by
          rw [BinaryTree.numNodes]
          omega
        have hlog := Nat.log_of_one_lt_of_le (Nat.lt_succ_self 1) htwo
        rw [if_neg hlnil, hlog, ← hhalf]
        have hle : (if r.numNodes = 0 then 0 else Nat.log 2 r.numNodes + 1)
            ≤ Nat.log 2 l.numNodes + 1 := by
          split
          · exact Nat.zero_le _
          · have hmono : Nat.log 2 r.numNodes ≤ Nat.log 2 l.numNodes :=
              Nat.log_mono_right (by omega)
            exact Nat.succ_le_succ hmono
        rw [Nat.max_eq_left hle]

end QcomBalance
