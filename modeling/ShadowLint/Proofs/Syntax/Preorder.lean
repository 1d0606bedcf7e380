import Mathlib.Data.List.Flatten
import ShadowLint.Syntax.Walk

/-!
# Induction over trees

A statement about all nodes is proved from its truth for the parts of a node.  The nodes of a tree
are closed under taking parts, and the nodes below one of them come in the order in which they come
in the tree.
-/

namespace ShadowLint

theorem sublist_flatMap_of_mem {Item Part : Type} (parts : Item → List Part) {items : List Item}
    {item : Item} (mem : item ∈ items) : (parts item).Sublist (items.flatMap parts) :=
  List.sublist_flatten_of_mem (List.mem_map_of_mem mem)

namespace Node

/-- What holds of a node as soon as it holds of its parts holds of every node. -/
@[elab_as_elim]
theorem induction {motive : Node → Prop}
    (step : ∀ node, (∀ part ∈ node.children, motive part) → motive node) (node : Node) :
    motive node :=
  step node fun part _mem => induction step part
termination_by sizeOf node
decreasing_by exact sizeOf_lt_of_mem_children (by assumption)

theorem mem_preorder_iff {node other : Node} :
    other ∈ node.preorder ↔ other = node ∨ ∃ part ∈ node.children, other ∈ part.preorder := by
  rw [preorder_eq, List.mem_cons, List.mem_flatMap]

theorem self_mem_preorder (node : Node) : node ∈ node.preorder :=
  mem_preorder_iff.mpr (.inl rfl)

/-- The nodes of a tree come in the same order in every tree that it is a part of. -/
theorem preorder_sublist {root node : Node} (mem : node ∈ root.preorder) :
    node.preorder.Sublist root.preorder := by
  induction root using Node.induction with
  | step root ih =>
      rcases mem_preorder_iff.mp mem with rfl | ⟨child, child_mem, mem⟩
      · exact List.Sublist.refl _
      · have below := ih child child_mem mem
        rw [preorder_eq root]
        exact (below.trans (sublist_flatMap_of_mem preorder child_mem)).cons root

/-- The tree below a node of a tree is a part of the tree. -/
theorem preorder_subset {root node : Node} (mem : node ∈ root.preorder) :
    node.preorder ⊆ root.preorder :=
  (preorder_sublist mem).subset

/-- The parts of a node come in the same order in its tree. -/
theorem children_sublist_preorder (node : Node) : node.children.Sublist node.preorder := by
  have heads : (node.children.flatMap fun part => [part]).Sublist
      (node.children.flatMap preorder) := by
    refine .flatMap_right _ fun part _ => ?_
    rw [preorder_eq]
    exact (List.nil_sublist _).cons_cons part
  rw [List.flatMap_singleton'] at heads
  rw [preorder_eq]
  exact heads.cons node

/-- The parts of a node of a tree are nodes of the tree. -/
theorem mem_preorder_of_mem_children {root node part : Node} (mem : node ∈ root.preorder)
    (part_mem : part ∈ node.children) : part ∈ root.preorder :=
  preorder_subset mem ((children_sublist_preorder node).subset part_mem)

end Node
end ShadowLint
