import ShadowLint.Proofs.Dump.Tree
import ShadowLint.Proofs.Scope.Tables

/-!
# Packages that were read

Whatever document a package is read from, its trees follow the grammar, no two of its nodes have the
same place, and every symbol is owned by the scope that declares it.
-/

namespace ShadowLint

namespace Package

/-- What holds of every package that was read. -/
structure WellFormed (package : Package) : Prop where
  /-- All nodes conform to the grammar. -/
  conforms : ∀ node ∈ package.nodes, node.Conforms
  /-- All nodes stand apart. -/
  placed : Placed [] package.nodes
  /-- All symbols are owned by the scopes that declare them. -/
  owned : package.forest.IsOwned

theorem preorder_subset_nodes {package : Package} {node : Node} (mem : node ∈ package.nodes) :
    node.preorder ⊆ package.nodes := by
  obtain ⟨tree, tree_mem, mem⟩ := List.mem_flatMap.mp mem
  intro part part_mem
  exact List.mem_flatMap.mpr ⟨tree, tree_mem, Node.preorder_subset mem part_mem⟩

/-- The nodes of a field of a node of the package are nodes of the package. -/
theorem mem_nodes_of_mem_field {package : Package} {node part : Node} {field : String}
    (mem : node ∈ package.nodes) (part_mem : part ∈ node.nodes field) : part ∈ package.nodes := by
  apply preorder_subset_nodes mem
  exact Node.mem_preorder_of_mem_children (Node.self_mem_preorder node)
    (Node.mem_children_of_mem_nodes part_mem)

theorem WellFormed.grammatical {package : Package} (wellFormed : package.WellFormed) {node : Node}
    (mem : node ∈ package.nodes) : node.IsGrammatical :=
  fun part part_mem => wellFormed.conforms part (preorder_subset_nodes mem part_mem)

/-- A node of the package is known by its place. -/
theorem WellFormed.eq_of_place_eq {package : Package} (wellFormed : package.WellFormed)
    {left right : Node} (left_mem : left ∈ package.nodes) (right_mem : right ∈ package.nodes)
    (same : left.place = right.place) : left = right :=
  wellFormed.placed.eq_of_place_eq left_mem right_mem same

end Package

namespace Dump

theorem isSound_of_addFile {symbolCount : Nat} {read after : FilesRead} {entry : Json}
    (sound : ∀ tree ∈ read.trees.zipIdx, (Value.node tree.1).IsSound [.item tree.2])
    (added : addFile symbolCount read entry = .ok after) :
    ∀ tree ∈ after.trees.zipIdx, (Value.node tree.1).IsSound [.item tree.2] := by
  obtain ⟨_, _, _, _, _, _, _, root, _, -, -, -, -, -, -, -, root_read, -, rfl⟩ :=
    addFile_eq_ok_iff.mp added
  intro tree tree_mem
  rw [List.zipIdx_append] at tree_mem
  rcases List.mem_append.mp tree_mem with tree_mem | tree_mem
  · exact sound tree tree_mem
  · obtain rfl : tree = (root, read.trees.length) := by simpa using tree_mem
    exact isSound_of_readNode root_read

/-- The nodes of all trees are those of a list of trees, each behind its index. -/
theorem isSound_trees {trees : List Node}
    (sound : ∀ tree ∈ trees.zipIdx, (Value.node tree.1).IsSound [.item tree.2]) :
    Placed [] (trees.flatMap Node.preorder) ∧
      ∀ node ∈ trees.flatMap Node.preorder, node.Conforms := by
  have trees_sound : (Value.list (trees.map .node)).IsSound [] := by
    apply isSound_list
    intro tree tree_mem
    rw [List.zipIdx_map] at tree_mem
    obtain ⟨original, original_mem, rfl⟩ := List.mem_map.mp tree_mem
    exact sound original original_mem
  have nodes_eq : (Value.list (trees.map .node)).nodes = trees.flatMap Node.preorder := by
    simp [Value.nodes, Value.nodesOfAll_eq, List.flatMap_map]
  exact nodes_eq ▸ ⟨trees_sound.placed, trees_sound.conforms⟩

/-- A package that was read is well-formed, whatever it was read from. -/
theorem wellFormed_of_package {document : Json} {result : Package}
    (read : package document = .ok result) : result.WellFormed := by
  obtain ⟨_, _, _, _, _, _, filesRead, -, -, -, -, scopes_read, -, filesRead_eq, rfl⟩ :=
    package_eq_ok_iff.mp read
  have sound : ∀ tree ∈ filesRead.trees.zipIdx, (Value.node tree.1).IsSound [.item tree.2] :=
    foldlM_induction (fun _ _ _ => isSound_of_addFile) (by simp) filesRead_eq
  obtain ⟨placed, conforms⟩ := isSound_trees sound
  exact ⟨conforms, placed, isOwned_of_forest scopes_read⟩

end Dump
end ShadowLint
