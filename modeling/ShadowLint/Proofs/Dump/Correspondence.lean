import Mathlib.Data.List.Perm.Basic
import ShadowLint.Proofs.Dump.NodeGrammar

/-!
# Objects and nodes

The nodes of a package that was read are those that the objects in the trees of its dump stand for,
each once, and its resolution is what these objects tell.
-/

namespace ShadowLint
namespace Dump

/-- The node that an object stands for. -/
def objectNode (object : Place × Members) : Node :=
  nodeFrom object.1 ((kindOf? object.2).getD .ident) (contentsOf object.1 object.2)

/-- Looking up all of several names gives the entries with these names. -/
theorem flatMap_lookup_perm {Content Item : Type} (parts : String → Content → List Item)
    {names : List String} {entries : List (String × Content)} (names_distinct : names.Nodup)
    (entries_distinct : (entries.map Prod.fst).Nodup)
    (others : ∀ entry ∈ entries, entry.1 ∉ names → parts entry.1 entry.2 = []) :
    (names.flatMap fun name => ((entries.lookup name).map (parts name)).getD []).Perm
      (entries.flatMap fun entry => parts entry.1 entry.2) := by
  have named : (names.flatMap fun name => ((entries.lookup name).map (parts name)).getD []) =
      (names.filterMap fun name => (entries.lookup name).map (name, ·)).flatMap fun entry =>
        parts entry.1 entry.2 := by
    rw [List.filterMap_eq_flatMap_toList, List.flatMap_assoc]
    refine List.flatMap_congr fun name _ => ?_
    cases entries.lookup name <;> simp
  have kept : (entries.flatMap fun entry => parts entry.1 entry.2) =
      (entries.filter (·.1 ∈ names)).flatMap fun entry => parts entry.1 entry.2 := by
    clear entries_distinct named
    induction entries with
    | nil => rfl
    | cons entry rest ih =>
        obtain ⟨entry_other, rest_others⟩ := List.forall_mem_cons.mp others
        rw [List.flatMap_cons, List.filter_cons, ih rest_others]
        by_cases mem : entry.1 ∈ names
        · simp [mem]
        · simp [mem, entry_other mem]
  rw [named, kept]
  refine List.Perm.flatMap_right _ ((List.perm_ext_iff_of_nodup ?_ ?_).mpr fun entry => ?_)
  · refine names_distinct.filterMap fun name other entry mem other_mem => ?_
    obtain ⟨_, -, rfl⟩ := Option.map_eq_some_iff.mp mem
    obtain ⟨_, -, same⟩ := Option.map_eq_some_iff.mp other_mem
    exact (Prod.mk.inj same).1.symm
  · exact (List.Nodup.of_map _ entries_distinct).filter _
  · rw [List.mem_filterMap, List.mem_filter]
    constructor
    · rintro ⟨name, mem, found⟩
      obtain ⟨content, lookup_eq, rfl⟩ := Option.map_eq_some_iff.mp found
      exact ⟨mem_of_lookup_eq_some lookup_eq, by simpa using mem⟩
    · rintro ⟨mem, name_mem⟩
      exact ⟨entry.1, by simpa using name_mem,
        by rw [lookup_eq_some_of_mem entries_distinct mem, Option.map_some]⟩

section Nodes

variable {symbolCount : Nat} {place : Place} {members : Members} {kind : Kind}

theorem nodes_of_refersToSymbol {json : Json} (refers : RefersToSymbol symbolCount json) :
    (contentOf place json).nodes = [] := by
  cases json with
  | string | int => rfl
  | _ => exact refers.elim

theorem nodes_eq_nil_of_describesNode (distinct : (members.map Prod.fst).Nodup)
    (describes : DescribesNode symbolCount members kind) {member : String × Json}
    (mem : member ∈ members) (notField : member.1 ∉ kind.fields.map Field.name) :
    (contentOf (.field member.1 :: place) member.2).nodes = [] := by
  have found := lookup_eq_some_of_mem distinct mem
  by_cases isKind : member.1 = kindKey
  · rw [isString_of_named distinct describes.named member mem isKind]
    rfl
  · cases resolves : isResolution member.1 with
    | true =>
        simp only [isResolution, Bool.or_eq_true, beq_iff_eq] at resolves
        rcases resolves with isDefinition | isUse
        · rw [isDefinition] at found
          rcases describes.declares _ found with null | refers
          · rw [null]
            rfl
          · exact nodes_of_refersToSymbol refers
        · rw [isUse] at found
          exact nodes_of_refersToSymbol (describes.uses _ found)
    | false =>
        obtain ⟨type, type_eq, -⟩ := describes.typed member mem isKind resolves
        obtain ⟨field, field_mem, named, -⟩ := Kind.exists_field_of_fieldType? type_eq
        exact absurd (List.mem_map.mpr ⟨field, field_mem, named⟩) notField

theorem nodes_slotFrom (describes : DescribesNode symbolCount members kind)
    (described : AllDescribe symbolCount (Json.objectsOfMembers place members)) {field : Field}
    (mem : field ∈ kind.fields) :
    (slotFrom (contentsOf place members) field).toList.flatMap Node.preorder =
      ((members.lookup field.name).map fun found =>
        (contentOf (.field field.name :: place) found).nodes).getD [] := by
  obtain ⟨notKind, plain⟩ := fieldName_isPlain mem
  rw [slotFrom, lookup_contentsOf notKind]
  cases found : members.lookup field.name with
  | none => cases type_eq : field.type <;> simp [FieldType.default, Slot.toList]
  | some json =>
      have found_mem := mem_of_lookup_eq_some found
      obtain ⟨type, type_eq, matched⟩ := describes.typed _ found_mem notKind plain
      obtain rfl : field.type = type :=
        Option.some.inj ((Kind.fieldType?_eq_of_mem mem).symm.trans type_eq)
      have json_described : AllDescribe symbolCount
          (json.objectsAt (.field field.name :: place)) := by
        intro object object_mem
        rw [Json.objectsOfMembers_eq] at described
        exact described object (List.mem_flatMap.mpr ⟨_, found_mem, object_mem⟩)
      obtain ⟨slot, slot_eq⟩ :=
        Option.isSome_iff_exists.mp ((matches_iff_slot? json_described).mp matched)
      simp only [Option.map_some, Option.bind_some, slot_eq, Option.getD_some]
      exact FieldType.nodes_of_slot?_eq_some slot_eq

theorem contentsOfItems_eq (place : Place) (index : Nat) (items : List Json) :
    contentsOfItems place index items =
      (items.zipIdx index).map fun item => contentOf (.item item.2 :: place) item.1 := by
  induction items generalizing index with
  | nil => rfl
  | cons item rest ih => rw [contentsOfItems, ih, List.zipIdx_cons, List.map_cons]

/-- The nodes below that of an object are those in its members. -/
theorem children_nodeFrom_perm (names : (members.map Prod.fst).Nodup)
    (describes : DescribesNode symbolCount members kind)
    (described : AllDescribe symbolCount (Json.objectsOfMembers place members)) :
    ((nodeFrom place kind (contentsOf place members)).children.flatMap Node.preorder).Perm
      (members.flatMap fun member => (contentOf (.field member.1 :: place) member.2).nodes) := by
  rw [nodeFrom, Node.children, List.flatMap_map, List.flatMap_assoc,
    List.flatMap_congr fun field mem => nodes_slotFrom describes described mem]
  have given := flatMap_lookup_perm
    (fun name found => (contentOf (.field name :: place) found).nodes)
    (Kind.fieldNames_nodup kind) names fun member mem notField =>
      nodes_eq_nil_of_describesNode names describes mem notField
  rwa [List.flatMap_map] at given

theorem nodes_contentOf_perm {json : Json} (distinct : json.hasDistinctNames)
    (described : AllDescribe symbolCount (json.objectsAt place)) :
    (contentOf place json).nodes.Perm ((json.objectsAt place).map objectNode) := by
  induction json using Json.induction generalizing place with
  | scalar json scalar =>
      cases json with
      | array | object => cases scalar
      | _ => exact .nil
  | array items ih =>
      have all_distinct := Json.hasDistinctNames_array_iff.mp distinct
      rw [Json.objectsAt, Json.objectsOfItems_eq] at described ⊢
      rw [contentOf, Value.nodes, Value.nodesOfAll_eq, contentsOfItems_eq, List.flatMap_map,
        List.map_flatMap]
      refine List.Perm.flatMap_left _ fun item mem => ?_
      have item_mem := List.fst_mem_of_mem_zipIdx mem
      exact ih item.1 item_mem (all_distinct item.1 item_mem) fun object object_mem =>
        described object (List.mem_flatMap.mpr ⟨item, mem, object_mem⟩)
  | object members ih =>
      obtain ⟨names, all_distinct⟩ := Json.hasDistinctNames_object_iff.mp distinct
      rw [Json.objectsAt, AllDescribe, List.forall_mem_append] at described
      obtain ⟨parts_described, self_described⟩ := described
      obtain ⟨kind, describes⟩ := self_described (place, members) (.head _)
      have kind_eq := kindOf?_eq_some_iff.mpr describes.named
      have parts : (members.flatMap fun member =>
          (contentOf (.field member.1 :: place) member.2).nodes).Perm
            ((Json.objectsOfMembers place members).map objectNode) := by
        rw [Json.objectsOfMembers_eq] at parts_described
        rw [Json.objectsOfMembers_eq, List.map_flatMap]
        refine List.Perm.flatMap_left _ fun member mem => ?_
        exact ih member mem (all_distinct member mem) fun object object_mem =>
          parts_described object (List.mem_flatMap.mpr ⟨member, mem, object_mem⟩)
      have self_eq : objectNode (place, members) =
          nodeFrom place kind (contentsOf place members) := by
        rw [objectNode, kind_eq, Option.getD_some]
      rw [Json.objectsAt, List.map_append, List.map_singleton, self_eq, contentOf, kind_eq,
        Option.getD_some, Value.nodes, Node.preorder_eq]
      have children := children_nodeFrom_perm names describes parts_described
      exact ((children.trans parts).cons _).trans (List.perm_append_singleton _ _).symm

end Nodes

section Files

/-- The tree in the entry of a file. -/
def treeOf : Json → Json
  | .object members => value members "syntax"
  | _ => .null

/-- The trees in the entries of files, with their places from an index on. -/
def placedTrees (index : Nat) (entries : List Json) : List (Place × Json) :=
  (entries.zipIdx index).map fun entry => ([.item entry.2], treeOf entry.1)

/-- The entries of the files of a document. -/
def fileEntries : Json → List Json
  | .object members => (content? members "files" .list).getD []
  | _ => []

/-- The objects in trees. -/
def treeObjects (trees : List (Place × Json)) : List (Place × Members) :=
  trees.flatMap fun tree => tree.2.objectsAt tree.1

/-- The objects in the trees of a document. -/
def syntaxObjects (document : Json) : List (Place × Members) :=
  treeObjects (placedTrees 0 (fileEntries document))

variable {symbolCount : Nat}

/-- What one more file tells is what the objects in its tree tell. -/
theorem exists_root_of_addFile {read after : FilesRead} {entry : Json}
    (distinct : entry.hasDistinctNames) (added : addFile symbolCount read entry = .ok after) :
    AllDescribe symbolCount ((treeOf entry).objectsAt [.item read.trees.length]) ∧
      ∃ root, contentOf [.item read.trees.length] (treeOf entry) = .node root ∧
        after.trees = read.trees ++ [root] ∧
        after.resolution = resolveObjects read.resolution
          ((treeOf entry).objectsAt [.item read.trees.length]) := by
  obtain ⟨members, _, _, _, _, _, tree, root, resolution, rfl, -, -, -, -, -, tree_eq, root_eq, -,
    rfl⟩ := addFile_eq_ok_iff.mp added
  have tree_distinct := hasDistinctNames_of_require_object distinct tree_eq
  have treeOf_eq : treeOf (.object members) = .object tree := by
    obtain ⟨found, found_eq, read_eq⟩ := require_eq_ok_iff.mp tree_eq
    cases found with
    | object others =>
        obtain rfl : others = tree := Option.some.inj read_eq
        rw [treeOf, value, found_eq, Option.getD_some]
    | _ => cases read_eq
  obtain ⟨described, content_eq, after_eq⟩ := (run_readNode_eq_ok_iff tree_distinct).mp root_eq
  rw [treeOf_eq]
  exact ⟨described, root, content_eq, rfl, after_eq.symm⟩

/-- What files tell is what the objects in their trees tell. -/
theorem exists_roots_of_foldlM_addFile {entries : List Json} {read after : FilesRead}
    (distinct : ∀ entry ∈ entries, entry.hasDistinctNames)
    (run : entries.foldlM (addFile symbolCount) read = .ok after) :
    AllDescribe symbolCount (treeObjects (placedTrees read.trees.length entries)) ∧
      ∃ roots, roots.map .node =
          (placedTrees read.trees.length entries).map (fun tree => contentOf tree.1 tree.2) ∧
        after.trees = read.trees ++ roots ∧
        after.resolution = resolveObjects read.resolution
          (treeObjects (placedTrees read.trees.length entries)) := by
  induction entries generalizing read with
  | nil =>
      obtain rfl : read = after := Except.ok.inj run
      exact ⟨by simp [AllDescribe, treeObjects, placedTrees], [], rfl, (List.append_nil _).symm,
        resolveObjects_nil.symm⟩
  | cons entry rest ih =>
      obtain ⟨entry_distinct, rest_distinct⟩ := List.forall_mem_cons.mp distinct
      rw [List.foldlM_cons, bind_eq_ok_iff] at run
      obtain ⟨middle, first, rest_run⟩ := run
      obtain ⟨described, root, root_eq, trees_eq, resolution_eq⟩ :=
        exists_root_of_addFile entry_distinct first
      have length_eq : middle.trees.length = read.trees.length + 1 := by
        rw [trees_eq, List.length_append, List.length_singleton]
      obtain ⟨rest_described, roots, roots_eq, rest_trees_eq, rest_resolution_eq⟩ :=
        ih rest_distinct rest_run
      rw [length_eq] at rest_described roots_eq rest_resolution_eq
      have placed_eq : placedTrees read.trees.length (entry :: rest) =
          ([.item read.trees.length], treeOf entry) ::
            placedTrees (read.trees.length + 1) rest := by
        simp [placedTrees]
      rw [placed_eq, treeObjects, List.flatMap_cons, List.map_cons, ← treeObjects]
      refine ⟨List.forall_mem_append.mpr ⟨described, rest_described⟩, root :: roots, ?_, ?_, ?_⟩
      · rw [List.map_cons, roots_eq, root_eq]
      · rw [rest_trees_eq, trees_eq, List.append_assoc, List.singleton_append]
      · rw [rest_resolution_eq, resolution_eq, resolveObjects_append]

/-- A package tells what the objects in its trees tell. -/
theorem resolution_eq_of_package {document : Json} {result : Package}
    (distinct : document.hasDistinctNames) (read : package document = .ok result) :
    AllDescribe result.forest.symbols.size (syntaxObjects document) ∧
      result.trees.map .node = (placedTrees 0 (fileEntries document)).map
        (fun tree => contentOf tree.1 tree.2) ∧
      result.resolution = resolveObjects .empty (syntaxObjects document) := by
  obtain ⟨members, _, _, _, _, files, filesRead, rfl, -, -, -, -, files_eq, filesRead_eq, rfl⟩ :=
    package_eq_ok_iff.mp read
  have files_distinct := Json.hasDistinctNames_array_iff.mp
    (hasDistinctNames_of_require_list distinct files_eq)
  have entries_eq : fileEntries (.object members) = files := by
    rw [fileEntries, require_eq_ok_iff_content?.mp files_eq, Option.getD_some]
  obtain ⟨described, roots, roots_eq, trees_eq, resolution_eq⟩ :=
    exists_roots_of_foldlM_addFile files_distinct filesRead_eq
  obtain rfl : filesRead.trees = roots := trees_eq
  rw [syntaxObjects, entries_eq]
  exact ⟨described, roots_eq, resolution_eq⟩

theorem hasDistinctNames_of_mem_placedTrees {index : Nat} {entries : List Json}
    (distinct : ∀ entry ∈ entries, entry.hasDistinctNames) {tree : Place × Json}
    (mem : tree ∈ placedTrees index entries) : tree.2.hasDistinctNames := by
  obtain ⟨entry, entry_mem, rfl⟩ := List.mem_map.mp mem
  have entry_distinct := distinct entry.1 (List.fst_mem_of_mem_zipIdx entry_mem)
  cases json : entry.1 with
  | object members =>
      rw [treeOf, value]
      cases found : members.lookup "syntax" with
      | none => rfl
      | some tree => exact hasDistinctNames_of_lookup (json ▸ entry_distinct) found
  | _ => rfl

theorem hasDistinctNames_of_mem_fileEntries {document : Json} (distinct : document.hasDistinctNames)
    {entry : Json} (mem : entry ∈ fileEntries document) : entry.hasDistinctNames := by
  cases document with
  | object members =>
      rw [fileEntries, content?] at mem
      cases found : members.lookup "files" with
      | none => simp [found] at mem
      | some listed =>
          have listed_distinct := hasDistinctNames_of_lookup distinct found
          cases listed with
          | array items =>
              exact Json.hasDistinctNames_array_iff.mp listed_distinct entry
                (by simpa [found, Shape.list] using mem)
          | _ => simp [found, Shape.list] at mem
  | _ => simp [fileEntries] at mem

/-- The nodes of a package are those of the objects in its trees. -/
theorem nodes_perm_of_package {document : Json} {result : Package}
    (distinct : document.hasDistinctNames) (read : package document = .ok result) :
    result.nodes.Perm ((syntaxObjects document).map objectNode) := by
  obtain ⟨described, trees_eq, -⟩ := resolution_eq_of_package distinct read
  have nodes_eq : result.nodes =
      (placedTrees 0 (fileEntries document)).flatMap fun tree =>
        (contentOf tree.1 tree.2).nodes := by
    have flat := congrArg (List.flatMap Value.nodes) trees_eq
    rwa [List.flatMap_map, List.flatMap_map] at flat
  rw [nodes_eq, syntaxObjects, treeObjects, List.map_flatMap]
  refine List.Perm.flatMap_left _ fun tree mem => nodes_contentOf_perm ?_ fun object object_mem =>
    described object (List.mem_flatMap.mpr ⟨tree, mem, object_mem⟩)
  exact hasDistinctNames_of_mem_placedTrees
    (fun entry entry_mem => hasDistinctNames_of_mem_fileEntries distinct entry_mem) mem

end Files

end Dump
end ShadowLint
