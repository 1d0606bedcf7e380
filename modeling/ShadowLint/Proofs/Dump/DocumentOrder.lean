import ShadowLint.Proofs.Dump.SyntaxOrder
import ShadowLint.Proofs.Dump.TypeOrder
import ShadowLint.Proofs.Reordering

/-!
# Documents in any order of members

A package is read from a document exactly if one is read from a document with the members of objects
in another order, and the two packages differ at most in the order in which names were resolved.
-/

namespace ShadowLint
namespace Dump

open Json (IsAlike Agree)

section Tables

variable {members others : Members} (agree : Agree members others)
include agree

theorem require_rel {Content : Type} {part : DumpPart} {key : String} {shape : Shape Content}
    {related : Content → Content → Prop} (keeps : shape.Keeps related) {content : Content}
    (read : require part members key shape = .ok content) :
    ∃ other, require part others key shape = .ok other ∧ related content other := by
  rw [require_eq_ok_iff_content?] at read
  obtain ⟨other, other_eq, held⟩ := exists_eq_some_of_rel (content?_rel agree key keeps) read
  exact ⟨other, require_eq_ok_iff_content?.mpr other_eq, held⟩

theorem require_of_agree {Content : Type} {part : DumpPart} {key : String}
    {shape : Shape Content} (keeps : shape.Keeps Eq) {content : Content}
    (read : require part members key shape = .ok content) :
    require part others key shape = .ok content := by
  obtain ⟨_, other_eq, rfl⟩ := require_rel agree keeps read
  exact other_eq

theorem optional?_of_agree {Content : Type} {part : DumpPart} {key : String}
    {shape : Shape Content} (keeps : shape.Keeps Eq) {content? : Option Content}
    (read : optional? part members key shape = .ok content?) :
    optional? part others key shape = .ok content? := by
  rw [optional?_eq_ok_iff_mayHold] at read ⊢
  rwa [← mayHold_iff agree key keeps, ← presentContent?_eq agree key keeps]

theorem items_of_agree {part : DumpPart} {key : String} {listed : List Json}
    (read : items part members key = .ok listed) :
    ∃ found, items part others key = .ok found ∧ List.Forall₂ IsAlike listed found := by
  obtain ⟨held, rfl⟩ := items_eq_ok_iff.mp read
  exact ⟨_, items_eq_ok_iff.mpr ⟨(mayHold_iff agree key keeps_list).mp held, rfl⟩,
    itemsUnder_alike agree key⟩

theorem parent_of_agree {index : Nat} {scope : ScopeId} (read : parent index members = .ok scope) :
    parent index others = .ok scope := by
  have alike := value_alike agree "parent"
  unfold parent at read ⊢
  generalize value members "parent" = left at alike read
  generalize value others "parent" = right at alike
  cases left with
  | null | int => exact alike.eq_of_isScalar rfl ▸ read
  | _ => cases read

theorem symbolKind_of_agree {part : DumpPart} {kind : SymbolKind}
    (read : symbolKind part members = .ok kind) : symbolKind part others = .ok kind := by
  have rel := agree "kind"
  unfold symbolKind at read ⊢
  generalize members.lookup "kind" = left at rel read
  generalize others.lookup "kind" = right at rel
  cases rel with
  | none => exact read
  | @some found other alike =>
      cases found with
      | string => exact alike.eq_of_isScalar rfl ▸ read
      | _ => cases read

theorem symbolType_of_agree {types : Array Ty} {part : DumpPart} {type? : Option Ty}
    (read : symbolType types part members = .ok type?) :
    symbolType types part others = .ok type? := by
  have rel := present?_rel agree "type"
  unfold symbolType at read ⊢
  generalize Json.present? members "type" = left at rel read
  generalize Json.present? others "type" = right at rel
  cases rel with
  | none => exact read
  | @some found other alike =>
      obtain ⟨index, index_eq, same⟩ := bind_eq_ok_iff.mp read
      obtain ⟨rfl, inside⟩ := typeIndex_eq_ok_iff.mp index_eq
      obtain rfl := alike.eq_of_isScalar rfl
      exact read

end Tables

section Forest

variable {entry other : Json} (alike : entry.IsAlike other)
include alike

theorem addScope_of_alike {before after : Forest} (added : addScope before entry = .ok after) :
    addScope before other = .ok after := by
  obtain ⟨members, parent, start, stop, comment, rfl, parent_eq, start_eq, stop_eq, comment_eq,
    after_eq⟩ := addScope_eq_ok_iff.mp added
  obtain ⟨others, rfl, -⟩ := id alike.object_inv
  have agree := alike.agree
  exact addScope_eq_ok_iff.mpr ⟨others, parent, start, stop, comment, rfl,
    parent_of_agree agree parent_eq, optional?_of_agree agree keeps_int start_eq,
    optional?_of_agree agree keeps_int stop_eq, optional?_of_agree agree keeps_string comment_eq,
    after_eq⟩

theorem addSymbol_of_alike {types : Array Ty} {before after : Forest}
    (added : addSymbol types before entry = .ok after) :
    addSymbol types before other = .ok after := by
  obtain ⟨members, kind, name, type, position, visiblePosition, scope, rfl, kind_eq, name_eq,
    type_eq, position_eq, visiblePosition_eq, scope_eq, known, inserted_eq⟩ :=
    addSymbol_eq_ok_iff.mp added
  obtain ⟨others, rfl, -⟩ := id alike.object_inv
  have agree := alike.agree
  exact addSymbol_eq_ok_iff.mpr ⟨others, kind, name, type, position, visiblePosition, scope, rfl,
    symbolKind_of_agree agree kind_eq, require_of_agree agree keeps_string name_eq,
    symbolType_of_agree agree type_eq, require_of_agree agree keeps_int position_eq,
    optional?_of_agree agree keeps_int visiblePosition_eq,
    require_of_agree agree keeps_int scope_eq, known, inserted_eq⟩

omit alike in
/-- If steps keep a relation of states on related items, then so do runs. -/
theorem foldlM_of_forall₂ {State Item : Type} {step : State → Item → Except DumpError State}
    {same : State → State → Prop} {related : Item → Item → Prop}
    (each : ∀ before before' item other after, same before before' → related item other →
      step before item = .ok after → ∃ after', step before' other = .ok after' ∧ same after after')
    {items others : List Item} (aligned : List.Forall₂ related items others)
    {start start' final : State} (start_same : same start start')
    (run : items.foldlM step start = .ok final) :
    ∃ final', others.foldlM step start' = .ok final' ∧ same final final' := by
  induction aligned generalizing start start' with
  | nil =>
      obtain rfl : start = final := Except.ok.inj run
      exact ⟨start', rfl, start_same⟩
  | cons held _ ih =>
      rw [List.foldlM_cons, bind_eq_ok_iff] at run
      obtain ⟨middle, first, run⟩ := run
      obtain ⟨middle', first', middle_same⟩ := each _ _ _ _ _ start_same held first
      obtain ⟨final', rest', final_same⟩ := ih middle_same run
      exact ⟨final', by rw [List.foldlM_cons, bind_eq_ok_iff]; exact ⟨middle', first', rest'⟩,
        final_same⟩

omit alike in
/-- The same scopes and symbols are read. -/
theorem forest_of_agree {types : Array Ty} {members others : Members}
    (agree : Agree members others) {result : Forest}
    (read : forest types members = .ok result) : forest types others = .ok result := by
  obtain ⟨scopes, withScopes, symbols, scopes_eq, withScopes_eq, symbols_eq, result_eq⟩ :=
    forest_eq_ok_iff.mp read
  obtain ⟨otherScopes, otherScopes_eq, scopes_alike⟩ := items_of_agree agree scopes_eq
  obtain ⟨otherSymbols, otherSymbols_eq, symbols_alike⟩ := items_of_agree agree symbols_eq
  obtain ⟨_, otherWithScopes_eq, rfl⟩ := foldlM_of_forall₂
    (fun before before' item other after same alike added =>
      ⟨after, same ▸ addScope_of_alike alike added, rfl⟩) scopes_alike rfl withScopes_eq
  obtain ⟨_, otherResult_eq, rfl⟩ := foldlM_of_forall₂
    (fun before before' item other after same alike added =>
      ⟨after, same ▸ addSymbol_of_alike alike added, rfl⟩) symbols_alike rfl result_eq
  exact forest_eq_ok_iff.mpr ⟨otherScopes, withScopes, otherSymbols, otherScopes_eq,
    otherWithScopes_eq, otherSymbols_eq, otherResult_eq⟩

end Forest

section Files

variable {symbolCount : Nat}

theorem lineStarts_of_alike {part : DumpPart} {listed found : List Json} {starts : List Int}
    (aligned : List.Forall₂ IsAlike listed found) (read : lineStarts part listed = .ok starts) :
    lineStarts part found = .ok starts := by
  have numbers_eq : listed.map Shape.int.read? = found.map Shape.int.read? := by
    rw [← List.forall₂_eq_eq_eq, List.forall₂_map_left_iff, List.forall₂_map_right_iff]
    exact aligned.imp fun _ _ alike => rel_eq_iff.mp (keeps_int _ _ alike)
  have starts_eq := congrArg (List.mapM id) numbers_eq
  rw [List.mapM_map, List.mapM_map] at starts_eq
  have same : listed.mapM Shape.int.read? = found.mapM Shape.int.read? := starts_eq
  rwa [lineStarts, ← same]

/-- As many files were read, and they take the same positions. -/
def SameLayout (read other : FilesRead) : Prop :=
  other.space = read.space ∧ other.trees.length = read.trees.length

/-- A file is read in any order of members. -/
theorem addFile_of_alike {read read' after : FilesRead} {entry other : Json}
    (same : SameLayout read read') (alike : entry.IsAlike other)
    (added : addFile symbolCount read entry = .ok after) :
    ∃ after', addFile symbolCount read' other = .ok after' ∧ SameLayout after after' := by
  obtain ⟨members, name, size, lines, starts, space, tree, root, resolution, rfl, name_eq, size_eq,
    lines_eq, starts_eq, space_eq, tree_eq, root_eq, isFile, rfl⟩ := addFile_eq_ok_iff.mp added
  obtain ⟨others, rfl, -⟩ := id alike.object_inv
  have agree := alike.agree
  obtain ⟨otherLines, otherLines_eq, lines_alike⟩ := require_rel agree keeps_list lines_eq
  obtain ⟨otherTree, otherTree_eq, tree_alike⟩ := require_rel agree keeps_object tree_eq
  obtain ⟨space_same, length_same⟩ := same
  obtain ⟨described, content_eq, -⟩ := (run_readNode_eq_ok_iff tree_alike.distinct).mp root_eq
  let place : Place := [.item read.trees.length]
  let otherResolution := resolveObjects read'.resolution ((Json.object otherTree).objectsAt place)
  have otherRoot_eq :
      (readNode symbolCount place otherTree).run read'.resolution = .ok (root, otherResolution) :=
    (run_readNode_eq_ok_iff tree_alike.symm.distinct).mpr
      ⟨(objectsAt_alike tree_alike _).allDescribe described,
        (contentOf_eq tree_alike _).symm.trans content_eq, rfl⟩
  refine ⟨⟨space, read'.trees ++ [root], otherResolution⟩, addFile_eq_ok_iff.mpr ?_, rfl,
    by simp [length_same]⟩
  rw [space_same, length_same]
  exact ⟨others, name, size, otherLines, starts, space, otherTree, root, _, rfl,
    require_of_agree agree keeps_string name_eq, require_of_agree agree keeps_int size_eq,
    otherLines_eq, lineStarts_of_alike lines_alike starts_eq, space_eq, otherTree_eq, otherRoot_eq,
    isFile, rfl⟩

end Files

/-- A package is read in any order of members, with the same files, types, scopes and symbols. -/
theorem exists_package_of_alike {document other : Json} {result : Package}
    (alike : document.IsAlike other) (read : package document = .ok result) :
    ∃ result', package other = .ok result' ∧ result'.path = result.path ∧
      result'.space = result.space ∧ result'.types = result.types ∧
      result'.forest = result.forest := by
  obtain ⟨members, entries, path, types, forest, files, filesRead, rfl, entries_eq, path_eq,
    types_eq, forest_eq, files_eq, filesRead_eq, rfl⟩ := package_eq_ok_iff.mp read
  obtain ⟨others, rfl, -⟩ := id alike.object_inv
  have agree := alike.agree
  obtain ⟨otherEntries, otherEntries_eq, entries_alike⟩ := items_of_agree agree entries_eq
  obtain ⟨otherFiles, otherFiles_eq, files_alike⟩ := require_rel agree keeps_list files_eq
  have each (before before' : FilesRead) (entry other : Json) (after : FilesRead)
      (same : SameLayout before before') (alike : entry.IsAlike other)
      (added : addFile forest.symbols.size before entry = .ok after) :
      ∃ after', addFile forest.symbols.size before' other = .ok after' ∧ SameLayout after after' :=
    addFile_of_alike same alike added
  obtain ⟨otherRead, otherRead_eq, same⟩ :=
    foldlM_of_forall₂ each files_alike ⟨rfl, rfl⟩ filesRead_eq
  refine ⟨⟨path, otherRead.space, otherRead.trees, types, forest, otherRead.resolution⟩,
    package_eq_ok_iff.mpr ?_, rfl, same.1, rfl, rfl⟩
  exact ⟨others, otherEntries, path, types, forest, otherFiles, otherRead, rfl, otherEntries_eq,
    require_of_agree agree keeps_string path_eq, typeTable_of_alike entries_alike types_eq,
    forest_of_agree agree forest_eq, otherFiles_eq, otherRead_eq, rfl⟩

/-- Trees at one place that are alike. -/
def AlikeTree (tree other : Place × Json) : Prop :=
  tree.1 = other.1 ∧ tree.2.IsAlike other.2

theorem treeOf_alike {entry other : Json} (alike : entry.IsAlike other) :
    (treeOf entry).IsAlike (treeOf other) := by
  cases alike using IsAlike.byShape with
  | object members others alike => exact value_alike alike.agree "syntax"
  | array => exact .refl rfl
  | scalar _ alike scalar =>
      cases entry with
      | object => cases scalar
      | _ => exact .refl rfl

theorem fileEntries_alike {document other : Json} (alike : document.IsAlike other) :
    List.Forall₂ IsAlike (fileEntries document) (fileEntries other) := by
  cases alike using IsAlike.byShape with
  | object members others alike => exact rel_getD (content?_rel alike.agree "files" keeps_list) .nil
  | array => exact .nil
  | scalar _ alike scalar =>
      cases document with
      | object => cases scalar
      | _ => exact .nil

theorem placedTrees_alike {document other : Json} (alike : document.IsAlike other) :
    List.Forall₂ AlikeTree (placedTrees 0 (fileEntries document))
      (placedTrees 0 (fileEntries other)) := by
  rw [placedTrees, placedTrees, List.forall₂_map_left_iff, List.forall₂_map_right_iff]
  apply (zipIdx_alike (fileEntries_alike alike) 0).imp
  rintro entry found ⟨same, entry_alike⟩
  exact ⟨by rw [same], treeOf_alike entry_alike⟩

theorem syntaxObjects_alike {document other : Json} (alike : document.IsAlike other) :
    AlikeObjects (syntaxObjects document) (syntaxObjects other) := by
  refine .flatMap (placedTrees_alike alike) fun tree _ found ⟨same, tree_alike⟩ => ?_
  rw [← same]
  exact objectsAt_alike tree_alike tree.1

/-- The packages have the same trees, and they differ at most in the order in which names were
resolved. -/
theorem isReordering_of_alike {document other : Json} {result result' : Package}
    (alike : document.IsAlike other) (read : package document = .ok result)
    (read' : package other = .ok result') :
    result.IsReordering result' ∧ result'.trees = result.trees := by
  obtain ⟨_, again, path_eq, space_eq, types_eq, forest_eq⟩ := exists_package_of_alike alike read
  obtain rfl := Except.ok.inj (read'.symm.trans again)
  obtain ⟨-, trees_eq, resolution_eq⟩ := resolution_eq_of_package alike.distinct read
  obtain ⟨-, trees_eq', resolution_eq'⟩ := resolution_eq_of_package alike.symm.distinct read'
  have contents_eq :
      (placedTrees 0 (fileEntries document)).map (fun tree => contentOf tree.1 tree.2) =
        (placedTrees 0 (fileEntries other)).map (fun tree => contentOf tree.1 tree.2) := by
    rw [← List.forall₂_eq_eq_eq, List.forall₂_map_left_iff, List.forall₂_map_right_iff]
    refine (placedTrees_alike alike).imp fun tree found ⟨same, tree_alike⟩ => ?_
    rw [← same, contentOf_eq tree_alike]
  have same_trees : result'.trees = result.trees :=
    List.map_injective_iff.mpr (fun _ _ same => Value.node.inj same)
      (trees_eq'.trans (contents_eq.symm.trans trees_eq.symm))
  have objects_alike := syntaxObjects_alike alike
  refine ⟨⟨path_eq, space_eq, types_eq, forest_eq, same_trees ▸ .refl _, ?_⟩, same_trees⟩
  rw [resolution_eq, resolution_eq']
  exact ⟨(objects_alike.filterMap_perm fun _ _ => definitionOf?_eq).append_left _,
    (objects_alike.filterMap_perm fun _ _ => useOf?_eq).append_left _⟩

end Dump
end ShadowLint
