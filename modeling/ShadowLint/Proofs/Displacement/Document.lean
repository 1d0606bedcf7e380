import ShadowLint.Proofs.Displacement.Reader
import ShadowLint.Proofs.Displacement.Scope

/-!
# Dumps with one more file in front

One more file is put in front of the files of a dump, and all positions that the dump mentions move
on by its size and one.  If the file declares nothing and resolves no name, the new dump is read
like the old one: everything is found at its displaced place.
-/

namespace ShadowLint

namespace Json

/-- The members of an object, where those with the given names move on by an offset. -/
def displacedMembersAt (names : List String) (offset : Nat) (members : List (String × Json)) :
    List (String × Json) :=
  members.map fun (name, value) =>
    (name, if name ∈ names then value.displaced offset else value)

/-- An object whose members with the given names move on by an offset. -/
def displacedAt (names : List String) (offset : Nat) : Json → Json
  | .object members => .object (displacedMembersAt names offset members)
  | other => other

end Json

namespace Dump

/-- A part of a document where one more file comes first and positions move on by an offset. -/
def partBehind (entry : Json) (offset : Nat) : String → Json → Json
  | "scopes", .array scopes => .array (scopes.map (Json.displacedAt ["pos", "end"] offset))
  | "symbols", .array symbols =>
      .array (symbols.map (Json.displacedAt ["pos", "scope_pos"] offset))
  | "files", .array files => .array (entry :: files.map (Json.displacedAt ["syntax"] offset))
  | _, value => value

/-- The document with one more file in front, where all positions move on by an offset. -/
def behind (entry : Json) (offset : Nat) : Json → Json
  | .object members =>
      .object (members.map fun (name, value) => (name, partBehind entry offset name value))
  | other => other

section Members

variable {names : List String} {offset : Nat} {members : Members} {part : DumpPart} {key : String}

theorem lookup_displacedMembersAt_of_mem (moved : key ∈ names) :
    (Json.displacedMembersAt names offset members).lookup key =
      (members.lookup key).map (Json.displaced offset) := by
  rw [Json.displacedMembersAt,
    lookup_map fun name value => if name ∈ names then Json.displaced offset value else value]
  simp only [if_pos moved]

theorem lookup_displacedMembersAt_of_not_mem (offset : Nat) (members : Members)
    (stays : key ∉ names) :
    (Json.displacedMembersAt names offset members).lookup key = members.lookup key := by
  rw [Json.displacedMembersAt,
    lookup_map fun name value => if name ∈ names then Json.displaced offset value else value]
  simp only [if_neg stays, Option.map_id']

theorem require_congr {Content : Type} {shape : Shape Content} {others : Members}
    (same : members.lookup key = others.lookup key) :
    require part members key shape = require part others key shape := by
  rw [require, require, same]

/-- A required member that does not move is read as before, in whichever part. -/
theorem require_displacedMembersAt_of_not_mem {Content : Type} {shape : Shape Content}
    {content : Content} {otherPart : DumpPart} (offset : Nat) (stays : key ∉ names)
    (read : require part members key shape = .ok content) :
    require otherPart (Json.displacedMembersAt names offset members) key shape = .ok content := by
  rw [require_congr (lookup_displacedMembersAt_of_not_mem offset members stays)]
  exact require_eq_ok_iff.mpr (require_eq_ok_iff.mp read)

theorem optional?_congr {Content : Type} {shape : Shape Content} {others : Members}
    (same : members.lookup key = others.lookup key) :
    optional? part members key shape = optional? part others key shape := by
  rw [optional?, optional?, Json.present?, Json.present?, require_congr same, same]

theorem require_displacedMembersAt (offset : Nat) {position : Int} (moved : key ∈ names)
    (read : require part members key .int = .ok position) :
    require part (Json.displacedMembersAt names offset members) key .int =
      .ok (displace offset position) := by
  obtain ⟨found, lookup_eq, found_eq⟩ := require_eq_ok_iff.mp read
  refine require_eq_ok_iff.mpr ⟨found.displaced offset, ?_, ?_⟩
  · rw [lookup_displacedMembersAt_of_mem moved, lookup_eq, Option.map_some]
  · cases found with
    | int number =>
        obtain rfl := Option.some.inj found_eq
        rfl
    | _ => cases found_eq

theorem optional?_displacedMembersAt (offset : Nat) {position? : Option Int} (moved : key ∈ names)
    (read : optional? part members key .int = .ok position?) :
    optional? part (Json.displacedMembersAt names offset members) key .int =
      .ok (position?.map (displace offset)) := by
  rw [optional?_eq_ok_iff, Json.present?] at read ⊢
  rw [lookup_displacedMembersAt_of_mem moved]
  generalize members.lookup key = found at read ⊢
  rcases found with _ | (_ | _ | _ | _ | _ | _ | _)
  case none | some.null | some.int =>
    obtain rfl := Option.some.inj read
    rfl
  all_goals cases read

end Members

section Scopes

variable {offset : Nat} {before after : Forest} {entry : Json}

@[simp]
theorem size_scopes_displaced (forest : Forest) :
    (forest.displaced offset).scopes.size = forest.scopes.size :=
  Array.size_map

@[simp]
theorem size_symbols_displaced (forest : Forest) :
    (forest.displaced offset).symbols.size = forest.symbols.size :=
  Array.size_map

/-- A displaced scope is opened among displaced scopes. -/
theorem addScope_displaced (added : addScope before entry = .ok after) :
    addScope (before.displaced offset) (entry.displacedAt ["pos", "end"] offset) =
      .ok (after.displaced offset) := by
  obtain ⟨members, parent, start, stop, comment, rfl, parent_eq, start_eq, stop_eq, comment_eq,
    rfl⟩ := addScope_eq_ok_iff.mp added
  have stays (key : String) (other : key ∉ ["pos", "end"]) :=
    lookup_displacedMembersAt_of_not_mem offset members other
  have parent_same : Dump.parent before.scopes.size
      (Json.displacedMembersAt ["pos", "end"] offset members) =
        Dump.parent before.scopes.size members := by
    simp only [Dump.parent, value, stays "parent" (by decide)]
  refine addScope_eq_ok_iff.mpr ⟨_, parent, start.map (displace offset),
    stop.map (displace offset), comment, rfl, ?_, ?_, ?_, ?_, ?_⟩
  · rw [size_scopes_displaced, parent_same, parent_eq]
  · rw [size_scopes_displaced]
    exact optional?_displacedMembersAt offset (by decide) start_eq
  · rw [size_scopes_displaced]
    exact optional?_displacedMembersAt offset (by decide) stop_eq
  · rw [size_scopes_displaced, optional?_congr (stays "comment" (by decide)), comment_eq]
  · rw [← Forest.openScope_displaced]
    cases start <;> cases stop <;> simp

/-- A displaced symbol is declared in displaced scopes. -/
theorem addSymbol_displaced {types : Array Ty} (added : addSymbol types before entry = .ok after) :
    addSymbol types (before.displaced offset) (entry.displacedAt ["pos", "scope_pos"] offset) =
      .ok (after.displaced offset) := by
  obtain ⟨members, kind, name, type, position, visiblePosition, scope, rfl, kind_eq, name_eq,
    type_eq, position_eq, visiblePosition_eq, scope_eq, known, inserted_eq⟩ :=
    addSymbol_eq_ok_iff.mp added
  have stays (key : String) (other : key ∉ ["pos", "scope_pos"]) :=
    lookup_displacedMembersAt_of_not_mem offset members other
  refine addSymbol_eq_ok_iff.mpr ⟨_, kind, name, type, displace offset position,
    visiblePosition.map (displace offset), scope, rfl, ?_, ?_, ?_, ?_, ?_, ?_, ?_, ?_⟩
  · rw [size_symbols_displaced, ← kind_eq, symbolKind, symbolKind, stays "kind" (by decide)]
  · exact require_displacedMembersAt_of_not_mem offset (by decide) name_eq
  · rw [size_symbols_displaced, ← type_eq, symbolType, symbolType, Json.present?, Json.present?,
      stays "type" (by decide)]
  · rw [size_symbols_displaced]
    exact require_displacedMembersAt offset (by decide) position_eq
  · rw [size_symbols_displaced]
    exact optional?_displacedMembersAt offset (by decide) visiblePosition_eq
  · exact require_displacedMembersAt_of_not_mem offset (by decide) scope_eq
  · rwa [size_scopes_displaced]
  · have moved := Forest.insert_displaced offset
      (before.create ⟨name, kind, type, position, visiblePosition, none⟩) scope.toNat
      (.declared before.symbols.size)
    rw [inserted_eq, ← Forest.create_displaced] at moved
    rw [size_symbols_displaced]
    exact moved

end Scopes

/-- A part of a document that mentions no positions stays. -/
theorem lookup_behind {members : Members} {entry : Json} {offset : Nat} {key : String}
    (stays : ∀ value, partBehind entry offset key value = value) :
    (members.map fun (name, value) => (name, partBehind entry offset name value)).lookup key =
      members.lookup key := by
  rw [lookup_map (partBehind entry offset), funext stays, Option.map_id']

/-- The list of a part of a document whose items move on. -/
theorem items_behind {members : Members} {entry : Json} {offset : Nat} {part : DumpPart}
    {key : String} {change : Json → Json} {found : List Json}
    (changes : ∀ listed, partBehind entry offset key (.array listed) = .array (listed.map change))
    (null : partBehind entry offset key .null = .null)
    (read : items part members key = .ok found) :
    items part (members.map fun (name, value) => (name, partBehind entry offset name value)) key =
      .ok (found.map change) := by
  obtain ⟨found?, found_eq, rfl⟩ := map_eq_ok_iff.mp read
  refine map_eq_ok_iff.mpr ⟨found?.map (List.map change), ?_, by cases found? <;> rfl⟩
  rw [optional?_eq_ok_iff, Json.present?] at found_eq ⊢
  rw [lookup_map (partBehind entry offset)]
  generalize members.lookup key = json at found_eq ⊢
  rcases json with _ | (_ | _ | _ | _ | _ | listed | _)
  case none =>
    obtain rfl := Option.some.inj found_eq
    rfl
  case some.null =>
    obtain rfl := Option.some.inj found_eq
    rw [Option.map_some, null]
    rfl
  case some.array =>
    obtain rfl := Option.some.inj found_eq
    rw [Option.map_some, changes]
    rfl
  all_goals cases found_eq

/-- Scopes and symbols are read at their displaced places. -/
theorem forest_behind {types : Array Ty} {members : Members} {entry : Json} {offset : Nat}
    {result : Forest} (read : forest types members = .ok result) :
    forest types (members.map fun (name, value) => (name, partBehind entry offset name value)) =
      .ok (result.displaced offset) := by
  obtain ⟨scopes, withScopes, symbols, scopes_eq, scopes_added, symbols_eq, symbols_added⟩ :=
    forest_eq_ok_iff.mp read
  refine forest_eq_ok_iff.mpr ⟨_, withScopes.displaced offset, _,
    items_behind (fun _ => rfl) rfl scopes_eq, ?_, items_behind (fun _ => rfl) rfl symbols_eq, ?_⟩
  · rw [← Forest.displaced_empty]
    exact foldlM_map_eq_ok (Forest.displaced offset) (Json.displacedAt ["pos", "end"] offset)
      (fun _ _ _ => addScope_displaced) scopes_added
  · exact foldlM_map_eq_ok (Forest.displaced offset) (Json.displacedAt ["pos", "scope_pos"] offset)
      (fun _ _ _ => addSymbol_displaced) symbols_added

/-- The files read so far, behind one more file. -/
def FilesRead.behind (front : SourceFile) (root : Node) (read : FilesRead) : FilesRead where
  space := read.space.behind front
  trees := root :: read.trees.map (Node.displaced (PositionSpace.shift front))
  resolution := read.resolution.displaced (PositionSpace.shift front)

theorem lineStarts_eq_ok_iff {part : DumpPart} {listed : List Json} {starts : List Int} :
    lineStarts part listed = .ok starts ↔ listed.mapM Shape.int.read? = some starts := by
  unfold lineStarts
  cases listed.mapM Shape.int.read? <;> simp

/-- One more file is read behind the file in front. -/
theorem addFile_behind {symbolCount : Nat} {before after : FilesRead} {entry : Json}
    {front : SourceFile} {root : Node} (added : addFile symbolCount before entry = .ok after) :
    addFile symbolCount (before.behind front root)
        (entry.displacedAt ["syntax"] (PositionSpace.shift front)) =
      .ok (after.behind front root) := by
  obtain ⟨members, name, size, lines, starts, space, tree, tree_root, resolution, rfl, name_eq,
    size_eq, lines_eq, starts_eq, space_eq, tree_eq, tree_read, isFile, rfl⟩ :=
    addFile_eq_ok_iff.mp added
  refine addFile_eq_ok_iff.mpr ⟨_, name, size, lines, starts, space.behind front,
    Json.displacedMembers (PositionSpace.shift front) tree,
    tree_root.displaced (PositionSpace.shift front),
    resolution.displaced (PositionSpace.shift front),
    rfl, ?_, ?_, ?_, ?_, ?_, ?_, ?_, ?_, ?_⟩
  · exact require_displacedMembersAt_of_not_mem _ (by decide) name_eq
  · exact require_displacedMembersAt_of_not_mem _ (by decide) size_eq
  · exact require_displacedMembersAt_of_not_mem _ (by decide) lines_eq
  · exact lineStarts_eq_ok_iff.mpr (lineStarts_eq_ok_iff.mp starts_eq)
  · rw [FilesRead.behind, PositionSpace.add_behind, space_eq]
    rfl
  · obtain ⟨found, lookup_eq, found_eq⟩ := require_eq_ok_iff.mp tree_eq
    refine require_eq_ok_iff.mpr ⟨found.displaced (PositionSpace.shift front), ?_, ?_⟩
    · rw [lookup_displacedMembersAt_of_mem (by decide), lookup_eq, Option.map_some]
    · cases found with
      | object members =>
          obtain rfl := Option.some.inj found_eq
          rfl
      | _ => cases found_eq
  · have moved := run_nodeOf_displaced (PositionSpace.shift front) tree_read
      fun _ _ => run_readMembers_displaced tree (List.cons_ne_nil _ _)
    rw [FilesRead.behind, List.length_cons, List.length_map]
    exact moved
  · rw [Node.kind_displaced, isFile]
  · simp [FilesRead.behind]

/-- The entry is that of a file, the first of all, which declares nothing and resolves no name. -/
structure IsBlankFile (symbolCount : Nat) (entry : Json) (front : SourceFile) (root : Node) :
    Prop where
  /-- It lies before all other files. -/
  base_eq : front.base = 1
  /-- The entry has a name, a size, a line table and a tree, and the tree resolves no name. -/
  members : ∃ members tree, entry = .object members ∧
    members.lookup "name" = some (.string front.name) ∧
    members.lookup "size" = some (.int front.size) ∧
    members.lookup "line_starts" = some (.array (front.lines.starts.map .int)) ∧
    members.lookup "syntax" = some (.object tree) ∧
    (readNode symbolCount [.item 0] tree).run .empty = .ok (root, .empty)
  /-- The tree is that of a file. -/
  isFile : root.kind = .file
  /-- The file declares nothing. -/
  declaresNothing : root.nodes "decls" = []

namespace IsBlankFile

variable {symbolCount : Nat} {entry : Json} {front : SourceFile} {root : Node}

/-- Once the file is read, the others are read behind it. -/
theorem read_eq (blank : IsBlankFile symbolCount entry front root) :
    addFile symbolCount ⟨.empty, [], .empty⟩ entry =
      .ok (FilesRead.behind front root ⟨.empty, [], .empty⟩) := by
  obtain ⟨members, tree, rfl, name_eq, size_eq, lines_eq, tree_eq, tree_read⟩ := blank.members
  refine addFile_eq_ok_iff.mpr ⟨members, front.name, front.size,
    front.lines.starts.map .int, front.lines.starts, _, tree, root, .empty, rfl,
    require_eq_ok_iff.mpr ⟨_, name_eq, rfl⟩, require_eq_ok_iff.mpr ⟨_, size_eq, rfl⟩,
    require_eq_ok_iff.mpr ⟨_, lines_eq, rfl⟩, ?_, ?_, require_eq_ok_iff.mpr ⟨_, tree_eq, rfl⟩,
    tree_read, blank.isFile, rfl⟩
  · refine lineStarts_eq_ok_iff.mpr ?_
    induction front.lines.starts with
    | nil => rfl
    | cons start rest ih => rw [List.map_cons, List.mapM_cons, ih]; rfl
  · exact PositionSpace.add_empty blank.base_eq

/-- The tree of the file holds no more than the file and its name. -/
theorem isBare (blank : IsBlankFile symbolCount entry front root) : root.IsBare := by
  obtain ⟨_, _, -, -, -, -, -, tree_read⟩ := blank.members
  exact Node.isBare_of_nodes_eq_nil (isSound_of_readNode tree_read).conforms blank.isFile
    blank.declaresNothing

end IsBlankFile

end Dump

/-- The package behind one more file with the given tree. -/
def Package.behind (front : SourceFile) (root : Node) (package : Package) : Package where
  path := package.path
  space := package.space.behind front
  trees := root :: package.trees.map (Node.displaced (PositionSpace.shift front))
  types := package.types
  forest := package.forest.displaced (PositionSpace.shift front)
  resolution := package.resolution.displaced (PositionSpace.shift front)

/-- A dump with a blank file in front is read as the package behind that file. -/
theorem Dump.package_behind {document entry : Json} {result : Package} {front : SourceFile}
    {root : Node} (read : package document = .ok result)
    (blank : IsBlankFile result.forest.symbols.size entry front root) :
    package (behind entry (PositionSpace.shift front) document) =
      .ok (result.behind front root) := by
  obtain ⟨members, entries, path, types, forest, files, filesRead, rfl, entries_eq, path_eq,
    types_eq, forest_eq, files_eq, files_read, rfl⟩ := package_eq_ok_iff.mp read
  refine package_eq_ok_iff.mpr ⟨_, entries, path, types,
    forest.displaced (PositionSpace.shift front),
    entry :: files.map (Json.displacedAt ["syntax"] (PositionSpace.shift front)),
    filesRead.behind front root, rfl, ?_, ?_, types_eq, forest_behind forest_eq, ?_, ?_, rfl⟩
  · rw [items, optional?_congr (lookup_behind (fun _ => rfl)), ← entries_eq, items]
  · rw [require_congr (lookup_behind (fun _ => rfl)), path_eq]
  · obtain ⟨found, lookup_eq, found_eq⟩ := require_eq_ok_iff.mp files_eq
    refine require_eq_ok_iff.mpr
      ⟨partBehind entry (PositionSpace.shift front) "files" found, ?_, ?_⟩
    · rw [lookup_map (partBehind entry (PositionSpace.shift front)), lookup_eq, Option.map_some]
    · cases found with
      | array listed =>
          obtain rfl := Option.some.inj found_eq
          rfl
      | _ => cases found_eq
  · rw [List.foldlM_cons, size_symbols_displaced]
    refine bind_eq_ok_iff.mpr ⟨_, blank.read_eq, ?_⟩
    exact foldlM_map_eq_ok (FilesRead.behind front root)
      (Json.displacedAt ["syntax"] (PositionSpace.shift front)) (fun _ _ _ => addFile_behind)
      files_read

end ShadowLint
