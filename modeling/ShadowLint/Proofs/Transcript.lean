import ShadowLint.Proofs.Dump.Correspondence
import ShadowLint.Proofs.Verdict

/-!
# What a package keeps of its dump

In a package that was read, every object in the trees of the dump is one node, and the resolution
says what these objects say: nothing is lost on the way, and nothing is there twice.
-/

namespace ShadowLint

/-- What a package tells about the objects in the trees of its dump. -/
structure Package.Transcribes (package : Package) (objects : List (Place × Dump.Members)) :
    Prop where
  /-- Every object is one node, where it stands. -/
  places : ((package.trees.flatMap Node.walk).map Node.place).Perm (objects.map Prod.fst)
  /-- No two nodes are one. -/
  distinct : ((package.trees.flatMap Node.walk).map Node.place).Nodup
  /-- A node is of the kind that its object names. -/
  kinds : ∀ node ∈ package.trees.flatMap Node.walk, ∀ members, (node.place, members) ∈ objects →
    members.lookup Dump.kindKey = some (.string node.kind.name)
  /-- The declared names are the names whose objects tell what they declare. -/
  definitions : ∀ ident symbol?, (ident, symbol?) ∈ package.resolution.definitions ↔
    ∃ node ∈ package.trees.flatMap Node.walk, node.ident? = some ident ∧
      ∃ members found, (node.place, members) ∈ objects ∧
        members.lookup Dump.definitionKey = some found ∧
          (found = .null ∧ symbol? = none ∨ ∃ symbol, Dump.symbolOf? found = some symbol ∧
            symbol? = some symbol)
  /-- No name is declared twice. -/
  definitions_distinct : (package.resolution.definitions.map (·.1.place)).Nodup
  /-- The used names are the names whose objects tell what they use. -/
  uses : ∀ ident symbol, (ident, symbol) ∈ package.resolution.uses ↔
    ∃ node ∈ package.trees.flatMap Node.walk, node.ident? = some ident ∧
      ∃ members found, (node.place, members) ∈ objects ∧
        members.lookup Dump.useKey = some found ∧ Dump.symbolOf? found = some symbol
  /-- No name is used twice. -/
  uses_distinct : (package.resolution.uses.map (·.1.place)).Nodup
  /-- The symbols are there. -/
  known : ∀ ident symbol, (ident, some symbol) ∈ package.resolution.definitions ∨
    (ident, symbol) ∈ package.resolution.uses → (package.forest.symbol? symbol).isSome

namespace Dump

section Objects

variable {symbolCount : Nat} {object : Place × Members} {kind : Kind}

theorem kind_objectNode (describes : DescribesNode symbolCount object.2 kind) :
    (objectNode object).kind = kind := by
  rw [objectNode, nodeFrom, kindOf?_eq_some_iff.mpr describes.named, Option.getD_some]

theorem ident?_objectNode (describes : DescribesNode symbolCount object.2 .ident) :
    (objectNode object).ident? = some (identOf object) := by
  rw [objectNode, kindOf?_eq_some_iff.mpr describes.named, Option.getD_some]
  exact ident?_nodeFrom

theorem symbolOf?_of_refersToSymbol {found : Json} (refers : RefersToSymbol symbolCount found) :
    ∃ symbol, symbolOf? found = some symbol := by
  cases found with
  | string | int => exact ⟨_, rfl⟩
  | _ => exact refers.elim

theorem isSome_symbol?_of_refersToSymbol {forest : Forest} {found : Json} {symbol : SymbolId}
    (refers : RefersToSymbol forest.symbols.size found)
    (symbol_eq : symbolOf? found = some symbol) :
    (forest.symbol? symbol).isSome := by
  cases found with
  | string name =>
      obtain rfl := Option.some.inj symbol_eq
      exact refers
  | int index =>
      obtain rfl := Option.some.inj symbol_eq
      have inside : index.toNat < forest.symbols.size := by
        obtain ⟨_, _⟩ := refers
        omega
      rw [Forest.symbol?, Array.getElem?_eq_getElem inside, Option.isSome_some]
  | _ => exact refers.elim

end Objects

section Package

variable {document : Json} {result : Package} (distinct : document.hasDistinctNames)
  (read : package document = .ok result)

include distinct read

theorem places_perm_of_package :
    (result.nodes.map Node.place).Perm ((syntaxObjects document).map Prod.fst) := by
  have places := (nodes_perm_of_package distinct read).map Node.place
  rwa [List.map_map] at places

/-- A place tells which object stands there, and so which node. -/
theorem eq_of_mem_syntaxObjects {object : Place × Members} (mem : object ∈ syntaxObjects document)
    {members : Members} (members_mem : (object.1, members) ∈ syntaxObjects document) :
    object.2 = members := by
  have apart := (places_perm_of_package distinct read).nodup_iff.mp
    (wellFormed_of_package read).placed.distinct
  rw [List.inj_on_of_nodup_map apart mem members_mem rfl]

/-- The names whose objects tell something are those of the objects that tell it. -/
theorem exists_named_iff {key : String} (resolves : isResolution key) {ident : Ident}
    {tells : Json → Prop} :
    (∃ node ∈ result.nodes, node.ident? = some ident ∧ ∃ members found,
        (node.place, members) ∈ syntaxObjects document ∧ members.lookup key = some found ∧
          tells found) ↔
      ∃ object ∈ syntaxObjects document, identOf object = ident ∧ ∃ found,
        object.2.lookup key = some found ∧ tells found := by
  obtain ⟨described, -, -⟩ := resolution_eq_of_package distinct read
  have perm := nodes_perm_of_package distinct read
  constructor
  · rintro ⟨node, mem, named, members, found, members_mem, found_eq, told⟩
    obtain ⟨object, object_mem, rfl⟩ := List.mem_map.mp (perm.mem_iff.mp mem)
    obtain rfl := eq_of_mem_syntaxObjects distinct read object_mem members_mem
    obtain ⟨kind, describes⟩ := described object object_mem
    obtain rfl := describes.resolved _ (mem_of_lookup_eq_some found_eq) resolves
    exact ⟨object, object_mem,
      Option.some.inj ((ident?_objectNode describes).symm.trans named), found, found_eq, told⟩
  · rintro ⟨object, mem, rfl, found, found_eq, told⟩
    obtain ⟨kind, describes⟩ := described object mem
    obtain rfl := describes.resolved _ (mem_of_lookup_eq_some found_eq) resolves
    exact ⟨objectNode object, perm.mem_iff.mpr (List.mem_map_of_mem mem),
      ident?_objectNode describes, object.2, found, mem, found_eq, told⟩

theorem mem_definitions_iff {ident : Ident} {symbol? : Option SymbolId} :
    (ident, symbol?) ∈ result.resolution.definitions ↔
      ∃ object ∈ syntaxObjects document, identOf object = ident ∧ ∃ found,
        object.2.lookup definitionKey = some found ∧
          (found = .null ∧ symbol? = none ∨ ∃ symbol, symbolOf? found = some symbol ∧
            symbol? = some symbol) := by
  obtain ⟨described, -, resolution_eq⟩ := resolution_eq_of_package distinct read
  rw [resolution_eq]
  simp only [resolveObjects, Resolution.empty, List.nil_append, List.mem_filterMap, definitionOf?,
    Option.map_eq_some_iff, Prod.mk.injEq]
  refine exists_congr fun object => and_congr_right fun mem => ?_
  obtain ⟨kind, describes⟩ := described object mem
  constructor
  · rintro ⟨found, found_eq, rfl, rfl⟩
    refine ⟨rfl, found, found_eq, ?_⟩
    rcases describes.declares found found_eq with rfl | refers
    · exact .inl ⟨rfl, rfl⟩
    · obtain ⟨symbol, symbol_eq⟩ := symbolOf?_of_refersToSymbol refers
      exact .inr ⟨symbol, symbol_eq, symbol_eq⟩
  · rintro ⟨rfl, found, found_eq, ⟨rfl, rfl⟩ | ⟨symbol, symbol_eq, rfl⟩⟩
    · exact ⟨_, found_eq, rfl, rfl⟩
    · exact ⟨found, found_eq, rfl, symbol_eq⟩

theorem mem_uses_iff {ident : Ident} {symbol : SymbolId} :
    (ident, symbol) ∈ result.resolution.uses ↔
      ∃ object ∈ syntaxObjects document, identOf object = ident ∧ ∃ found,
        object.2.lookup useKey = some found ∧ symbolOf? found = some symbol := by
  obtain ⟨-, -, resolution_eq⟩ := resolution_eq_of_package distinct read
  rw [resolution_eq]
  simp only [resolveObjects, Resolution.empty, List.nil_append, List.mem_filterMap, useOf?,
    Option.bind_eq_some_iff, Option.map_eq_some_iff, Prod.mk.injEq]
  refine exists_congr fun object => and_congr_right fun _ => ?_
  constructor
  · rintro ⟨found, found_eq, _, symbol_eq, rfl, rfl⟩
    exact ⟨rfl, found, found_eq, symbol_eq⟩
  · rintro ⟨rfl, found, found_eq, symbol_eq⟩
    exact ⟨found, found_eq, symbol, symbol_eq, rfl, rfl⟩

/-- The symbols that names declare and use are those of the package. -/
theorem isSome_symbol?_of_package {ident : Ident} {symbol : SymbolId}
    (resolved : (ident, some symbol) ∈ result.resolution.definitions ∨
      (ident, symbol) ∈ result.resolution.uses) : (result.forest.symbol? symbol).isSome := by
  obtain ⟨described, -, -⟩ := resolution_eq_of_package distinct read
  rcases resolved with defined | used
  · obtain ⟨object, mem, -, found, found_eq, told⟩ :=
      (mem_definitions_iff distinct read).mp defined
    obtain ⟨kind, describes⟩ := described object mem
    rcases told with ⟨-, absent⟩ | ⟨_, symbol_eq, same⟩
    · cases absent
    · obtain rfl := Option.some.inj same
      rcases describes.declares found found_eq with rfl | refers
      · cases symbol_eq
      · exact isSome_symbol?_of_refersToSymbol refers symbol_eq
  · obtain ⟨object, mem, -, found, found_eq, symbol_eq⟩ := (mem_uses_iff distinct read).mp used
    obtain ⟨kind, describes⟩ := described object mem
    exact isSome_symbol?_of_refersToSymbol (describes.uses found found_eq) symbol_eq

/-- A node is of the kind that its object names. -/
theorem named_of_package {node : Node} (mem : node ∈ result.nodes) {members : Members}
    (members_mem : (node.place, members) ∈ syntaxObjects document) :
    members.lookup kindKey = some (.string node.kind.name) := by
  obtain ⟨described, -, -⟩ := resolution_eq_of_package distinct read
  obtain ⟨object, object_mem, rfl⟩ :=
    List.mem_map.mp ((nodes_perm_of_package distinct read).mem_iff.mp mem)
  obtain rfl := eq_of_mem_syntaxObjects distinct read object_mem members_mem
  obtain ⟨kind, describes⟩ := described object object_mem
  rw [kind_objectNode describes, describes.named]

/-- In a package that was read, every object in a tree is one node, and the names are resolved as
their objects tell. -/
theorem transcribes_of_package : result.Transcribes (syntaxObjects document) := by
  have walked : result.trees.flatMap Node.walk = result.nodes :=
    List.flatMap_congr fun tree _ => tree.walk_eq_preorder
  obtain ⟨defined_once, used_once⟩ := occurOnce_of_package distinct read
  have defined_distinct := defined_once.distinct
  have used_distinct := used_once.distinct
  rw [List.map_map] at defined_distinct used_distinct
  constructor
  case places => exact walked ▸ places_perm_of_package distinct read
  case distinct => exact walked ▸ (wellFormed_of_package read).placed.distinct
  case kinds =>
    rw [walked]
    intro node mem members members_mem
    exact named_of_package distinct read mem members_mem
  case definitions =>
    intro ident symbol?
    rw [walked, exists_named_iff distinct read rfl]
    exact mem_definitions_iff distinct read
  case definitions_distinct => exact defined_distinct
  case uses =>
    intro ident symbol
    rw [walked, exists_named_iff distinct read rfl]
    exact mem_uses_iff distinct read
  case uses_distinct => exact used_distinct
  case known =>
    intro ident symbol resolved
    exact isSome_symbol?_of_package distinct read resolved

end Package

end Dump

namespace Specimen

/-- The objects of a dump with three assignments are its nodes, and two of its names are used. -/
theorem transcribes_unreadWrite :
    (package unreadWrite).Transcribes (Dump.syntaxObjects (document unreadWrite)) ∧
      (Dump.syntaxObjects (document unreadWrite)).length = 14 ∧
      (package unreadWrite).resolution.uses.map (·.1.position) = [31, 45] := by
  have distinct : (document unreadWrite).hasDistinctNames := by decide +kernel
  have read : Dump.package (document unreadWrite) = .ok (package unreadWrite) := rfl
  exact ⟨Dump.transcribes_of_package distinct read, rfl, by decide +kernel⟩

end Specimen
end ShadowLint
