import ShadowLint.Proofs.Displacement.Document
import ShadowLint.Proofs.Examination

/-!
# Scans behind one more file

A file that declares nothing adds nothing to what a scan collects.  Everything else that a scan
collects moves on: the declarations, the writes and the variables of loops.
-/

namespace ShadowLint

namespace Resolution

variable {offset : Nat}

theorem find?_displaced {Content : Type} (entries : List (Ident × Content)) (place : Place) :
    (entries.map fun (ident, content) => (ident.displaced offset, content)).find?
        (·.1.place == place.behind) =
      (entries.find? (·.1.place == place)).map
        fun (ident, content) => (ident.displaced offset, content) := by
  have same (entry : Ident × Content) :
      (entry.1.place.behind == place.behind) = (entry.1.place == place) :=
    Place.behind_injective.beq_eq
  rw [List.find?_map]
  exact congrArg (fun test => (entries.find? test).map _) (funext same)

@[simp]
theorem declaredAt?_displaced (resolution : Resolution) (place : Place) :
    (resolution.displaced offset).declaredAt? place.behind = resolution.declaredAt? place := by
  rw [declaredAt?, displaced, find?_displaced, Option.bind_map]
  rfl

@[simp]
theorem usedAt?_displaced (resolution : Resolution) (place : Place) :
    (resolution.displaced offset).usedAt? place.behind = resolution.usedAt? place := by
  rw [usedAt?, displaced, find?_displaced, Option.map_map]
  rfl

end Resolution

/-- The write at its displaced place. -/
def Write.displaced (offset : Nat) (write : Write) : Write where
  symbol := write.symbol
  position := displace offset write.position
  statementStart := displace offset write.statementStart
  statementStop := displace offset write.statementStop

/-- The write and the statement that writes are somewhere or nowhere. -/
structure Write.IsPositioned (write : Write) : Prop where
  /-- The name stands somewhere. -/
  position : noPosition ≤ write.position
  /-- The statement begins somewhere. -/
  statementStart : noPosition ≤ write.statementStart
  /-- The statement ends somewhere. -/
  statementStop : noPosition ≤ write.statementStop

/-- The declaration at its displaced place. -/
def Declaration.displaced (offset : Nat) : Declaration → Declaration
  | short statement => short (statement.displaced offset)
  | var declaration => var (declaration.displaced offset)

theorem findSome?_congr {Item Content : Type} {items : List Item}
    {left right : Item → Option Content}
    (same : ∀ item ∈ items, left item = right item) :
    items.findSome? left = items.findSome? right := by
  rw [← List.head?_filterMap, List.filterMap_congr same, List.head?_filterMap]

namespace Node

variable {offset : Nat}

@[simp]
theorem isShortDeclaration_displaced (node : Node) :
    (node.displaced offset).isShortDeclaration = node.isShortDeclaration := by
  rw [isShortDeclaration, isShortDeclaration, kind_displaced, text_displaced]

theorem declaration?_displaced (node : Node) :
    (node.displaced offset).declaration? =
      node.declaration?.map (Declaration.displaced offset) := by
  rw [declaration?, declaration?, isShortDeclaration_displaced, kind_displaced, text_displaced]
  split
  · rfl
  · split <;> rfl

theorem targets_displaced (node : Node) :
    (node.displaced offset).targets = node.targets.map (displaced offset) := by
  unfold targets
  rw [kind_displaced]
  split <;> simp

theorem writtenSymbols_displaced (resolution : Resolution) (node : Node) :
    (node.displaced offset).writtenSymbols (resolution.displaced offset) =
      (node.writtenSymbols resolution).map fun (ident, symbol) =>
        (ident.displaced offset, symbol) := by
  rw [writtenSymbols, writtenSymbols, targets_displaced, List.filterMap_map, List.map_filterMap]
  refine List.filterMap_congr fun target _ => ?_
  rw [Function.comp_apply, written?, written?, ident?_displaced]
  cases target.ident? with
  | none => rfl
  | some ident =>
      change ((resolution.displaced offset).usedAt? ident.place.behind).bind _ = _
      rw [Resolution.usedAt?_displaced]
      cases found : resolution.usedAt? ident.place <;> simp [found]

theorem loopInit?_displaced (node : Node) :
    (node.displaced offset).loopInit? = node.loopInit?.map (displaced offset) := by
  rw [loopInit?, loopInit?, kind_displaced, child?_displaced]
  split
  · rw [Option.filter_map]
    congr 2
    funext part
    simp
  · rfl

theorem rangeBinders_displaced (node : Node) :
    (node.displaced offset).rangeBinders = node.rangeBinders.map (displaced offset) := by
  rw [rangeBinders, rangeBinders, kind_displaced, text_displaced, nodes_displaced, nodes_displaced,
    ← List.map_append]
  split <;> rfl

theorem rangeBinderPositions_displaced (node : Node) :
    (node.displaced offset).rangeBinderPositions =
      node.rangeBinderPositions.map (displace offset) := by
  simp only [rangeBinderPositions, rangeBinders_displaced, List.filterMap_map, List.map_filterMap]
  refine List.filterMap_congr fun binder _ => ?_
  rw [Function.comp_apply, ident?_displaced]
  cases binder.ident? <;> rfl

section Edges

variable {node : Node} (positioned : node.IsAllPositioned) (grammatical : node.IsGrammatical)
include positioned grammatical

theorem edgeOrNowhere_displaced (side : Side) :
    (node.displaced offset).edgeOrNowhere side = displace offset (node.edgeOrNowhere side) := by
  rw [edgeOrNowhere, edgeOrNowhere, edgePosition?_displaced positioned grammatical]
  cases node.edgePosition? side with
  | none => simp
  | some position => rfl

theorem edgeOrNowhere_nonneg (side : Side) : noPosition ≤ node.edgeOrNowhere side := by
  unfold edgeOrNowhere
  cases position_eq : node.edgePosition? side with
  | none => exact Int.le_refl _
  | some position =>
      exact Int.le_of_lt (pos_of_edgePosition?_eq_some positioned grammatical position_eq)

theorem missingEdge?_displaced (side : Side) :
    (node.displaced offset).missingEdge? side = node.missingEdge? side := by
  rw [missingEdge?, missingEdge?, edgePosition?_displaced positioned grammatical,
    Option.isNone_map, kind_displaced]

theorem edgeFault?_displaced : (node.displaced offset).edgeFault? = node.edgeFault? := by
  rw [edgeFault?, edgeFault?, missingEdge?_displaced positioned grammatical,
    missingEdge?_displaced positioned grammatical]

theorem writeFault?_displaced (resolution : Resolution) :
    (node.displaced offset).writeFault? (resolution.displaced offset) =
      node.writeFault? resolution := by
  simp only [writeFault?, writtenSymbols_displaced, List.map_eq_nil_iff,
    edgeFault?_displaced positioned grammatical]

theorem writesOrNowhere_displaced (resolution : Resolution) :
    (node.displaced offset).writesOrNowhere (resolution.displaced offset) =
      (node.writesOrNowhere resolution).map (Write.displaced offset) := by
  rw [writesOrNowhere, writesOrNowhere, writtenSymbols_displaced, List.map_map, List.map_map]
  refine List.map_congr_left fun write _ => ?_
  simp only [Function.comp_apply, Write.displaced, writeOrNowhere,
    edgeOrNowhere_displaced positioned grammatical]
  rfl

omit positioned grammatical in
theorem binderFault?_displaced (offset : Nat)
    (binders : ∀ binder ∈ node.rangeBinders, binder.IsAllPositioned ∧ binder.IsGrammatical) :
    (node.displaced offset).binderFault? = node.binderFault? := by
  have same : (fun binder : Node => binder.ident?.isNone) ∘ displaced offset =
      fun binder => binder.ident?.isNone := by
    funext binder
    simp
  rw [binderFault?, binderFault?, rangeBinders_displaced, List.filter_map, same, List.findSome?_map]
  refine findSome?_congr fun binder mem => ?_
  obtain ⟨positioned, grammatical⟩ := binders binder (List.mem_filter.mp mem).1
  exact missingEdge?_displaced positioned grammatical .start

end Edges

end Node

namespace Package

/-- No token of a package stands before everything, and only those stand nowhere that may; no symbol
is declared before everything. -/
structure IsPositioned (package : Package) : Prop where
  /-- The tokens of its nodes stand somewhere. -/
  nodes : ∀ node ∈ package.nodes, node.IsPositioned
  /-- Its symbols are declared somewhere or nowhere. -/
  symbols : package.forest.IsPositioned

/-- The package is put together like one that was read, and everything in it is positioned. -/
structure IsMovable (package : Package) : Prop extends package.IsPositioned where
  /-- It is well-formed. -/
  wellFormed : package.WellFormed
  /-- Its files lie one behind the other. -/
  laidOut : package.space.IsLaidOut
  /-- The names that it resolves as uses are names in its trees. -/
  used : ∀ use ∈ package.resolution.uses, ∃ node ∈ package.nodes, node.ident? = some use.1

theorem mem_nodes_of_mem_rangeBinders {package : Package} {node binder : Node}
    (mem : node ∈ package.nodes) (binder_mem : binder ∈ node.rangeBinders) :
    binder ∈ package.nodes := by
  unfold Node.rangeBinders at binder_mem
  split at binder_mem
  · rcases List.mem_append.mp binder_mem with binder_mem | binder_mem
    · exact mem_nodes_of_mem_field mem binder_mem
    · exact mem_nodes_of_mem_field mem binder_mem
  · cases binder_mem

/-- A positioned package that was read is movable. -/
theorem IsPositioned.isMovable {document : Json} {package : Package}
    (positioned : package.IsPositioned) (distinct : document.hasDistinctNames)
    (read : Dump.package document = .ok package) : package.IsMovable where
  toIsPositioned := positioned
  wellFormed := Dump.wellFormed_of_package read
  laidOut := Dump.isLaidOut_of_package read
  used := fun use mem =>
    (Dump.occurOnce_of_package distinct read).2.named use.1 (List.mem_map_of_mem mem)

namespace IsMovable

variable {package : Package} (movable : package.IsMovable) {node : Node}
include movable

theorem isAllPositioned (mem : node ∈ package.nodes) : node.IsAllPositioned :=
  fun part part_mem => movable.nodes part (preorder_subset_nodes mem part_mem)

theorem isGrammatical (mem : node ∈ package.nodes) : node.IsGrammatical :=
  movable.wellFormed.grammatical mem

theorem pos_of_ident? (mem : node ∈ package.nodes) {ident : Ident}
    (named : node.ident? = some ident) : noPosition < ident.position := by
  obtain ⟨isIdent, same⟩ := Option.ite_none_right_eq_some.mp named
  obtain rfl := Option.some.inj same
  apply (movable.nodes node mem).pos (movable.isGrammatical mem).conforms
  · rw [isIdent]
    rfl
  · rw [isIdent]
    rfl

theorem nonneg_of_mem_uses : ∀ use ∈ package.resolution.uses, noPosition ≤ use.1.position := by
  intro use mem
  obtain ⟨node, node_mem, named⟩ := movable.used use mem
  exact Int.le_of_lt (movable.pos_of_ident? node_mem named)

theorem pos_of_mem_field {field : String} {part : Node} (mem : node ∈ package.nodes)
    (part_mem : part ∈ node.nodes field) {ident : Ident} (named : part.ident? = some ident) :
    noPosition < ident.position :=
  movable.pos_of_ident? (mem_nodes_of_mem_field mem part_mem) named

/-- Every write of the package is positioned. -/
theorem isPositioned_of_mem_writes :
    ∀ write ∈ package.evidence.scan.writes, write.IsPositioned := by
  intro write mem
  rw [evidence, Scan.collected, ← List.flatMap_def] at mem
  obtain ⟨statement, statement_mem, mem⟩ := List.mem_flatMap.mp mem
  obtain ⟨⟨ident, symbol⟩, written, rfl⟩ := List.mem_map.mp mem
  obtain ⟨target, target_mem, named, -⟩ := Node.mem_writtenSymbols_iff.mp written
  have positioned := movable.isAllPositioned statement_mem
  have grammatical := movable.isGrammatical statement_mem
  refine ⟨Int.le_of_lt ?_, ?_, ?_⟩
  · rcases Node.mem_targets_iff.mp target_mem with ⟨-, target_mem⟩ | ⟨-, target_mem⟩
    · exact movable.pos_of_mem_field statement_mem target_mem named
    · exact movable.pos_of_mem_field statement_mem target_mem named
  · exact Node.edgeOrNowhere_nonneg positioned grammatical .start
  · exact Node.edgeOrNowhere_nonneg positioned grammatical .stop

/-- Every name that a loop over a collection binds is positioned. -/
theorem pos_of_mem_rangeBinderPositions (mem : node ∈ package.nodes) :
    ∀ position ∈ node.rangeBinderPositions, noPosition < position := by
  intro position position_mem
  obtain ⟨ident, ident_mem, rfl⟩ := List.mem_map.mp position_mem
  obtain ⟨binder, binder_mem, named⟩ := List.mem_filterMap.mp ident_mem
  exact movable.pos_of_ident? (mem_nodes_of_mem_rangeBinders mem binder_mem) named

/-- A position has the location of its displaced position. -/
theorem location_eq {front : SourceFile} (first : front.base = 1) {position : Int}
    (nonneg : noPosition ≤ position) :
    (package.space.behind front).location (displace (PositionSpace.shift front) position) =
      package.space.location position :=
  PositionSpace.location_behind movable.laidOut first nonneg

end IsMovable

section Behind

variable {package : Package} {front : SourceFile} {root : Node}

theorem nodes_behind :
    (package.behind front root).nodes =
      root.preorder ++ package.nodes.map (Node.displaced (PositionSpace.shift front)) := by
  simp [nodes, behind, List.flatMap_map, List.map_flatMap, Node.preorder_displaced]

/-- The file in front adds nothing to what is collected from nodes. -/
theorem flatMap_nodes_behind {Content : Type} {collect collectBehind : Node → List Content}
    {change : Content → Content} (bare : root.IsBare)
    (nothing : ∀ node : Node, node.kind = .file ∨ node.kind = .ident → collectBehind node = [])
    (moves : ∀ node ∈ package.nodes,
      collectBehind (node.displaced (PositionSpace.shift front)) = (collect node).map change) :
    (package.behind front root).nodes.flatMap collectBehind =
      (package.nodes.flatMap collect).map change := by
  rw [nodes_behind, List.flatMap_append, List.flatMap_map, List.map_flatMap,
    List.flatMap_eq_nil_iff.mpr fun node mem => nothing node (bare node mem), List.nil_append]
  exact List.flatMap_congr moves

theorem filterMap_nodes_behind {Content : Type} {collect collectBehind : Node → Option Content}
    {change : Content → Content} (bare : root.IsBare)
    (nothing : ∀ node : Node, node.kind = .file ∨ node.kind = .ident → collectBehind node = none)
    (moves : ∀ node ∈ package.nodes,
      collectBehind (node.displaced (PositionSpace.shift front)) = (collect node).map change) :
    (package.behind front root).nodes.filterMap collectBehind =
      (package.nodes.filterMap collect).map change := by
  rw [List.filterMap_eq_flatMap_toList, List.filterMap_eq_flatMap_toList]
  refine flatMap_nodes_behind bare (fun node kind_eq => ?_) fun node mem => ?_
  · rw [nothing node kind_eq, Option.toList_none]
  · rw [moves node mem, Option.toList_map]

variable (bare : root.IsBare)
include bare

theorem writes_behind (movable : package.IsMovable) :
    (package.behind front root).evidence.scan.writes =
      package.evidence.scan.writes.map (Write.displaced (PositionSpace.shift front)) := by
  simp only [evidence, Scan.collected, ← List.flatMap_def]
  refine flatMap_nodes_behind bare (fun node kind_eq => ?_) fun node mem => ?_
  · rcases kind_eq with kind_eq | kind_eq <;>
      simp [Node.writesOrNowhere, Node.writtenSymbols, Node.targets, kind_eq]
  · exact Node.writesOrNowhere_displaced (movable.isAllPositioned mem) (movable.isGrammatical mem) _

theorem declarations_behind :
    (package.behind front root).evidence.scan.declarations =
      package.evidence.scan.declarations.map
        (Declaration.displaced (PositionSpace.shift front)) := by
  refine filterMap_nodes_behind bare (fun node kind_eq => ?_) fun node _ => ?_
  · rcases kind_eq with kind_eq | kind_eq <;>
      simp [Node.declaration?, Node.isShortDeclaration, kind_eq]
  · exact Node.declaration?_displaced node

theorem loopInits_contains_behind (place : Place) :
    (package.behind front root).evidence.scan.loopInits.contains place.behind =
      package.evidence.scan.loopInits.contains place := by
  have loops : (package.behind front root).nodes.filterMap Node.loopInit? =
      (package.nodes.filterMap Node.loopInit?).map
        (Node.displaced (PositionSpace.shift front)) := by
    refine filterMap_nodes_behind bare (fun node kind_eq => ?_) fun node _ => ?_
    · rcases kind_eq with kind_eq | kind_eq <;> simp [Node.loopInit?, kind_eq]
    · exact Node.loopInit?_displaced node
  rw [Bool.eq_iff_iff, List.contains_iff_mem, List.contains_iff_mem]
  simp only [evidence, Scan.collected, List.mem_eraseDups]
  rw [show (package.behind front root).nodes.filterMap Node.loopInit? = _ from loops, List.map_map]
  simp only [List.mem_map, Function.comp_apply, Node.place_displaced,
    Place.behind_injective.eq_iff]

theorem rangeBinders_contains_behind (movable : package.IsMovable) {position : Int}
    (nonneg : noPosition ≤ position) :
    (package.behind front root).evidence.scan.rangeBinders.contains
        (displace (PositionSpace.shift front) position) =
      package.evidence.scan.rangeBinders.contains position := by
  have binders : (package.behind front root).nodes.flatMap Node.rangeBinderPositions =
      (package.nodes.flatMap Node.rangeBinderPositions).map
        (displace (PositionSpace.shift front)) := by
    refine flatMap_nodes_behind bare (fun node kind_eq => ?_) fun node _ => ?_
    · rcases kind_eq with kind_eq | kind_eq <;>
        simp [Node.rangeBinderPositions, Node.rangeBinders, kind_eq]
    · exact Node.rangeBinderPositions_displaced node
  rw [Bool.eq_iff_iff, List.contains_iff_mem, List.contains_iff_mem]
  simp only [evidence, Scan.collected, List.mem_eraseDups, binders, List.mem_map]
  constructor
  · rintro ⟨bound, mem, same⟩
    obtain ⟨node, node_mem, bound_mem⟩ := List.mem_flatMap.mp mem
    have bound_pos := movable.pos_of_mem_rangeBinderPositions node_mem bound bound_mem
    rwa [(displace_inj (Int.le_of_lt bound_pos) nonneg).mp same] at mem
  · intro mem
    exact ⟨position, mem, rfl⟩

theorem isLoopVariable_behind (movable : package.IsMovable) {statement : Node}
    (mem : statement ∈ package.nodes) :
    Redeclaration.isLoopVariable (package.behind front root).evidence.scan
        (statement.displaced (PositionSpace.shift front)) =
      Redeclaration.isLoopVariable package.evidence.scan statement := by
  rw [Redeclaration.isLoopVariable, Redeclaration.isLoopVariable, Node.place_displaced,
    loopInits_contains_behind bare, Node.nodes_displaced]
  congr 1
  rw [Bool.eq_iff_iff, List.any_eq_true, List.any_eq_true]
  simp only [List.mem_filterMap, List.mem_map]
  constructor
  · rintro ⟨ident, ⟨_, ⟨target, target_mem, rfl⟩, named⟩, bound⟩
    rw [Node.ident?_displaced] at named
    obtain ⟨name, name_eq, rfl⟩ := Option.map_eq_some_iff.mp named
    have positive := movable.pos_of_mem_field mem target_mem name_eq
    refine ⟨name, ⟨target, target_mem, name_eq⟩, ?_⟩
    rwa [← rangeBinders_contains_behind bare movable (Int.le_of_lt positive)]
  · rintro ⟨ident, ⟨target, target_mem, named⟩, bound⟩
    have positive := movable.pos_of_mem_field mem target_mem named
    refine ⟨ident.displaced (PositionSpace.shift front), ⟨_, ⟨target, target_mem, rfl⟩, ?_⟩, ?_⟩
    · rw [Node.ident?_displaced, named, Option.map_some]
    · rwa [← rangeBinders_contains_behind bare movable (Int.le_of_lt positive)] at bound

theorem findSome?_nodes_behind {Content : Type} {collect collectBehind : Node → Option Content}
    (nothing : ∀ node : Node, node.kind = .file ∨ node.kind = .ident → collectBehind node = none)
    (moves : ∀ node ∈ package.nodes,
      collectBehind (node.displaced (PositionSpace.shift front)) = collect node) :
    (package.behind front root).nodes.findSome? collectBehind =
      package.nodes.findSome? collect := by
  have collected : (package.behind front root).nodes.filterMap collectBehind =
      (package.nodes.filterMap collect).map id :=
    filterMap_nodes_behind bare nothing fun node mem => by rw [moves node mem, Option.map_id_apply]
  rw [← List.head?_filterMap, collected, List.map_id, List.head?_filterMap]

/-- The scan breaks off at the same fault. -/
theorem scanFault?_behind (movable : package.IsMovable) :
    (package.behind front root).scanFault? = package.scanFault? := by
  refine findSome?_nodes_behind bare (fun node kind_eq => ?_) fun node mem => ?_
  · rcases kind_eq with kind_eq | kind_eq <;>
      simp [Node.binderFault?, Node.rangeBinders, Node.writeFault?, Node.writtenSymbols,
        Node.targets, kind_eq]
  · have binders := Node.binderFault?_displaced (PositionSpace.shift front)
      fun binder binder_mem =>
        have binder_mem := mem_nodes_of_mem_rangeBinders mem binder_mem
        ⟨movable.isAllPositioned binder_mem, movable.isGrammatical binder_mem⟩
    rw [binders]
    exact congrArg _ (Node.writeFault?_displaced (movable.isAllPositioned mem)
      (movable.isGrammatical mem) _)

end Behind

end Package

end ShadowLint
