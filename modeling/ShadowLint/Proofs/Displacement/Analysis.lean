import ShadowLint.Proofs.Displacement.Verdict
import ShadowLint.Proofs.Redeclaration
import ShadowLint.Proofs.Verdict

/-!
# The analysis behind one more file

Whatever place the files of a package take among all positions, the analysis finds the same: with
one more file in front it breaks off at the same fault or for none, and otherwise it makes the same
reports, each at its displaced position.
-/

namespace ShadowLint

/-- The end of a place, which moves on if its beginning does. -/
def displaceStop (offset : Nat) (start stop : Int) : Int :=
  if start = noPosition then stop else stop + offset

theorem displaceStop_add (offset : Nat) (start : Int) (width : Nat) :
    displaceStop offset start (start + width) = displace offset start + width := by
  unfold displaceStop displace noPosition
  split <;> omega

theorem displaceStop_of_pos (offset : Nat) {start stop : Int} (start_pos : noPosition < start)
    (stop_pos : noPosition < stop) : displaceStop offset start stop = displace offset stop := by
  rw [displaceStop, if_neg (Int.ne_of_gt start_pos), displace_of_pos stop_pos]

/-- The related place where positions move on. -/
def Related.displaced (offset : Nat) (related : Related) : Related :=
  { related with
    start := displace offset related.start
    stop := displaceStop offset related.start related.stop }

/-- The diagnostic where positions move on: it says the same about displaced places. -/
def Diagnostic.displaced (offset : Nat) (diagnostic : Diagnostic) : Diagnostic :=
  { diagnostic with
    start := displace offset diagnostic.start
    stop := displaceStop offset diagnostic.start diagnostic.stop
    related := diagnostic.related.map (Related.displaced offset) }

namespace Findings

/-- The findings where positions move on. -/
def displaced (offset : Nat) (findings : Findings) : Findings :=
  ⟨findings.diagnostics.map (Diagnostic.displaced offset)⟩

variable {offset : Nat} {findings : Findings}

theorem covers_displaced (nonneg : ∀ other ∈ findings.diagnostics, noPosition ≤ other.start)
    {position : Int} (position_nonneg : noPosition ≤ position) :
    (findings.displaced offset).covers (displace offset position) = findings.covers position := by
  rw [Bool.eq_iff_iff, covers_iff, covers_iff]
  simp only [displaced, List.mem_map, exists_exists_and_eq_and]
  exact exists_congr fun other => and_congr_right fun mem =>
    displace_inj (nonneg other mem) position_nonneg

/-- A displaced diagnostic is added to displaced findings if it is added without moving. -/
theorem add_displaced (nonneg : ∀ other ∈ findings.diagnostics, noPosition ≤ other.start)
    {diagnostic : Diagnostic} (diagnostic_nonneg : noPosition ≤ diagnostic.start) :
    (findings.displaced offset).add (diagnostic.displaced offset) =
      (findings.add diagnostic).displaced offset := by
  have covers_eq : (findings.displaced offset).covers (diagnostic.displaced offset).start =
      findings.covers diagnostic.start :=
    covers_displaced nonneg diagnostic_nonneg
  rw [add, add, covers_eq]
  split
  · rfl
  · simp [displaced]

/-- Displaced reports make displaced findings. -/
theorem addAll_displaced (offset : Nat) (findings : Findings)
    (nonneg : ∀ other ∈ findings.diagnostics, noPosition ≤ other.start)
    {reports : List Diagnostic} (reports_nonneg : ∀ report ∈ reports, noPosition ≤ report.start) :
    (findings.displaced offset).addAll (reports.map (Diagnostic.displaced offset)) =
      (findings.addAll reports).displaced offset := by
  induction reports generalizing findings with
  | nil => rfl
  | cons report rest ih =>
      obtain ⟨report_nonneg, rest_nonneg⟩ := List.forall_mem_cons.mp reports_nonneg
      rw [List.map_cons, addAll_cons, addAll_cons, add_displaced nonneg report_nonneg]
      refine ih _ (fun other mem => ?_) rest_nonneg
      unfold add at mem
      split at mem
      · exact nonneg other mem
      · rcases List.mem_append.mp mem with mem | mem
        · exact nonneg other mem
        · exact List.mem_singleton.mp mem ▸ report_nonneg

end Findings

namespace Node

variable {offset : Nat}

theorem isNamed_displaced (node : Node) (name : String) :
    (node.displaced offset).isNamed name = node.isNamed name := by
  rw [isNamed, isNamed, ident?_displaced]
  cases node.ident? <;> rfl

theorem reuses_displaced (node : Node) (name : String) :
    (node.displaced offset).reuses name = node.reuses name := by
  rw [reuses, reuses, isNamed_displaced, kind_displaced, child?_displaced]
  cases node.child? "x" with
  | none => rfl
  | some operand => rw [Option.map_some, Option.any_some, Option.any_some, isNamed_displaced]

end Node

/-- The malformed node at its displaced place. -/
def Malformed.displaced (offset : Nat) (fault : Malformed) : Malformed :=
  { fault with node := fault.node.displaced offset }

namespace Redeclaration

variable {offset : Nat}

theorem allReuse_displaced (pairs : List (Node × Node)) :
    allReuse (pairs.map fun (target, value) => (target.displaced offset, value.displaced offset)) =
      (allReuse pairs).mapError (Malformed.displaced offset) := by
  induction pairs with
  | nil => rfl
  | cons pair rest ih =>
      obtain ⟨target, value⟩ := pair
      rw [List.map_cons, allReuse, allReuse, Node.ident?_displaced]
      cases target.ident? with
      | none => rfl
      | some ident =>
          change (if (value.displaced offset).reuses ident.name then _ else _) = _
          rw [Node.reuses_displaced, ih]
          dsimp only
          split <;> rfl

theorem isDeliberateShort_displaced (statement : Node) :
    isDeliberateShort (statement.displaced offset) =
      (isDeliberateShort statement).mapError (Malformed.displaced offset) := by
  unfold isDeliberateShort
  simp only [Node.nodes_displaced, List.length_map, List.zip_map]
  split
  · exact allReuse_displaced _
  · rfl

theorem isDeliberateVar_displaced (spec : Node) :
    isDeliberateVar (spec.displaced offset) = isDeliberateVar spec := by
  unfold isDeliberateVar
  simp only [Node.nodes_displaced, List.length_map, List.zip_map, List.all_map, Function.comp_def,
    Prod.map, Node.text_displaced, Node.isNamed_displaced]

end Redeclaration

namespace Package

section Behind

variable {package : Package} {front : SourceFile} {root : Node} (movable : package.IsMovable)
  (bare : root.IsBare) (first : front.base = 1)

section Names

include movable first

theorem shadow_behind {ident : Ident} {inner outer : Symbol}
    (ident_nonneg : noPosition ≤ ident.position) (outer_nonneg : noPosition ≤ outer.position) :
    Diagnostic.shadow (package.space.behind front) (ident.displaced (PositionSpace.shift front))
        (inner.displaced (PositionSpace.shift front))
        (outer.displaced (PositionSpace.shift front)) =
      (Diagnostic.shadow package.space ident inner outer).displaced
        (PositionSpace.shift front) := by
  have ident_location := movable.location_eq first ident_nonneg
  have outer_location := movable.location_eq first outer_nonneg
  simp only [Diagnostic.shadow, Diagnostic.displaced, Related.displaced, Symbol.displaced,
    Ident.displaced, Ident.stop, displaceStop_add, ident_location, outer_location, List.map_cons,
    List.map_nil]

include bare

/-- What is reported about a name is reported about the displaced name. -/
theorem nameReport?_behind {ident : Ident} (nonneg : noPosition ≤ ident.position) :
    ((package.behind front root).evidence.verdict
        (ident.displaced (PositionSpace.shift front))).diagnostic?
          (package.space.behind front) (ident.displaced (PositionSpace.shift front)) =
      ((package.evidence.verdict ident).diagnostic? package.space ident).map
        (Diagnostic.displaced (PositionSpace.shift front)) := by
  rw [verdict_behind movable bare first nonneg]
  cases verdict_eq : package.evidence.verdict ident with
  | shadows inner outer =>
      obtain ⟨-, innerId, outerId, -, hides, -⟩ := Evidence.verdict_eq_shadows_iff.mp verdict_eq
      obtain ⟨-, found⟩ := Evidence.hidden?_eq_some_iff.mp hides
      have outer_nonneg := (movable.symbols.of_symbol?_eq_some found).position
      exact congrArg some (shadow_behind movable first nonneg outer_nonneg)
  | _ => rfl

end Names

/-- The moved examination breaks off like the other one, and otherwise it makes the same reports,
each at its displaced position. -/
structure Displaces (package : Package) (front : SourceFile) (examination moved : Examination) :
    Prop where
  /-- Both break off at the same fault or for none. -/
  fault : moved.ending.fault? = examination.ending.fault?
  /-- The reports are the same at displaced positions. -/
  reports : examination.ending.fault? = none →
    moved.reports (package.space.behind front) =
      (examination.reports package.space).map (Diagnostic.displaced (PositionSpace.shift front))
  /-- The reports are about something that stands somewhere, or about nothing. -/
  nonneg : ∀ report ∈ examination.reports package.space, noPosition ≤ report.start

theorem displaces_complete :
    package.Displaces front (.endingWith .complete) (.endingWith .complete) :=
  ⟨rfl, fun _ => rfl, by simp [Ending.reports]⟩

section Nodes

include movable

theorem displaces_malformed {node : Node} (mem : node ∈ package.nodes)
    (malformation : Malformation) :
    package.Displaces front (.endingWith (.malformed ⟨node, malformation⟩))
      (.endingWith (.malformed ⟨node.displaced (PositionSpace.shift front), malformation⟩)) := by
  have positioned := movable.isAllPositioned mem
  have grammatical := movable.isGrammatical mem
  refine ⟨Node.edgeFault?_displaced positioned grammatical, fun unbroken => ?_, ?_⟩
  · have edges := Node.edgeFault?_eq_none_iff.mp unbroken
    obtain ⟨start, start_eq⟩ := edges .start
    obtain ⟨stop, stop_eq⟩ := edges .stop
    have moved_stop := displaceStop_of_pos (PositionSpace.shift front)
      (Node.pos_of_edgePosition?_eq_some positioned grammatical start_eq)
      (Node.pos_of_edgePosition?_eq_some positioned grammatical stop_eq)
    simp [Ending.reports, Diagnostic.malformedOrNowhere, Node.edgeOrNowhere,
      Node.edgePosition?_displaced positioned grammatical, start_eq, stop_eq, Diagnostic.displaced,
      moved_stop]
  · intro report report_mem
    obtain rfl := List.mem_singleton.mp report_mem
    exact Node.edgeOrNowhere_nonneg positioned grammatical .start

theorem displaces_exempt {node : Node} (mem : node ∈ package.nodes) (reason : Exemption) :
    package.Displaces front (.exempt reason node)
      (.exempt reason (node.displaced (PositionSpace.shift front))) := by
  have moves := Node.edgePosition?_displaced (movable.isAllPositioned mem)
    (movable.isGrammatical mem) (PositionSpace.shift front) .start
  refine ⟨?_, fun _ => by simp, by simp⟩
  unfold Examination.exempt Node.start?
  rw [moves]
  cases node.edgePosition? .start with
  | none => rw [Option.map_none, Node.kind_displaced]
  | some start => rfl

end Nodes

include movable bare first

/-- Behind the decisions on names that stand somewhere. -/
theorem Displaces.after {idents : List Ident} {rest moved : Examination}
    (idents_nonneg : ∀ ident ∈ idents, noPosition ≤ ident.position)
    (displaces : package.Displaces front rest moved) :
    package.Displaces front (.after package.evidence idents rest)
      (.after (package.behind front root).evidence
        (idents.map (Ident.displaced (PositionSpace.shift front))) moved) := by
  refine ⟨displaces.fault, fun unbroken => ?_, ?_⟩
  · rw [Examination.reports_after, Examination.reports_after, displaces.reports unbroken,
      List.map_append, List.filterMap_map, List.map_filterMap]
    congr 1
    exact List.filterMap_congr fun ident mem =>
      nameReport?_behind movable bare first (idents_nonneg ident mem)
  · intro report mem
    rw [Examination.reports_after] at mem
    rcases List.mem_append.mp mem with mem | mem
    · obtain ⟨ident, ident_mem, reported⟩ := List.mem_filterMap.mp mem
      obtain ⟨inner, outer, -, rfl⟩ := Verdict.diagnostic?_eq_some_iff.mp reported
      exact idents_nonneg ident ident_mem
    · exact displaces.nonneg report mem

theorem displaces_ofTargets {targets : List Node} (subset : targets ⊆ package.nodes) :
    package.Displaces front (.ofTargets package.evidence targets)
      (.ofTargets (package.behind front root).evidence
        (targets.map (Node.displaced (PositionSpace.shift front)))) := by
  induction targets with
  | nil => exact displaces_complete
  | cons target rest ih =>
      obtain ⟨mem, rest_subset⟩ := List.cons_subset.mp subset
      rw [List.map_cons, Examination.ofTargets, Examination.ofTargets, Node.ident?_displaced]
      cases named : target.ident? with
      | none => exact displaces_malformed movable mem .targetNotIdent
      | some ident =>
          refine (ih rest_subset).after movable bare first ?_
          simpa using Int.le_of_lt (movable.pos_of_ident? mem named)

theorem displaces_ofSpecs {specs : List Node} (subset : specs ⊆ package.nodes) :
    package.Displaces front (.ofSpecs package.evidence specs)
      (.ofSpecs (package.behind front root).evidence
        (specs.map (Node.displaced (PositionSpace.shift front)))) := by
  induction specs with
  | nil => exact displaces_complete
  | cons spec rest ih =>
      obtain ⟨mem, rest_subset⟩ := List.cons_subset.mp subset
      rw [List.map_cons, Examination.ofSpecs, Examination.ofSpecs, Node.kind_displaced,
        Redeclaration.isDeliberateVar_displaced]
      split
      · exact displaces_malformed movable mem .specNotVariables
      · split
        · exact displaces_exempt movable mem .varCopy
        · have names_eq : ((spec.displaced (PositionSpace.shift front)).nodes "names").filterMap
                Node.ident? =
              ((spec.nodes "names").filterMap Node.ident?).map
                (Ident.displaced (PositionSpace.shift front)) := by
            rw [Node.nodes_displaced, List.filterMap_map, List.map_filterMap]
            exact List.filterMap_congr fun name _ => Node.ident?_displaced name
          rw [names_eq]
          refine (ih rest_subset).after movable bare first fun ident ident_mem => ?_
          obtain ⟨name, name_mem, named⟩ := List.mem_filterMap.mp ident_mem
          exact Int.le_of_lt (movable.pos_of_mem_field mem name_mem named)

theorem displaces_ofShort {statement : Node} (mem : statement ∈ package.nodes) :
    package.Displaces front (.ofShort package.evidence statement)
      (.ofShort (package.behind front root).evidence
        (statement.displaced (PositionSpace.shift front))) := by
  unfold Examination.ofShort
  rw [Redeclaration.isDeliberateShort_displaced, isLoopVariable_behind bare movable mem,
    Node.nodes_displaced]
  cases deliberate : Redeclaration.isDeliberateShort statement with
  | error fault =>
      obtain ⟨-, odd, odd_eq, rfl⟩ := Redeclaration.isDeliberateShort_eq_error_iff.mp deliberate
      have odd_mem := mem_nodes_of_mem_field mem (List.mem_of_find?_eq_some odd_eq)
      exact displaces_malformed movable odd_mem .targetNotIdent
  | ok answer =>
      cases answer with
      | true => exact displaces_exempt movable mem .shortCopy
      | false =>
          change package.Displaces front (if _ then _ else _) (if _ then _ else _)
          split
          · exact displaces_exempt movable mem .loopVariable
          · exact displaces_ofTargets movable bare first fun target target_mem =>
              mem_nodes_of_mem_field mem target_mem

/-- Every declaration is examined with the same outcome. -/
theorem displaces_ofDeclaration {declaration : Declaration}
    (mem : declaration.node ∈ package.nodes) :
    package.Displaces front (.ofDeclaration package.evidence declaration)
      (.ofDeclaration (package.behind front root).evidence
        (declaration.displaced (PositionSpace.shift front))) := by
  cases declaration with
  | short statement => exact displaces_ofShort movable bare first mem
  | var declaration =>
      rw [Declaration.displaced, Examination.ofDeclaration, Examination.ofDeclaration,
        Node.nodes_displaced]
      exact displaces_ofSpecs movable bare first fun spec spec_mem =>
        mem_nodes_of_mem_field mem spec_mem

theorem displaces_of_mem_declarations :
    ∀ declaration ∈ package.evidence.scan.declarations,
      package.Displaces front (.ofDeclaration package.evidence declaration)
        (.ofDeclaration (package.behind front root).evidence
          (declaration.displaced (PositionSpace.shift front))) := by
  intro declaration mem
  obtain ⟨node, node_mem, declares⟩ := List.mem_filterMap.mp mem
  have same := Node.node_of_declaration?_eq_some declares
  exact displaces_ofDeclaration movable bare first (same ▸ node_mem)

/-- The analysis breaks off at the same fault or for none. -/
theorem fault?_behind : (package.behind front root).fault? = package.fault? := by
  rw [fault?, fault?, scanFault?_behind bare movable, examinations, examinations,
    declarations_behind bare, List.map_map, List.findSome?_map, List.findSome?_map]
  refine congrArg _ (findSome?_congr fun declaration mem => ?_)
  exact (displaces_of_mem_declarations movable bare first declaration mem).fault

/-- If the analysis does not break off, its findings are the same at displaced positions. -/
theorem diagnostics_behind (unbroken : package.fault? = none) :
    (package.behind front root).finalReport.diagnostics =
      package.finalReport.diagnostics.map (Diagnostic.displaced (PositionSpace.shift front)) := by
  have each := displaces_of_mem_declarations movable bare first
  have complete := (Option.or_eq_none_iff.mp unbroken).2
  rw [examinations, List.findSome?_map, List.findSome?_eq_none_iff] at complete
  have reports_eq : (package.behind front root).examinations.flatMap
        (Examination.reports (package.space.behind front)) =
      (package.examinations.flatMap (Examination.reports package.space)).map
        (Diagnostic.displaced (PositionSpace.shift front)) := by
    rw [examinations, examinations, declarations_behind bare, List.map_map, List.flatMap_map,
      List.flatMap_map, List.map_flatMap]
    exact List.flatMap_congr fun declaration mem =>
      (each declaration mem).reports (complete declaration mem)
  have nonneg : ∀ report ∈ package.examinations.flatMap (Examination.reports package.space),
      noPosition ≤ report.start := by
    intro report mem
    rw [examinations, List.flatMap_map] at mem
    obtain ⟨declaration, declaration_mem, mem⟩ := List.mem_flatMap.mp mem
    exact (each declaration declaration_mem).nonneg report mem
  have moved := Findings.addAll_displaced (PositionSpace.shift front) .empty
    (by simp [Findings.empty]) nonneg
  exact (congrArg (fun reports => (Findings.empty.addAll reports).diagnostics) reports_eq).trans
    (congrArg Findings.diagnostics moved)

end Behind

/-- Positions may be counted from anywhere.  If a blank file is put in front of the files of a
positioned dump and all positions move on by its size and one, the new dump is accepted, its
analysis breaks off exactly if that of the old one does, and otherwise it finds the same things at
the displaced positions. -/
theorem analyze_behind {document entry : Json} {package : Package} {front : SourceFile}
    {root : Node} (config : Config) (distinct : document.hasDistinctNames)
    (read : Dump.package document = .ok package) (positioned : package.IsPositioned)
    (blank : Dump.IsBlankFile package.forest.symbols.size entry front root) :
    ∃ behind, Dump.package (Dump.behind entry (PositionSpace.shift front) document) = .ok behind ∧
      (behind.analyze config).outcome.1.map Report.diagnostics =
        (package.analyze config).outcome.1.map fun report =>
          report.diagnostics.map (Diagnostic.displaced (PositionSpace.shift front)) := by
  have movable := positioned.isMovable distinct read
  refine ⟨package.behind front root, Dump.package_behind read blank, ?_⟩
  rw [((package.behind front root).settles_analyze config).outcome_eq,
    (package.settles_analyze config).outcome_eq,
    fault?_behind movable blank.isBare blank.base_eq]
  cases unbroken : package.fault? with
  | some fault => rfl
  | none =>
      exact congrArg Except.ok (diagnostics_behind movable blank.isBare blank.base_eq unbroken)

end Package

namespace Specimen

/-- The entry of a file that declares nothing. -/
def blankFile (fileName : String) (size : Nat) (lines : LineTable) : Json :=
  .object [("name", .string fileName), ("size", .int size),
    ("line_starts", .array (lines.starts.map .int)),
    ("syntax", .object
      [("node", .string "File"), ("package_pos", .int 1), ("name", name "p" 9 [])])]

/-- The tree of a file that declares nothing. -/
def blankTree : Node :=
  ⟨[.item 0], .file, [("package_pos", .position 1),
    ("name", .child (some ⟨[.field "name", .item 0], .ident,
      [("name", .text "p"), ("name_pos", .position 9)]⟩)),
    ("decls", .children [])]⟩

theorem isBlankFile_blankFile (symbolCount : Nat) (fileName : String) (size : Nat)
    (lines : LineTable) :
    Dump.IsBlankFile symbolCount (blankFile fileName size lines) ⟨fileName, 1, size, lines⟩
      blankTree where
  base_eq := rfl
  members := ⟨_, _, rfl, rfl, rfl, rfl, rfl, rfl⟩
  isFile := rfl
  declaresNothing := rfl

/-- `var x = y` declares an inner `x`, `x++` writes to it, and `x` reads the outer one. -/
def unreadIncrement : List Json :=
  [.object [("node", .string "DeclStmt"), ("decl", .object [("node", .string "GenDecl"),
      ("tok_pos", .int 21), ("tok", .string "var"),
      ("specs", .array [.object [("node", .string "ValueSpec"),
        ("names", .array [name "x" 25 [("def", .int 1)]]),
        ("values", .array [name "y" 29 []])]])])],
    .object [("node", .string "IncDecStmt"), ("x", name "x" 31 [("use", .int 1)]),
      ("tok_pos", .int 32), ("tok", .string "++")],
    .object [("node", .string "ExprStmt"), ("x", name "x" 41 [("use", .int 0)])]]

/-- The inner `x` is found, and behind a file of size seven it is found eight positions later. -/
theorem diagnostics_behind_blankFile :
    (package unreadIncrement).finalReport.diagnostics.map Diagnostic.start = [25] ∧
      ∃ behind report, Dump.package (Dump.behind (blankFile "a.go" 7 ⟨[0], rfl, rfl⟩) 8
          (document unreadIncrement)) = .ok behind ∧
        (behind.analyze ⟨false⟩).outcome.1 = .ok report ∧
        report.diagnostics.map Diagnostic.start = [33] := by
  have distinct : (document unreadIncrement).hasDistinctNames := by decide +kernel
  have read : Dump.package (document unreadIncrement) = .ok (package unreadIncrement) := rfl
  have positioned : (package unreadIncrement).IsPositioned := by
    constructor <;> decide +kernel
  have complete : (package unreadIncrement).fault? = none := by decide +kernel
  have starts : (package unreadIncrement).finalReport.diagnostics.map Diagnostic.start = [25] := by
    decide +kernel
  have analyzed := ((package unreadIncrement).settles_analyze ⟨false⟩).outcome_eq_ok_iff.mpr
    ⟨complete, rfl⟩
  obtain ⟨behind, behind_read, found⟩ := Package.analyze_behind ⟨false⟩ distinct read positioned
    (isBlankFile_blankFile _ "a.go" 7 ⟨[0], rfl, rfl⟩)
  rw [analyzed] at found
  obtain ⟨report, report_eq, diagnostics_eq⟩ := Dump.map_eq_ok_iff.mp found
  refine ⟨starts, behind, report, behind_read, report_eq, ?_⟩
  have starts_behind := congrArg (List.map (displace 8)) starts
  rw [List.map_map] at starts_behind
  rw [diagnostics_eq, List.map_map]
  exact starts_behind

end Specimen

end ShadowLint
