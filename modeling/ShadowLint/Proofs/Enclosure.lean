import ShadowLint.Proofs.Collection
import ShadowLint.Proofs.Completion
import ShadowLint.Proofs.Syntax.Coverage

/-!
# Writes enclose the names in their statements

A statement in source order covers its tree.  A scan of it does not break off, and every write that
is collected encloses all names in the statement that writes, among them the one that is written to.
-/

namespace ShadowLint

theorem Kind.isInner_of_stmt {kind : Kind} (statement : kind.role = .stmt) : kind.isInner := by
  revert statement
  cases kind <;> decide

theorem Ident.position_lt_stop {ident : Ident} (named : ident.name ≠ "") :
    ident.position < ident.stop := by
  have filled : ident.name.length ≠ 0 := mt String.length_eq_zero_iff.mp named
  rw [stop]
  omega

namespace Node

variable {node : Node}

/-- A name has the span of its text. -/
theorem span_of_ident? {ident : Ident} (named : node.ident? = some ident) :
    node.start? = some ident.position ∧ node.stop? = some ident.stop := by
  obtain ⟨isIdent, same⟩ := Option.ite_none_right_eq_some.mp named
  obtain rfl := Option.some.inj same
  constructor
  · rw [start?, edgePosition?_eq, isIdent]
    simp [Kind.anchors, Kind.startAnchors, edge?, Anchor.edge?, Edge.position?]
  · rw [stop?, edgePosition?_eq, isIdent]
    simp [Kind.anchors, Kind.stopAnchors, edge?, Anchor.edge?, Edge.position?, Ident.stop]

theorem isInner_of_mem_targets {target : Node} (mem : target ∈ node.targets) :
    node.kind.isInner := by
  rcases mem_targets_iff.mp mem with ⟨assigns, -⟩ | ⟨increments, -⟩
  · rw [assigns]
    rfl
  · rw [increments]
    rfl

theorem mem_preorder_of_mem_targets {target : Node} (mem : target ∈ node.targets) :
    target ∈ node.preorder := by
  refine mem_preorder_of_mem_children (self_mem_preorder node) ?_
  rcases mem_targets_iff.mp mem with ⟨-, mem⟩ | ⟨-, mem⟩
  · exact mem_children_of_mem_nodes mem
  · exact mem_children_of_mem_nodes mem

/-- A write of a statement that covers its tree encloses all names in it. -/
theorem Covers.encloses {start stop : Int} (covers : node.Covers start stop) {write : Write}
    {target part : Node} (notes : write.Notes (node, target)) (mem : part ∈ node.preorder)
    {ident : Ident} (ident_eq : part.ident? = some ident) (named : ident.name ≠ "") :
    write.Encloses ident.position := by
  obtain ⟨-, start_eq, stop_eq⟩ := notes
  obtain rfl : start = write.statementStart :=
    Option.some.inj (covers.start_eq.symm.trans start_eq)
  obtain rfl : stop = write.statementStop := Option.some.inj (covers.stop_eq.symm.trans stop_eq)
  obtain ⟨identStart_eq, identStop_eq⟩ := span_of_ident? ident_eq
  obtain ⟨first, behind, first_eq, behind_eq, le_first, -, behind_le⟩ := covers.below part mem
  obtain rfl : ident.position = first := Option.some.inj (identStart_eq.symm.trans first_eq)
  obtain rfl : ident.stop = behind := Option.some.inj (identStop_eq.symm.trans behind_eq)
  exact ⟨le_first, Int.lt_of_lt_of_le (Ident.position_lt_stop named) behind_le⟩

end Node

namespace Scan

/-- What nodes write does not depend on what was collected before. -/
theorem writes_foldl_after (resolution : Resolution) (nodes : List Node) (before : Scan) :
    (nodes.foldl (after resolution) before).writes =
      before.writes ++ (collected resolution nodes).writes := by
  induction nodes generalizing before with
  | nil => simp [collected]
  | cons node rest ih =>
      rw [List.foldl_cons, ih]
      simp [after, collected]

end Scan

namespace Node

section Statement

variable {statement : Node} (ordered : statement.IsSourceOrdered)
  (grammatical : statement.IsGrammatical)
include ordered grammatical

theorem exists_covers_of_mem_preorder {node : Node} (mem : node ∈ statement.preorder)
    (inner : node.kind.isInner) : ∃ start stop, node.Covers start stop :=
  (ordered.of_mem_preorder mem).exists_covers (grammatical.of_mem_preorder mem) inner

/-- A scan of a statement in source order does not break off. -/
theorem scanFault?_eq_none (resolution : Resolution) :
    Scan.fault? resolution statement.preorder = none := by
  refine List.findSome?_eq_none_iff.mpr fun node mem => ?_
  have binders : node.binderFault? = none :=
    binderFault?_eq_none (grammatical.of_mem_preorder mem)
  rw [binders, Option.none_or, writeFault?]
  split
  · rfl
  · rename_i writes
    obtain ⟨⟨ident, symbol⟩, written⟩ := List.exists_mem_of_ne_nil _ writes
    obtain ⟨target, target_mem, -⟩ := mem_writtenSymbols_iff.mp written
    obtain ⟨start, stop, covers⟩ := exists_covers_of_mem_preorder ordered grammatical mem
      (isInner_of_mem_targets target_mem)
    apply edgeFault?_eq_none_iff.mpr
    intro side
    cases side with
    | start => exact ⟨start, covers.start_eq⟩
    | stop => exact ⟨stop, covers.stop_eq⟩

/-- A statement in source order has both edges, and both edges of everything in it lie between them.
A scan of the statement does not break off, whatever was collected before, and adds writes of
statements in it; every one encloses the name that is written to and all names in the statement that
writes. -/
theorem covers_and_encloses (isStatement : statement.kind.role = .stmt) :
    (∃ start stop, statement.Covers start stop) ∧
      ∀ resolution, ∃ change added,
        Scanner.Settles ((Scanner.visitor resolution).visit statement) none change ∧
          (∀ before, (change before).writes = before.writes ++ added) ∧
          ∀ write ∈ added, ∃ writer ∈ statement.preorder, ∃ target ∈ writer.targets,
            target.IsNameOf resolution write.symbol ∧ write.Notes (writer, target) ∧
              (∀ ident, target.ident? = some ident → ident.name ≠ "" →
                write.Encloses write.position) ∧
              ∀ part ∈ writer.preorder, ∀ ident, part.ident? = some ident → ident.name ≠ "" →
                write.Encloses ident.position := by
  refine ⟨ordered.exists_covers grammatical (Kind.isInner_of_stmt isStatement),
    fun resolution => ?_⟩
  have complete := scanFault?_eq_none ordered grammatical resolution
  refine ⟨statement.preorder.foldl (Scan.after resolution),
    (Scan.collected resolution statement.preorder).writes, ?_,
    Scan.writes_foldl_after resolution statement.preorder, fun write mem => ?_⟩
  · rw [Scanner.visit_eq, ← complete]
    exact Scanner.settles_forM (Scanner.settles_record resolution) statement.preorder
  · obtain ⟨writer, writer_mem, target, target_mem, isName, notes⟩ :=
      Scan.exists_target_of_mem_writes complete mem
    obtain ⟨start, stop, covers⟩ := exists_covers_of_mem_preorder ordered grammatical writer_mem
      (isInner_of_mem_targets target_mem)
    refine ⟨writer, writer_mem, target, target_mem, isName, notes, fun ident ident_eq named => ?_,
      fun part part_mem ident ident_eq named => covers.encloses notes part_mem ident_eq named⟩
    have position_eq : ident.position = write.position := by
      simpa [ident_eq] using notes.1
    rw [← position_eq]
    exact covers.encloses notes (mem_preorder_of_mem_targets target_mem) ident_eq named

end Statement

end Node

namespace Specimen

/-- The dump of a loop that binds nothing, so that it has no assignment token, and whose body writes
to the inner `x` by `x = y`. -/
def bareLoop : List Json :=
  [.object [("node", .string "RangeStmt"), ("for_pos", .int 21), ("key", .null), ("value", .null),
    ("tok_pos", .int 0), ("tok", .string ""), ("x", name "y" 31 []),
    ("body", block 33
      [.object [("node", .string "AssignStmt"), ("lhs", .array [name "x" 35 [("use", .int 1)]]),
        ("tok_pos", .int 37), ("tok", .string "="), ("rhs", .array [name "y" 39 []])]])]]

/-- The loop. -/
def bareLoopNode : Node :=
  ((package bareLoop).nodes.find? (·.kind == .rangeStmt)).getD ⟨[], .rangeStmt, []⟩

theorem read_of_isOk {statements : List Json} (isOk : (Dump.package (document statements)).isOk) :
    Dump.package (document statements) = .ok (package statements) := by
  unfold package
  generalize Dump.package (document statements) = read at isOk ⊢
  cases read with
  | ok result => rfl
  | error fault => cases isOk

/-- The loop covers its tree, and the only write in it encloses the name behind the token. -/
theorem covers_bareLoop :
    bareLoopNode.Covers 21 54 ∧
      ∃ write, (((Scanner.visitor (package bareLoop).resolution).visit bareLoopNode).run
          .empty).outcome.1.toOption.map (fun result => result.2.writes) = some [write] ∧
        write.Encloses 35 ∧ write.Encloses 39 := by
  have read : Dump.package (document bareLoop) = .ok (package bareLoop) :=
    read_of_isOk (by decide +kernel)
  have isThere : ((package bareLoop).nodes.find? (·.kind == .rangeStmt)).isSome := by
    decide +kernel
  obtain ⟨loop, found⟩ := Option.isSome_iff_exists.mp isThere
  obtain rfl : bareLoopNode = loop := by rw [bareLoopNode, found, Option.getD_some]
  have grammatical : bareLoopNode.IsGrammatical :=
    (Dump.wellFormed_of_package read).grammatical (List.mem_of_find?_eq_some found)
  have ordered : bareLoopNode.IsSourceOrdered := by decide +kernel
  obtain ⟨⟨start, stop, covers⟩, scans⟩ :=
    Node.covers_and_encloses ordered grammatical (by decide +kernel)
  obtain ⟨change, added, settles, writes_eq, encloses⟩ := scans (package bareLoop).resolution
  have start_eq : bareLoopNode.start? = some 21 := by decide +kernel
  have stop_eq : bareLoopNode.stop? = some 54 := by decide +kernel
  obtain rfl : start = 21 := Option.some.inj (covers.start_eq.symm.trans start_eq)
  obtain rfl : stop = 54 := Option.some.inj (covers.stop_eq.symm.trans stop_eq)
  -- the visit is run once to see which write it adds
  have ran : (((Scanner.visitor (package bareLoop).resolution).visit bareLoopNode).run
      .empty).outcome.1 = .ok ((), change .empty) :=
    settles .empty []
  have collected : (((Scanner.visitor (package bareLoop).resolution).visit bareLoopNode).run
      .empty).outcome.1.toOption.map (fun result => result.2.writes) =
        some [⟨.declared 1, 35, 35, 40⟩] := by
    decide +kernel
  have added_eq : added = [⟨.declared 1, 35, 35, 40⟩] := by
    rw [ran] at collected
    simpa [Except.toOption, writes_eq, Scan.empty] using collected
  refine ⟨covers, _, collected, ?_⟩
  obtain ⟨writer, writer_mem, target, target_mem, -, -, -, names⟩ :=
    encloses ⟨.declared 1, 35, 35, 40⟩ (by simp [added_eq])
  have names_eq : ∀ other ∈ bareLoopNode.preorder, other.targets ≠ [] →
      (other.preorder.filterMap Node.ident?).map (fun ident => (ident.name, ident.position)) =
        [("x", 35), ("y", 39)] := by
    decide +kernel
  have enclosed (text : String) (position : Int) (mem : (text, position) ∈ [("x", 35), ("y", 39)])
      (named : text ≠ "") : Write.Encloses ⟨.declared 1, 35, 35, 40⟩ position := by
    rw [← names_eq writer writer_mem (List.ne_nil_of_mem target_mem)] at mem
    obtain ⟨ident, ident_mem, same⟩ := List.mem_map.mp mem
    obtain ⟨rfl, rfl⟩ := Prod.mk.inj same
    obtain ⟨part, part_mem, ident_eq⟩ := List.mem_filterMap.mp ident_mem
    exact names part part_mem ident ident_eq named
  exact ⟨enclosed "x" 35 (by simp) (by decide), enclosed "y" 39 (by simp) (by decide)⟩

end Specimen

end ShadowLint
