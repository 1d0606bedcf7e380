import ShadowLint.Proofs.Examination
import ShadowLint.Proofs.Redeclaration
import ShadowLint.Proofs.Reports

/-!
# When an analysis comes to its end

An analysis breaks off where it needs an edge that a node lacks.  In a package that was read, this
happens in three situations exactly, all of them with empty lists.
-/

namespace ShadowLint

theorem NodeClass.isSpanned_expr : Grammar.expr.isSpanned := by decide

/-- Of the parts of declarations, only those that declare variables may lack an edge. -/
theorem Kind.isSpanned_of_spec {kind : Kind} (accepts : (NodeClass.any .spec).accepts kind)
    (different : kind ≠ .valueSpec) : kind.isSpanned := by
  revert accepts different
  cases kind <;> decide

namespace Node

variable {node : Node}

theorem edgeFault?_eq_none (grammatical : node.IsGrammatical) (spanned : node.kind.isSpanned) :
    node.edgeFault? = none :=
  edgeFault?_eq_none_iff.mpr (exists_edgePosition grammatical spanned)

theorem edgeFault?_eq_none_of_accepts {part : Node} {field : String} {accepted : NodeClass}
    (grammatical : node.IsGrammatical) (mem : part ∈ node.nodes field)
    (spanned : accepted.isSpanned) (accepts : accepted.accepts part.kind) :
    part.edgeFault? = none := by
  apply edgeFault?_eq_none (grammatical.of_mem_children (mem_children_of_mem_nodes mem))
  exact NodeClass.isSpanned_of_accepts spanned accepts

/-- The binders of loops always have positions. -/
theorem binderFault?_eq_none (grammatical : node.IsGrammatical) : node.binderFault? = none := by
  refine List.findSome?_eq_none_iff.mpr fun binder mem => ?_
  replace mem := (List.mem_filter.mp mem).1
  unfold rangeBinders at mem
  split at mem
  · rename_i binds
    have key_type : node.kind.fieldType? "key" = some (.optional Grammar.expr) := by
      rw [binds.1]
      decide
    have value_type : node.kind.fieldType? "value" = some (.optional Grammar.expr) := by
      rw [binds.1]
      decide
    have faultless : binder.edgeFault? = none := by
      rcases List.mem_append.mp mem with mem | mem
      · exact edgeFault?_eq_none_of_accepts grammatical mem NodeClass.isSpanned_expr
          (grammatical.conforms.accepts_of_optional key_type mem)
      · exact edgeFault?_eq_none_of_accepts grammatical mem NodeClass.isSpanned_expr
          (grammatical.conforms.accepts_of_optional value_type mem)
    exact (Option.or_eq_none_iff.mp faultless).1
  · cases mem

/-- Where the outermost node of a list gives the edge, none is missing exactly if the list holds
something. -/
theorem missingEdge?_eq_none_iff_of_outermost {side : Side} {field : String}
    {accepted : NodeClass} (grammatical : node.IsGrammatical)
    (anchors : node.kind.anchors side = [side.outermost field])
    (type : node.kind.fieldType? field = some (.nodes accepted)) (spanned : accepted.isSpanned) :
    node.missingEdge? side = none ↔ node.nodes field ≠ [] := by
  rw [missingEdge?_eq_none_iff, ← Option.ne_none_iff_exists', Ne,
    edgePosition?_eq_none_iff grammatical anchors type spanned]

section Assignment

variable (grammatical : node.IsGrammatical) (assigns : node.kind = .assignStmt)
include grammatical assigns

/-- An assignment starts with its targets and stops with its values. -/
theorem missingEdge?_eq_none_iff_of_assignStmt :
    (node.missingEdge? .start = none ↔ node.nodes "lhs" ≠ []) ∧
      (node.missingEdge? .stop = none ↔ node.nodes "rhs" ≠ []) := by
  constructor
  · exact missingEdge?_eq_none_iff_of_outermost grammatical (assigns ▸ rfl) (assigns ▸ rfl)
      NodeClass.isSpanned_expr
  · exact missingEdge?_eq_none_iff_of_outermost grammatical (assigns ▸ rfl) (assigns ▸ rfl)
      NodeClass.isSpanned_expr

theorem targetFault?_eq_none_of_assignStmt {target : Node} (mem : target ∈ node.nodes "lhs") :
    target.edgeFault? = none := by
  have type : node.kind.fieldType? "lhs" = some (.nodes Grammar.expr) := by rw [assigns]; decide
  exact edgeFault?_eq_none_of_accepts grammatical mem NodeClass.isSpanned_expr
    (grammatical.conforms.accepts_of_nodes type mem)

end Assignment

theorem missingStart?_eq_none_iff_of_valueSpec (grammatical : node.IsGrammatical)
    (declares : node.kind = .valueSpec) :
    node.missingEdge? .start = none ↔ node.nodes "names" ≠ [] := by
  have type : node.kind.fieldType? "names" = some (.nodes (.only .ident)) := declares ▸ rfl
  exact missingEdge?_eq_none_iff_of_outermost grammatical (declares ▸ rfl) type (by decide)

/-- An assignment without values that writes to a symbol. -/
def WritesWithoutValues (resolution : Resolution) (node : Node) : Prop :=
  node.kind = .assignStmt ∧ node.nodes "rhs" = [] ∧
    ∃ target ∈ node.nodes "lhs", ∃ ident symbol, target.ident? = some ident ∧
      resolution.usedAt? ident.place = some symbol

/-- A short declaration without targets that has no values either, or is the head of a counted
loop. -/
def DeclaresNothing (package : Package) (node : Node) : Prop :=
  (node.kind = .assignStmt ∧ node.text "tok" = ":=") ∧ node.nodes "lhs" = [] ∧
    (node.nodes "rhs" = [] ∨ node.IsLoopHead package)

/-- A part without names and values, behind plain parts only. -/
def HasEmptySpec (specs : List Node) : Prop :=
  ∃ before spec after, specs = before ++ spec :: after ∧ spec.kind = .valueSpec ∧
    spec.nodes "names" = [] ∧ spec.nodes "values" = [] ∧ ∀ earlier ∈ before, earlier.IsPlainSpec

theorem hasEmptySpec_cons_iff {spec : Node} {rest : List Node} :
    HasEmptySpec (spec :: rest) ↔
      (spec.kind = .valueSpec ∧ spec.nodes "names" = [] ∧ spec.nodes "values" = []) ∨
        (spec.IsPlainSpec ∧ HasEmptySpec rest) := by
  constructor
  · rintro ⟨before, found, after, specs_eq, kind_eq, names, values, plain⟩
    cases before with
    | nil =>
        obtain ⟨rfl, -⟩ := List.cons.inj specs_eq
        exact .inl ⟨kind_eq, names, values⟩
    | cons first others =>
        obtain ⟨rfl, rest_eq⟩ := List.cons.inj specs_eq
        obtain ⟨first_plain, others_plain⟩ := List.forall_mem_cons.mp plain
        exact .inr ⟨first_plain, others, found, after, rest_eq, kind_eq, names, values,
          others_plain⟩
  · rintro (⟨kind_eq, names, values⟩ | ⟨plain, before, found, after, rfl, found_eq⟩)
    · exact ⟨[], spec, rest, rfl, kind_eq, names, values, by simp⟩
    · obtain ⟨kind_eq, names, values, others_plain⟩ := found_eq
      exact ⟨spec :: before, found, after, rfl, kind_eq, names, values,
        List.forall_mem_cons.mpr ⟨plain, others_plain⟩⟩

/-- A declaration of variables with a part without names and values that is reached. -/
def ReachesEmptySpec (node : Node) : Prop :=
  (node.kind = .genDecl ∧ node.text "tok" = "var") ∧ HasEmptySpec (node.nodes "specs")

/-- Of the statements that write, only assignments without values may lack an edge. -/
theorem writeFault?_eq_none_iff (grammatical : node.IsGrammatical) (resolution : Resolution) :
    node.writeFault? resolution = none ↔ ¬node.WritesWithoutValues resolution := by
  unfold writeFault?
  split
  · rename_i unwritten
    refine iff_of_true rfl ?_
    rintro ⟨assigns, -, target, mem, ident, symbol, ident_eq, uses⟩
    have written : (ident, symbol) ∈ node.writtenSymbols resolution :=
      mem_writtenSymbols_iff.mpr ⟨target, mem_targets_iff.mpr (.inl ⟨assigns, mem⟩), ident_eq, uses⟩
    simp [unwritten] at written
  · rename_i written
    obtain ⟨⟨ident, symbol⟩, written_mem⟩ := List.exists_mem_of_ne_nil _ written
    obtain ⟨target, target_mem, ident_eq, uses⟩ := mem_writtenSymbols_iff.mp written_mem
    rcases mem_targets_iff.mp target_mem with ⟨assigns, mem⟩ | ⟨increments, -⟩
    · obtain ⟨start_iff, stop_iff⟩ :=
        missingEdge?_eq_none_iff_of_assignStmt grammatical assigns
      rw [edgeFault?, Option.or_eq_none_iff, start_iff, stop_iff]
      constructor
      · rintro ⟨-, values⟩ ⟨-, noValues, -⟩
        exact values noValues
      · intro complete
        exact ⟨List.ne_nil_of_mem mem, fun noValues =>
          complete ⟨assigns, noValues, target, mem, ident, symbol, ident_eq, uses⟩⟩
    · refine iff_of_true (edgeFault?_eq_none grammatical (by rw [increments]; rfl)) ?_
      rintro ⟨assigns, -⟩
      simp [increments] at assigns

end Node

namespace Examination

theorem fault?_exempt_eq_none_iff {reason : Exemption} {node : Node} :
    (exempt reason node).ending.fault? = none ↔ node.missingEdge? .start = none := by
  unfold exempt Node.start? Node.missingEdge?
  cases node.edgePosition? .start <;> simp [endingWith, Ending.fault?]

theorem fault?_ofTargets_eq_none {evidence : Evidence} {targets : List Node}
    (spanned : ∀ target ∈ targets, target.edgeFault? = none) :
    (ofTargets evidence targets).ending.fault? = none := by
  induction targets with
  | nil => rfl
  | cons target rest ih =>
      rw [ofTargets]
      split
      · exact spanned target (.head _)
      · exact ih fun other mem => spanned other (.tail _ mem)

end Examination

namespace Package

variable {package : Package}

/-- The examination of a short declaration needs a missing edge only if nothing is declared. -/
theorem fault?_ofShort_eq_none_iff (wellFormed : package.WellFormed) {statement : Node}
    (mem : statement ∈ package.nodes)
    (short : statement.kind = .assignStmt ∧ statement.text "tok" = ":=") :
    (Examination.ofShort package.evidence statement).ending.fault? = none ↔
      ¬statement.DeclaresNothing package := by
  have grammatical := wellFormed.grammatical mem
  have start_iff := (Node.missingEdge?_eq_none_iff_of_assignStmt grammatical short.1).1
  have targets_spanned (target : Node) (target_mem : target ∈ statement.nodes "lhs") :=
    Node.targetFault?_eq_none_of_assignStmt grammatical short.1 target_mem
  unfold Examination.ofShort
  split
  · rename_i fault malformed
    obtain ⟨-, odd, odd_eq, rfl⟩ := Redeclaration.isDeliberateShort_eq_error_iff.mp malformed
    have odd_mem : odd ∈ statement.nodes "lhs" := List.mem_of_find?_eq_some odd_eq
    refine iff_of_true (targets_spanned odd odd_mem) ?_
    rintro ⟨-, empty, -⟩
    simp [empty] at odd_mem
  · rename_i deliberate
    have copy := Redeclaration.isDeliberateShort_eq_true_iff.mp deliberate
    rw [Examination.fault?_exempt_eq_none_iff, start_iff, not_iff_not]
    constructor
    · intro empty
      rw [Node.IsCopy, empty, List.forall₂_nil_left_iff] at copy
      exact ⟨short, empty, .inl copy⟩
    · rintro ⟨-, empty, -⟩
      exact empty
  · rename_i checked
    obtain ⟨copy, -⟩ := Redeclaration.isDeliberateShort_eq_false_iff.mp checked
    have loops_iff :=
      Redeclaration.isLoopVariable_iff wellFormed mem (Node.isShortDeclaration_iff.mpr short)
    split
    · rename_i loops
      rw [Examination.fault?_exempt_eq_none_iff, start_iff, not_iff_not]
      constructor
      · intro empty
        -- Without targets there is no name that a loop over a collection could bind.
        rcases loops_iff.mp loops with head | ⟨target, target_mem, -⟩
        · exact ⟨short, empty, .inr head⟩
        · simp [empty] at target_mem
      · rintro ⟨-, empty, -⟩
        exact empty
    · rename_i loops
      refine iff_of_true (Examination.fault?_ofTargets_eq_none targets_spanned) ?_
      rintro ⟨-, empty, noValues | head⟩
      · rw [Node.IsCopy, empty, noValues] at copy
        exact copy .nil
      · exact loops (loops_iff.mpr (.inl head))

/-- The examination of the parts of a declaration of variables needs a missing edge only at a part
without names and values. -/
theorem fault?_ofSpecs_eq_none_iff {specs : List Node}
    (grammatical : ∀ spec ∈ specs, spec.IsGrammatical)
    (accepted : ∀ spec ∈ specs, (NodeClass.any .spec).accepts spec.kind) :
    (Examination.ofSpecs package.evidence specs).ending.fault? = none ↔
      ¬Node.HasEmptySpec specs := by
  induction specs with
  | nil => simp [Examination.ofSpecs, Examination.endingWith, Ending.fault?, Node.HasEmptySpec]
  | cons spec rest ih =>
      obtain ⟨spec_grammatical, rest_grammatical⟩ := List.forall_mem_cons.mp grammatical
      obtain ⟨spec_accepted, rest_accepted⟩ := List.forall_mem_cons.mp accepted
      rw [Examination.ofSpecs, Node.hasEmptySpec_cons_iff]
      by_cases kind_eq : spec.kind = .valueSpec
      · rw [if_neg (not_not_intro kind_eq)]
        have start_iff :=
          Node.missingStart?_eq_none_iff_of_valueSpec spec_grammatical kind_eq
        by_cases copies : spec.IsVarCopy
        · rw [if_pos (Redeclaration.isDeliberateVar_iff.mpr copies),
            Examination.fault?_exempt_eq_none_iff, start_iff, not_iff_not]
          constructor
          · intro names
            rw [Node.IsVarCopy, names, List.forall₂_nil_left_iff] at copies
            exact .inl ⟨kind_eq, names, copies⟩
          · rintro (⟨-, names, -⟩ | ⟨⟨-, differs⟩, -⟩)
            · exact names
            · exact absurd copies differs
        · rw [if_neg (mt Redeclaration.isDeliberateVar_iff.mp copies)]
          refine (ih rest_grammatical rest_accepted).trans (not_congr ?_)
          constructor
          · intro empty
            exact .inr ⟨⟨kind_eq, copies⟩, empty⟩
          · rintro (⟨-, names, values⟩ | ⟨-, empty⟩)
            · rw [Node.IsVarCopy, names, values] at copies
              exact absurd .nil copies
            · exact empty
      · rw [if_pos kind_eq]
        refine iff_of_true (Node.edgeFault?_eq_none spec_grammatical
          (Kind.isSpanned_of_spec spec_accepted kind_eq)) ?_
        rintro (⟨valueSpec, -⟩ | ⟨⟨valueSpec, -⟩, -⟩)
        · exact kind_eq valueSpec
        · exact kind_eq valueSpec

/-- Some node of the package needs an edge that is missing: an assignment without values writes to a
symbol, a short declaration declares nothing, or a declaration of variables reaches a part without
names and values. -/
def LacksEdge (package : Package) : Prop :=
  ∃ node ∈ package.nodes, node.WritesWithoutValues package.resolution ∨
    node.DeclaresNothing package ∨ node.ReachesEmptySpec

theorem scanFault?_eq_none_iff (wellFormed : package.WellFormed) :
    package.scanFault? = none ↔
      ∀ node ∈ package.nodes, ¬node.WritesWithoutValues package.resolution := by
  rw [scanFault?, Scan.fault?, List.findSome?_eq_none_iff]
  refine forall₂_congr fun node mem => ?_
  have grammatical := wellFormed.grammatical mem
  rw [Node.binderFault?_eq_none grammatical, Option.none_or,
    Node.writeFault?_eq_none_iff grammatical]

theorem examinationFault?_eq_none_iff (wellFormed : package.WellFormed) :
    package.examinations.findSome? (·.ending.fault?) = none ↔
      ∀ node ∈ package.nodes, ¬node.DeclaresNothing package ∧ ¬node.ReachesEmptySpec := by
  have declarations_iff : package.examinations.findSome? (·.ending.fault?) = none ↔
      ∀ node ∈ package.nodes, ∀ declaration ∈ node.declaration?,
        (Examination.ofDeclaration package.evidence declaration).ending.fault? = none := by
    simp only [List.findSome?_eq_none_iff, examinations, List.forall_mem_map, evidence,
      Scan.collected, List.mem_filterMap, Option.mem_def]
    constructor
    · intro all node mem declaration found
      exact all declaration ⟨node, mem, found⟩
    · rintro all declaration ⟨node, mem, found⟩
      exact all node mem declaration found
  rw [declarations_iff]
  refine forall₂_congr fun node mem => ?_
  have grammatical := wellFormed.grammatical mem
  unfold Node.declaration?
  split
  · rename_i declares
    have short := Node.isShortDeclaration_iff.mp declares
    have group : ¬node.ReachesEmptySpec := by
      rintro ⟨⟨kind_eq, -⟩, -⟩
      simp [short.1] at kind_eq
    simp only [Option.mem_def, Option.some.injEq, forall_eq', group, not_false_iff, and_true]
    exact fault?_ofShort_eq_none_iff wellFormed mem short
  · rename_i declares
    have nothing : ¬node.DeclaresNothing package := by
      rintro ⟨short, -⟩
      exact declares (Node.isShortDeclaration_iff.mpr short)
    split
    · rename_i declaresVar
      have var : node.kind = .genDecl ∧ node.text "tok" = "var" := declaresVar
      have type : node.kind.fieldType? "specs" = some (.nodes (.any .spec)) := by
        rw [var.1]
        decide
      simp only [Option.mem_def, Option.some.injEq, forall_eq', nothing, not_false_iff, true_and]
      rw [Node.ReachesEmptySpec, and_iff_right var]
      refine fault?_ofSpecs_eq_none_iff (fun spec spec_mem => ?_) fun spec spec_mem => ?_
      · exact grammatical.of_mem_children (Node.mem_children_of_mem_nodes spec_mem)
      · exact grammatical.conforms.accepts_of_nodes type spec_mem
    · rename_i other
      have group : ¬node.ReachesEmptySpec := by
        rintro ⟨var, -⟩
        exact other var
      simp [nothing, group]

/-- The analysis of a well-formed package comes to its end exactly if no node lacks an edge. -/
theorem fault?_eq_none_iff (wellFormed : package.WellFormed) :
    package.fault? = none ↔ ¬package.LacksEdge := by
  rw [fault?, Option.or_eq_none_iff, scanFault?_eq_none_iff wellFormed,
    examinationFault?_eq_none_iff wellFormed]
  simp only [LacksEdge, not_exists, not_and, not_or]
  constructor
  · rintro ⟨writes, rest⟩ node mem
    exact ⟨writes node mem, rest node mem⟩
  · intro all
    exact ⟨fun node mem => (all node mem).1, fun node mem => (all node mem).2⟩

/-- The analysis of a package that was read breaks off exactly if some node lacks an edge that is
needed, and otherwise it has a report. -/
theorem analyze_breaks_off_iff {document : Json} {package : Package}
    (read : Dump.package document = .ok package) (config : Config) :
    ((∃ fault, (package.analyze config).outcome.1 = .error fault) ↔ package.LacksEdge) ∧
      ((∃ report, (package.analyze config).outcome.1 = .ok report) ↔ ¬package.LacksEdge) := by
  have complete_iff := fault?_eq_none_iff (Dump.wellFormed_of_package read)
  have outcome_eq := (package.settles_analyze config).outcome_eq
  cases fault_eq : package.fault? with
  | none =>
      rw [fault_eq, Option.elim_none] at outcome_eq
      simp [outcome_eq, complete_iff.mp fault_eq]
  | some fault =>
      rw [fault_eq, Option.elim_some] at outcome_eq
      have lacks : package.LacksEdge := by
        by_contra complete
        simp [complete_iff.mpr complete] at fault_eq
      simp [outcome_eq, lacks]

end Package

namespace Specimen

/-- A short declaration without targets and values. -/
def emptyDeclaration : List Json := [assignment ":=" [] []]

/-- The analysis of a short declaration without targets and values breaks off, that of one with an
unread write has a report. -/
theorem lacksEdge_emptyDeclaration :
    (package emptyDeclaration).LacksEdge ∧ ¬(package unreadWrite).LacksEdge := by
  have broken_read : Dump.package (document emptyDeclaration) = .ok (package emptyDeclaration) :=
    rfl
  have broken_fault : (package emptyDeclaration).fault? = some ⟨.assignStmt⟩ := by decide +kernel
  have whole_read : Dump.package (document unreadWrite) = .ok (package unreadWrite) := rfl
  have whole_fault : (package unreadWrite).fault? = none := by decide +kernel
  constructor
  · have settles := (package emptyDeclaration).settles_analyze ⟨false⟩
    exact (Package.analyze_breaks_off_iff broken_read ⟨false⟩).1.mp
      ⟨⟨.assignStmt⟩, settles.outcome_eq_error_iff.mpr broken_fault⟩
  · have settles := (package unreadWrite).settles_analyze ⟨false⟩
    exact (Package.analyze_breaks_off_iff whole_read ⟨false⟩).2.mp
      ⟨_, settles.outcome_eq_ok_iff.mpr ⟨whole_fault, rfl⟩⟩

end Specimen
end ShadowLint
