import ShadowLint.Proofs.Completion

/-!
# Targets that are not names

A short declaration with a target that is not a name is malformed, and there is a finding where its
first such target stands.  One kind of declaration is passed over: a declaration of a loop variable
counts as exempt, unless the pairs before its first odd target are copies and bring that target to
light.
-/

namespace ShadowLint

namespace Node

variable {statement odd : Node}

/-- The short declaration is exempt as that of a loop variable, and its pairs do not lead as far as
its first target that is not a name. -/
def IsPassedOver (package : Package) (statement : Node) : Prop :=
  statement.DeclaresLoopVariable package ∧ ¬statement.StartsAsCopy

theorem firstOdd?_eq_none_of_copies {targets values : List Node}
    (copies : List.Forall₂ Copies targets values) : firstOdd? targets = none := by
  induction copies with
  | nil => rfl
  | cons copy _ ih =>
      obtain ⟨ident, ident_eq, -⟩ := copy
      rw [firstOdd?_cons_of_some ident_eq, ih]

end Node

namespace Package

variable {package : Package} {statement odd : Node}

theorem oddReports_eq {targets : List Node} (odd_eq : Node.firstOdd? targets = some odd) :
    oddReports targets = [.malformedOrNowhere ⟨odd, .targetNotIdent⟩] := by
  rw [oddReports, odd_eq]
  rfl

theorem malformed_mem_shortReports (odd_eq : Node.firstOdd? (statement.nodes "lhs") = some odd)
    (noticed : ¬statement.IsPassedOver package) :
    .malformedOrNowhere ⟨odd, .targetNotIdent⟩ ∈ package.shortReports statement := by
  have notCopy : ¬statement.IsCopy := fun copy => by
    rw [Node.firstOdd?_eq_none_of_copies copy] at odd_eq
    cases odd_eq
  rw [shortReports, if_neg notCopy, oddReports_eq odd_eq]
  by_cases starts : statement.StartsAsCopy
  · simp [starts]
  · have noLoop : ¬statement.DeclaresLoopVariable package := fun loops => noticed ⟨loops, starts⟩
    simp [starts, noLoop]

theorem shortReports_of_isPassedOver (passed : statement.IsPassedOver package) :
    package.shortReports statement = [] := by
  simp [shortReports, passed.1, passed.2]

/-- The findings hold a diagnostic at the first odd target of a short declaration, unless the
declaration is passed over and nothing else is reported there. -/
theorem covers_firstOdd_iff {document : Json} {config : Config} {report : Report}
    (read : Dump.package document = .ok package)
    (analyzed : (package.analyze config).outcome.1 = .ok report)
    (mem : statement ∈ package.nodes)
    (short : statement.kind = .assignStmt ∧ statement.text "tok" = ":=")
    (odd_eq : Node.firstOdd? (statement.nodes "lhs") = some odd) :
    ∃ start, odd.start? = some start ∧
      ((∃ diagnostic ∈ report.diagnostics, diagnostic.start = start) ↔
        ¬statement.IsPassedOver package ∨
          ∃ other ∈ package.nodes, other ≠ statement ∧
            ∃ diagnostic ∈ package.nodeReports other, diagnostic.start = start) := by
  have wellFormed := Dump.wellFormed_of_package read
  have spanned := Node.targetFault?_eq_none_of_assignStmt (wellFormed.grammatical mem) short.1
    (List.mem_of_find?_eq_some odd_eq)
  obtain ⟨start, start_eq⟩ := Node.edgeFault?_eq_none_iff.mp spanned .start
  have own_reports : package.nodeReports statement = package.shortReports statement := if_pos short
  obtain ⟨-, rfl⟩ := (package.settles_analyze config).outcome_eq_ok_iff.mp analyzed
  refine ⟨start, start_eq, ?_⟩
  rw [exists_diagnostic_iff wellFormed, reports]
  simp only [List.mem_flatMap]
  constructor
  · rintro ⟨diagnostic, ⟨node, node_mem, reported⟩, anchored⟩
    refine or_iff_not_imp_left.mpr fun passed =>
    ⟨node, node_mem, ?_, diagnostic, reported, anchored⟩
    rintro rfl
    rw [own_reports, shortReports_of_isPassedOver (not_not.mp passed)] at reported
    cases reported
  · rintro (noticed | ⟨other, other_mem, -, diagnostic, reported, anchored⟩)
    · have reported := malformed_mem_shortReports odd_eq noticed
      refine ⟨_, ⟨statement, mem, own_reports ▸ reported⟩, ?_⟩
      simp [Diagnostic.malformedOrNowhere, Node.edgeOrNowhere, start_eq]
    · exact ⟨diagnostic, ⟨other, other_mem, reported⟩, anchored⟩

end Package

namespace Specimen

/-- A counted loop with a short declaration in its head. -/
def countedLoop (position : Int) (targets values : List Json) : Json :=
  .object [("node", .string "ForStmt"), ("for_pos", .int position),
    ("init", assignment ":=" targets values), ("cond", .null), ("post", .null),
    ("body", .object [("node", .string "BlockStmt"), ("lbrace", .int (position + 18)),
      ("stmts", .array []), ("rbrace", .int (position + 19))])]

/-- A field `q` of a variable `p`. -/
def fieldOfVariable (position : Int) : Json :=
  .object [("node", .string "SelectorExpr"), ("x", name "p" position []),
    ("sel", name "q" (position + 2) [])]

/-- Two loops declare a field: `for p.q := y` with nothing before it, and `for x, p.q := y, y`
behind a name that is not copied. -/
def loopsOverField : List Json :=
  [countedLoop 21 [fieldOfVariable 25] [name "y" 32 []],
    countedLoop 41 [name "x" 45 [], fieldOfVariable 48] [name "y" 55 [], name "y" 58 []]]

/-- The field that is declared behind no name has a finding. -/
theorem exists_diagnostic_fieldOfVariable :
    ∃ diagnostic ∈ (package loopsOverField).finalReport.diagnostics, diagnostic.start = 25 := by
  have read : Dump.package (document loopsOverField) = .ok (package loopsOverField) := rfl
  have complete : (package loopsOverField).fault? = none := by decide +kernel
  have analyzed : ((package loopsOverField).analyze ⟨false⟩).outcome.1 =
      .ok (package loopsOverField).finalReport := by
    rw [((package loopsOverField).settles_analyze ⟨false⟩).outcome_eq, complete,
      Option.elim_none]
  obtain ⟨statement, mem, kind_eq, define, sameLength, unnamed, anchored⟩ :
      ∃ statement ∈ (package loopsOverField).nodes,
        statement.kind = .assignStmt ∧ statement.text "tok" = ":=" ∧
          (statement.nodes "lhs").length = (statement.nodes "rhs").length ∧
          (Node.leadingNames (statement.nodes "lhs")).length = 0 ∧
          (Node.firstOdd? (statement.nodes "lhs")).bind Node.start? = some 25 := by
    decide +kernel
  obtain ⟨odd, odd_eq, start_eq⟩ := Option.bind_eq_some_iff.mp anchored
  have starts : statement.StartsAsCopy := by
    rw [Node.StartsAsCopy, List.eq_nil_of_length_eq_zero unnamed]
    exact ⟨sameLength, .nil⟩
  obtain ⟨start, odd_start, found_iff⟩ :=
    Package.covers_firstOdd_iff read analyzed mem ⟨kind_eq, define⟩ odd_eq
  obtain rfl : start = 25 := Option.some.inj (odd_start.symm.trans start_eq)
  exact found_iff.mpr (.inl fun passed => passed.2 starts)

/-- The field that is declared behind a name that is not copied has none. -/
theorem exists_firstOdd_without_diagnostic :
    ¬∀ (document : Json) (package : Package) (config : Config) (report : Report)
      (statement odd : Node), Dump.package document = .ok package →
      (package.analyze config).outcome.1 = .ok report → statement ∈ package.nodes →
      statement.kind = .assignStmt → statement.text "tok" = ":=" →
      Node.firstOdd? (statement.nodes "lhs") = some odd →
      ∃ diagnostic ∈ report.diagnostics, odd.start? = some diagnostic.start := by
  intro always
  have read : Dump.package (document loopsOverField) = .ok (package loopsOverField) := rfl
  have complete : (package loopsOverField).fault? = none := by decide +kernel
  have analyzed : ((package loopsOverField).analyze ⟨false⟩).outcome.1 =
      .ok (package loopsOverField).finalReport := by
    rw [((package loopsOverField).settles_analyze ⟨false⟩).outcome_eq, complete,
      Option.elim_none]
  obtain ⟨statement, mem, kind_eq, define, anchored⟩ :
      ∃ statement ∈ (package loopsOverField).nodes,
        statement.kind = .assignStmt ∧ statement.text "tok" = ":=" ∧
          (Node.firstOdd? (statement.nodes "lhs")).bind Node.start? = some 48 := by
    decide +kernel
  obtain ⟨odd, odd_eq, start_eq⟩ := Option.bind_eq_some_iff.mp anchored
  obtain ⟨diagnostic, found, odd_start⟩ :=
    always _ _ _ _ statement odd read analyzed mem kind_eq define odd_eq
  have elsewhere : ∀ diagnostic ∈ (package loopsOverField).finalReport.diagnostics,
      diagnostic.start ≠ 48 := by
    decide +kernel
  exact elsewhere diagnostic found (Option.some.inj (odd_start.symm.trans start_eq))

end Specimen
end ShadowLint
