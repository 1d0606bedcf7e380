import ShadowLint.Proofs.Examination
import ShadowLint.Proofs.Redeclaration
import ShadowLint.Proofs.Verdict

/-!
# The reports of a package

What a package reports is said here about its trees alone: each declaration has its reports from
left to right, and the declarations follow the order of the trees.  The analysis finds the first
report at each position and nothing else.
-/

namespace ShadowLint

/-- A part of a group of variables that declares variables and does not only copy them. -/
def Node.IsPlainSpec (spec : Node) : Prop :=
  spec.kind = .valueSpec ∧ ¬spec.IsVarCopy

namespace Package

/-- What is reported about a name, if anything. -/
def nameReport? (package : Package) (ident : Ident) : Option Diagnostic :=
  (package.evidence.verdict ident).diagnostic? package.space ident

/-- What is reported about the names among some nodes. -/
def nameReports (package : Package) (nodes : List Node) : List Diagnostic :=
  (nodes.filterMap Node.ident?).filterMap package.nameReport?

/-- The report that the first target that is not a name is malformed, if there is such a target. -/
def oddReports (targets : List Node) : List Diagnostic :=
  ((Node.firstOdd? targets).map fun odd => .malformedOrNowhere ⟨odd, .targetNotIdent⟩).toList

open Classical in
/-- What a short declaration reports. -/
noncomputable def shortReports (package : Package) (statement : Node) : List Diagnostic :=
  let targets := statement.nodes "lhs"
  if statement.IsCopy then []
  else if statement.StartsAsCopy then oddReports targets
  else if statement.DeclaresLoopVariable package then []
  else package.nameReports (Node.leadingNames targets) ++ oddReports targets

open Classical in
/-- What the parts of a declaration of variables report: the first part that is not plain ends it,
and is malformed unless it declares variables. -/
noncomputable def specReports (package : Package) (specs : List Node) : List Diagnostic :=
  let plain := specs.takeWhile fun spec => spec.IsPlainSpec
  plain.flatMap (fun spec => package.nameReports (spec.nodes "names")) ++
    match specs.find? fun spec => ¬spec.IsPlainSpec with
    | none => []
    | some spec =>
        if spec.kind = .valueSpec then [] else [.malformedOrNowhere ⟨spec, .specNotVariables⟩]

/-- What a node reports. -/
noncomputable def nodeReports (package : Package) (node : Node) : List Diagnostic :=
  if node.kind = .assignStmt ∧ node.text "tok" = ":=" then package.shortReports node
  else if node.kind = .genDecl ∧ node.text "tok" = "var" then
    package.specReports (node.nodes "specs")
  else []

/-- What a package reports. -/
noncomputable def reports (package : Package) : List Diagnostic :=
  package.nodes.flatMap package.nodeReports

variable {package : Package}

theorem nameReports_cons {target : Node} {ident : Ident} (ident_eq : target.ident? = some ident)
    (rest : List Node) :
    package.nameReports (target :: rest) =
      [ident].filterMap package.nameReport? ++ package.nameReports rest := by
  rw [nameReports, List.filterMap_cons_some ident_eq, ← List.singleton_append,
    List.filterMap_append, nameReports]

theorem reports_after (idents : List Ident) (rest : Examination) :
    (Examination.after package.evidence idents rest).reports package.space =
      idents.filterMap package.nameReport? ++ rest.reports package.space :=
  Examination.reports_after ..

/-- Targets are examined up to the first one that is not a name. -/
theorem reports_ofTargets (targets : List Node) :
    (Examination.ofTargets package.evidence targets).reports package.space =
      package.nameReports (Node.leadingNames targets) ++ oddReports targets := by
  induction targets with
  | nil => rfl
  | cons target rest ih =>
      rw [Examination.ofTargets, oddReports]
      cases ident_eq : target.ident? with
      | none =>
          rw [Node.leadingNames_cons_of_none ident_eq, Node.firstOdd?_cons_of_none ident_eq]
          rfl
      | some ident =>
          rw [Node.leadingNames_cons_of_some ident_eq, Node.firstOdd?_cons_of_some ident_eq,
            nameReports_cons ident_eq, List.append_assoc, ← oddReports, ← ih]
          exact reports_after [ident] _

/-- A short declaration that is examined reports what it says. -/
theorem reports_ofShort (wellFormed : package.WellFormed) {statement : Node}
    (mem : statement ∈ package.nodes) (short : statement.isShortDeclaration) :
    (Examination.ofShort package.evidence statement).reports package.space =
      package.shortReports statement := by
  unfold Examination.ofShort shortReports
  split
  · rename_i fault malformed
    obtain ⟨starts, odd, odd_eq, rfl⟩ :=
      Redeclaration.isDeliberateShort_eq_error_iff.mp malformed
    have copy : ¬statement.IsCopy := by
      rw [← Redeclaration.isDeliberateShort_eq_true_iff, malformed]
      simp
    rw [if_neg copy, if_pos starts, oddReports, odd_eq]
    rfl
  · rename_i deliberate
    rw [if_pos (Redeclaration.isDeliberateShort_eq_true_iff.mp deliberate)]
    exact Examination.reports_exempt ..
  · rename_i checked
    obtain ⟨copy, starts⟩ := Redeclaration.isDeliberateShort_eq_false_iff.mp checked
    rw [if_neg copy, if_neg starts]
    have loops_iff := Redeclaration.isLoopVariable_iff wellFormed mem short
    by_cases loops : statement.DeclaresLoopVariable package
    · rw [if_pos (loops_iff.mpr loops), if_pos loops]
      exact Examination.reports_exempt ..
    · rw [if_neg (mt loops_iff.mp loops), if_neg loops]
      exact reports_ofTargets _

/-- A group of variables is examined up to its first part that is not plain. -/
theorem reports_ofSpecs (specs : List Node) :
    (Examination.ofSpecs package.evidence specs).reports package.space =
      package.specReports specs := by
  induction specs with
  | nil => simp [Examination.ofSpecs, specReports, Ending.reports]
  | cons spec rest ih =>
      rw [Examination.ofSpecs]
      by_cases kind_eq : spec.kind = .valueSpec
      · rw [if_neg (not_not_intro kind_eq)]
        by_cases copies : spec.IsVarCopy
        · rw [if_pos (Redeclaration.isDeliberateVar_iff.mpr copies), Examination.reports_exempt]
          simp [specReports, Node.IsPlainSpec, copies, kind_eq]
        · rw [if_neg (mt Redeclaration.isDeliberateVar_iff.mp copies), reports_after, ih]
          simp [specReports, Node.IsPlainSpec, copies, kind_eq, nameReports]
      · rw [if_pos kind_eq]
        simp [specReports, Node.IsPlainSpec, kind_eq, Ending.reports]

theorem reports_examinations (wellFormed : package.WellFormed) :
    package.examinations.flatMap (Examination.reports package.space) = package.reports := by
  have declarations_eq : package.evidence.scan.declarations =
      package.nodes.flatMap fun node => node.declaration?.toList :=
    List.filterMap_eq_flatMap_toList ..
  rw [examinations, List.flatMap_map, declarations_eq, List.flatMap_assoc, reports]
  refine List.flatMap_congr fun node mem => ?_
  unfold Node.declaration? nodeReports
  by_cases short : node.isShortDeclaration = true
  · rw [if_pos short, if_pos (Node.isShortDeclaration_iff.mp short)]
    simpa [Examination.ofDeclaration] using reports_ofShort wellFormed mem short
  · rw [if_neg short, if_neg (mt Node.isShortDeclaration_iff.mpr short), varToken]
    split
    · simpa [Examination.ofDeclaration] using reports_ofSpecs (node.nodes "specs")
    · rfl

theorem exists_of_mem_nameReports {nodes : List Node} {diagnostic : Diagnostic}
    (mem : diagnostic ∈ package.nameReports nodes) :
    ∃ ident, package.nameReport? ident = some diagnostic := by
  obtain ⟨ident, -, reported⟩ := List.mem_filterMap.mp mem
  exact ⟨ident, reported⟩

theorem exists_of_mem_oddReports {targets : List Node} {diagnostic : Diagnostic}
    (mem : diagnostic ∈ oddReports targets) :
    ∃ fault : Malformed, fault.node ∈ targets ∧ diagnostic = .malformedOrNowhere fault := by
  obtain ⟨odd, odd_eq, rfl⟩ := Option.map_eq_some_iff.mp (Option.mem_toList.mp mem)
  exact ⟨⟨odd, .targetNotIdent⟩, List.mem_of_find?_eq_some odd_eq, rfl⟩

theorem exists_of_mem_shortReports {statement : Node} {diagnostic : Diagnostic}
    (mem : diagnostic ∈ package.shortReports statement) :
    (∃ ident, package.nameReport? ident = some diagnostic) ∨
      ∃ fault : Malformed, fault.node ∈ statement.nodes "lhs" ∧
        diagnostic = .malformedOrNowhere fault := by
  rw [shortReports] at mem
  split at mem
  · cases mem
  · split at mem
    · exact .inr (exists_of_mem_oddReports mem)
    · split at mem
      · cases mem
      · exact (List.mem_append.mp mem).imp exists_of_mem_nameReports exists_of_mem_oddReports

theorem exists_of_mem_specReports {specs : List Node} {diagnostic : Diagnostic}
    (mem : diagnostic ∈ package.specReports specs) :
    (∃ ident, package.nameReport? ident = some diagnostic) ∨
      ∃ fault : Malformed, fault.node ∈ specs ∧ diagnostic = .malformedOrNowhere fault := by
  rcases List.mem_append.mp mem with named | malformed
  · obtain ⟨spec, -, named⟩ := List.mem_flatMap.mp named
    exact .inl (exists_of_mem_nameReports named)
  · split at malformed
    · cases malformed
    · rename_i spec found
      split at malformed
      · cases malformed
      · exact .inr ⟨⟨spec, .specNotVariables⟩, List.mem_of_find?_eq_some found,
          List.mem_singleton.mp malformed⟩

/-- A node reports names, and nodes of the package that are malformed. -/
theorem exists_of_mem_nodeReports {node : Node} (node_mem : node ∈ package.nodes)
    {diagnostic : Diagnostic} (mem : diagnostic ∈ package.nodeReports node) :
    (∃ ident, package.nameReport? ident = some diagnostic) ∨
      ∃ fault : Malformed, fault.node ∈ package.nodes ∧
        diagnostic = .malformedOrNowhere fault := by
  have inside {field : String} :
      (∃ fault : Malformed, fault.node ∈ node.nodes field ∧
        diagnostic = .malformedOrNowhere fault) →
      ∃ fault : Malformed, fault.node ∈ package.nodes ∧
        diagnostic = .malformedOrNowhere fault :=
    fun ⟨fault, fault_mem, same⟩ => ⟨fault, mem_nodes_of_mem_field node_mem fault_mem, same⟩
  rw [nodeReports] at mem
  split at mem
  · exact (exists_of_mem_shortReports mem).imp_right inside
  · split at mem
    · exact (exists_of_mem_specReports mem).imp_right inside
    · cases mem

/-- Every finding in a package that was read is explained: it tells what a suspicious name hides, or
that a node of the package is malformed. -/
theorem explained_of_mem_diagnostics {document : Json} {config : Config} {report : Report}
    (read : Dump.package document = .ok package)
    (analyzed : (package.analyze config).outcome.1 = .ok report) {diagnostic : Diagnostic}
    (mem : diagnostic ∈ report.diagnostics) :
    (∃ ident innerId inner outerId outer, package.IsSuspicious ident innerId inner outerId outer ∧
        diagnostic.TellsHiding package.space ident inner outer) ∨
      ∃ fault : Malformed, fault.node ∈ package.nodes ∧
        diagnostic = .malformedOrNowhere fault := by
  have wellFormed := Dump.wellFormed_of_package read
  obtain ⟨faultless, rfl⟩ := (package.settles_analyze config).outcome_eq_ok_iff.mp analyzed
  have complete : package.scanFault? = none := (Option.or_eq_none_iff.mp faultless).1
  rw [finalReport, reports_examinations wellFormed] at mem
  have reported : diagnostic ∈ package.reports :=
    (Findings.mem_addAll mem).resolve_left List.not_mem_nil
  obtain ⟨node, node_mem, reported⟩ := List.mem_flatMap.mp reported
  rcases exists_of_mem_nodeReports node_mem reported with ⟨ident, found⟩ | malformed
  · obtain ⟨inner, outer, verdict_eq, shadow_eq⟩ := Verdict.diagnostic?_eq_some_iff.mp found
    obtain ⟨innerId, outerId, suspicious⟩ :=
      (verdict_eq_shadows_iff wellFormed complete).mp verdict_eq
    exact .inl ⟨ident, innerId, inner, outerId, outer, suspicious,
      Diagnostic.eq_shadow_iff.mp shadow_eq⟩
  · exact .inr malformed

/-- There is a finding at a position exactly if something is reported there. -/
theorem exists_diagnostic_iff (wellFormed : package.WellFormed) {position : Int} :
    (∃ diagnostic ∈ package.finalReport.diagnostics, diagnostic.start = position) ↔
      ∃ diagnostic ∈ package.reports, diagnostic.start = position := by
  rw [finalReport, reports_examinations wellFormed, ← Findings.covers_iff, Findings.covers_addAll,
    Findings.covers_empty, Bool.false_or, List.any_eq_true]
  simp only [beq_iff_eq]

/-- The findings in a package that was read are the first reports at each position: they are at
different positions, they are at all positions of reports, and they keep the order of the
reports. -/
theorem diagnostics_of_analyze {document : Json} {package : Package} {config : Config}
    {report : Report} (read : Dump.package document = .ok package)
    (analyzed : (package.analyze config).outcome.1 = .ok report) :
    report.diagnostics.Pairwise (·.start ≠ ·.start) ∧
      (∀ position, (∃ diagnostic ∈ report.diagnostics, diagnostic.start = position) ↔
        ∃ diagnostic ∈ package.reports, diagnostic.start = position) ∧
      report.diagnostics = package.reports.eraseDupsBy (·.start == ·.start) := by
  obtain ⟨-, rfl⟩ := (package.settles_analyze config).outcome_eq_ok_iff.mp analyzed
  have same : package.finalReport.diagnostics =
      (Findings.empty.addAll package.reports).diagnostics := by
    rw [finalReport, reports_examinations (Dump.wellFormed_of_package read)]
  refine ⟨?_, fun position => ?_, ?_⟩
  · rw [same]
    exact Findings.pairwise_addAll .nil _
  · rw [same, ← Findings.covers_iff, Findings.covers_addAll, Findings.covers_empty, Bool.false_or,
      List.any_eq_true]
    simp only [beq_iff_eq]
  · rw [same, Findings.diagnostics_addAll_empty]

end Package

namespace Specimen

/-- Two statements declare the inner `x` at one position; then `x = y` writes to it, and `y = x`
reads the outer one. -/
def repeatedDeclaration : List Json :=
  [assignment ":=" [name "x" 21 [("def", .int 1)]] [name "y" 26 []],
    assignment ":=" [name "x" 21 [("def", .int 1)]] [name "y" 26 []],
    assignment "=" [name "x" 31 [("use", .int 1)]] [name "y" 35 []],
    assignment "=" [name "y" 41 []] [name "x" 45 [("use", .int 0)]]]

/-- Of the reports of the two declarations the first one is kept. -/
theorem diagnostics_repeatedDeclaration :
    (package repeatedDeclaration).finalReport.diagnostics.length = 1 ∧
      (package repeatedDeclaration).finalReport.diagnostics =
        (package repeatedDeclaration).reports.eraseDupsBy (·.start == ·.start) := by
  have read : Dump.package (document repeatedDeclaration) = .ok (package repeatedDeclaration) := rfl
  have complete : (package repeatedDeclaration).fault? = none := by decide +kernel
  have analyzed : ((package repeatedDeclaration).analyze ⟨false⟩).outcome.1 =
      .ok (package repeatedDeclaration).finalReport := by
    rw [((package repeatedDeclaration).settles_analyze ⟨false⟩).outcome_eq, complete,
      Option.elim_none]
  obtain ⟨-, -, kept⟩ := Package.diagnostics_of_analyze read analyzed
  exact ⟨by decide +kernel, kept⟩

end Specimen
end ShadowLint
