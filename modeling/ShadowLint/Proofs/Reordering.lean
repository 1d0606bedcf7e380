import Mathlib.Data.List.Sort
import ShadowLint.Proofs.Dump.Resolution
import ShadowLint.Proofs.Examination
import ShadowLint.Proofs.LaterUse
import ShadowLint.Proofs.Redeclaration

/-!
# The order of files and names

The trees of a package may be walked in any order, and so may its resolved names: every declaration
is examined with the same outcome, so the analysis breaks off or not, and it finds the same things
up to their order.
-/

namespace ShadowLint

namespace Resolution

/-- The occurrences of names are the same up to their order. -/
structure IsReordering (resolution other : Resolution) : Prop where
  /-- The declarations are the same. -/
  definitions : resolution.definitions.Perm other.definitions
  /-- The uses are the same. -/
  uses : resolution.uses.Perm other.uses

/-- At a place stands at most one of the occurrences, and it is found in any order. -/
theorem find?_eq_of_perm {Content : Type} {entries others : List (Ident × Content)}
    (perm : entries.Perm others) (apart : (entries.map (·.1.place)).Nodup) (place : Place) :
    entries.find? (·.1.place == place) = others.find? (·.1.place == place) := by
  induction perm with
  | nil => rfl
  | cons entry _ ih =>
      rw [List.map_cons, List.nodup_cons] at apart
      rw [List.find?_cons, List.find?_cons, ih apart.2]
  | swap first second rest =>
      have differ : second.1.place ≠ first.1.place := fun same => by simp [same] at apart
      simp only [List.find?_cons]
      by_cases here : first.1.place = place
      · have elsewhere : (second.1.place == place) = false := by
          simpa using here ▸ differ
        simp [here, elsewhere]
      · have elsewhere : (first.1.place == place) = false := by simpa using here
        simp [elsewhere]
  | trans first _ first_eq second_eq =>
      exact (first_eq apart).trans (second_eq ((first.map _).nodup_iff.mp apart))

variable {resolution other : Resolution}

theorem IsReordering.usesOf_eq (reordered : resolution.IsReordering other) (symbol : SymbolId) :
    (UseTable.ofResolution resolution).usesOf symbol =
      (UseTable.ofResolution other).usesOf symbol := by
  apply UseTable.pairwise_usesOf_ofResolution.eq_of_mem_iff UseTable.pairwise_usesOf_ofResolution
  intro position
  simp only [UseTable.mem_usesOf_ofResolution, reordered.uses.mem_iff]

end Resolution

namespace Examination

variable {left right : Evidence} (verdicts : ∀ ident, left.verdict ident = right.verdict ident)
include verdicts

theorem after_congr (idents : List Ident) (rest : Examination) :
    after left idents rest = after right idents rest := by
  simp only [after, verdicts]

theorem ofTargets_congr (targets : List Node) :
    ofTargets left targets = ofTargets right targets := by
  induction targets with
  | nil => rfl
  | cons target rest ih => simp only [ofTargets, ih, after_congr verdicts]

theorem ofSpecs_congr (specs : List Node) : ofSpecs left specs = ofSpecs right specs := by
  induction specs with
  | nil => rfl
  | cons spec rest ih => simp only [ofSpecs, ih, after_congr verdicts]

/-- An examination depends on the verdicts on names and on the variables of loops alone. -/
theorem ofDeclaration_congr
    (loops : ∀ statement, Redeclaration.isLoopVariable left.scan statement =
      Redeclaration.isLoopVariable right.scan statement)
    (declaration : Declaration) :
    ofDeclaration left declaration = ofDeclaration right declaration := by
  cases declaration with
  | short statement => simp only [ofDeclaration, ofShort, loops, ofTargets_congr verdicts]
  | var declaration => exact ofSpecs_congr verdicts _

end Examination

namespace Package

/-- The other package has the same files, types, scopes and symbols, and the same trees and resolved
names up to their order. -/
structure IsReordering (package other : Package) : Prop where
  /-- The path is the same. -/
  path : other.path = package.path
  /-- The files are the same. -/
  space : other.space = package.space
  /-- The types are the same. -/
  types : other.types = package.types
  /-- The scopes and symbols are the same. -/
  forest : other.forest = package.forest
  /-- The trees are the same up to their order. -/
  trees : package.trees.Perm other.trees
  /-- The resolved names are the same up to their order. -/
  resolution : package.resolution.IsReordering other.resolution

/-- No two of the declared names are at one place, and no two of the used ones are. -/
structure ResolvesOnce (package : Package) : Prop where
  /-- The declared names stand apart. -/
  definitions : (package.resolution.definitions.map (·.1.place)).Nodup
  /-- The used names stand apart. -/
  uses : (package.resolution.uses.map (·.1.place)).Nodup

theorem resolvesOnce_of_package {document : Json} {package : Package}
    (distinct : document.hasDistinctNames) (read : Dump.package document = .ok package) :
    package.ResolvesOnce := by
  obtain ⟨defined, used⟩ := Dump.occurOnce_of_package distinct read
  have defined_distinct := defined.distinct
  have used_distinct := used.distinct
  rw [List.map_map] at defined_distinct used_distinct
  exact ⟨defined_distinct, used_distinct⟩

namespace IsReordering

variable {package other : Package} (reordered : package.IsReordering other)
  (once : package.ResolvesOnce)
include reordered

theorem nodes_perm : package.nodes.Perm other.nodes :=
  reordered.trees.flatMap_right _

theorem loopInits_contains (place : Place) :
    package.evidence.scan.loopInits.contains place =
      other.evidence.scan.loopInits.contains place := by
  have perm := (reordered.nodes_perm.filterMap Node.loopInit?).map Node.place
  rw [Bool.eq_iff_iff, List.contains_iff_mem, List.contains_iff_mem]
  simp only [evidence, Scan.collected, List.mem_eraseDups, perm.mem_iff]

theorem rangeBinders_contains (position : Int) :
    package.evidence.scan.rangeBinders.contains position =
      other.evidence.scan.rangeBinders.contains position := by
  have perm := reordered.nodes_perm.flatMap_right Node.rangeBinderPositions
  rw [Bool.eq_iff_iff, List.contains_iff_mem, List.contains_iff_mem]
  simp only [evidence, Scan.collected, List.mem_eraseDups, perm.mem_iff]

theorem isLoopVariable_eq (statement : Node) :
    Redeclaration.isLoopVariable package.evidence.scan statement =
      Redeclaration.isLoopVariable other.evidence.scan statement := by
  simp only [Redeclaration.isLoopVariable, reordered.loopInits_contains,
    reordered.rangeBinders_contains]

include once

theorem declaredAt?_eq (place : Place) :
    package.resolution.declaredAt? place = other.resolution.declaredAt? place := by
  rw [Resolution.declaredAt?, Resolution.declaredAt?,
    Resolution.find?_eq_of_perm reordered.resolution.definitions once.definitions]

theorem usedAt?_eq (place : Place) :
    package.resolution.usedAt? place = other.resolution.usedAt? place := by
  rw [Resolution.usedAt?, Resolution.usedAt?,
    Resolution.find?_eq_of_perm reordered.resolution.uses once.uses]

theorem writtenSymbols_eq (node : Node) :
    node.writtenSymbols package.resolution = node.writtenSymbols other.resolution := by
  have written_eq : Node.written? package.resolution = Node.written? other.resolution := by
    funext target
    simp only [Node.written?, reordered.usedAt?_eq once]
  rw [Node.writtenSymbols, Node.writtenSymbols, written_eq]

/-- The writes to a symbol are the same up to their order. -/
theorem writesTo_perm (symbol : SymbolId) :
    (package.evidence.scan.writesTo symbol).Perm (other.evidence.scan.writesTo symbol) := by
  have writes_eq : Node.writesOrNowhere package.resolution =
      Node.writesOrNowhere other.resolution := by
    funext node
    rw [Node.writesOrNowhere, Node.writesOrNowhere, reordered.writtenSymbols_eq once]
  apply List.Perm.filter
  simp only [evidence, Scan.collected, ← List.flatMap_def, writes_eq]
  exact reordered.nodes_perm.flatMap_right _

theorem isConsumed_eq (symbol : SymbolId) (position : Int) :
    package.evidence.isConsumed symbol position = other.evidence.isConsumed symbol position := by
  have uses_eq : package.evidence.usage.usesOf symbol = other.evidence.usage.usesOf symbol :=
    reordered.resolution.usesOf_eq symbol
  rw [Evidence.isConsumed, Evidence.isConsumed, Suppression.allRead, Suppression.allRead, uses_eq,
    (reordered.writesTo_perm once symbol).any_eq]

omit once in
theorem isUsedLater_eq (symbol : SymbolId) (position : Int) :
    package.evidence.isUsedLater symbol position = other.evidence.isUsedLater symbol position := by
  have uses_eq : package.evidence.usage.usesOf symbol = other.evidence.usage.usesOf symbol :=
    reordered.resolution.usesOf_eq symbol
  have lines_eq : package.evidence.lineOf = other.evidence.lineOf := by
    funext position
    simp only [Evidence.lineOf, evidence, reordered.space]
  rw [Evidence.isUsedLater, Evidence.isUsedLater, uses_eq, lines_eq]

/-- Every name has the same verdict. -/
theorem verdict_eq (ident : Ident) :
    package.evidence.verdict ident = other.evidence.verdict ident := by
  have declared_eq : package.evidence.declared? ident = other.evidence.declared? ident := by
    simp only [Evidence.declared?, evidence, reordered.declaredAt?_eq once, reordered.forest]
  have hidden_eq (symbol : SymbolId) :
      package.evidence.hidden? symbol = other.evidence.hidden? symbol := by
    simp only [Evidence.hidden?, evidence, reordered.forest]
  simp only [Evidence.verdict, declared_eq, hidden_eq, reordered.isConsumed_eq once,
    reordered.isUsedLater_eq]

/-- Every declaration is examined with the same outcome. -/
theorem ofDeclaration_eq (declaration : Declaration) :
    Examination.ofDeclaration package.evidence declaration =
      Examination.ofDeclaration other.evidence declaration :=
  Examination.ofDeclaration_congr (reordered.verdict_eq once) reordered.isLoopVariable_eq
    declaration

theorem examinations_perm : package.examinations.Perm other.examinations := by
  have same : Examination.ofDeclaration package.evidence =
      Examination.ofDeclaration other.evidence :=
    funext (reordered.ofDeclaration_eq once)
  rw [examinations, examinations, same]
  exact (reordered.nodes_perm.filterMap _).map _

theorem scanFault?_eq_none_iff_of_reordering :
    package.scanFault? = none ↔ other.scanFault? = none := by
  simp only [scanFault?, Scan.fault?, Node.writeFault?, reordered.writtenSymbols_eq once,
    List.findSome?_eq_none_iff, reordered.nodes_perm.mem_iff]

/-- The analysis breaks off in both orders or in none. -/
theorem fault?_eq_none_iff_of_reordering : package.fault? = none ↔ other.fault? = none := by
  simp only [fault?, Option.or_eq_none_iff, List.findSome?_eq_none_iff,
    reordered.scanFault?_eq_none_iff_of_reordering once,
    (reordered.examinations_perm once).mem_iff]

/-- The same things are reported up to their order. -/
theorem reports_perm :
    (package.examinations.flatMap (Examination.reports package.space)).Perm
      (other.examinations.flatMap (Examination.reports other.space)) := by
  rw [reordered.space]
  exact (reordered.examinations_perm once).flatMap_right _

end IsReordering

theorem exists_error_iff (package : Package) {config : Config} :
    (∃ fault, (package.analyze config).outcome.1 = .error fault) ↔ package.fault? ≠ none := by
  rw [Option.ne_none_iff_exists']
  exact exists_congr fun fault => (package.settles_analyze config).outcome_eq_error_iff

/-- Two packages that differ in the order of their trees and resolved names are analysed alike.  The
analysis breaks off for both or for none; it finds something at the same positions; and if no two
reports are made at one position, it finds the same things up to their order. -/
theorem analyze_reordering {document : Json} {package other : Package} (config : Config)
    (distinct : document.hasDistinctNames) (read : Dump.package document = .ok package)
    (reordered : package.IsReordering other) :
    ((∃ fault, (package.analyze config).outcome.1 = .error fault) ↔
        ∃ fault, (other.analyze config).outcome.1 = .error fault) ∧
      ∀ report otherReport, (package.analyze config).outcome.1 = .ok report →
        (other.analyze config).outcome.1 = .ok otherReport →
        (∀ position, (∃ diagnostic ∈ report.diagnostics, diagnostic.start = position) ↔
            ∃ diagnostic ∈ otherReport.diagnostics, diagnostic.start = position) ∧
          ((package.examinations.flatMap (Examination.reports package.space)).Pairwise
              (·.start ≠ ·.start) →
            report.diagnostics.Perm otherReport.diagnostics) := by
  have once := resolvesOnce_of_package distinct read
  have reports_perm := reordered.reports_perm once
  constructor
  · rw [package.exists_error_iff, other.exists_error_iff]
    exact not_congr (reordered.fault?_eq_none_iff_of_reordering once)
  · intro report otherReport analyzed other_analyzed
    obtain ⟨-, rfl⟩ := (package.settles_analyze config).outcome_eq_ok_iff.mp analyzed
    obtain ⟨-, rfl⟩ := (other.settles_analyze config).outcome_eq_ok_iff.mp other_analyzed
    refine ⟨fun position => ?_, fun apart => ?_⟩
    · rw [finalReport, finalReport, ← Findings.covers_iff, ← Findings.covers_iff,
        Findings.covers_addAll, Findings.covers_addAll, reports_perm.any_eq]
    · have other_apart := reports_perm.pairwise apart fun differ => differ.symm
      rw [finalReport, finalReport, Findings.diagnostics_addAll_of_pairwise apart,
        Findings.diagnostics_addAll_of_pairwise other_apart]
      exact reports_perm

/-- The package with its trees and resolved names in reverse order. -/
def reversed (package : Package) : Package :=
  { package with
    trees := package.trees.reverse
    resolution := ⟨package.resolution.definitions.reverse, package.resolution.uses.reverse⟩ }

theorem isReordering_reversed (package : Package) : package.IsReordering package.reversed where
  path := rfl
  space := rfl
  types := rfl
  forest := rfl
  trees := package.trees.reverse_perm.symm
  resolution :=
    ⟨(List.reverse_perm _).symm, (List.reverse_perm _).symm⟩

end Package

namespace Specimen

/-- Two files declare an inner `x` and write to it, and the second one reads the outer `x`: both
declarations are reported, whichever file comes first. -/
theorem diagnostics_reversed :
    let package := twoFilePackage (innerWritten 1) (innerWritten 101 ++ outerRead 145)
    package.finalReport.diagnostics.map Diagnostic.start = [21, 121] ∧
      package.finalReport.diagnostics.Perm package.reversed.finalReport.diagnostics := by
  intro package
  have distinct : (twoFileDocument (innerWritten 1) (innerWritten 101 ++
      outerRead 145)).hasDistinctNames := by
    decide +kernel
  have read : Dump.package (twoFileDocument (innerWritten 1) (innerWritten 101 ++
      outerRead 145)) = .ok package := rfl
  have complete : package.fault? = none := by decide +kernel
  have reversed_complete : package.reversed.fault? = none := by decide +kernel
  have analyzed := (package.settles_analyze ⟨false⟩).outcome_eq_ok_iff.mpr ⟨complete, rfl⟩
  have reversed_analyzed :=
    (package.reversed.settles_analyze ⟨false⟩).outcome_eq_ok_iff.mpr ⟨reversed_complete, rfl⟩
  have apart : (package.examinations.flatMap (Examination.reports package.space)).Pairwise
      (·.start ≠ ·.start) := by
    decide +kernel
  have alike := Package.analyze_reordering ⟨false⟩ distinct read package.isReordering_reversed
  exact ⟨by decide +kernel, (alike.2 _ _ analyzed reversed_analyzed).2 apart⟩

end Specimen
end ShadowLint
