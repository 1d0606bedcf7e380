import Mathlib.Data.List.Basic
import ShadowLint.Proofs.Findings

/-!
# What examinations add up to

An examination adds its reports to the findings, unless its ending needs an edge that is missing.
The analysis of a package therefore breaks off at the first missing edge, of the scan or else of an
examination, and otherwise its findings are the first reports at each position.
-/

namespace ShadowLint

namespace Diagnostic

/-- The diagnostic that a node is malformed, nowhere if the node has no edges. -/
def malformedOrNowhere (fault : Malformed) : Diagnostic :=
  ⟨fault.node.edgeOrNowhere .start, fault.node.edgeOrNowhere .stop, fault.malformation.message,
    .invalidTree, []⟩

theorem settles_malformed (fault : Malformed) :
    (malformed fault.node fault.malformation.message).Settles fault.node.edgeFault?
      (malformedOrNowhere fault) := by
  refine (Trace.settles_edge _ _).bind fun _ => ?_
  rw [← Option.or_none (o := fault.node.missingEdge? .stop)]
  exact (Trace.settles_edge _ _).bind fun _ => Trace.settles_pure _

end Diagnostic

namespace ExaminationStep

/-- What a step reports. -/
def report? (space : PositionSpace) : ExaminationStep → Option Diagnostic
  | exempted .. => none
  | decided ident verdict => verdict.diagnostic? space ident

end ExaminationStep

namespace Ending

/-- The fault of an ending that needs an edge and has none. -/
def fault? : Ending → Option NoEdge
  | complete => none
  | malformed fault => fault.node.edgeFault?
  | stuck fault => some fault

/-- What an ending reports. -/
def reports : Ending → List Diagnostic
  | malformed fault => [.malformedOrNowhere fault]
  | _ => []

end Ending

namespace Examination

/-- What an examination reports, in order. -/
def reports (space : PositionSpace) (examination : Examination) : List Diagnostic :=
  examination.steps.filterMap (ExaminationStep.report? space) ++ examination.ending.reports

@[simp]
theorem reports_endingWith (space : PositionSpace) (ending : Ending) :
    (endingWith ending).reports space = ending.reports := rfl

/-- An exempt node is not reported. -/
@[simp]
theorem reports_exempt (space : PositionSpace) (reason : Exemption) (node : Node) :
    (exempt reason node).reports space = [] := by
  unfold exempt
  split <;> rfl

/-- Behind some names, their reports come first. -/
@[simp]
theorem reports_after (space : PositionSpace) (evidence : Evidence) (idents : List Ident)
    (rest : Examination) :
    (after evidence idents rest).reports space =
      (idents.filterMap fun ident => (evidence.verdict ident).diagnostic? space ident) ++
        rest.reports space := by
  rw [reports, after, List.filterMap_append, List.filterMap_map, List.append_assoc]
  rfl

end Examination

namespace Findings

variable (space : PositionSpace)

theorem settles_addStep (findings : Findings) (step : ExaminationStep) :
    (findings.addStep space step).Settles none
      (findings.addAll (step.report? space).toList) := by
  cases step with
  | exempted reason position =>
      exact (Trace.settles_tell _).bind_none (Trace.settles_pure _)
  | decided ident verdict =>
      unfold addStep
      dsimp only [ExaminationStep.report?]
      cases verdict.diagnostic? space ident with
      | none =>
          split
          · exact (Trace.settles_tell _).bind_none (Trace.settles_pure _)
          · exact Trace.settles_pure _
      | some diagnostic =>
          have reported := settles_report space findings diagnostic
          split
          · exact (Trace.settles_tell _).bind_none reported
          · exact reported

theorem settles_addSteps (findings : Findings) (examination : Examination) :
    (findings.addSteps space examination).Settles none
      (findings.addAll (examination.steps.filterMap (ExaminationStep.report? space))) := by
  have settles := Trace.settles_foldlM (settles_addStep space) examination.steps findings
  rwa [List.findSome?_eq_none_iff.mpr fun _ _ => rfl, foldl_addAll,
    ← List.filterMap_eq_flatMap_toList] at settles

/-- An examination adds its reports, unless its ending breaks off. -/
theorem settles_addExamination (findings : Findings) (examination : Examination) :
    (findings.addExamination space examination).Settles examination.ending.fault?
      (findings.addAll (examination.reports space)) := by
  refine (settles_addSteps space findings examination).bind_none ?_
  rw [Examination.reports, addAll_append]
  cases examination.ending with
  | complete => exact Trace.settles_pure _
  | stuck fault => exact Trace.settles_throw _ _
  | malformed fault =>
      -- The start is asked for twice: for the event and for the diagnostic.
      have absorbed : (Ending.malformed fault).fault? =
          (fault.node.missingEdge? .start).or (fault.node.edgeFault?.or none) := by
        rw [Ending.fault?, Node.edgeFault?]
        cases fault.node.missingEdge? .start <;> simp
      rw [absorbed]
      refine (Trace.settles_edge _ _).bind fun _ => (Trace.settles_tell _).bind_none ?_
      exact (Diagnostic.settles_malformed fault).bind fun _ => settles_report space _ _

end Findings

namespace Package

/-- The examinations of all declarations of a package, in the order of its trees. -/
def examinations (package : Package) : List Examination :=
  package.evidence.scan.declarations.map (Examination.ofDeclaration package.evidence)

/-- The fault at which the analysis of a package breaks off. -/
def fault? (package : Package) : Option NoEdge :=
  package.scanFault?.or (package.examinations.findSome? (·.ending.fault?))

/-- The report on a package, where missing edges are nowhere. -/
def finalReport (package : Package) : Report :=
  ⟨package.path, package.space,
    (Findings.empty.addAll
      (package.examinations.flatMap (Examination.reports package.space))).diagnostics⟩

/-- The analysis breaks off at the first missing edge, and otherwise all reports are added. -/
theorem settles_analyze (package : Package) (config : Config) :
    (package.analyze config).Settles package.fault? package.finalReport := by
  have added := Trace.settles_foldlM
    (fun findings declaration => Findings.settles_addExamination package.space findings
      (.ofDeclaration package.evidence declaration))
    package.evidence.scan.declarations .empty
  rw [Findings.foldl_addAll] at added
  have examined : Trace.Settles
      (do
        let evidence ← package.gather
        let findings ← evidence.scan.declarations.foldlM
          (fun findings declaration =>
            findings.addExamination package.space (.ofDeclaration evidence declaration))
          Findings.empty
        Trace.tell (.checked package.path findings.diagnostics.length)
        pure ⟨package.path, package.space, findings.diagnostics⟩)
      package.fault? package.finalReport := by
    refine package.settles_gather.bind fun _ => ?_
    rw [examinations, List.findSome?_map, ← Option.or_none (o := List.findSome? _ _), finalReport,
      examinations, List.flatMap_map]
    exact added.bind fun _ => (Trace.settles_tell _).bind_none (Trace.settles_pure _)
  unfold analyze
  split
  · exact (Trace.settles_tell _).bind_none examined
  · exact examined

end Package
end ShadowLint
