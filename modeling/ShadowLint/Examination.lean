import ShadowLint.Verdict

/-!
# The examination of a declaration

A declaration is examined name by name from left to right.  It may be exempt as a whole, a part of
a group of variables may exempt the rest of the group, and the first malformed part ends the
examination.
-/

namespace ShadowLint

/-- One step of an examination. -/
inductive ExaminationStep where
  /-- What stands at a position is exempt. -/
  | exempted (reason : Exemption) (position : Int)
  /-- A name is decided. -/
  | decided (ident : Ident) (verdict : Verdict)

/-- How an examination ends. -/
inductive Ending where
  /-- Everything was examined, or the rest is exempt. -/
  | complete
  /-- A part is malformed. -/
  | malformed (fault : Malformed)
  /-- The position of an exempt part is needed, and the part has none. -/
  | stuck (fault : NoEdge)

/-- What an examination brings to light. -/
structure Examination where
  /-- The steps in order. -/
  steps : List ExaminationStep
  /-- How it ends. -/
  ending : Ending

namespace Examination

/-- An examination that ends at once. -/
def endingWith (ending : Ending) : Examination := ⟨[], ending⟩

/-- The examination that finds a node exempt. -/
def exempt (reason : Exemption) (node : Node) : Examination :=
  match node.start? with
  | some position => ⟨[.exempted reason position], .complete⟩
  | none => endingWith (.stuck ⟨node.kind⟩)

/-- An examination behind the decisions on some names. -/
def after (evidence : Evidence) (idents : List Ident) (rest : Examination) : Examination :=
  ⟨idents.map (fun ident => .decided ident (evidence.verdict ident)) ++ rest.steps, rest.ending⟩

/-- The examination of the targets of a short declaration. -/
def ofTargets (evidence : Evidence) : List Node → Examination
  | [] => endingWith .complete
  | target :: rest =>
      match target.ident? with
      | none => endingWith (.malformed ⟨target, .targetNotIdent⟩)
      | some ident => after evidence [ident] (ofTargets evidence rest)

/-- The examination of the parts of a group of variables. -/
def ofSpecs (evidence : Evidence) : List Node → Examination
  | [] => endingWith .complete
  | spec :: rest =>
      if spec.kind ≠ .valueSpec then endingWith (.malformed ⟨spec, .specNotVariables⟩)
      else if Redeclaration.isDeliberateVar spec then exempt .varCopy spec
      else after evidence ((spec.nodes "names").filterMap Node.ident?) (ofSpecs evidence rest)

/-- The examination of a short declaration. -/
def ofShort (evidence : Evidence) (statement : Node) : Examination :=
  match Redeclaration.isDeliberateShort statement with
  | .error fault => endingWith (.malformed fault)
  | .ok true => exempt .shortCopy statement
  | .ok false =>
      if Redeclaration.isLoopVariable evidence.scan statement then exempt .loopVariable statement
      else ofTargets evidence (statement.nodes "lhs")

/-- The examination of a declaration. -/
def ofDeclaration (evidence : Evidence) : Declaration → Examination
  | .short statement => ofShort evidence statement
  | .var declaration => ofSpecs evidence (declaration.nodes "specs")

end Examination

namespace Findings

/-- Adds what a step of an examination reports, and tells about it. -/
def addStep (space : PositionSpace) (findings : Findings) : ExaminationStep → Trace Findings
  | .exempted reason position => do
      Trace.tell (.exempted reason (space.location position))
      pure findings
  | .decided ident verdict => do
      if let some event := verdict.event? (space.location ident.position) then
        Trace.tell event
      match verdict.diagnostic? space ident with
      | some diagnostic => findings.report space diagnostic
      | none => pure findings

/-- Adds what the steps of an examination report. -/
def addSteps (space : PositionSpace) (findings : Findings) (examination : Examination) :
    Trace Findings :=
  examination.steps.foldlM (addStep space) findings

/-- Adds what an examination reports, with its malformed part. -/
def addExamination (space : PositionSpace) (findings : Findings) (examination : Examination) :
    Trace Findings := do
  let findings ← findings.addSteps space examination
  match examination.ending with
  | .complete => pure findings
  | .stuck fault => throw fault
  | .malformed fault =>
      let message := fault.malformation.message
      let location := space.location (← Trace.edge fault.node .start)
      Trace.tell (.malformed location message)
      findings.report space (← Diagnostic.malformed fault.node message)

end Findings

end ShadowLint
