import ShadowLint.Redeclaration
import ShadowLint.Source.Path

/-!
# Diagnostics

A diagnostic is one finding with its place and related places.  The findings of a package hold at
most one diagnostic for each position, the first one that was reported there.
-/

namespace ShadowLint

/-- What a diagnostic is about. -/
inductive Category where
  /-- A declaration hides an outer one. -/
  | shadow
  /-- A declaration is malformed. -/
  | invalidTree
deriving DecidableEq, Repr

namespace Category

/-- The name of a category. -/
def name : Category → String
  | shadow => "shadow"
  | invalidTree => "invalid-ast"

/-- The category with a name. -/
def ofName? (name : String) : Option Category :=
  [shadow, invalidTree].find? (·.name == name)

end Category

/-- A place that helps to understand a diagnostic. -/
structure Related where
  /-- First position of the place. -/
  start : Int
  /-- Position behind the place. -/
  stop : Int
  /-- What is there. -/
  message : String
deriving DecidableEq, Repr

/-- A finding. -/
@[ext]
structure Diagnostic where
  /-- First position of the place. -/
  start : Int
  /-- Position behind the place. -/
  stop : Int
  /-- What was found. -/
  message : String
  /-- What it is about. -/
  category : Category
  /-- Other places. -/
  related : List Related
deriving DecidableEq, Repr

/-- The message that a name hides a declaration in a line of a file.  The file is named if it is not
the one of the message. -/
def hidingMessage (name : String) (line : Int) (outerFile currentFile : String) : String :=
  let place := if outerFile = currentFile then "" else " in " ++ (Path.ofText outerFile).baseName
  "declaration of " ++ Text.doubleQuoted name ++ " shadows declaration at line " ++
    toString line ++ place

namespace Diagnostic

/-- The diagnostic that a name, which declares the inner symbol, hides the outer symbol. -/
def shadow (space : PositionSpace) (ident : Ident) (inner outer : Symbol) : Diagnostic :=
  let outerLocation := space.location outer.position
  { start := ident.position
    stop := ident.stop
    message :=
      hidingMessage inner.name outerLocation.line outerLocation.file
        (space.location ident.position).file
    category := .shadow
    related :=
      [⟨outer.position, outer.position + outer.name.length,
        "shadowed symbol " ++ Text.doubleQuoted inner.name ++ " declared here"⟩] }

/-- The diagnostic tells that a name, which declares the inner symbol, hides the outer symbol: it
stands at the name, its message gives the place of the outer symbol, and its one related place is
where that symbol is declared. -/
structure TellsHiding (space : PositionSpace) (ident : Ident) (inner outer : Symbol)
    (diagnostic : Diagnostic) : Prop where
  /-- It begins with the name. -/
  start_eq : diagnostic.start = ident.position
  /-- It ends with the name. -/
  stop_eq : diagnostic.stop = ident.position + ident.name.length
  /-- Its message names the inner symbol and the line of the outer one, with its file if that is
  another file than the one of the name. -/
  message_eq : diagnostic.message =
    hidingMessage inner.name (space.location outer.position).line
      (space.location outer.position).file (space.location ident.position).file
  /-- It is about hiding. -/
  category_eq : diagnostic.category = .shadow
  /-- The declaration of the outer symbol is related, and nothing else. -/
  related_eq : diagnostic.related =
    [⟨outer.position, outer.position + outer.name.length,
      "shadowed symbol " ++ Text.doubleQuoted inner.name ++ " declared here"⟩]

theorem eq_shadow_iff {space : PositionSpace} {ident : Ident} {inner outer : Symbol}
    {diagnostic : Diagnostic} :
    diagnostic = shadow space ident inner outer ↔
      diagnostic.TellsHiding space ident inner outer := by
  constructor
  · rintro rfl
    exact ⟨rfl, rfl, rfl, rfl, rfl⟩
  · intro tells
    exact Diagnostic.ext tells.start_eq tells.stop_eq tells.message_eq tells.category_eq
      tells.related_eq

/-- The diagnostic that a node is malformed. -/
def malformed (node : Node) (message : String) : Trace Diagnostic := do
  let start ← Trace.edge node .start
  let stop ← Trace.edge node .stop
  pure ⟨start, stop, message, .invalidTree, []⟩

end Diagnostic

/-- The diagnostics of a package in the order of their reports. -/
structure Findings where
  /-- The diagnostics. -/
  diagnostics : List Diagnostic
deriving DecidableEq, Repr

namespace Findings

/-- No findings. -/
def empty : Findings := ⟨[]⟩

/-- Whether there is a diagnostic at a position. -/
def covers (findings : Findings) (position : Int) : Bool :=
  findings.diagnostics.any (·.start == position)

/-- Adds a diagnostic, unless there is one at its position. -/
def add (findings : Findings) (diagnostic : Diagnostic) : Findings :=
  if findings.covers diagnostic.start then findings
  else ⟨findings.diagnostics ++ [diagnostic]⟩

theorem covers_add (findings : Findings) (diagnostic : Diagnostic) (position : Int) :
    (findings.add diagnostic).covers position =
      (findings.covers position || diagnostic.start == position) := by
  unfold add
  split
  · rename_i covered
    by_cases same : diagnostic.start = position
    · simp [← same, covered]
    · simp [same]
  · simp [covers]

/-- Findings at different positions stay at different positions. -/
theorem pairwise_add {findings : Findings}
    (distinct : findings.diagnostics.Pairwise (·.start ≠ ·.start)) (diagnostic : Diagnostic) :
    (findings.add diagnostic).diagnostics.Pairwise (·.start ≠ ·.start) := by
  unfold add
  split
  · exact distinct
  · rename_i uncovered
    refine List.pairwise_append.mpr ⟨distinct, List.pairwise_singleton .., ?_⟩
    simpa [covers] using uncovered

/-- Reports a diagnostic.  It tells when the diagnostic is dropped. -/
def report (space : PositionSpace) (findings : Findings) (diagnostic : Diagnostic) :
    Trace Findings := do
  if findings.covers diagnostic.start then
    Trace.tell (.duplicateDropped (space.location diagnostic.start))
  pure (findings.add diagnostic)

end Findings

end ShadowLint
