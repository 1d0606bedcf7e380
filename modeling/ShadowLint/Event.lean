import ShadowLint.Dump.Load

/-!
# Events

What a run tells about itself while it works: a list of events, each with a level, the part of the
program that it comes from and a wording.
-/

namespace ShadowLint

/-- How important an event is. -/
inductive Level where
  | debug | warning
deriving DecidableEq, Repr

/-- The name of a level. -/
def Level.name : Level → String
  | debug => "DEBUG"
  | warning => "WARNING"

/-- Why a declaration is not checked. -/
inductive Exemption where
  /-- A short declaration copies the variables that it hides. -/
  | shortCopy
  /-- A loop declares its variables. -/
  | loopVariable
  /-- A `var` declaration copies the variables that it hides. -/
  | varCopy
deriving DecidableEq, Repr

/-- One thing that happened in a run. -/
inductive Event where
  /-- A package was read. -/
  | loaded (path : String) (files scopes symbols definitions uses : Nat)
  /-- Strict reports were asked for. -/
  | strictRequested (path : String)
  /-- A loop binds something else than a name. -/
  | binderIgnored (kind : Kind) (position : Int)
  /-- All trees were scanned. -/
  | scanned (declarations symbols bindings : Nat)
  /-- A declaration is not checked. -/
  | exempted (reason : Exemption) (location : Location)
  /-- A declaration is malformed. -/
  | malformed (location : Location) (message : String)
  /-- A name has another type than the outer one. -/
  | differentType (location : Location) (name : String) (inner outer : Option Ty)
  /-- Everything written to a name is read. -/
  | writesRead (location : Location) (name : String)
  /-- The outer name is not used any more. -/
  | outerUnused (location : Location) (name : String)
  /-- There is a finding at the same position already. -/
  | duplicateDropped (location : Location)
  /-- A package was checked. -/
  | checked (path : String) (findings : Nat)
  /-- A file holds no package. -/
  | skipped (path : String) (fault : LoadFault)
  /-- All events are shown. -/
  | debugEnabled

namespace Event

/-- How important the event is. -/
def level : Event → Level
  | skipped .. => .warning
  | _ => .debug

/-- The part of the program that the event comes from. -/
def origin : Event → String
  | loaded .. => "dump_loader"
  | binderIgnored .. | scanned .. => "declaration_scanner"
  | exempted .. | malformed .. | differentType .. | writesRead .. | outerUnused .. =>
      "shadow_detector"
  | duplicateDropped .. => "reporter"
  | strictRequested .. | checked .. | skipped .. => "analyzer"
  | debugEnabled => "cli"

/-- The wording for a declaration that is not checked. -/
def exemptionText : Exemption → String
  | .shortCopy => "Idiomatic short redeclaration at "
  | .loopVariable => "Loop variable declaration at "
  | .varCopy => "Idiomatic var redeclaration at "

/-- The wording of the event. -/
def text : Event → String
  | loaded path files scopes symbols definitions uses =>
      s!"Loaded {path}: {files} file(s), {scopes} scope(s), {symbols} symbol(s), " ++
        s!"{definitions} def(s), {uses} use(s)"
  | strictRequested path =>
      s!"Strict mode requested for {path}; using the standard liveness heuristics"
  | binderIgnored kind position =>
      "Ignoring non-identifier range binder " ++ kind.name ++ s!" at {position}"
  | scanned declarations symbols bindings =>
      s!"Scanned {declarations} declaration candidate(s), {symbols} mutated symbol(s), " ++
        s!"{bindings} loop binding(s)"
  | exempted reason location => exemptionText reason ++ location.text
  | malformed location message => "Malformed declaration at " ++ location.text ++ ": " ++ message
  | differentType location name inner outer =>
      location.text ++ ": " ++ Text.literal name ++ " has type " ++ Ty.textOf inner ++
        ", outer declaration has " ++ Ty.textOf outer ++ "; not a shadow"
  | writesRead location name =>
      location.text ++ ": every write to inner " ++ Text.literal name ++ " is read; suppressed"
  | outerUnused location name =>
      location.text ++ ": outer " ++ Text.literal name ++ " is not used afterwards; suppressed"
  | duplicateDropped location => "Dropping duplicate diagnostic at " ++ location.text
  | checked path findings => s!"{path}: {findings} diagnostic(s)"
  | skipped path fault => s!"Skipping {path}: " ++ fault.message
  | debugEnabled => "Debug logging enabled"

end Event

end ShadowLint
