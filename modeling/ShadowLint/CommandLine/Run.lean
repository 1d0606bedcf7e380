import ShadowLint.CommandLine.Arguments
import ShadowLint.CommandLine.Display

/-!
# A run of the command line

A run reads its arguments, complains about targets that are no files, analyses the others, prints
the findings and ends with an exit code: zero without findings, three with findings, and one if an
input could not be analysed.
-/

namespace ShadowLint

/-- What stands at a path. -/
inductive PathStatus where
  /-- Nothing. -/
  | absent (fault : ReadFault)
  /-- A directory. -/
  | directory
  /-- A file, with its document if it holds one. -/
  | file (document : Except ReadFault Json)

namespace PathStatus

/-- A file stands there. -/
def isFile : PathStatus → Bool
  | file _ => true
  | _ => false

/-- Something stands there. -/
def isPresent : PathStatus → Bool
  | absent _ => false
  | _ => true

/-- It cannot be told what stands there. -/
def isUnreachable : PathStatus → Bool
  | absent .nameTooLong => true
  | _ => false

/-- The fault that ends an analysis, if it is none that only one file fails by. -/
def fatal? : PathStatus → Option ReadFault
  | absent .nullCharacter => some .nullCharacter
  | file (.error (.overlongNumber digits)) => some (.overlongNumber digits)
  | _ => none

/-- The document that stands there. -/
def document : PathStatus → Except ReadFault Json
  | absent fault => .error fault
  | directory => .error .isDirectory
  | file document => document

end PathStatus

/-- Why a run breaks off. -/
inductive Crash where
  /-- There is nothing to do. -/
  | refused (refusal : Refusal)
  /-- A node has no edge where one is needed. -/
  | noEdge (fault : NoEdge)
  /-- A printed path cannot be shown. -/
  | markup (fault : Markup.Fault)
  /-- It cannot be told what stands at a target. -/
  | unreachable (target : Path)
  /-- A file cannot be read, and no other file is read after it. -/
  | fatal (fault : ReadFault)

/-- Analyses the dumps at some paths, up to the first one with a fault that ends the analysis. -/
def analyzeAll (status : Path → PathStatus) (config : Config) (paths : List Path) :
    Except Crash BatchResult × List Event :=
  let readable := paths.takeWhile fun path => (status path).fatal?.isNone
  match (BatchResult.ofPaths (fun path => (status path).document) config readable).outcome with
  | (.error fault, events) => (.error (.noEdge fault), events)
  | (.ok batch, events) =>
      match paths[readable.length]?.bind fun path => (status path).fatal? with
      | some fault => (.error (.fatal fault), events)
      | none => (.ok batch, events)

/-- How a run ends, and what it has told and printed by then. -/
structure RunOutcome where
  /-- The exit code. -/
  exit : Except Crash Nat
  /-- The printed texts, each of which ends its line. -/
  printed : List String
  /-- The events that are shown. -/
  events : List Event

namespace RunOutcome

/-- The exit code of a run that came to its end. -/
def exitCode (missing : List Path) (batch : BatchResult) : Nat :=
  if !missing.isEmpty || !batch.failures.isEmpty then 1
  else if batch.results.any (!·.diagnostics.isEmpty) then 3
  else 0

/-- The events that are shown: all of them, or the warnings only. -/
def shownEvents (debug : Bool) (events : List Event) : List Event :=
  if debug then .debugEnabled :: events else events.filter (·.level = .warning)

/-- Texts printed one after the other, up to the first that cannot be shown. -/
def printAll : List (Except Markup.Fault String) → List String × Option Markup.Fault
  | [] => ([], none)
  | .error fault :: _ => ([], some fault)
  | .ok text :: rest =>
      let (texts, fault?) := printAll rest
      (text :: texts, fault?)

/-- The end of a run whose dumps have been analysed, where some texts are printed already. -/
def finish (missing : List Path) (before : List String) (batch : BatchResult) :
    Except Crash Nat × List String :=
  let (failures, fault?) := printAll (Display.failures batch.failures)
  (fault?.elim (.ok (exitCode missing batch)) fun fault => .error (.markup fault),
    before ++ Display.results batch.results ++ failures)

/-- A run with targets that can be looked at, where `status` tells what stands at a path. -/
def ofTargets (status : Path → PathStatus) (arguments : Arguments) : RunOutcome :=
  let missing := arguments.targets.filter fun target => !(status target).isFile
  let targets := arguments.targets.filter fun target => !missing.contains target
  let complaints := missing.map fun target =>
    Display.missingTarget target (status target).isPresent
  match printAll complaints with
  | (printed, some fault) =>
      ⟨.error (.markup fault), printed, shownEvents arguments.debug []⟩
  | (printed, none) =>
      match analyzeAll status ⟨arguments.strict⟩ targets with
      | (.error crash, events) => ⟨.error crash, printed, shownEvents arguments.debug events⟩
      | (.ok batch, events) =>
          let (exit, printed) := finish missing printed batch
          ⟨exit, printed, shownEvents arguments.debug events⟩

/-- A run with some arguments. -/
def ofArguments (status : Path → PathStatus) (arguments : Arguments) : RunOutcome :=
  match arguments.targets.find? fun target => (status target).isUnreachable with
  | some target => ⟨.error (.unreachable target), [], shownEvents arguments.debug []⟩
  | none => ofTargets status arguments

/-- A run of a command line. -/
def ofCommandLine (status : Path → PathStatus) (texts : List String) : RunOutcome :=
  match Arguments.parse texts with
  | .error refusal => ⟨.error (.refused refusal), [], []⟩
  | .ok arguments => ofArguments status arguments

end RunOutcome

end ShadowLint
