import ShadowLint.Analysis
import ShadowLint.Text.Digit

/-!
# Command-line arguments

Arguments are targets and options in any order, except that no option stands between two targets.
A long option may be cut short as long as one option is meant, two dashes end the options, and a
dash alone and negative numbers are targets.
-/

namespace ShadowLint

/-- What a command line asks for. -/
structure Arguments where
  /-- The files to analyse. -/
  targets : List Path
  /-- Whether strict reports are asked for. -/
  strict : Bool
  /-- Whether all events are shown. -/
  debug : Bool
deriving DecidableEq, Repr

/-- Why a command line gives nothing to do. -/
inductive Refusal where
  /-- It asks for help. -/
  | help
  /-- It is not well formed. -/
  | misuse
deriving DecidableEq, Repr

/-- The exit code of a refused command line. -/
def Refusal.exitCode : Refusal → Nat
  | help => 0
  | misuse => 2

/-- The options. -/
inductive CommandOption where
  | help | strict | debug
deriving DecidableEq, Repr

namespace CommandOption

/-- The long spellings of the options.  Help has a short one too, `-h`. -/
def spellings : List (String × CommandOption) :=
  [("--help", help), ("--strict", strict), ("--debug", debug)]

end CommandOption

/-- What an argument is taken for. -/
inductive Argument where
  /-- A target. -/
  | target (text : String)
  /-- The end of the options. -/
  | separator
  /-- An option. -/
  | option (meant : CommandOption)
  /-- An option with a text attached to it, which no option takes. -/
  | overloaded
  /-- An option that does not exist. -/
  | unknown
  /-- The beginning of several options. -/
  | ambiguous
deriving DecidableEq, Repr

namespace Argument

/-- A text before its first equals sign, and what comes after the sign. -/
def splitEquals (text : String) : String × Option String :=
  let name := text.toList.takeWhile (· ≠ '=')
  match text.toList.drop name.length with
  | [] => (text, none)
  | _ :: attached => (String.ofList name, some (String.ofList attached))

/-- A text without a line end at its end. -/
def withoutLineEnd (text : List Char) : List Char :=
  if text.getLast? = some '\n' then text.dropLast else text

/-- Whether a text is a minus sign with decimal digits, which may hold one point before the last of
them.  A line end behind them does not matter. -/
def isNegativeNumber (text : String) : Bool :=
  match withoutLineEnd text.toList with
  | '-' :: number =>
      let whole := number.takeWhile Text.isDecimalDigit
      match number.drop whole.length with
      | [] => !whole.isEmpty
      | '.' :: fraction => !fraction.isEmpty && fraction.all Text.isDecimalDigit
      | _ => false
  | _ => false

/-- The options that a text with two dashes abbreviates. -/
def abbreviated (text : String) : List CommandOption :=
  CommandOption.spellings.filterMap fun (spelling, meant) =>
    if text.toList.isPrefixOf spelling.toList then some meant else none

/-- What a text that begins with a dash and means no option is taken for. -/
def ofDashed (text : String) : Argument :=
  if isNegativeNumber text || text.toList.contains ' ' then .target text else .unknown

/-- What a text with two dashes at its beginning is taken for. -/
def ofLong (text : String) : Argument :=
  let (name, attached?) := splitEquals text
  let candidates :=
    match CommandOption.spellings.lookup name with
    | some meant => [meant]
    | none => abbreviated name
  match candidates, attached? with
  | [], _ => ofDashed text
  | [meant], none => .option meant
  | [_], some _ => .overloaded
  | _ :: _ :: _, _ => .ambiguous

/-- Whether a text repeats the letter of the option for help. -/
def repeatsHelp (text : List Char) : Bool :=
  !text.isEmpty && text.all (· == 'h')

/-- What a text with one dash at its beginning is taken for.  The letter of an option may be
followed by further ones, also behind an equals sign, and no letter but that for help is an option. -/
def ofShort (text : String) : Argument :=
  match text.toList with
  | ['-', 'h'] => .option .help
  | '-' :: 'h' :: '=' :: letters => if repeatsHelp letters then .option .help else .overloaded
  | '-' :: 'h' :: letters => if repeatsHelp letters then .option .help else .overloaded
  | _ => ofDashed text

/-- What an argument before the end of the options is taken for. -/
def ofText (text : String) : Argument :=
  match text.toList with
  | ['-', '-'] => .separator
  | '-' :: '-' :: _ => ofLong text
  | '-' :: _ :: _ => ofShort text
  | _ => .target text

/-- What arguments are taken for: everything after the end of the options is a target. -/
def classify : List String → List Argument
  | [] => []
  | text :: rest =>
      match ofText text with
      | .separator => .separator :: rest.map .target
      | argument => argument :: classify rest

end Argument

/-- How far the targets have been read. -/
inductive TargetProgress where
  /-- There is none yet. -/
  | awaited
  /-- Targets follow each other. -/
  | collecting
  /-- An option has come after them. -/
  | closed
deriving DecidableEq, Repr

/-- What has been read of a command line. -/
structure CommandState where
  /-- The targets, and what the options ask for. -/
  arguments : Arguments
  /-- How far the targets have been read. -/
  progress : TargetProgress
  /-- Whether something came that has no meaning. -/
  hasExtras : Bool

namespace CommandState

/-- Nothing has been read. -/
def initial : CommandState := ⟨⟨[], false, false⟩, .awaited, false⟩

/-- No target may follow the ones already there. -/
def closeTargets (state : CommandState) : CommandState :=
  if state.progress = .collecting then { state with progress := .closed } else state

/-- Takes an option. -/
def takeOption (state : CommandState) : CommandOption → CommandState
  | .help => state
  | .strict => { state with arguments := { state.arguments with strict := true } }
  | .debug => { state with arguments := { state.arguments with debug := true } }

/-- Takes one argument. -/
def next (state : CommandState) : Argument → Except Refusal CommandState
  | .target text =>
      if state.progress = .closed then
        .ok { state with hasExtras := true }
      else
        let targets := state.arguments.targets ++ [Path.ofText text]
        .ok { state with
              arguments := { state.arguments with targets := targets }
              progress := .collecting }
  | .separator =>
      .ok { state with hasExtras := state.hasExtras || decide (state.progress = .closed) }
  | .option .help => .error .help
  | .option meant => .ok (state.closeTargets.takeOption meant)
  | .overloaded => .error .misuse
  | .unknown => .ok { state.closeTargets with hasExtras := true }
  | .ambiguous => .error .misuse

/-- The arguments read, if there is a target and nothing without meaning. -/
def result (state : CommandState) : Except Refusal Arguments :=
  if state.progress = .awaited ∨ state.hasExtras then .error .misuse else .ok state.arguments

end CommandState

/-- Reads a command line. -/
def Arguments.parse (texts : List String) : Except Refusal Arguments := do
  let arguments := Argument.classify texts
  if .ambiguous ∈ arguments then
    throw .misuse
  let state ← arguments.foldlM CommandState.next .initial
  state.result

end ShadowLint
