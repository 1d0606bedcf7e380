import ShadowLint.Analysis
import ShadowLint.CommandLine.StyledText
import ShadowLint.Markup.Rendering
import ShadowLint.Text.Width

/-!
# What a run prints

The findings of all packages, a summary, and the files that could not be analysed.  Each printed
text ends its line, and on a line tabs advance to the next multiple of eight cells.
-/

namespace ShadowLint
namespace Display

/-- The number of failures that are listed by name. -/
def listedFailures : Nat := 5

/-- The distance of tab stops. -/
def tabWidth : Nat := 8

/-- A line with spaces in place of tabs, where `column` cells are taken and the characters of
`before` follow them, last character first.  A tab is one space, and more of them up to the next tab
stop. -/
def expandTabs (column : Nat) (before : List Char) : List Char → List Char
  | [] => before.reverse
  | c :: rest =>
      if c = '\t' then
        let shown := before.reverse ++ [' ']
        let reached := column + Text.cells shown
        let padding := (tabWidth - reached % tabWidth) % tabWidth
        shown ++ List.replicate padding ' ' ++ expandTabs (reached + padding) [] rest
      else if c = '\n' then before.reverse ++ c :: expandTabs 0 [] rest
      else expandTabs column (c :: before) rest

/-- A text as the console shows it. -/
def printed (text : String) : String :=
  String.ofList (expandTabs 0 [] (StyledText.shown text).toList)

/-- The summary of some results. -/
def summary (results : List Report) : List String :=
  let findings := results.flatMap Report.diagnostics
  let shadows := findings.countP (·.category == .shadow)
  let malformed := findings.length - shadows
  ["\nSummary:", s!"Packages analyzed: {results.length}", s!"Shadowed declarations: {shadows}"] ++
    (if 0 < malformed then [s!"Malformed declarations: {malformed}"] else []) ++
    (if findings.isEmpty then ["No suspicious shadowing found."] else [])

/-- The findings in some packages, with their summary. -/
def results (results : List Report) : List String :=
  if results.isEmpty then
    ["No packages found to analyze."]
  else
    results.flatMap (fun result =>
      result.diagnostics.map fun diagnostic =>
        printed (diagnostic.styledText result.space).plain) ++
      summary results

/-- The line for a file that could not be analysed. -/
def failure (path : Path) : Except Markup.Fault String :=
  (Markup.render ("  " ++ Markup.escape path.text)).map printed

/-- The files that could not be analysed, as far as they are listed. -/
def failures (paths : List Path) : List (Except Markup.Fault String) :=
  let more := paths.length - listedFailures
  if paths.isEmpty then
    []
  else
    [.ok s!"\nError: {paths.length} input(s) could not be analyzed"] ++
      (paths.take listedFailures).map failure ++
      (if 0 < more then [.ok s!"  ... and {more} more"] else [])

/-- The line for a target that is no file. -/
def missingTarget (path : Path) (isPresent : Bool) : Except Markup.Fault String :=
  let message :=
    if isPresent then "Error: " ++ path.text ++ " is not a file"
    else "Error: File " ++ path.text ++ " does not exist"
  (Markup.render ("[red]" ++ message ++ "[/red]")).map printed

end Display
end ShadowLint
