import ShadowLint.Order.Bisection
import ShadowLint.Text.Quoted

/-!
# Source files in one position space

Positions are numbers shared by all files: a position space gives every file the next free stretch,
one longer than the file so that its end is a position too.  Whether one thing stands before another
is then a comparison of numbers, and a position leads back to a file, a line and a column.
-/

namespace ShadowLint

/-- The position of nothing.  It lies before every file. -/
def noPosition : Int := 0

/-- Why a file is refused, or a question about a file has no answer. -/
inductive FileError where
  /-- A file of negative size. -/
  | negativeSize (size : Int)
  /-- A line table without a first line at offset zero. -/
  | firstLineNotAtZero (file : String)
  /-- A line table whose offsets do not ascend. -/
  | linesNotAscending (file : String)
  /-- A position that does not lie in the file. -/
  | outsideFile (position : Int) (file : String)
  /-- A line that the file does not have. -/
  | lineOutOfRange (line : Int) (file : String) (count : Nat)
deriving DecidableEq, Repr

/-- The wording of a file error. -/
def FileError.message : FileError → String
  | .negativeSize size => s!"file size must be non-negative, got {size}"
  | .firstLineNotAtZero file =>
      "line starts for " ++ Text.literal file ++ " must begin with offset 0"
  | .linesNotAscending file =>
      "line starts for " ++ Text.literal file ++ " must be strictly ascending"
  | .outsideFile position file => s!"position {position} is outside file " ++ Text.literal file
  | .lineOutOfRange line file count =>
      s!"line {line} out of range for " ++ Text.literal file ++ s!" ({count} lines)"

/-- Whether every number is smaller than the next. -/
def isAscending : List Int → Bool
  | first :: second :: rest => decide (first < second) && isAscending (second :: rest)
  | _ => true

/-- The offsets at which the lines of a file begin. -/
structure LineTable where
  /-- The offsets, one for each line. -/
  starts : List Int
  /-- The first line begins with the file. -/
  begins : starts.head? = some 0
  /-- Each line begins after the one before. -/
  ascends : isAscending starts = true

namespace LineTable

/-- The table of a file with the given line starts. -/
def ofStarts (file : String) (starts : List Int) : Except FileError LineTable :=
  if begins : starts.head? = some 0 then
    if ascends : isAscending starts = true then
      .ok ⟨starts, begins, ascends⟩
    else
      .error (.linesNotAscending file)
  else
    .error (.firstLineNotAtZero file)

/-- The line that holds an offset, counted from one: as many lines begin up to there. -/
def line (table : LineTable) (offset : Int) : Nat :=
  upperBound table.starts.toArray offset

/-- The column of an offset in its line, counted from one. -/
def column (table : LineTable) (offset : Int) : Int :=
  offset - table.starts.getD (table.line offset - 1) 0 + 1

end LineTable

/-- A resolved source location. -/
structure Location where
  /-- Name of the file, empty for an unknown location. -/
  file : String
  /-- Offset from the start of the file. -/
  offset : Int
  /-- Line, counted from one; zero for an unknown location. -/
  line : Nat
  /-- Column, counted from one. -/
  column : Int
deriving DecidableEq, Repr

namespace Location

/-- The location of a position that lies in no file. -/
def unknown : Location := ⟨"", 0, 0, 0⟩

/-- Whether the location is a place in a file. -/
def isValid (location : Location) : Bool := decide (0 < location.line)

/-- The location as messages show it. -/
def text (location : Location) : String :=
  if location.isValid then
    location.file ++ ":" ++ toString location.line ++ ":" ++ toString location.column
  else if location.file.isEmpty then
    "-"
  else
    location.file

end Location

/-- A file with its place in the position space. -/
structure SourceFile where
  /-- Name of the file. -/
  name : String
  /-- Position of its first byte. -/
  base : Int
  /-- Its size in bytes. -/
  size : Nat
  /-- Where its lines begin. -/
  lines : LineTable

namespace SourceFile

/-- The last position of the file: the end of its text. -/
def last (file : SourceFile) : Int := file.base + file.size

/-- The file holds the position. -/
def Contains (file : SourceFile) (position : Int) : Prop :=
  file.base ≤ position ∧ position ≤ file.last

instance (file : SourceFile) (position : Int) : Decidable (file.Contains position) :=
  inferInstanceAs (Decidable (_ ∧ _))

/-- The offset of a position from the start of the file. -/
def offset (file : SourceFile) (position : Int) : Except FileError Int :=
  if file.Contains position then
    .ok (position - file.base)
  else
    .error (.outsideFile position file.name)

/-- The location at an offset of the file. -/
def locationAt (file : SourceFile) (offset : Int) : Location :=
  ⟨file.name, offset, file.lines.line offset, file.lines.column offset⟩

/-- The location of a position in the file. -/
def location (file : SourceFile) (position : Int) : Except FileError Location :=
  (file.offset position).map file.locationAt

/-- The position of a line and a column, both counted from one. -/
def linePosition (file : SourceFile) (line column : Int) : Except FileError Int :=
  let start? := if 1 ≤ line then file.lines.starts[line.toNat - 1]? else none
  match start? with
  | some start => .ok (file.base + start + column - 1)
  | none => .error (.lineOutOfRange line file.name file.lines.starts.length)

end SourceFile

/-- Files that share one position space, in the order of their positions. -/
structure PositionSpace where
  /-- The files. -/
  files : List SourceFile
  /-- The first position that no file has taken. -/
  nextBase : Int

namespace PositionSpace

/-- No files: the first position is one. -/
def empty : PositionSpace := ⟨[], 1⟩

/-- Adds a file behind the others. -/
def add (space : PositionSpace) (name : String) (size : Int) (starts : List Int) :
    Except FileError PositionSpace :=
  if size < 0 then
    .error (.negativeSize size)
  else do
    let lines ← LineTable.ofStarts name starts
    let file : SourceFile := ⟨name, space.nextBase, size.toNat, lines⟩
    pure ⟨space.files ++ [file], file.last + 1⟩

/-- An added file takes the first free position and the following ones up to its end. -/
theorem add_eq_ok {space after : PositionSpace} {name : String} {size : Int} {starts : List Int}
    (added : space.add name size starts = .ok after) :
    0 ≤ size ∧ ∃ lines : LineTable, lines.starts = starts ∧
      after = ⟨space.files ++ [⟨name, space.nextBase, size.toNat, lines⟩],
        space.nextBase + size.toNat + 1⟩ := by
  unfold add at added
  split at added
  · simp at added
  · rename_i nonnegative
    refine ⟨Int.not_lt.mp nonnegative, ?_⟩
    unfold LineTable.ofStarts at added
    split at added
    · split at added
      · rename_i begins ascends
        exact ⟨⟨starts, begins, ascends⟩, rfl, (Except.ok.inj added).symm⟩
      · cases added
    · cases added

/-- The place among the files of the one that holds a position.  Of the files that begin up to there
it can only be the last. -/
def fileIndex? (space : PositionSpace) (position : Int) : Option Nat :=
  if position = noPosition then
    none
  else
    match upperBound (space.files.map (·.base)).toArray position with
    | 0 => none
    | index + 1 => if space.files[index]?.any (·.Contains position) then some index else none

/-- The file that holds a position. -/
def fileAt? (space : PositionSpace) (position : Int) : Option SourceFile :=
  (space.fileIndex? position).bind (space.files[·]?)

/-- The location of a position, unknown if no file holds it. -/
def location (space : PositionSpace) (position : Int) : Location :=
  match space.fileAt? position with
  | some file => file.locationAt (position - file.base)
  | none => .unknown

end PositionSpace

end ShadowLint
