import ShadowLint.Proofs.Source.Layout
import ShadowLint.Proofs.Verdict

/-!
# Uses on other lines

A hidden symbol has to be used later and on another line.  The check compares the numbers of lines,
and lines of different files may have the same number: a later use in another file goes unnoticed if
there is no other one and its line has the number of the declaration's.
-/

namespace ShadowLint

namespace PositionSpace

/-- Two positions are on one source line: they lie in one file, on lines of one number. -/
def OnSameLine (space : PositionSpace) (left right : Int) : Prop :=
  ∃ file ∈ space.files, file.Contains left ∧ file.Contains right ∧
    file.lines.line (left - file.base) = file.lines.line (right - file.base)

instance (space : PositionSpace) (left right : Int) : Decidable (space.OnSameLine left right) :=
  inferInstanceAs (Decidable (∃ file ∈ space.files, _))

/-- A position lies in one of the files. -/
def Holds (space : PositionSpace) (position : Int) : Prop :=
  ∃ file ∈ space.files, file.Contains position

instance (space : PositionSpace) (position : Int) : Decidable (space.Holds position) :=
  inferInstanceAs (Decidable (∃ file ∈ space.files, _))

variable {space : PositionSpace} {file : SourceFile} {left right : Int}

theorem onSameLine_iff_of_contains (laidOut : space.IsLaidOut) (mem : file ∈ space.files)
    (left_in : file.Contains left) (right_in : file.Contains right) :
    space.OnSameLine left right ↔ (space.location left).line = (space.location right).line := by
  rw [location_of_contains laidOut mem left_in, location_of_contains laidOut mem right_in]
  constructor
  · rintro ⟨other, other_mem, left_in', -, same⟩
    obtain rfl := laidOut.eq_of_contains mem other_mem left_in left_in'
    exact same
  · intro same
    exact ⟨file, mem, left_in, right_in, same⟩

theorem OnSameLine.line_eq (laidOut : space.IsLaidOut) (same : space.OnSameLine left right) :
    (space.location left).line = (space.location right).line := by
  obtain ⟨file, mem, left_in, right_in, -⟩ := id same
  exact (onSameLine_iff_of_contains laidOut mem left_in right_in).mp same

end PositionSpace

namespace Package

/-- The symbol is used at a place behind the position. -/
def IsLaterUse (package : Package) (symbol : SymbolId) (position use : Int) : Prop :=
  position < use ∧ ∃ ident, (ident, symbol) ∈ package.resolution.uses ∧ ident.position = use

/-- The symbol is used behind the position, in one of the files and on another source line. -/
def IsUsedOnOtherLine (package : Package) (symbol : SymbolId) (position : Int) : Prop :=
  ∃ use, package.IsLaterUse symbol position use ∧ package.space.Holds use ∧
    ¬package.space.OnSameLine position use

variable {package : Package} {symbol : SymbolId} {position : Int}

theorem isUsedLater_iff_exists_isLaterUse :
    package.IsUsedLater symbol position ↔
      ∃ use, package.IsLaterUse symbol position use ∧
        (package.space.location use).line ≠ (package.space.location position).line := by
  constructor
  · rintro ⟨ident, mem, behind, other_line⟩
    exact ⟨ident.position, ⟨behind, ident, mem, rfl⟩, other_line⟩
  · rintro ⟨use, ⟨behind, ident, mem, rfl⟩, other_line⟩
    exact ⟨ident, mem, behind, other_line⟩

theorem IsUsedLater.isUsedOnOtherLine (laidOut : package.space.IsLaidOut)
    (held : ∀ use, package.IsLaterUse symbol position use → package.space.Holds use)
    (usedLater : package.IsUsedLater symbol position) :
    package.IsUsedOnOtherLine symbol position := by
  obtain ⟨use, later, other_line⟩ := isUsedLater_iff_exists_isLaterUse.mp usedLater
  exact ⟨use, later, held use later, fun same => other_line (same.line_eq laidOut).symm⟩

/-- In a package that was read, the check for later uses finds those on lines of other numbers.  It
misses a use on another source line exactly if there is a later use in another file and all later
uses are on lines of the declaration's number. -/
theorem isUsedLater_agrees_iff {document : Json} (read : Dump.package document = .ok package)
    (scan : Scan) {file : SourceFile} (mem : file ∈ package.space.files)
    (contains : file.Contains position)
    (held : ∀ ident, (ident, symbol) ∈ package.resolution.uses →
      package.space.Holds ident.position) :
    let evidence : Evidence := ⟨package, scan, .ofResolution package.resolution⟩
    (evidence.isUsedLater symbol position ↔
        ∃ use, package.IsLaterUse symbol position use ∧
          evidence.lineOf use ≠ evidence.lineOf position) ∧
      ((evidence.isUsedLater symbol position ↔ package.IsUsedOnOtherLine symbol position) ↔
        ¬((∃ use, package.IsLaterUse symbol position use ∧ ¬file.Contains use) ∧
          ∀ use, package.IsLaterUse symbol position use →
            evidence.lineOf use = evidence.lineOf position)) := by
  intro evidence
  have laidOut := Dump.isLaidOut_of_package read
  have held_later : ∀ use, package.IsLaterUse symbol position use → package.space.Holds use := by
    rintro use ⟨-, ident, ident_mem, rfl⟩
    exact held ident ident_mem
  have found_iff : evidence.isUsedLater symbol position ↔ package.IsUsedLater symbol position :=
    package.isUsedLater_iff
  refine ⟨found_iff.trans isUsedLater_iff_exists_isLaterUse, ?_⟩
  rw [found_iff]
  constructor
  · rintro agrees ⟨⟨use, later, outside⟩, same_numbers⟩
    -- A use in another file is on another source line, so it would have been found.
    have otherLine : package.IsUsedOnOtherLine symbol position := by
      refine ⟨use, later, held_later use later, ?_⟩
      rintro ⟨other, other_mem, contains', use_in, -⟩
      exact outside (laidOut.eq_of_contains mem other_mem contains contains' ▸ use_in)
    obtain ⟨found, found_later, other_line⟩ :=
      isUsedLater_iff_exists_isLaterUse.mp (agrees.mpr otherLine)
    exact other_line (same_numbers found found_later)
  · intro noCoincidence
    refine ⟨IsUsedLater.isUsedOnOtherLine laidOut held_later, ?_⟩
    rintro ⟨use, later, -, otherLine⟩
    rw [isUsedLater_iff_exists_isLaterUse]
    by_contra unnoticed
    have same_numbers (use : Int) (later : package.IsLaterUse symbol position use) :
        evidence.lineOf use = evidence.lineOf position := by
      by_contra differs
      exact unnoticed ⟨use, later, differs⟩
    refine noCoincidence ⟨⟨use, later, fun use_in => otherLine ?_⟩, same_numbers⟩
    exact (PositionSpace.onSameLine_iff_of_contains laidOut mem contains use_in).mpr
      (same_numbers use later).symm

end Package

namespace Specimen

/-- A file of ten lines with ten characters each, from a position on.  It holds one function with
the given statements. -/
def file (fileName : String) (start : Int) (statements : List Json) : Json :=
  .object [("name", .string fileName), ("size", .int 99),
    ("line_starts", .array ((List.range 10).map fun line => .int (10 * line))),
    ("syntax", .object [("node", .string "File"), ("package_pos", .int start),
      ("name", name "p" (start + 8) []),
      ("decls", .array [.object [("node", .string "FuncDecl"), ("func_pos", .int (start + 1)),
        ("name", name "f" (start + 6) []),
        ("body", .object [("node", .string "BlockStmt"), ("lbrace", .int (start + 8)),
          ("stmts", .array statements), ("rbrace", .int (start + 98))])]])])]

/-- A dump of two files.  Its symbols 0 and 1 are two variables `x` of nested scopes. -/
def twoFileDocument (first second : List Json) : Json :=
  .object [("package", .string "p"),
    ("scopes", .array [.object [], .object [("parent", .int 0)]]),
    ("symbols", .array [symbol 11 0, symbol 21 1]),
    ("files", .array [file "a.go" 1 first, file "b.go" 101 second])]

/-- The package in a dump of two files. -/
def twoFilePackage (first second : List Json) : Package :=
  match Dump.package (twoFileDocument first second) with
  | .ok package => package
  | .error _ => ⟨"", .empty, [], ⟨#[], #[]⟩, .empty, .empty⟩

/-- In the third line of a file, `x := y` declares an inner `x`, and in the fourth line `x = y`
writes to it. -/
def innerWritten (start : Int) : List Json :=
  [assignment ":=" [name "x" (start + 20) [("def", .int 1)]] [name "y" (start + 25) []],
    assignment "=" [name "x" (start + 30) [("use", .int 1)]] [name "y" (start + 34) []]]

/-- The statement `y = x` reads the outer `x` at a position. -/
def outerRead (position : Int) : List Json :=
  [assignment "=" [name "y" (position - 4) []] [name "x" position [("use", .int 0)]]]

/-- A use in the fourth line of the other file is noticed. -/
theorem isUsedLater_inOtherLine :
    let package := twoFilePackage (innerWritten 1) (outerRead 135)
    (package.evidence.isUsedLater (.declared 0) 21 ↔
      package.IsUsedOnOtherLine (.declared 0) 21) := by
  intro package
  have read : Dump.package (twoFileDocument (innerWritten 1) (outerRead 135)) = .ok package := rfl
  obtain ⟨file, mem, contains⟩ : package.space.Holds 21 := by decide +kernel
  have held : ∀ use ∈ package.resolution.uses, package.space.Holds use.1.position := by
    decide +kernel
  obtain ⟨⟨ident, symbol⟩, use_mem, symbol_eq, position_eq⟩ : ∃ use ∈ package.resolution.uses,
      use.2 = .declared 0 ∧ use.1.position = 135 := by
    decide +kernel
  have later : package.IsLaterUse (.declared 0) 21 135 :=
    ⟨by decide, ident, symbol_eq ▸ use_mem, position_eq⟩
  have other_line : package.evidence.lineOf 135 ≠ package.evidence.lineOf 21 := by decide +kernel
  exact (Package.isUsedLater_agrees_iff read _ mem contains fun ident mem => held _ mem).2.mpr
    fun coincidence => other_line (coincidence.2 135 later)

/-- A use in the third line of the other file is not. -/
theorem isUsedOnOtherLine_unnoticed :
    ¬∀ (document : Json) (package : Package) (scan : Scan) (symbol : SymbolId) (position : Int),
      Dump.package document = .ok package → package.space.Holds position →
      (∀ ident, (ident, symbol) ∈ package.resolution.uses → package.space.Holds ident.position) →
      ((⟨package, scan, .ofResolution package.resolution⟩ : Evidence).isUsedLater symbol position ↔
        package.IsUsedOnOtherLine symbol position) := by
  intro always
  have read : Dump.package (twoFileDocument (innerWritten 1) (outerRead 125)) =
      .ok (twoFilePackage (innerWritten 1) (outerRead 125)) := rfl
  have held : ∀ use ∈ (twoFilePackage (innerWritten 1) (outerRead 125)).resolution.uses,
      (twoFilePackage (innerWritten 1) (outerRead 125)).space.Holds use.1.position := by
    decide +kernel
  obtain ⟨⟨ident, symbol⟩, use_mem, symbol_eq, position_eq⟩ :
      ∃ use ∈ (twoFilePackage (innerWritten 1) (outerRead 125)).resolution.uses,
        use.2 = .declared 0 ∧ use.1.position = 125 := by
    decide +kernel
  have otherLine :
      (twoFilePackage (innerWritten 1) (outerRead 125)).IsUsedOnOtherLine (.declared 0) 21 :=
    ⟨125, ⟨by decide, ident, symbol_eq ▸ use_mem, position_eq⟩, by decide +kernel,
      by decide +kernel⟩
  have unnoticed : (twoFilePackage (innerWritten 1) (outerRead 125)).evidence.isUsedLater
      (.declared 0) 21 = false := by
    decide +kernel
  have noticed := (always _ _ (twoFilePackage (innerWritten 1) (outerRead 125)).evidence.scan
    (.declared 0) 21 read (by decide +kernel) fun ident mem => held _ mem).mpr otherLine
  exact Bool.false_ne_true (unnoticed.symm.trans noticed)

end Specimen

end ShadowLint
