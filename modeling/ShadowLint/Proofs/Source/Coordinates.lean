import Mathlib.Data.Prod.Lex
import Mathlib.Order.Bounds.Defs
import ShadowLint.Proofs.Source.Partition

/-!
# Lines and columns

A position of a file goes to a line and a column and comes back from them, and positions stand in
the order of their files, lines and columns.  The other way round a line and a column lead to a
position that comes back to them if it lies in the file and before the next line.  That a line
begins in its file is not asked of a file that is added, so the last condition can fail.
-/

namespace ShadowLint

namespace LineTable

variable (table : LineTable) {offset later : Int}

/-- A line begins up to an offset, where lines are counted from one. -/
def BeginsUpTo (offset : Int) (line : Nat) : Prop :=
  0 < line ∧ ∃ start, table.starts[line - 1]? = some start ∧ start ≤ offset

theorem start_lt_start {index next : Nat} {start nextStart : Int} (before : index < next)
    (start_eq : table.starts[index]? = some start)
    (next_eq : table.starts[next]? = some nextStart) : start < nextStart := by
  obtain ⟨bound, rfl⟩ := List.getElem?_eq_some_iff.mp start_eq
  obtain ⟨next_bound, rfl⟩ := List.getElem?_eq_some_iff.mp next_eq
  exact List.pairwise_iff_getElem.mp table.starts_ascending index next bound next_bound before

theorem start_nonneg {index : Nat} {start : Int} (start_eq : table.starts[index]? = some start) :
    0 ≤ start := by
  have first : table.starts[0]? = some 0 := by rw [← List.head?_eq_getElem?, table.begins]
  rcases Nat.eq_zero_or_pos index with rfl | positive
  · exact Int.le_of_eq (Option.some.inj (first.symm.trans start_eq))
  · exact Int.le_of_lt (table.start_lt_start positive first start_eq)

/-- The line of an offset is the last one that begins up to there. -/
theorem isGreatest_line (nonneg : 0 ≤ offset) :
    IsGreatest {line | table.BeginsUpTo offset line} (table.line offset) := by
  constructor
  · obtain ⟨start, start_eq, start_le, -⟩ := table.exists_start nonneg
    exact ⟨table.line_pos nonneg, start, start_eq, start_le⟩
  · intro line begins
    obtain ⟨positive, start, start_eq, start_le⟩ := begins
    have before : line - 1 < table.line offset := (table.start_le_iff start_eq).mp start_le
    omega

/-- An offset behind the start of a line and before that of the next one is in this line. -/
theorem line_eq {line : Nat} {start : Int} (positive : 0 < line)
    (start_eq : table.starts[line - 1]? = some start) (start_le : start ≤ offset)
    (next : ∀ next, table.starts[line]? = some next → offset < next) :
    table.line offset = line := by
  have reached : line - 1 < table.line offset := (table.start_le_iff start_eq).mp start_le
  have within : table.line offset ≤ table.starts.length := table.line_le_length
  rcases Nat.lt_or_ge line table.starts.length with more | last
  · have next_eq := List.getElem?_eq_getElem more
    have notReached := mt (table.start_le_iff next_eq).mpr (Int.not_le.mpr (next _ next_eq))
    omega
  · omega

theorem column_eq {start : Int} (start_eq : table.starts[table.line offset - 1]? = some start) :
    table.column offset = offset - start + 1 := by
  rw [column, List.getD_eq_getElem?_getD, start_eq, Option.getD_some]

theorem one_le_column (nonneg : 0 ≤ offset) : 1 ≤ table.column offset := by
  obtain ⟨start, -, start_le, column_eq⟩ := table.exists_start nonneg
  omega

theorem line_mono (nonneg : 0 ≤ offset) (before : offset ≤ later) :
    table.line offset ≤ table.line later := by
  obtain ⟨start, start_eq, start_le, -⟩ := table.exists_start nonneg
  have reached := (table.start_le_iff start_eq).mp (Int.le_trans start_le before)
  omega

theorem column_lt (nonneg : 0 ≤ offset) (before : offset < later)
    (same : table.line offset = table.line later) : table.column offset < table.column later := by
  obtain ⟨start, start_eq, -, column_eq⟩ := table.exists_start nonneg
  have later_column : table.column later = later - start + 1 :=
    table.column_eq (same ▸ start_eq)
  omega

end LineTable

namespace SourceFile

variable {file : SourceFile}

theorem linePosition_eq_ok_iff {line : Nat} {column position : Int} :
    file.linePosition line column = .ok position ↔
      0 < line ∧ ∃ start, file.lines.starts[line - 1]? = some start ∧
        position = file.base + start + column - 1 := by
  rw [linePosition]
  by_cases positive : 0 < line
  · have one_le : (1 : Int) ≤ line := by omega
    cases start_eq : file.lines.starts[line - 1]? with
    | none => simp [one_le, start_eq]
    | some start => simp [one_le, positive, start_eq, eq_comm]
  · have not_one_le : ¬(1 : Int) ≤ line := by omega
    simp [not_one_le, positive]

/-- The location is that of a position in the file, and it leads back to the position. -/
structure IsTranslation (file : SourceFile) (position : Int) (location : Location) : Prop where
  /-- It names the file. -/
  file_eq : location.file = file.name
  /-- Its offset counts from the first position of the file. -/
  offset_eq : location.offset = position - file.base
  /-- Its line is one of the file's. -/
  line_le : 1 ≤ location.line ∧ location.line ≤ file.lines.starts.length
  /-- Its line is the last one that begins up to the offset. -/
  greatest : IsGreatest {line | file.lines.BeginsUpTo location.offset line} location.line
  /-- Columns are counted from one. -/
  one_le_column : 1 ≤ location.column
  /-- The position of its line and its column is the position. -/
  back : file.linePosition location.line location.column = .ok position

theorem linePosition_line_column {position : Int} (inside : file.base ≤ position) :
    file.linePosition (file.lines.line (position - file.base))
      (file.lines.column (position - file.base)) = .ok position := by
  have nonneg : 0 ≤ position - file.base := Int.sub_nonneg_of_le inside
  obtain ⟨start, start_eq, -, column_eq⟩ := file.lines.exists_start nonneg
  refine linePosition_eq_ok_iff.mpr ⟨file.lines.line_pos nonneg, start, start_eq, ?_⟩
  rw [column_eq]
  omega

theorem isTranslation_locationAt {position : Int} (contains : file.Contains position) :
    file.IsTranslation position (file.locationAt (position - file.base)) := by
  have nonneg : 0 ≤ position - file.base := Int.sub_nonneg_of_le contains.1
  exact
    { file_eq := rfl
      offset_eq := rfl
      line_le := ⟨file.lines.line_pos nonneg, file.lines.line_le_length⟩
      greatest := file.lines.isGreatest_line nonneg
      one_le_column := file.lines.one_le_column nonneg
      back := linePosition_line_column contains.1 }

/-- The file has a place for the line and the column: it lies before the next line and not behind
the end of the file. -/
def HasPlace (file : SourceFile) (line : Nat) (column : Int) : Prop :=
  ∃ start, file.lines.starts[line - 1]? = some start ∧ start + (column - 1) ≤ file.size ∧
    ∀ next, file.lines.starts[line]? = some next → start + (column - 1) < next

theorem hasPlace_one_iff {line : Nat} (positive : 0 < line) :
    file.HasPlace line 1 ↔
      ∃ start, file.lines.starts[line - 1]? = some start ∧ start ≤ file.size := by
  refine exists_congr fun start => and_congr_right fun start_eq => ?_
  have before_next : ∀ next, file.lines.starts[line]? = some next → start < next :=
    fun next next_eq => file.lines.start_lt_start (by omega) start_eq next_eq
  simpa using fun _ => before_next

/-- All lines of the file begin in it. -/
def HoldsLines (file : SourceFile) : Prop :=
  ∀ start ∈ file.lines.starts, start ≤ file.size

/-- Where all lines begin in the file, it has a place for every column before the next line, and up
to its end in the last line. -/
theorem HoldsLines.hasPlace (holds : file.HoldsLines) {line : Nat} {column start : Int}
    (start_eq : file.lines.starts[line - 1]? = some start)
    (before_next : ∀ next, file.lines.starts[line]? = some next → start + (column - 1) < next)
    (last_within : line = file.lines.starts.length → start + (column - 1) ≤ file.size) :
    file.HasPlace line column := by
  refine ⟨start, start_eq, ?_, before_next⟩
  cases next_eq : file.lines.starts[line]? with
  | some next =>
      have next_le := holds next (List.mem_of_getElem? next_eq)
      have := before_next next next_eq
      omega
  | none =>
      have ends : file.lines.starts.length ≤ line := List.getElem?_eq_none_iff.mp next_eq
      have bound := (List.getElem?_eq_some_iff.mp start_eq).1
      exact last_within (by omega)

/-- The line and the column lead to a position of the file, and the location of that position is the
line and the column. -/
def LeadsBack (space : PositionSpace) (file : SourceFile) (line : Nat) (column : Int) : Prop :=
  ∃ position, file.linePosition line column = .ok position ∧ file.Contains position ∧
    space.location position = ⟨file.name, position - file.base, line, column⟩

end SourceFile

namespace PositionSpace

/-- The index of a file with a line and a column of it, compared in this order. -/
def coordinates (index : Nat) (location : Location) : ℕ ×ₗ ℕ ×ₗ ℤ :=
  toLex (index, toLex (location.line, location.column))

variable {space : PositionSpace}

theorem IsLaidOut.index_le (laidOut : space.IsLaidOut) {index later : Nat}
    {file laterFile : SourceFile} {position laterPosition : Int}
    (file_eq : space.files[index]? = some file) (contains : file.Contains position)
    (later_eq : space.files[later]? = some laterFile)
    (later_contains : laterFile.Contains laterPosition) (before : position < laterPosition) :
    index ≤ later := by
  by_contra behind
  obtain ⟨bound, rfl⟩ := List.getElem?_eq_some_iff.mp file_eq
  obtain ⟨later_bound, rfl⟩ := List.getElem?_eq_some_iff.mp later_eq
  have apart := List.pairwise_iff_getElem.mp laidOut.apart later index later_bound bound
    (Nat.lt_of_not_le behind)
  have := contains.1
  have := later_contains.2
  omega

theorem IsLaidOut.coordinates_lt (laidOut : space.IsLaidOut) {index later : Nat}
    {file laterFile : SourceFile} {position laterPosition : Int}
    (file_eq : space.files[index]? = some file) (contains : file.Contains position)
    (later_eq : space.files[later]? = some laterFile)
    (later_contains : laterFile.Contains laterPosition) (before : position < laterPosition) :
    coordinates index (space.location position) <
      coordinates later (space.location laterPosition) := by
  rw [location_of_contains laidOut (List.mem_of_getElem? file_eq) contains,
    location_of_contains laidOut (List.mem_of_getElem? later_eq) later_contains]
  have index_le := laidOut.index_le file_eq contains later_eq later_contains before
  rcases Nat.eq_or_lt_of_le index_le with rfl | index_lt
  · obtain rfl : file = laterFile := Option.some.inj (file_eq.symm.trans later_eq)
    have nonneg : 0 ≤ position - file.base := Int.sub_nonneg_of_le contains.1
    have offset_lt : position - file.base < laterPosition - file.base := by omega
    apply Prod.Lex.toLex_lt_toLex.mpr
    refine .inr ⟨rfl, Prod.Lex.toLex_lt_toLex.mpr ?_⟩
    rcases Nat.eq_or_lt_of_le (file.lines.line_mono nonneg (Int.le_of_lt offset_lt)) with
      same | line_lt
    · exact .inr ⟨same, file.lines.column_lt nonneg offset_lt same⟩
    · exact .inl line_lt
  · exact Prod.Lex.toLex_lt_toLex.mpr (.inl index_lt)

/-- After any requests for files, a position of a file has a location in it, in the last line that
begins up to the position and at least in the first column, and its line and column lead back to the
position.  Smaller positions have an earlier file, an earlier line or an earlier column. -/
theorem afterRequests_translates (requests : List FileRequest) :
    let space := afterRequests requests
    (∀ file ∈ space.files, ∀ position, file.Contains position →
      file.location position = .ok (space.location position) ∧
        file.IsTranslation position (space.location position)) ∧
    ∀ (index later : Nat) (file laterFile : SourceFile) (position laterPosition : Int),
      space.files[index]? = some file → file.Contains position →
      space.files[later]? = some laterFile → laterFile.Contains laterPosition →
      position < laterPosition →
        coordinates index (space.location position) <
          coordinates later (space.location laterPosition) := by
  intro space
  have laidOut : space.IsLaidOut := (isPartition_of_requests requests).toIsLaidOut
  constructor
  · intro file mem position contains
    rw [location_of_contains laidOut mem contains]
    exact ⟨SourceFile.location_of_contains contains, SourceFile.isTranslation_locationAt contains⟩
  · intro index later file laterFile position laterPosition file_eq contains later_eq later_contains
      before
    exact laidOut.coordinates_lt file_eq contains later_eq later_contains before

/-- A line and a column of a file lead back exactly if the file has a place for them. -/
theorem IsLaidOut.leadsBack_iff (laidOut : space.IsLaidOut) {file : SourceFile}
    (mem : file ∈ space.files) {line : Nat} {column : Int} (positive : 0 < line)
    (one_le : 1 ≤ column) : file.LeadsBack space line column ↔ file.HasPlace line column := by
  constructor
  · intro leads
    obtain ⟨position, position_eq, contains, location_eq⟩ := leads
    obtain ⟨-, start, start_eq, rfl⟩ := SourceFile.linePosition_eq_ok_iff.mp position_eq
    rw [location_of_contains laidOut mem contains] at location_eq
    have line_eq := congrArg Location.line location_eq
    have offset_eq : file.base + start + column - 1 - file.base = start + (column - 1) := by omega
    refine ⟨start, start_eq, ?_, fun next next_eq => ?_⟩
    · have within : file.base + start + column - 1 ≤ file.base + file.size := contains.2
      omega
    · have notReached := (file.lines.start_le_iff next_eq).not.mpr (Nat.not_lt_of_le line_eq.le)
      omega
  · intro place
    obtain ⟨start, start_eq, within, before_next⟩ := place
    have nonneg := file.lines.start_nonneg start_eq
    have contains : file.Contains (file.base + start + column - 1) := by
      refine ⟨by omega, ?_⟩
      rw [SourceFile.last]
      omega
    refine ⟨_, SourceFile.linePosition_eq_ok_iff.mpr ⟨positive, start, start_eq, rfl⟩, contains, ?_⟩
    have offset_eq : file.base + start + column - 1 - file.base = start + (column - 1) := by omega
    have line_eq : file.lines.line (start + (column - 1)) = line :=
      file.lines.line_eq positive start_eq (by omega) before_next
    have column_eq : file.lines.column (start + (column - 1)) = column := by
      rw [file.lines.column_eq (line_eq.symm ▸ start_eq)]
      omega
    rw [location_of_contains laidOut mem contains, offset_eq, SourceFile.locationAt, line_eq,
      column_eq]

theorem IsLaidOut.leadsBack_one_iff (laidOut : space.IsLaidOut) {file : SourceFile}
    (mem : file ∈ space.files) :
    (∀ line, 1 ≤ line → line ≤ file.lines.starts.length → file.LeadsBack space line 1) ↔
      file.HoldsLines := by
  have leads_iff (line : Nat) (positive : 1 ≤ line) :
      file.LeadsBack space line 1 ↔
        ∃ start, file.lines.starts[line - 1]? = some start ∧ start ≤ file.size :=
    (laidOut.leadsBack_iff mem positive (Int.le_refl 1)).trans
      (SourceFile.hasPlace_one_iff positive)
  constructor
  · intro leads start start_mem
    obtain ⟨index, bound, rfl⟩ := List.getElem_of_mem start_mem
    obtain ⟨start, start_eq, start_le⟩ :=
      (leads_iff (index + 1) (by omega)).mp (leads (index + 1) (by omega) (by omega))
    obtain ⟨_, rfl⟩ := List.getElem?_eq_some_iff.mp start_eq
    exact start_le
  · intro holds line positive line_le
    have start_eq := List.getElem?_eq_getElem (l := file.lines.starts) (i := line - 1) (by omega)
    exact (leads_iff line positive).mpr ⟨_, start_eq, holds _ (List.mem_of_getElem? start_eq)⟩

/-- After any requests for files, a line and a column of a file have a position.  It lies in the
file and its location is the line and the column exactly if it lies before the next line and not
behind the end of the file; so all lines lead back exactly if the file holds their beginnings, and
then all columns do that lie before the next line, or up to the end of the file in the last line. -/
theorem afterRequests_leadsBack_iff (requests : List FileRequest) :
    let space := afterRequests requests
    ∀ file ∈ space.files,
      (∀ (line : Nat) (column : Int), 1 ≤ line → line ≤ file.lines.starts.length → 1 ≤ column →
        (∃ position, file.linePosition line column = .ok position) ∧
          (file.LeadsBack space line column ↔ file.HasPlace line column)) ∧
      ((∀ line, 1 ≤ line → line ≤ file.lines.starts.length → file.LeadsBack space line 1) ↔
        file.HoldsLines) ∧
      (file.HoldsLines →
        ∀ (line : Nat) (column start : Int), 1 ≤ line → file.lines.starts[line - 1]? = some start →
          1 ≤ column →
          (∀ next, file.lines.starts[line]? = some next → start + (column - 1) < next) →
          (line = file.lines.starts.length → start + (column - 1) ≤ file.size) →
            file.LeadsBack space line column) := by
  intro space file mem
  have laidOut : space.IsLaidOut := (isPartition_of_requests requests).toIsLaidOut
  refine ⟨fun line column positive line_le one_le => ⟨?_, ?_⟩, laidOut.leadsBack_one_iff mem, ?_⟩
  · have start_eq := List.getElem?_eq_getElem (l := file.lines.starts) (i := line - 1) (by omega)
    exact ⟨_, SourceFile.linePosition_eq_ok_iff.mpr ⟨positive, _, start_eq, rfl⟩⟩
  · exact laidOut.leadsBack_iff mem positive one_le
  · intro holds line column start positive start_eq one_le before_next last_within
    refine (laidOut.leadsBack_iff mem positive one_le).mpr ?_
    exact holds.hasPlace start_eq before_next last_within

end PositionSpace

namespace Specimen

/-- Two files, of which the first has a line that begins in the second one. -/
def requestsBeyondEnd : List FileRequest := [⟨"a.go", 3, [0, 5]⟩, ⟨"b.go", 9, [0, 4]⟩]

/-- The end of the first file belongs to its first line, and the second file follows. -/
theorem coordinates_beyondEnd :
    let space := PositionSpace.afterRequests requestsBeyondEnd
    (∃ file ∈ space.files, file.Contains 4 ∧ file.IsTranslation 4 (space.location 4)) ∧
      PositionSpace.coordinates 0 (space.location 4) <
        PositionSpace.coordinates 1 (space.location 5) := by
  intro space
  obtain ⟨translates, ordered⟩ := PositionSpace.afterRequests_translates requestsBeyondEnd
  have holds (index : Nat) (position : Int)
      (held : (space.files[index]?).any (·.Contains position) = true) :
      ∃ file, space.files[index]? = some file ∧ file.Contains position := by
    simpa [Option.any_eq_true] using held
  obtain ⟨first, first_eq, first_contains⟩ := holds 0 4 (by decide +kernel)
  obtain ⟨second, second_eq, second_contains⟩ := holds 1 5 (by decide +kernel)
  have mem := List.mem_of_getElem? first_eq
  exact ⟨⟨first, mem, first_contains, (translates first mem 4 first_contains).2⟩,
    ordered 0 1 first second 4 5 first_eq first_contains second_eq second_contains (by decide)⟩

/-- The first line of the first file leads back up to the end of the file and the second line does
not; in the second file, which holds its lines, the second line leads back up to the end. -/
theorem leadsBack_beyondEnd :
    let space := PositionSpace.afterRequests requestsBeyondEnd
    (∃ file ∈ space.files, file.request = ⟨"a.go", 3, [0, 5]⟩ ∧
      file.LeadsBack space 1 4 ∧ ¬file.LeadsBack space 2 1) ∧
    ∃ file ∈ space.files, file.request = ⟨"b.go", 9, [0, 4]⟩ ∧ file.LeadsBack space 2 6 := by
  intro space
  have holds (index : Nat) (request : FileRequest)
      (held : (space.files[index]?).map SourceFile.request = some request) :
      ∃ file ∈ space.files, file.request = request := by
    obtain ⟨file, file_eq, request_eq⟩ := Option.map_eq_some_iff.mp held
    exact ⟨file, List.mem_of_getElem? file_eq, request_eq⟩
  obtain ⟨first, first_mem, first_eq⟩ := holds 0 ⟨"a.go", 3, [0, 5]⟩ (by decide +kernel)
  obtain ⟨second, second_mem, second_eq⟩ := holds 1 ⟨"b.go", 9, [0, 4]⟩ (by decide +kernel)
  have first_starts : first.lines.starts = [0, 5] := congrArg FileRequest.starts first_eq
  have first_size : (first.size : Int) = 3 := congrArg FileRequest.size first_eq
  have second_starts : second.lines.starts = [0, 4] := congrArg FileRequest.starts second_eq
  have second_size : (second.size : Int) = 9 := congrArg FileRequest.size second_eq
  obtain ⟨leads_iff, -, -⟩ :=
    PositionSpace.afterRequests_leadsBack_iff requestsBeyondEnd first first_mem
  obtain ⟨-, -, leads⟩ :=
    PositionSpace.afterRequests_leadsBack_iff requestsBeyondEnd second second_mem
  refine ⟨⟨first, first_mem, first_eq, ?_, ?_⟩, second, second_mem, second_eq, ?_⟩
  · refine (leads_iff 1 4 (by decide) (by simp [first_starts]) (by decide)).2.mpr ?_
    exact ⟨0, by simp [first_starts], by omega, by simp [first_starts]⟩
  · refine (leads_iff 2 1 (by decide) (by simp [first_starts]) (by decide)).2.not.mpr ?_
    simp [SourceFile.HasPlace, first_starts, first_size]
  · have holdsLines : second.HoldsLines := by
      simp [SourceFile.HoldsLines, second_starts, second_size]
    exact leads holdsLines 2 6 4 (by decide) (by simp [second_starts]) (by decide)
      (by simp [second_starts]) (by omega)

/-- The position of the second line of the first file is in the second file. -/
theorem linePosition_beyondEnd :
    let space := PositionSpace.afterRequests requestsBeyondEnd
    ∃ file ∈ space.files, file.request = ⟨"a.go", 3, [0, 5]⟩ ∧
      file.linePosition 2 1 = .ok 6 ∧ ¬file.Contains 6 ∧
      space.location 6 = ⟨"b.go", 1, 1, 2⟩ := by
  intro space
  have first : (space.files[0]?).any (fun file => file.request = ⟨"a.go", 3, [0, 5]⟩ ∧
      file.linePosition 2 1 = .ok 6 ∧ ¬file.Contains 6) = true := by decide +kernel
  obtain ⟨file, file_eq, holds⟩ := (Option.any_eq_true _ _).mp first
  obtain ⟨request_eq, position_eq, outside⟩ := of_decide_eq_true holds
  exact ⟨file, List.mem_of_getElem? file_eq, request_eq, position_eq, outside, by decide +kernel⟩

end Specimen

end ShadowLint
