import Mathlib.Data.List.Induction
import ShadowLint.Proofs.Source.Layout

/-!
# Files share the positions among them

Whatever files are asked for, one after the other, those that are accepted share the positions up to
the first free one among them.  Every position is found in the one file that it belongs to, and
there in the one line that it belongs to.
-/

namespace ShadowLint

theorem isAscending_iff {numbers : List Int} :
    isAscending numbers = true ↔ numbers.Pairwise (· < ·) := by
  rw [← List.isChain_iff_pairwise]
  induction numbers with
  | nil => simp [isAscending]
  | cons first rest ih =>
      cases rest with
      | nil => simp [isAscending]
      | cons second rest => simp [isAscending, ih]

namespace LineTable

variable (table : LineTable) {offset : Int}

theorem starts_ascending : table.starts.Pairwise (· < ·) :=
  isAscending_iff.mp table.ascends

/-- The lines that begin up to an offset are those up to the one that holds it. -/
theorem start_le_iff {index : Nat} {start : Int} (start_eq : table.starts[index]? = some start) :
    start ≤ offset ↔ index < table.line offset := by
  obtain ⟨bound, rfl⟩ := List.getElem?_eq_some_iff.mp start_eq
  have ascending : table.starts.toArray.toList.Pairwise (· ≤ ·) :=
    table.starts_ascending.imp Int.le_of_lt
  exact getElem_le_iff_lt_upperBound offset ascending index bound

theorem line_le_length : table.line offset ≤ table.starts.length :=
  upperBound_le_size table.starts.toArray offset

/-- The first line begins with the file, so no offset lies before all lines. -/
theorem line_pos (nonneg : 0 ≤ offset) : 0 < table.line offset := by
  have first : table.starts[0]? = some 0 := by rw [← List.head?_eq_getElem?, table.begins]
  exact (table.start_le_iff first).mp nonneg

/-- The line that holds an offset begins up to there, and the column counts from its start. -/
theorem exists_start (nonneg : 0 ≤ offset) :
    ∃ start, table.starts[table.line offset - 1]? = some start ∧ start ≤ offset ∧
      table.column offset = offset - start + 1 := by
  have positive := table.line_pos nonneg
  have bound : table.line offset - 1 < table.starts.length := by
    have within : table.line offset ≤ table.starts.length := table.line_le_length
    omega
  have start_eq := List.getElem?_eq_getElem bound
  refine ⟨_, start_eq, (table.start_le_iff start_eq).mpr (by omega), ?_⟩
  rw [column, List.getD_eq_getElem?_getD, start_eq, Option.getD_some]

end LineTable

namespace SourceFile

/-- The location tells where in the file a position stands: in the last line that begins up to
there. -/
structure IsLocation (file : SourceFile) (position : Int) (location : Location) : Prop where
  /-- It names the file. -/
  file_eq : location.file = file.name
  /-- Its offset counts from the first position of the file. -/
  offset_eq : location.offset = position - file.base
  /-- Its line is one of the file's, and its column counts from the start of that line. -/
  start : 0 < location.line ∧ ∃ start, file.lines.starts[location.line - 1]? = some start ∧
    start ≤ location.offset ∧ location.column = location.offset - start + 1
  /-- The next line begins behind it. -/
  next : ∀ next, file.lines.starts[location.line]? = some next → location.offset < next

theorem isLocation_locationAt {file : SourceFile} {position : Int}
    (contains : file.Contains position) :
    file.IsLocation position (file.locationAt (position - file.base)) := by
  have nonneg : 0 ≤ position - file.base := Int.sub_nonneg_of_le contains.1
  refine ⟨rfl, rfl, ⟨file.lines.line_pos nonneg, file.lines.exists_start nonneg⟩, ?_⟩
  intro next next_eq
  exact Int.not_le.mp ((file.lines.start_le_iff next_eq).not.mpr (Nat.lt_irrefl _))

theorem location_of_contains {file : SourceFile} {position : Int}
    (contains : file.Contains position) :
    file.location position = .ok (file.locationAt (position - file.base)) := by
  rw [location, offset, if_pos contains]
  rfl

end SourceFile

/-- A file that is asked for. -/
structure FileRequest where
  /-- Name of the file. -/
  name : String
  /-- Its size in bytes. -/
  size : Int
  /-- The offsets at which its lines begin. -/
  starts : List Int
deriving DecidableEq, Repr

/-- The file has a size, and its lines begin with its start and one after the other. -/
def FileRequest.IsAcceptable (request : FileRequest) : Prop :=
  0 ≤ request.size ∧ request.starts.head? = some 0 ∧ request.starts.Pairwise (· < ·)

instance (request : FileRequest) : Decidable request.IsAcceptable :=
  inferInstanceAs (Decidable (_ ∧ _))

/-- What was asked for when the file was added. -/
def SourceFile.request (file : SourceFile) : FileRequest :=
  ⟨file.name, file.size, file.lines.starts⟩

namespace PositionSpace

/-- The number of positions that files take, one more for each than its size. -/
def taken (files : List SourceFile) : Int :=
  files.foldl (fun total file => total + (file.size + 1)) 0

/-- The files share the positions from one up to the first free one among them. -/
structure IsPartition (space : PositionSpace) : Prop extends IsLaidOut space where
  /-- A file begins behind the positions that the files before it take. -/
  base_eq : ∀ (index : Nat) (file : SourceFile), space.files[index]? = some file →
    file.base = 1 + taken (space.files.take index)
  /-- The first free position is the one behind those that all files take. -/
  nextBase_eq : space.nextBase = 1 + taken space.files
  /-- A position lies in a file if it lies before the first free one and is a position at all. -/
  covers : ∀ position, (∃ file ∈ space.files, file.Contains position) ↔
    1 ≤ position ∧ position < space.nextBase
  /-- The lines of a file begin with its start and one after the other. -/
  lines : ∀ file ∈ space.files,
    file.lines.starts.head? = some 0 ∧ file.lines.starts.Pairwise (· < ·)

theorem isPartition_empty : empty.IsPartition where
  toIsLaidOut := isLaidOut_empty
  base_eq := by simp [empty]
  nextBase_eq := rfl
  covers position := by
    simp only [empty, List.not_mem_nil, false_and, exists_false, false_iff]
    omega
  lines := by simp [empty]

/-- A file with the first free position as its base takes positions up to the next free one. -/
theorem IsPartition.append {space : PositionSpace} (partition : space.IsPartition)
    {file : SourceFile} (base_eq : file.base = space.nextBase) :
    IsPartition ⟨space.files ++ [file], file.last + 1⟩ := by
  refine ⟨partition.toIsLaidOut.append base_eq, ?_, ?_, ?_, ?_⟩
  · intro index other found
    rcases Dump.getElem?_concat_eq_some_iff.mp found with found | ⟨rfl, rfl⟩
    · have earlier := (List.getElem?_eq_some_iff.mp found).1
      dsimp only
      rw [List.take_append_of_le_length (Nat.le_of_lt earlier)]
      exact partition.base_eq index other found
    · dsimp only
      rw [List.take_left, base_eq, partition.nextBase_eq]
  · have taken_eq : taken (space.files ++ [file]) = taken space.files + (file.size + 1) := by
      rw [taken, List.foldl_append, taken, List.foldl_cons, List.foldl_nil]
    dsimp only
    rw [taken_eq, SourceFile.last, base_eq, partition.nextBase_eq]
    omega
  · intro position
    have free : 0 < space.nextBase := partition.free
    simp only [List.mem_append, List.mem_singleton, or_and_right, exists_or, exists_eq_left]
    rw [partition.covers, SourceFile.Contains, SourceFile.last, base_eq]
    omega
  · intro other mem
    exact ⟨other.lines.begins, other.lines.starts_ascending⟩

theorem IsPartition.add {space after : PositionSpace} (partition : space.IsPartition)
    {name : String} {size : Int} {starts : List Int}
    (added : space.add name size starts = .ok after) : after.IsPartition := by
  obtain ⟨-, lines, -, rfl⟩ := add_eq_ok added
  exact partition.append rfl

/-- Adds a file that is asked for.  If it is refused, nothing changes. -/
def afterRequest (space : PositionSpace) (request : FileRequest) : PositionSpace :=
  match space.add request.name request.size request.starts with
  | .ok after => after
  | .error _ => space

/-- The files after all requests. -/
def afterRequests (requests : List FileRequest) : PositionSpace :=
  requests.foldl afterRequest empty

section Request

variable (space : PositionSpace) (request : FileRequest)

/-- A file is refused exactly if it is not acceptable. -/
theorem exists_add_eq_error_iff :
    (∃ fault, space.add request.name request.size request.starts = .error fault) ↔
      ¬request.IsAcceptable := by
  unfold add LineTable.ofStarts FileRequest.IsAcceptable
  by_cases negative : request.size < 0
  · rw [if_pos negative]
    exact iff_of_true ⟨_, rfl⟩ fun acceptable => Int.not_le.mpr negative acceptable.1
  · rw [if_neg negative]
    by_cases begins : request.starts.head? = some 0
    · by_cases ascends : isAscending request.starts = true
      · rw [dif_pos begins, dif_pos ascends]
        refine iff_of_false nofun (not_not.mpr ?_)
        exact ⟨Int.not_lt.mp negative, begins, isAscending_iff.mp ascends⟩
      · rw [dif_pos begins, dif_neg ascends]
        exact iff_of_true ⟨_, rfl⟩ fun acceptable => ascends (isAscending_iff.mpr acceptable.2.2)
    · rw [dif_neg begins]
      exact iff_of_true ⟨_, rfl⟩ fun acceptable => begins acceptable.2.1

variable {space request}

theorem afterRequest_of_not_isAcceptable (refused : ¬request.IsAcceptable) :
    space.afterRequest request = space := by
  obtain ⟨fault, error⟩ := (exists_add_eq_error_iff space request).mpr refused
  rw [afterRequest, error]

/-- An acceptable file is added behind the others. -/
theorem afterRequest_of_isAcceptable (space : PositionSpace) (acceptable : request.IsAcceptable) :
    ∃ file : SourceFile, file.request = request ∧ file.base = space.nextBase ∧
      space.afterRequest request = ⟨space.files ++ [file], file.last + 1⟩ := by
  unfold afterRequest
  cases added : space.add request.name request.size request.starts with
  | error fault => exact absurd acceptable ((exists_add_eq_error_iff space request).mp ⟨_, added⟩)
  | ok after =>
      obtain ⟨nonneg, lines, starts_eq, rfl⟩ := add_eq_ok added
      refine ⟨⟨request.name, space.nextBase, request.size.toNat, lines⟩, ?_, rfl, rfl⟩
      rw [SourceFile.request, Int.toNat_of_nonneg nonneg, starts_eq]

theorem IsPartition.afterRequest (partition : space.IsPartition) (request : FileRequest) :
    (space.afterRequest request).IsPartition := by
  unfold PositionSpace.afterRequest
  split
  · rename_i after added
    exact partition.add added
  · exact partition

theorem files_afterRequest :
    (space.afterRequest request).files.map SourceFile.request =
      space.files.map SourceFile.request ++ [request].filter (·.IsAcceptable) := by
  by_cases acceptable : request.IsAcceptable
  · obtain ⟨file, rfl, -, after_eq⟩ := afterRequest_of_isAcceptable space acceptable
    simp [after_eq, acceptable]
  · simp [afterRequest_of_not_isAcceptable acceptable, acceptable]

end Request

theorem isPartition_of_requests (requests : List FileRequest) :
    (afterRequests requests).IsPartition :=
  List.foldlRecOn requests _ isPartition_empty fun _ partition request _ =>
    partition.afterRequest request

theorem files_afterRequests (requests : List FileRequest) :
    (afterRequests requests).files.map SourceFile.request = requests.filter (·.IsAcceptable) := by
  induction requests using List.reverseRecOn with
  | nil => rfl
  | append_singleton earlier request ih =>
      rw [afterRequests, List.foldl_append, List.filter_append, ← ih]
      exact files_afterRequest

theorem location_isValid_iff {space : PositionSpace} (position : Int) :
    (space.location position).isValid = true ↔ (space.fileAt? position).isSome := by
  unfold location
  cases found : space.fileAt? position with
  | none => simp [Location.isValid, Location.unknown]
  | some file =>
      obtain ⟨-, contains⟩ := mem_of_fileAt?_eq_some found
      simpa [Location.isValid] using (SourceFile.isLocation_locationAt contains).start.1

/-- After any requests the files are those of the acceptable requests in their order, they share the
positions up to the first free one among them, and a request that is not acceptable is refused and
changes nothing.  A position is found in the one file that holds it, if there is one; then it has a
location there, and otherwise its location is not valid. -/
theorem afterRequests_isPartition (requests : List FileRequest) :
    let space := afterRequests requests
    space.IsPartition ∧
      space.files.map SourceFile.request = requests.filter (·.IsAcceptable) ∧
      (∀ request : FileRequest,
        ((∃ fault, space.add request.name request.size request.starts = .error fault) ↔
          ¬request.IsAcceptable) ∧
        (¬request.IsAcceptable → afterRequests (requests ++ [request]) = space)) ∧
      ∀ position : Int,
        (∀ index, space.fileIndex? position = some index ↔
          ∃ file, space.files[index]? = some file ∧ file.Contains position) ∧
        (∀ file, space.fileAt? position = some file ↔
          file ∈ space.files ∧ file.Contains position) ∧
        (space.fileAt? position = none ↔ ∀ file ∈ space.files, ¬file.Contains position) ∧
        ((space.location position).isValid = false ↔ space.fileAt? position = none) ∧
        ∀ file, space.fileAt? position = some file →
          file.location position = .ok (space.location position) ∧
            file.IsLocation position (space.location position) := by
  intro space
  have partition : space.IsPartition := isPartition_of_requests requests
  have laidOut := partition.toIsLaidOut
  refine ⟨partition, files_afterRequests requests, fun request => ⟨exists_add_eq_error_iff space
    request, fun refused => ?_⟩, fun position => ⟨fun index => fileIndex?_eq_some_iff laidOut,
    fun file => fileAt?_eq_some_iff laidOut, fileAt?_eq_none_iff laidOut, ?_, fun file found => ?_⟩⟩
  · rw [afterRequests, List.foldl_append]
    exact afterRequest_of_not_isAcceptable refused
  · rw [← Bool.not_eq_true, location_isValid_iff, Option.not_isSome_iff_eq_none]
  · obtain ⟨mem, contains⟩ := mem_of_fileAt?_eq_some found
    rw [location_of_contains laidOut mem contains]
    exact ⟨SourceFile.location_of_contains contains, SourceFile.isLocation_locationAt contains⟩

end PositionSpace

namespace Specimen

/-- Four files, of which the second has no size and the third has two lines that begin together. -/
def requestsWithFaults : List FileRequest :=
  [⟨"a", 20, [0, 8, 15]⟩, ⟨"b", -1, [0]⟩, ⟨"c", 9, [0, 4, 4]⟩, ⟨"d", 0, [0]⟩]

/-- The empty file follows the end of the first one, and what lies behind it is free. -/
theorem fileIndex?_afterRequestsWithFaults :
    let space := PositionSpace.afterRequests requestsWithFaults
    space.fileIndex? 21 = some 0 ∧ space.fileIndex? 22 = some 1 ∧ space.fileAt? 23 = none ∧
      PositionSpace.afterRequests (requestsWithFaults ++ [⟨"e", 3, []⟩]) = space := by
  intro space
  obtain ⟨partition, -, refusals, lookups⟩ :=
    PositionSpace.afterRequests_isPartition requestsWithFaults
  have holds (index : Nat) (position : Int)
      (held : (space.files[index]?).any (·.Contains position) = true) :
      space.fileIndex? position = some index := by
    refine ((lookups position).1 index).mpr ?_
    simpa [Option.any_eq_true] using held
  refine ⟨holds 0 21 (by decide +kernel), holds 1 22 (by decide +kernel), ?_,
    (refusals ⟨"e", 3, []⟩).2 (by decide)⟩
  refine (lookups 23).2.2.1.mpr fun file mem contains => ?_
  have before_free := ((partition.covers 23).mp ⟨file, mem, contains⟩).2
  have free : (PositionSpace.afterRequests requestsWithFaults).nextBase = 23 := by decide +kernel
  omega

end Specimen

end ShadowLint
