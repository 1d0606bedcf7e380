import Mathlib.Data.List.Pairwise
import ShadowLint.Proofs.Dump.Package

/-!
# The layout of files in one position space

Files are added one behind the other, and no position lies in two of them.  The file of a position,
its offset and its line are therefore those of the one file that holds it.
-/

namespace ShadowLint

namespace PositionSpace

/-- The files lie one behind the other, and all of them between nowhere and the first free
position. -/
structure IsLaidOut (space : PositionSpace) : Prop where
  /-- Every file ends before the later ones. -/
  apart : space.files.Pairwise fun earlier later => earlier.last < later.base
  /-- No file reaches to nowhere or to the free positions. -/
  inside : ∀ file ∈ space.files, noPosition < file.base ∧ file.last < space.nextBase
  /-- Nowhere is not free. -/
  free : noPosition < space.nextBase

theorem isLaidOut_empty : empty.IsLaidOut where
  apart := .nil
  inside := by simp [empty]
  free := by decide

/-- A file with the first free position as its base lies behind all others. -/
theorem IsLaidOut.append {space : PositionSpace} (laidOut : space.IsLaidOut) {file : SourceFile}
    (base_eq : file.base = space.nextBase) :
    IsLaidOut ⟨space.files ++ [file], file.last + 1⟩ := by
  have long : file.base ≤ file.last := by
    unfold SourceFile.last
    omega
  have free := laidOut.free
  refine ⟨?_, ?_, ?_⟩
  · refine List.pairwise_append.mpr ⟨laidOut.apart, List.pairwise_singleton .., ?_⟩
    intro earlier mem later later_mem
    obtain rfl := List.mem_singleton.mp later_mem
    exact base_eq ▸ (laidOut.inside earlier mem).2
  · intro other mem
    rcases List.mem_append.mp mem with mem | mem
    · have inside := laidOut.inside other mem
      exact ⟨inside.1, by dsimp only; omega⟩
    · obtain rfl := List.mem_singleton.mp mem
      exact ⟨by omega, by dsimp only; omega⟩
  · dsimp only
    omega

theorem IsLaidOut.add {space after : PositionSpace} (laidOut : space.IsLaidOut) {name : String}
    {size : Int} {starts : List Int} (added : space.add name size starts = .ok after) :
    after.IsLaidOut := by
  obtain ⟨-, lines, -, rfl⟩ := add_eq_ok added
  exact laidOut.append rfl

section Lookup

variable {space : PositionSpace} {file : SourceFile} {position : Int}

/-- No position lies in two files. -/
theorem IsLaidOut.eq_of_contains (laidOut : space.IsLaidOut) {other : SourceFile}
    (mem : file ∈ space.files) (other_mem : other ∈ space.files)
    (contains : file.Contains position) (other_contains : other.Contains position) :
    file = other := by
  let Agree (left right : SourceFile) : Prop :=
    left.Contains position → right.Contains position → left = right
  have symmetric : Std.Symm Agree := ⟨fun _ _ agree first second => (agree second first).symm⟩
  have agree : space.files.Pairwise Agree := laidOut.apart.imp fun before first second => by
    have := first.2
    have := second.1
    omega
  exact agree.forall_of_forall (fun _ _ _ _ => rfl) mem other_mem contains other_contains

/-- The files begin at ascending positions. -/
theorem IsLaidOut.bases_ascending (laidOut : space.IsLaidOut) :
    (space.files.map (·.base)).Pairwise (· < ·) := by
  refine List.pairwise_map.mpr (laidOut.apart.imp fun {earlier later} before => ?_)
  unfold SourceFile.last at before
  omega

theorem fileIndex?_eq_some {index : Nat} (found : space.fileIndex? position = some index) :
    ∃ file, space.files[index]? = some file ∧ file.Contains position := by
  unfold fileIndex? at found
  split at found
  · cases found
  · split at found
    · cases found
    · split at found
      · rename_i holds
        obtain rfl := Option.some.inj found
        simpa [Option.any_eq_true] using holds
      · cases found

/-- The last file that begins up to a position is the only one that can hold it. -/
theorem fileIndex?_eq_some_iff (laidOut : space.IsLaidOut) {index : Nat} :
    space.fileIndex? position = some index ↔
      ∃ file, space.files[index]? = some file ∧ file.Contains position := by
  refine ⟨fileIndex?_eq_some, ?_⟩
  rintro ⟨file, file_eq, contains⟩
  obtain ⟨bound, rfl⟩ := List.getElem?_eq_some_iff.mp file_eq
  have positive : noPosition < position :=
    Int.lt_of_lt_of_le (laidOut.inside _ (List.getElem_mem bound)).1 contains.1
  have count_eq : upperBound (space.files.map (·.base)).toArray position = index + 1 := by
    refine upperBound_eq_add_one (laidOut.bases_ascending.imp Int.le_of_lt) (by simpa using bound)
      (by simpa using contains.1) fun next => ?_
    have next_bound : index + 1 < space.files.length := by simpa using next
    have before := List.pairwise_iff_getElem.mp laidOut.apart index (index + 1) bound next_bound
      (Nat.lt_succ_self index)
    simpa using Int.lt_of_le_of_lt contains.2 before
  rw [fileIndex?, if_neg (Int.ne_of_gt positive), count_eq]
  simp [file_eq, contains]

theorem mem_of_fileAt?_eq_some (found : space.fileAt? position = some file) :
    file ∈ space.files ∧ file.Contains position := by
  obtain ⟨index, index_eq, file_eq⟩ := Option.bind_eq_some_iff.mp found
  obtain ⟨other, other_eq, contains⟩ := fileIndex?_eq_some index_eq
  obtain rfl : other = file := Option.some.inj (other_eq.symm.trans file_eq)
  exact ⟨List.mem_of_getElem? other_eq, contains⟩

theorem fileAt?_eq_some_iff (laidOut : space.IsLaidOut) :
    space.fileAt? position = some file ↔ file ∈ space.files ∧ file.Contains position := by
  refine ⟨mem_of_fileAt?_eq_some, ?_⟩
  rintro ⟨mem, contains⟩
  obtain ⟨index, file_eq⟩ := List.getElem?_of_mem mem
  rw [fileAt?, (fileIndex?_eq_some_iff laidOut).mpr ⟨file, file_eq, contains⟩, Option.bind_some,
    file_eq]

theorem fileAt?_eq_none_iff (laidOut : space.IsLaidOut) :
    space.fileAt? position = none ↔ ∀ file ∈ space.files, ¬file.Contains position := by
  simp only [Option.eq_none_iff_forall_ne_some, ne_eq, fileAt?_eq_some_iff laidOut, not_and]

theorem location_of_contains (laidOut : space.IsLaidOut) (mem : file ∈ space.files)
    (contains : file.Contains position) :
    space.location position = file.locationAt (position - file.base) := by
  rw [location, (fileAt?_eq_some_iff laidOut).mpr ⟨mem, contains⟩]

end Lookup

end PositionSpace

namespace Dump

theorem isLaidOut_of_addFile {symbolCount : Nat} {read after : FilesRead} {entry : Json}
    (laidOut : read.space.IsLaidOut) (added : addFile symbolCount read entry = .ok after) :
    after.space.IsLaidOut := by
  obtain ⟨_, _, _, _, _, _, _, _, _, -, -, -, -, -, space_eq, -, -, -, rfl⟩ :=
    addFile_eq_ok_iff.mp added
  exact laidOut.add space_eq

/-- The files of a package that was read are laid out one behind the other. -/
theorem isLaidOut_of_package {document : Json} {result : Package}
    (read : package document = .ok result) : result.space.IsLaidOut := by
  obtain ⟨_, _, _, _, _, _, filesRead, -, -, -, -, -, -, filesRead_eq, rfl⟩ :=
    package_eq_ok_iff.mp read
  exact foldlM_induction (motive := fun filesRead => filesRead.space.IsLaidOut)
    (fun _ _ _ => isLaidOut_of_addFile) PositionSpace.isLaidOut_empty filesRead_eq

end Dump
end ShadowLint
