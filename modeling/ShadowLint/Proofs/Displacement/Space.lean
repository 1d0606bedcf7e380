import ShadowLint.Proofs.Source.Layout

/-!
# Files behind one more file

When one more file is put in front of the others, they move on by its size and one, and so does
every position in them.  Nowhere stays nowhere.  Displaced positions keep their order, and the
location of a displaced position is that of the position.
-/

namespace ShadowLint

/-- The position moved on by an offset.  The position of nothing stays. -/
def displace (offset : Nat) (position : Int) : Int :=
  if position = noPosition then noPosition else position + offset

section Order

variable {offset : Nat} {left right : Int}

@[simp]
theorem displace_noPosition (offset : Nat) : displace offset noPosition = noPosition := if_pos rfl

theorem displace_of_pos {position : Int} (positive : noPosition < position) :
    displace offset position = position + offset :=
  if_neg (Int.ne_of_gt positive)

/-- What stands behind a token moves on with the token. -/
theorem displace_add (offset : Nat) {position : Int} (positive : noPosition < position)
    (width : Nat) :
    displace offset (position + width) = displace offset position + width ∧
      noPosition < position + width := by
  unfold displace noPosition at *
  split <;> split <;> omega

theorem displace_lt_iff (left_ok : noPosition ≤ left) (right_ok : noPosition ≤ right) :
    displace offset left < displace offset right ↔ left < right := by
  unfold displace noPosition at *
  split <;> split <;> omega

theorem displace_le_iff (left_ok : noPosition ≤ left) (right_ok : noPosition ≤ right) :
    displace offset left ≤ displace offset right ↔ left ≤ right := by
  rw [← Int.not_lt, displace_lt_iff right_ok left_ok, Int.not_lt]

theorem displace_inj (left_ok : noPosition ≤ left) (right_ok : noPosition ≤ right) :
    displace offset left = displace offset right ↔ left = right := by
  rw [Int.le_antisymm_iff, displace_le_iff left_ok right_ok, displace_le_iff right_ok left_ok,
    Int.le_antisymm_iff]

theorem displace_eq_noPosition_iff {position : Int} (nonneg : noPosition ≤ position) :
    displace offset position = noPosition ↔ position = noPosition := by
  unfold displace noPosition at *
  split <;> omega

/-- Ascending positions ascend where they move on. -/
theorem pairwise_displaced (offset : Nat) {positions : List Int}
    (ascending : positions.Pairwise (· < ·))
    (nonneg : ∀ position ∈ positions, noPosition ≤ position) :
    (positions.map (displace offset)).Pairwise (· < ·) := by
  refine List.pairwise_map.mpr (ascending.imp_of_mem ?_)
  intro left right left_mem right_mem before
  exact (displace_lt_iff (nonneg left left_mem) (nonneg right right_mem)).mpr before

end Order

/-- The file at a displaced place. -/
def SourceFile.displaced (offset : Nat) (file : SourceFile) : SourceFile :=
  { file with base := file.base + offset }

namespace SourceFile

variable {file : SourceFile} {offset : Nat} {position : Int}

theorem base_displaced (offset : Nat) (file : SourceFile) :
    (file.displaced offset).base = file.base + offset := rfl

theorem last_displaced (offset : Nat) (file : SourceFile) :
    (file.displaced offset).last = file.last + offset := by
  rw [last, base_displaced, last, Int.add_right_comm]
  rfl

theorem contains_displaced_iff (inside : noPosition < file.base) :
    (file.displaced offset).Contains (displace offset position) ↔ file.Contains position := by
  unfold Contains last displaced displace noPosition at *
  dsimp only
  split <;> omega

end SourceFile

namespace PositionSpace

/-- The positions that a file takes, and that others move on by when it comes first. -/
def shift (front : SourceFile) : Nat := front.size + 1

/-- The files behind one more file. -/
def behind (front : SourceFile) (space : PositionSpace) : PositionSpace :=
  ⟨front :: space.files.map (·.displaced (shift front)), space.nextBase + shift front⟩

variable {space : PositionSpace} {front : SourceFile} {position : Int}

/-- A file with a valid line table is added as the first one. -/
theorem add_empty {front : SourceFile} (first : front.base = 1) :
    empty.add front.name front.size front.lines.starts = .ok (empty.behind front) := by
  obtain ⟨name, base, size, starts, begins, ascends⟩ := front
  obtain rfl : base = 1 := first
  have nonneg : ¬(size : Int) < 0 := by omega
  rw [add, if_neg nonneg, LineTable.ofStarts, dif_pos begins, dif_pos ascends]
  simp only [behind, empty, shift, SourceFile.last, Int.toNat_natCast, bind, Except.bind, pure,
    Except.pure, List.nil_append, List.map_nil, Except.ok.injEq, PositionSpace.mk.injEq, true_and]
  omega

/-- A file is added behind one more file as it is added without it. -/
theorem add_behind (space : PositionSpace) (name : String) (size : Int) (starts : List Int) :
    (space.behind front).add name size starts =
      (space.add name size starts).map (behind front) := by
  unfold add
  split
  · rfl
  · cases LineTable.ofStarts name starts with
    | error fault => rfl
    | ok lines =>
        simp [behind, SourceFile.displaced, SourceFile.last, bind, Except.bind, pure, Except.pure,
          Except.map]
        omega

/-- One more file in front keeps the others laid out. -/
theorem IsLaidOut.behind (laidOut : space.IsLaidOut) (first : front.base = 1) :
    (space.behind front).IsLaidOut := by
  have front_last : front.last = shift front := by
    unfold SourceFile.last shift
    omega
  have free := laidOut.free
  unfold noPosition at free
  refine ⟨List.pairwise_cons.mpr ⟨?_, ?_⟩, ?_, ?_⟩
  · intro file mem
    obtain ⟨origin, origin_mem, rfl⟩ := List.mem_map.mp mem
    have inside := (laidOut.inside origin origin_mem).1
    unfold noPosition at inside
    rw [front_last, SourceFile.base_displaced]
    omega
  · refine List.pairwise_map.mpr (laidOut.apart.imp fun {earlier later} before => ?_)
    rw [SourceFile.last_displaced, SourceFile.base_displaced]
    omega
  · intro file mem
    unfold noPosition PositionSpace.behind
    dsimp only
    rcases List.mem_cons.mp mem with rfl | mem
    · omega
    · obtain ⟨origin, origin_mem, rfl⟩ := List.mem_map.mp mem
      have inside := laidOut.inside origin origin_mem
      unfold noPosition at inside
      rw [SourceFile.last_displaced, SourceFile.base_displaced]
      omega
  · unfold noPosition PositionSpace.behind
    dsimp only
    omega

/-- The file that holds a displaced position is the displaced one that holds the position. -/
theorem fileAt?_behind (laidOut : space.IsLaidOut) (first : front.base = 1)
    (nonneg : noPosition ≤ position) :
    (space.behind front).fileAt? (displace (shift front) position) =
      (space.fileAt? position).map (·.displaced (shift front)) := by
  have before : ¬front.Contains (displace (shift front) position) := by
    unfold SourceFile.Contains SourceFile.last displace shift noPosition at *
    split <;> omega
  have contains_iff {file : SourceFile} (mem : file ∈ space.files) :
      (file.displaced (shift front)).Contains (displace (shift front) position) ↔
        file.Contains position :=
    SourceFile.contains_displaced_iff (laidOut.inside file mem).1
  cases found : space.fileAt? position with
  | none =>
      refine (fileAt?_eq_none_iff (laidOut.behind first)).mpr fun file mem => ?_
      rcases List.mem_cons.mp mem with rfl | mem
      · exact before
      · obtain ⟨origin, origin_mem, rfl⟩ := List.mem_map.mp mem
        exact (contains_iff origin_mem).not.mpr
          ((fileAt?_eq_none_iff laidOut).mp found origin origin_mem)
  | some file =>
      obtain ⟨mem, contains⟩ := mem_of_fileAt?_eq_some found
      refine (fileAt?_eq_some_iff (laidOut.behind first)).mpr ⟨?_, (contains_iff mem).mpr contains⟩
      exact List.mem_cons_of_mem _ (List.mem_map_of_mem mem)

/-- A displaced position has the location of the position. -/
theorem location_behind (laidOut : space.IsLaidOut) (first : front.base = 1)
    (nonneg : noPosition ≤ position) :
    (space.behind front).location (displace (shift front) position) = space.location position := by
  rw [location, location, fileAt?_behind laidOut first nonneg]
  cases found : space.fileAt? position with
  | none => rfl
  | some file =>
      obtain ⟨mem, contains⟩ := mem_of_fileAt?_eq_some found
      have inside := (laidOut.inside file mem).1
      have positive : noPosition < position := Int.lt_of_lt_of_le inside contains.1
      have same : position + (shift front : Int) - (file.base + shift front) =
          position - file.base := by
        omega
      simp only [Option.map_some, displace_of_pos positive, SourceFile.displaced, same]
      rfl

end PositionSpace
end ShadowLint
