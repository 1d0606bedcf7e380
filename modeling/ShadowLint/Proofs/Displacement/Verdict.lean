import Mathlib.Data.List.Sort
import ShadowLint.Proofs.Displacement.Scan
import ShadowLint.Proofs.Suppression
import ShadowLint.Proofs.UseTable

/-!
# Verdicts behind one more file

The uses of every symbol move on with its writes.  Positions are only compared and looked up, so
every name has the verdict that it had before.
-/

namespace ShadowLint

namespace UseTable

variable {resolution : Resolution}
  (nonneg : ∀ use ∈ resolution.uses, noPosition ≤ use.1.position) {symbol : SymbolId}
include nonneg

theorem nonneg_of_mem_usesOf {use : Int} (mem : use ∈ (ofResolution resolution).usesOf symbol) :
    noPosition ≤ use := by
  obtain ⟨ident, ident_mem, rfl⟩ := mem_usesOf_ofResolution.mp mem
  exact nonneg _ ident_mem

/-- The uses of every symbol move on. -/
theorem usesOf_displaced (offset : Nat) (symbol : SymbolId) :
    (ofResolution (resolution.displaced offset)).usesOf symbol =
      ((ofResolution resolution).usesOf symbol).map (displace offset) := by
  have ascending : ((ofResolution resolution).usesOf symbol).Pairwise (· < ·) :=
    pairwise_usesOf_ofResolution
  have displaced_ascending := pairwise_displaced offset ascending
    fun use mem => nonneg_of_mem_usesOf nonneg mem
  apply pairwise_usesOf_ofResolution.eq_of_mem_iff displaced_ascending
  intro position
  simp only [mem_usesOf_ofResolution, List.mem_map, Resolution.displaced]
  constructor
  · rintro ⟨_, ⟨⟨ident, _⟩, mem, same⟩, rfl⟩
    obtain ⟨rfl, rfl⟩ := Prod.mk.inj same
    exact ⟨ident.position, ⟨ident, mem, rfl⟩, rfl⟩
  · rintro ⟨_, ⟨ident, mem, rfl⟩, rfl⟩
    exact ⟨ident.displaced offset, ⟨_, mem, rfl⟩, rfl⟩

end UseTable

namespace Suppression

variable {offset : Nat} {declaration : Int} {uses : List Int}

theorem encloses_displaced_iff {write : Write} (positioned : write.IsPositioned) {use : Int}
    (nonneg : noPosition ≤ use) :
    (write.displaced offset).Encloses (displace offset use) ↔ write.Encloses use :=
  and_congr (displace_le_iff positioned.statementStart nonneg)
    (displace_lt_iff nonneg positioned.statementStop)

section Uses

variable (nonneg : noPosition ≤ declaration) (ascending : uses.Pairwise (· < ·))
  (uses_nonneg : ∀ use ∈ uses, noPosition ≤ use)
include nonneg ascending uses_nonneg

theorem isUnread_displaced {write : Write} (positioned : write.IsPositioned) :
    isUnread (displace offset declaration) (uses.map (displace offset)) (write.displaced offset) =
      isUnread declaration uses write := by
  have displaced_ascending := pairwise_displaced offset ascending uses_nonneg
  rw [Bool.eq_iff_iff, isUnread_iff (displaced_ascending.imp Int.le_of_lt),
    isUnread_iff (ascending.imp Int.le_of_lt), List.forall_mem_map]
  refine and_congr (displace_lt_iff nonneg positioned.position) ?_
  refine forall₂_congr fun use mem => imp_congr ?_ ?_
  · exact displace_lt_iff positioned.position (uses_nonneg use mem)
  · exact encloses_displaced_iff positioned (uses_nonneg use mem)

theorem allRead_displaced {writes : List Write}
    (positioned : ∀ write ∈ writes, write.IsPositioned) :
    allRead (writes.map (Write.displaced offset)) (displace offset declaration)
        (uses.map (displace offset)) = allRead writes declaration uses := by
  refine congrArg not (Bool.eq_iff_iff.mpr ?_)
  rw [List.any_map, List.any_eq_true, List.any_eq_true]
  refine exists_congr fun write => and_congr_right fun mem => ?_
  rw [Function.comp_apply, isUnread_displaced nonneg ascending uses_nonneg (positioned write mem)]

theorem isUsedLater_displaced {lineOf displacedLineOf : Int → Nat}
    (same : ∀ position, noPosition ≤ position →
      displacedLineOf (displace offset position) = lineOf position) :
    isUsedLater (uses.map (displace offset)) (displace offset declaration) displacedLineOf =
      isUsedLater uses declaration lineOf := by
  have displaced_ascending := pairwise_displaced offset ascending uses_nonneg
  rw [Bool.eq_iff_iff, isUsedLater_iff (displaced_ascending.imp Int.le_of_lt),
    isUsedLater_iff (ascending.imp Int.le_of_lt)]
  simp only [List.mem_map, exists_exists_and_eq_and, same declaration nonneg]
  refine exists_congr fun use => and_congr_right fun mem => ?_
  rw [displace_lt_iff nonneg (uses_nonneg use mem), same use (uses_nonneg use mem)]

end Uses

end Suppression

/-- The verdict where all positions move on. -/
def Verdict.displaced (offset : Nat) : Verdict → Verdict
  | blank => blank
  | declaresNothing => declaresNothing
  | hidesNothing => hidesNothing
  | hidesPredeclared => hidesPredeclared
  | differentType inner outer => differentType (inner.displaced offset) (outer.displaced offset)
  | writesRead inner => writesRead (inner.displaced offset)
  | outerUnused inner => outerUnused (inner.displaced offset)
  | shadows inner outer => shadows (inner.displaced offset) (outer.displaced offset)

namespace Package

section Verdicts

variable {package : Package} {front : SourceFile} {root : Node} (movable : package.IsMovable)
include movable

theorem isConsumed_behind (bare : root.IsBare) (symbol : SymbolId) {position : Int}
    (nonneg : noPosition ≤ position) :
    (package.behind front root).evidence.isConsumed symbol
        (displace (PositionSpace.shift front) position) =
      package.evidence.isConsumed symbol position := by
  have uses_eq : (package.behind front root).evidence.usage.usesOf symbol =
      (package.evidence.usage.usesOf symbol).map (displace (PositionSpace.shift front)) :=
    UseTable.usesOf_displaced movable.nonneg_of_mem_uses _ symbol
  have writes_eq : (package.behind front root).evidence.scan.writesTo symbol =
      (package.evidence.scan.writesTo symbol).map
        (Write.displaced (PositionSpace.shift front)) := by
    rw [Scan.writesTo, Scan.writesTo, writes_behind bare movable, List.filter_map]
    rfl
  rw [Evidence.isConsumed, Evidence.isConsumed, uses_eq, writes_eq]
  refine Suppression.allRead_displaced nonneg UseTable.pairwise_usesOf_ofResolution
    (fun use mem => UseTable.nonneg_of_mem_usesOf movable.nonneg_of_mem_uses mem) ?_
  exact fun write mem => movable.isPositioned_of_mem_writes write (List.mem_filter.mp mem).1

theorem isUsedLater_behind (first : front.base = 1) (symbol : SymbolId) {position : Int}
    (nonneg : noPosition ≤ position) :
    (package.behind front root).evidence.isUsedLater symbol
        (displace (PositionSpace.shift front) position) =
      package.evidence.isUsedLater symbol position := by
  have uses_eq : (package.behind front root).evidence.usage.usesOf symbol =
      (package.evidence.usage.usesOf symbol).map (displace (PositionSpace.shift front)) :=
    UseTable.usesOf_displaced movable.nonneg_of_mem_uses _ symbol
  rw [Evidence.isUsedLater, Evidence.isUsedLater, uses_eq]
  refine Suppression.isUsedLater_displaced nonneg UseTable.pairwise_usesOf_ofResolution
    (fun use mem => UseTable.nonneg_of_mem_usesOf movable.nonneg_of_mem_uses mem) ?_
  exact fun position nonneg => congrArg Location.line (movable.location_eq first nonneg)

omit movable in
theorem declared?_behind (ident : Ident) :
    (package.behind front root).evidence.declared?
        (ident.displaced (PositionSpace.shift front)) =
      (package.evidence.declared? ident).map fun (id, symbol) =>
        (id, symbol.displaced (PositionSpace.shift front)) := by
  simp only [Evidence.declared?, evidence, behind, Ident.displaced,
    Resolution.declaredAt?_displaced, Forest.symbol?_displaced]
  cases package.resolution.declaredAt? ident.place with
  | none => rfl
  | some id => cases found : package.forest.symbol? id <;> simp [found]

theorem hidden?_behind (inner : SymbolId) :
    (package.behind front root).evidence.hidden? inner =
      (package.evidence.hidden? inner).map fun (id, symbol) =>
        (id, symbol.displaced (PositionSpace.shift front)) := by
  simp only [Evidence.hidden?, evidence, behind, Forest.symbol?_displaced,
    Forest.hidden?_displaced movable.symbols]
  cases package.forest.hidden? inner with
  | none => rfl
  | some id => cases found : package.forest.symbol? id <;> simp [found]

/-- Every name has the verdict that it had before. -/
theorem verdict_behind (bare : root.IsBare) (first : front.base = 1) {ident : Ident}
    (nonneg : noPosition ≤ ident.position) :
    (package.behind front root).evidence.verdict (ident.displaced (PositionSpace.shift front)) =
      (package.evidence.verdict ident).displaced (PositionSpace.shift front) := by
  unfold Evidence.verdict
  rw [declared?_behind, show (ident.displaced _).name = ident.name from rfl]
  split
  · rfl
  · cases package.evidence.declared? ident with
    | none => rfl
    | some declared =>
        obtain ⟨innerId, inner⟩ := declared
        dsimp only [Option.map_some]
        rw [hidden?_behind movable]
        cases package.evidence.hidden? innerId with
        | none => rfl
        | some hidden =>
            obtain ⟨outerId, outer⟩ := hidden
            dsimp only [Option.map_some]
            rw [show (ident.displaced (PositionSpace.shift front)).position =
                displace (PositionSpace.shift front) ident.position from rfl,
              isConsumed_behind movable bare innerId nonneg,
              isUsedLater_behind movable first outerId nonneg]
            simp only [apply_ite (Verdict.displaced (PositionSpace.shift front))]
            rfl

end Verdicts

end Package

end ShadowLint
