import ShadowLint.Suppression

/-!
# What the suppression rules say

On ascending uses, the rules of thumb speak about every use behind a position, whatever the search
for the first of them does.
-/

namespace ShadowLint
namespace Suppression

variable {uses : List Int} {declaration : Int}

theorem mem_entriesAfter_iff {entries : List Int} {limit entry : Int}
    (ascending : entries.Pairwise (· ≤ ·)) :
    entry ∈ entriesAfter entries limit ↔ entry ∈ entries ∧ limit < entry := by
  rw [entriesAfter_eq_filter limit ascending]
  simp

/-- A write behind the declaration is unread if the statement that writes encloses all uses behind
the written name. -/
theorem isUnread_iff {write : Write} (ascending : uses.Pairwise (· ≤ ·)) :
    isUnread declaration uses write ↔
      declaration < write.position ∧
        ∀ use ∈ uses, write.position < use → write.Encloses use := by
  unfold isUnread
  rw [Bool.and_eq_true, decide_eq_true_iff, List.all_eq_true]
  refine and_congr_right fun behind => ?_
  rw [Int.max_eq_left (Int.le_of_lt behind)]
  constructor
  · intro enclosed use mem use_behind
    exact of_decide_eq_true (enclosed use ((mem_entriesAfter_iff ascending).mpr ⟨mem, use_behind⟩))
  · intro enclosed use mem
    obtain ⟨use_mem, use_behind⟩ := (mem_entriesAfter_iff ascending).mp mem
    exact decide_eq_true (enclosed use use_mem use_behind)

theorem allRead_eq_false_iff {writes : List Write} :
    allRead writes declaration uses = false ↔
      ∃ write ∈ writes, isUnread declaration uses write := by
  rw [allRead, Bool.not_eq_false', List.any_eq_true]

theorem isUsedLater_iff {lineOf : Int → Nat} (ascending : uses.Pairwise (· ≤ ·)) :
    isUsedLater uses declaration lineOf ↔
      ∃ use ∈ uses, declaration < use ∧ lineOf use ≠ lineOf declaration := by
  unfold isUsedLater
  rw [List.any_eq_true]
  constructor
  · rintro ⟨use, mem, other_line⟩
    obtain ⟨use_mem, behind⟩ := (mem_entriesAfter_iff ascending).mp mem
    exact ⟨use, use_mem, behind, by simpa using other_line⟩
  · rintro ⟨use, use_mem, behind, other_line⟩
    exact ⟨use, (mem_entriesAfter_iff ascending).mpr ⟨use_mem, behind⟩, by simpa using other_line⟩

end Suppression
end ShadowLint
