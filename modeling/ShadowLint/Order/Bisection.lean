/-!
# Bisection of ascending numbers

The entries of an ascending array that lie beyond a limit stand together at its end, so their first
index is found by halving.
-/

namespace ShadowLint

/-- Halves the stretch from `low` to `high` until it is empty: everything before it is at most the
limit, everything after it is larger. -/
def upperBoundWithin (entries : Array Int) (limit : Int) (low high : Nat)
    (high_le : high ≤ entries.size) : Nat :=
  if nonempty : low < high then
    let middle := (low + high) / 2
    if limit < entries[middle] then
      upperBoundWithin entries limit low middle (by omega)
    else
      upperBoundWithin entries limit (middle + 1) high high_le
  else
    low
termination_by high - low

theorem upperBoundWithin_spec {entries : Array Int} {limit : Int} {low high : Nat}
    {high_le : high ≤ entries.size}
    (ascending : entries.toList.Pairwise (· ≤ ·)) (low_le : low ≤ high)
    (before : ∀ index (bound : index < entries.size), index < low → entries[index] ≤ limit)
    (behind : ∀ index (bound : index < entries.size), high ≤ index → limit < entries[index]) :
    ∀ index (bound : index < entries.size),
      entries[index] ≤ limit ↔ index < upperBoundWithin entries limit low high high_le := by
  induction low, high, high_le using upperBoundWithin.induct entries limit with
  | case1 low high high_le nonempty middle beyond ih =>
      rw [upperBoundWithin, dif_pos nonempty, if_pos beyond]
      refine ih (by omega) before fun index bound middle_le => ?_
      rcases Nat.eq_or_lt_of_le middle_le with rfl | middle_lt
      · exact beyond
      · have := List.pairwise_iff_getElem.mp ascending middle index (by simp; omega) (by simpa)
          middle_lt
        simp only [Array.getElem_toList] at this
        omega
  | case2 low high high_le nonempty middle within ih =>
      rw [upperBoundWithin, dif_pos nonempty, if_neg within]
      refine ih (by omega) (fun index bound index_lt => ?_) behind
      rcases Nat.eq_or_lt_of_le (Nat.lt_succ_iff.mp index_lt) with rfl | index_lt
      · exact Int.not_lt.mp within
      · have := List.pairwise_iff_getElem.mp ascending index middle (by simpa) (by simp; omega)
          index_lt
        simp only [Array.getElem_toList] at this
        omega
  | case3 low high high_le empty =>
      rw [upperBoundWithin, dif_neg empty]
      intro index bound
      constructor
      · intro le_limit
        have := mt (behind index bound)
        omega
      · exact before index bound

theorem upperBoundWithin_le {entries : Array Int} {limit : Int} {low high : Nat}
    {high_le : high ≤ entries.size} (low_le : low ≤ high) :
    upperBoundWithin entries limit low high high_le ≤ high := by
  induction low, high, high_le using upperBoundWithin.induct entries limit with
  | case1 low high high_le nonempty middle beyond ih =>
      rw [upperBoundWithin, dif_pos nonempty, if_pos beyond]
      have middle_le : middle ≤ high := by omega
      exact Nat.le_trans (ih (by omega)) middle_le
  | case2 low high high_le nonempty middle within ih =>
      rw [upperBoundWithin, dif_pos nonempty, if_neg within]
      exact ih (by omega)
  | case3 low high high_le empty =>
      rw [upperBoundWithin, dif_neg empty]
      exact low_le

/-- The index of the first entry larger than the limit, in an ascending array. -/
def upperBound (entries : Array Int) (limit : Int) : Nat :=
  upperBoundWithin entries limit 0 entries.size (Nat.le_refl _)

/-- The entries before the index are the ones that the limit bounds. -/
theorem getElem_le_iff_lt_upperBound {entries : Array Int} (limit : Int)
    (ascending : entries.toList.Pairwise (· ≤ ·)) (index : Nat) (bound : index < entries.size) :
    entries[index] ≤ limit ↔ index < upperBound entries limit :=
  upperBoundWithin_spec ascending (Nat.zero_le _) (by omega) (by omega) index bound

theorem upperBound_le_size (entries : Array Int) (limit : Int) :
    upperBound entries limit ≤ entries.size :=
  upperBoundWithin_le (Nat.zero_le _)

/-- The index is right behind an entry that the limit bounds if the next one is larger. -/
theorem upperBound_eq_add_one {entries : Array Int} {limit : Int}
    (ascending : entries.toList.Pairwise (· ≤ ·)) {index : Nat} (bound : index < entries.size)
    (within : entries[index] ≤ limit)
    (beyond : ∀ next : index + 1 < entries.size, limit < entries[index + 1]) :
    upperBound entries limit = index + 1 := by
  have place := getElem_le_iff_lt_upperBound limit ascending
  have reached := (place index bound).mp within
  have le_size := upperBound_le_size entries limit
  rcases Nat.lt_or_ge (index + 1) entries.size with next | atEnd
  · have notReached := mt (place (index + 1) next).mpr (Int.not_le.mpr (beyond next))
    omega
  · omega

/-- The entries larger than the limit, of ascending entries. -/
def entriesAfter (entries : List Int) (limit : Int) : List Int :=
  entries.drop (upperBound entries.toArray limit)

/-- Of ascending entries, those behind the index are the larger ones. -/
theorem entriesAfter_eq_filter {entries : List Int} (limit : Int)
    (ascending : entries.Pairwise (· ≤ ·)) :
    entriesAfter entries limit = entries.filter (limit < ·) := by
  have place := @getElem_le_iff_lt_upperBound entries.toArray limit ascending
  unfold entriesAfter
  generalize upperBound entries.toArray limit = count at place
  have front : (entries.take count).filter (limit < ·) = [] := by
    rw [List.filter_eq_nil_iff]
    intro entry mem
    obtain ⟨index, bound, rfl⟩ := List.getElem_of_mem mem
    have := (place index (by simp at bound; simp; omega)).mpr (by simp at bound; omega)
    simp at this ⊢
    omega
  have back : (entries.drop count).filter (limit < ·) = entries.drop count := by
    rw [List.filter_eq_self]
    intro entry mem
    obtain ⟨index, bound, rfl⟩ := List.getElem_of_mem mem
    have := mt (place (count + index) (by simp at bound; simp; omega)).mp (by omega)
    simp at this ⊢
    omega
  rw [← back, ← List.nil_append (List.filter _ (entries.drop count)), ← front,
    ← List.filter_append, List.take_append_drop]

end ShadowLint
