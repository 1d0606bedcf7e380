import Mathlib.Data.List.Perm.Subperm
import ShadowLint.Dump.TypeTable

/-!
# How deep references are followed

While a reference is followed, the entries on the way to it are all different.  So the reading of
a type table never goes deeper than the table is long: whatever stands in for the reading of
references beyond that depth is never asked.
-/

namespace ShadowLint
namespace Dump

/-- The type at an index, where `pending` are the indices of the entries under way.  Behind as many
entries as `depth` tells, `deeper` reads on. -/
def typeWithin (entries : Array Json) (deeper : List Nat → Nat → TypeReader Ty) (depth : Nat)
    (pending : List Nat) (index : Nat) : TypeReader Ty := do
  match (← get)[index]?.join with
  | some type => pure type
  | none =>
      let part : DumpPart := .entry .types index
      if index ∈ pending then
        throw (.cyclicType part)
      else
        match depth, entries[index]? with
        | 0, _ => deeper pending index
        | depth + 1, some (.object members) =>
            let type ← entryType part members fun found => do
              let target ← typeIndex entries.size part found
              typeWithin entries deeper depth (index :: pending) target
            modify (·.setIfInBounds index (some type))
            pure type
        | _ + 1, _ => throw (.entryNotObject part)

theorem lt_of_typeIndex_eq_ok {size target : Nat} {part : DumpPart} {reference : Json}
    (read : typeIndex size part reference = .ok target) : target < size := by
  unfold typeIndex at read
  split at read
  · split at read
    · obtain rfl := Except.ok.inj read
      omega
    · cases read
  · cases read

/-- Readers that go on with the index that a reference means agree if they do so on every index of
the table. -/
theorem typeIndex_bind_congr {Result : Type} {size : Nat} (part : DumpPart) (reference : Json)
    {left right : Nat → TypeReader Result} (agree : ∀ target < size, left target = right target) :
    (do left (← typeIndex size part reference)) =
      (do right (← typeIndex size part reference) : TypeReader Result) := by
  cases read : typeIndex size part reference with
  | error fault => rfl
  | ok target => exact agree target (lt_of_typeIndex_eq_ok read)

/-- An index that is not under way leaves room for one entry more. -/
theorem length_lt_of_notMem {size index : Nat} {pending : List Nat} (distinct : pending.Nodup)
    (inside : ∀ other ∈ pending, other < size) (index_inside : index < size)
    (notPending : index ∉ pending) : pending.length < size := by
  have sub : index :: pending ⊆ List.range size := by
    intro other mem
    rw [List.mem_range]
    rcases List.mem_cons.mp mem with rfl | mem
    · exact index_inside
    · exact inside other mem
  have := (List.subperm_of_subset (List.nodup_cons.mpr ⟨notPending, distinct⟩) sub).length_le
  rw [List.length_cons, List.length_range] at this
  exact this

/-- The entries under way and the free indices are the whole table. -/
structure IsUnderWay (size : Nat) (pending free : List Nat) : Prop where
  /-- No entry is under way twice. -/
  distinct : pending.Nodup
  /-- The indices under way are those of entries. -/
  inside : ∀ index ∈ pending, index < size
  /-- No index is free twice. -/
  free_distinct : free.Nodup
  /-- The other indices are free. -/
  mem_free_iff : ∀ index < size, index ∈ free ↔ index ∉ pending

theorem isUnderWay_nil (size : Nat) : IsUnderWay size [] (List.range size) where
  distinct := List.nodup_nil
  inside := by simp
  free_distinct := List.nodup_range
  mem_free_iff index inside := by simp [inside]

theorem IsUnderWay.cons {size index : Nat} {pending free : List Nat}
    (underWay : IsUnderWay size pending free) (inside : index < size)
    (notPending : index ∉ pending) : IsUnderWay size (index :: pending) (free.erase index) where
  distinct := List.nodup_cons.mpr ⟨notPending, underWay.distinct⟩
  inside := List.forall_mem_cons.mpr ⟨inside, underWay.inside⟩
  free_distinct := underWay.free_distinct.erase index
  mem_free_iff other other_inside := by
    rw [underWay.free_distinct.mem_erase_iff, underWay.mem_free_iff other other_inside,
      List.mem_cons, not_or]

/-- References are never followed through more entries than the table has. -/
theorem typeWithin_eq_typeAt_of_isUnderWay {entries : Array Json}
    {deeper : List Nat → Nat → TypeReader Ty} {depth index : Nat} {pending free : List Nat}
    (underWay : IsUnderWay entries.size pending free) (inside : index < entries.size)
    (enough : entries.size ≤ depth + pending.length) :
    typeWithin entries deeper depth pending index = typeAt entries free index := by
  induction depth generalizing index pending free with
  | zero =>
      have mem : index ∈ pending := by
        by_contra notPending
        have := length_lt_of_notMem underWay.distinct underWay.inside inside notPending
        omega
      have notFree : index ∉ free := by simp [underWay.mem_free_iff index inside, mem]
      rw [typeWithin, typeAt]
      refine bind_congr fun found => ?_
      cases found[index]?.join with
      | some type => rfl
      | none => simp only [mem, notFree, if_true, dif_neg, not_false_eq_true]
  | succ depth ih =>
      rw [typeWithin, typeAt]
      refine bind_congr fun found => ?_
      cases found[index]?.join with
      | some type => rfl
      | none =>
        by_cases mem : index ∈ pending
        · have notFree : index ∉ free := by simp [underWay.mem_free_iff index inside, mem]
          simp only [mem, notFree, if_true, dif_neg, not_false_eq_true]
        · have isFree : index ∈ free := (underWay.mem_free_iff index inside).mpr mem
          have follow (reference : Json) :=
            typeIndex_bind_congr (.entry .types index) reference fun target target_inside =>
              ih (underWay.cons inside mem) target_inside (by rw [List.length_cons]; omega)
          simp only [mem, isFree, if_false, dif_pos]
          cases entries[index]? with
          | none => rfl
          | some entry =>
            cases entry with
            | object members => simp only [follow]
            | _ => rfl

end Dump
end ShadowLint
