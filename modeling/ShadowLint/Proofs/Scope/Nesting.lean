import Mathlib.Data.List.Pairwise
import ShadowLint.Proofs.Dump.Members

/-!
# Scopes inside scopes

A scope that was read lies in the universe or in an earlier scope.  The scopes around it are those
that one gets to from parent to parent, and their indices descend until the universe is reached.
-/

namespace ShadowLint

/-- The scope was there before the one at an index. -/
def ScopeId.IsBefore (index : Nat) : ScopeId → Prop
  | .universe => True
  | .region other => other < index

theorem ScopeId.IsBefore.mono {index later : Nat} {id : ScopeId} (before : id.IsBefore index)
    (le : index ≤ later) : id.IsBefore later := by
  rcases id with _ | other
  · trivial
  · exact Nat.lt_of_lt_of_le before le

namespace Forest

/-- The scopes around those that are there stay the same when one more is opened. -/
theorem enclosing_openScope {forest : Forest} {id : ScopeId}
    (before : id.IsBefore forest.scopes.size) (parent : Option ScopeId) (start stop : Int)
    (comment : String) :
    (forest.openScope parent start stop comment).enclosing id = forest.enclosing id := by
  rcases id with _ | index
  · rfl
  · have differs : index ≠ forest.scopes.size := Nat.ne_of_lt before
    simp only [enclosing, scope?, openScope, Array.getElem?_push, if_neg differs]

theorem ancestors_openScope {forest : Forest} {id : ScopeId}
    (before : id.IsBefore forest.scopes.size) (parent : Option ScopeId) (start stop : Int)
    (comment : String) :
    (forest.openScope parent start stop comment).ancestors id = forest.ancestors id := by
  rw [ancestors, ancestors, enclosing_openScope before]

end Forest

namespace Dump

/-- The scope around a scope is the universe if the entry names none, and otherwise an earlier
one. -/
theorem parent_eq_ok_iff {index : Nat} {members : Members} {scope : ScopeId} :
    parent index members = .ok scope ↔
      (value members "parent" = .null ∧ scope = .universe) ∨
        ∃ outer < index, value members "parent" = .int (outer : Nat) ∧ scope = .region outer := by
  unfold parent
  split
  · rename_i absent
    simp [absent, eq_comm]
  · rename_i found present
    split
    · rename_i inside
      obtain ⟨outer, rfl⟩ := Int.eq_ofNat_of_zero_le inside.1
      have before : outer < index := Int.ofNat_lt.mp inside.2
      simp only [present, Except.ok.injEq, reduceCtorEq, false_and, false_or, Json.int.injEq,
        Int.ofNat_inj, Int.toNat_natCast]
      constructor
      · rintro rfl
        exact ⟨outer, before, rfl, rfl⟩
      · rintro ⟨_, -, rfl, rfl⟩
        rfl
    · rename_i outside
      simp only [present, reduceCtorEq, false_and, false_or, false_iff, Json.int.injEq]
      rintro ⟨outer, before, rfl, -⟩
      exact outside ⟨Int.natCast_nonneg outer, Int.ofNat_lt.mpr before⟩
  · rename_i found notNull notInt
    simp only [reduceCtorEq, false_iff]
    rintro (⟨absent, -⟩ | ⟨outer, -, present, -⟩)
    · exact notNull absent
    · exact notInt outer present

theorem isBefore_of_parent_eq_ok {index : Nat} {members : Members} {scope : ScopeId}
    (read : parent index members = .ok scope) : scope.IsBefore index := by
  rcases parent_eq_ok_iff.mp read with ⟨-, rfl⟩ | ⟨outer, before, -, rfl⟩
  · trivial
  · exact before

/-- The scopes of the forest are those of the entries, each inside the one that its entry names. -/
structure IsNested (entries : List Json) (forest : Forest) : Prop where
  /-- There is a scope for every entry. -/
  size : forest.scopes.size = entries.length
  /-- The scopes around a scope are its parent and the scopes around that. -/
  nested : ∀ (index : Nat) (entry : Json), entries[index]? = some entry →
    ∃ members outer, entry = .object members ∧ parent index members = .ok outer ∧
      forest.enclosing (.region index) = forest.ancestors outer

theorem IsNested.addScope {entries : List Json} {before after : Forest} {entry : Json}
    (nested : IsNested entries before) (added : addScope before entry = .ok after) :
    IsNested (entries ++ [entry]) after := by
  obtain ⟨members, outer, start, stop, comment, rfl, outer_eq, -, -, -, rfl⟩ :=
    addScope_eq_ok_iff.mp added
  have outer_before := isBefore_of_parent_eq_ok outer_eq
  refine ⟨by simp [Forest.openScope, nested.size], fun index entry entry_eq => ?_⟩
  rcases getElem?_concat_eq_some_iff.mp entry_eq with entry_eq | ⟨rfl, rfl⟩
  · obtain ⟨others, scope, rfl, scope_eq, enclosing_eq⟩ := nested.nested index entry entry_eq
    have index_before : index < before.scopes.size :=
      nested.size ▸ (List.getElem?_eq_some_iff.mp entry_eq).1
    have scope_before : scope.IsBefore before.scopes.size :=
      (isBefore_of_parent_eq_ok scope_eq).mono (Nat.le_of_lt index_before)
    refine ⟨others, scope, rfl, scope_eq, ?_⟩
    rw [Forest.ancestors_openScope scope_before, ← enclosing_eq]
    exact Forest.enclosing_openScope (show ScopeId.IsBefore _ (.region index) from index_before)
      _ _ _ _
  · rw [← nested.size]
    refine ⟨members, outer, rfl, outer_eq, ?_⟩
    rw [Forest.ancestors_openScope outer_before]
    simp [Forest.enclosing, Forest.scope?, Forest.openScope]

theorem isNested_of_scopes {entries : List Json} {forest : Forest}
    (read : entries.foldlM addScope .empty = .ok forest) : IsNested entries forest :=
  foldlM_induction_append (fun _ _ _ _ nested added => IsNested.addScope nested added) []
    ⟨rfl, by simp⟩ read

/-- The scopes around a scope are the universe and, in front of it, scopes with descending
indices. -/
theorem IsNested.exists_ancestors_eq {entries : List Json} {forest : Forest}
    (nested : IsNested entries forest) {index : Nat} (inside : index < entries.length) :
    ∃ outer : List Nat,
      forest.ancestors (.region index) = (index :: outer).map .region ++ [.universe] ∧
        (index :: outer).Pairwise (· > ·) := by
  induction index using Nat.strongRecOn with
  | ind index ih =>
    obtain ⟨members, parent, -, parent_eq, enclosing_eq⟩ :=
      nested.nested index _ (List.getElem?_eq_getElem inside)
    rw [Forest.ancestors, enclosing_eq]
    rcases parent_eq_ok_iff.mp parent_eq with ⟨-, rfl⟩ | ⟨other, before, -, rfl⟩
    · exact ⟨[], rfl, List.pairwise_singleton ..⟩
    · obtain ⟨outer, outer_eq, descending⟩ := ih other before (Nat.lt_trans before inside)
      refine ⟨other :: outer, by rw [outer_eq]; rfl, List.pairwise_cons.mpr ⟨?_, descending⟩⟩
      intro next mem
      rcases List.mem_cons.mp mem with rfl | mem
      · exact before
      · exact Nat.lt_trans (List.rel_of_pairwise_cons descending mem) before

/-- No scope lies around itself. -/
theorem IsNested.not_mem_enclosing {entries : List Json} {forest : Forest}
    (nested : IsNested entries forest) {index : Nat} (inside : index < entries.length) :
    .region index ∉ forest.enclosing (.region index) := by
  obtain ⟨outer, ancestors_eq, descending⟩ := nested.exists_ancestors_eq inside
  have enclosing_eq : forest.enclosing (.region index) = outer.map .region ++ [.universe] :=
    (List.cons.inj ancestors_eq).2
  intro mem
  rw [enclosing_eq] at mem
  have outer_mem : index ∈ outer := by simpa using mem
  exact Nat.lt_irrefl index (List.rel_of_pairwise_cons descending outer_mem)

end Dump
end ShadowLint
