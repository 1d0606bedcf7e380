import ShadowLint.Proofs.Scope.History

/-!
# Ancestors of a scope

The scopes around a scope are the one that it was opened in and the scopes around that one.  On the
way outwards every scope was opened before the last one, so the way ends, and no scope lies around
itself.
-/

namespace ShadowLint

/-- How many scopes there are up to this one, the universe apart. -/
def ScopeId.number : ScopeId → Nat
  | .universe => 0
  | .region index => index + 1

theorem ScopeId.isBefore_iff {id : ScopeId} {index : Nat} :
    id.IsBefore index ↔ id.number < (region index).number := by
  rcases id with _ | other
  · simp [IsBefore, number]
  · simp [IsBefore, number]

namespace ScopeHistory

/-- The ancestors of a scope are those that one gets to from parent to parent. -/
structure IsLinked (history : ScopeHistory) : Prop where
  /-- There is a note for every scope in which one it was opened. -/
  size : history.forest.scopes.size = history.parents.length
  /-- A parent was there before. -/
  before : ∀ (index : Nat) (parent : ScopeId), history.parents[index]? = some (some parent) →
    parent.IsBefore index
  /-- Behind a scope come its parent and the ancestors of that. -/
  ancestors : ∀ (index : Nat) (parent : Option ScopeId), history.parents[index]? = some parent →
    history.forest.ancestors (.region index) =
      .region index :: parent.elim [] history.forest.ancestors
  /-- Nothing lies around the universe. -/
  outermost : history.forest.ancestors .universe = [.universe]

theorem isLinked_empty : empty.IsLinked where
  size := rfl
  before := by simp [empty]
  ancestors := by simp [empty]
  outermost := rfl

section Steps

variable {history next : ScopeHistory}

/-- A scope that is opened gets its parent as the first one around it, and what lies around the
other scopes stays the same. -/
theorem IsLinked.openScope (linked : history.IsLinked) {parent : Option ScopeId}
    (there : ∀ outer ∈ parent, outer.IsBefore history.forest.scopes.size) (start stop : Int)
    (comment : String) :
    IsLinked ⟨history.forest.openScope parent start stop comment, history.parents ++ [parent],
      history.insertions⟩ where
  size := by simp [Forest.openScope, linked.size]
  before index outer found := by
    rcases Dump.getElem?_concat_eq_some_iff.mp found with earlier | ⟨rfl, rfl⟩
    · exact linked.before index outer earlier
    · rw [← linked.size]
      exact there outer rfl
  ancestors index outer found := by
    have stays (scope : ScopeId) (before : scope.IsBefore history.forest.scopes.size) :=
      Forest.ancestors_openScope before parent start stop comment
    rcases Dump.getElem?_concat_eq_some_iff.mp found with earlier | ⟨rfl, rfl⟩
    · have inside : index < history.forest.scopes.size :=
        linked.size ▸ (List.getElem?_eq_some_iff.mp earlier).1
      rw [stays (.region index) inside, linked.ancestors index outer earlier]
      cases outer with
      | none => rfl
      | some outer =>
          have before := (linked.before index outer earlier).mono (Nat.le_of_lt inside)
          exact congrArg (List.cons _) (stays outer before).symm
    · rw [← linked.size]
      cases parent with
      | none => simp [Forest.ancestors, Forest.enclosing, Forest.scope?, Forest.openScope]
      | some outer =>
          rw [Option.elim_some, stays outer (there outer rfl)]
          simp [Forest.ancestors, Forest.enclosing, Forest.scope?, Forest.openScope]
  outermost := rfl

/-- What changes no scopes around scopes changes no links. -/
theorem IsLinked.of_ancestors_eq (linked : history.IsLinked)
    (size_eq : next.forest.scopes.size = history.forest.scopes.size)
    (parents_eq : next.parents = history.parents)
    (ancestors_eq : ∀ scope, next.forest.ancestors scope = history.forest.ancestors scope) :
    next.IsLinked where
  size := by rw [size_eq, parents_eq, linked.size]
  before := by
    rw [parents_eq]
    exact linked.before
  ancestors index parent found := by
    rw [parents_eq] at found
    rw [ancestors_eq, funext ancestors_eq]
    exact linked.ancestors index parent found
  outermost := by rw [ancestors_eq, linked.outermost]

theorem Step.isLinked {request : ScopeRequest} (step : history.Step request next)
    (linked : history.IsLinked) : next.IsLinked := by
  cases step with
  | opened there => exact linked.openScope there _ _ _
  | created => exact linked.of_ancestors_eq rfl rfl fun _ => rfl
  | inserted =>
      refine linked.of_ancestors_eq (Forest.size_scopes_enlist ..) rfl fun scope => ?_
      rw [Forest.ancestors, Forest.enclosing_enlist, Forest.ancestors]
  | refused => exact linked.of_ancestors_eq rfl rfl fun _ => rfl
  | impossible => exact linked

theorem isLinked_afterRequests (requests : List ScopeRequest) :
    (afterRequests requests).IsLinked :=
  afterRequests_induction isLinked_empty (fun linked step => step.isLinked linked) requests

end Steps

section Ancestors

variable {history : ScopeHistory}

/-- From a scope outwards, every scope was there before the last one. -/
theorem IsLinked.descending (linked : history.IsLinked) {scope : ScopeId}
    (there : scope.IsBefore history.forest.scopes.size) :
    (history.forest.ancestors scope).Pairwise fun inner outer => outer.number < inner.number := by
  rcases scope with _ | index
  · rw [linked.outermost]
    exact List.pairwise_singleton ..
  · induction index using Nat.strongRecOn with
    | ind index ih =>
      have inside : index < history.parents.length := linked.size ▸ there
      have found := List.getElem?_eq_getElem inside
      rw [linked.ancestors index _ found]
      cases parent_eq : history.parents[index] with
      | none => exact List.pairwise_singleton ..
      | some parent =>
          have before : parent.IsBefore index := linked.before index parent (parent_eq ▸ found)
          have outwards : (history.forest.ancestors parent).Pairwise
              fun inner outer => outer.number < inner.number := by
            rcases parent with _ | other
            · rw [linked.outermost]
              exact List.pairwise_singleton ..
            · exact ih other before (Nat.lt_trans before there)
          refine List.pairwise_cons.mpr ⟨fun outer mem => ?_, outwards⟩
          have parent_lt := ScopeId.isBefore_iff.mp before
          rcases List.mem_cons.mp mem with rfl | farther
          · exact parent_lt
          · exact Nat.lt_trans (List.rel_of_pairwise_cons outwards farther) parent_lt

theorem IsLinked.nodup_ancestors (linked : history.IsLinked) {scope : ScopeId}
    (there : scope.IsBefore history.forest.scopes.size) :
    (history.forest.ancestors scope).Nodup := by
  refine (linked.descending there).imp fun {inner outer} earlier => ?_
  rintro rfl
  exact Nat.lt_irrefl inner.number earlier

end Ancestors

end ScopeHistory
end ShadowLint
