import ShadowLint.Proofs.Scope.Ancestry
import ShadowLint.Proofs.Scope.Lookup

/-!
# Look-ups further on

A search through scopes passes over declarations that are not visible yet.  What is visible at a
position is visible at every later one, so a search that is made further on ends in the same scope
or in a nearer one.
-/

namespace ShadowLint

namespace Symbol

theorem VisibleAt.later {symbol : Symbol} {position later : Int}
    (visible : symbol.VisibleAt position) (inside : 0 < position) (le : position ≤ later) :
    symbol.VisibleAt later := by
  rcases visible with nowhere | everywhere | before
  · exact absurd nowhere (Int.ne_of_gt inside)
  · exact .inr (.inl everywhere)
  · exact .inr (.inr (Int.le_trans before le))

theorem visibleAt_noPosition (symbol : Symbol) : symbol.VisibleAt noPosition :=
  .inl rfl

end Symbol

/-- Among scopes, nearest first, one stands before another one or is the same. -/
def IsAsNear (scopes : List ScopeId) (near far : ScopeId) : Prop :=
  ∃ nearer farther, scopes = nearer ++ far :: farther ∧ near ∈ nearer ++ [far]

namespace Forest

variable {forest : Forest} {name : String} {position later : Int}

/-- A search that sees at least as much finds something that is as near. -/
theorem findSome?_visible?_of_visible
    (stays : ∀ symbol : Symbol, symbol.VisibleAt position → symbol.VisibleAt later)
    {scopes : List ScopeId} {found : ScopeId × SymbolId}
    (found_eq : scopes.findSome? (forest.visible? name position) = some found) :
    ∃ other, scopes.findSome? (forest.visible? name later) = some other ∧
      IsAsNear scopes other.1 found.1 := by
  obtain ⟨symbol, nearer, farther, rfl, offers, -⟩ := findSome?_visible?_eq_some_iff.mp found_eq
  have still : forest.Offers name later found.1 found.2 symbol :=
    ⟨offers.declares, offers.found, stays symbol offers.visible⟩
  -- the search comes to an end at the latest where the other one did
  obtain ⟨other, other_eq⟩ :
      ∃ other, (nearer ++ [found.1]).findSome? (forest.visible? name later) = some other := by
    refine Option.ne_none_iff_exists'.mp fun absent => ?_
    rw [List.findSome?_eq_none_iff] at absent
    exact visible?_eq_none_iff.mp (absent found.1 (by simp)) found.2 symbol still
  refine ⟨other, ?_, nearer, farther, rfl, ?_⟩
  · rw [List.append_cons, List.findSome?_append, other_eq, Option.some_or]
  · obtain ⟨-, before, behind, split_eq, -⟩ := findSome?_visible?_eq_some_iff.mp other_eq
    rw [split_eq]
    exact List.mem_append_right before List.mem_cons_self

/-- A look-up that starts in a scope finds the nearest visible symbol of the name, and loses it
further on only to a nearer one. -/
structure FindsNearest (forest : Forest) (scope : ScopeId) : Prop where
  /-- What is found is visible, and no nearer scope has a visible symbol of the name. -/
  found_iff : ∀ name position outer id,
    forest.resolve? scope name position = some (outer, id) ↔
      ∃ symbol, forest.OffersNearest name position (forest.ancestors scope) outer id symbol
  /-- Nothing is found if no scope has a visible symbol of the name. -/
  nothing_iff : ∀ name position,
    forest.resolve? scope name position = none ↔
      ∀ outer ∈ forest.ancestors scope, ∀ id symbol, ¬forest.Offers name position outer id symbol
  /-- Further on, or wherever everything is visible, something is found that is as near. -/
  further : ∀ name position outer id,
    forest.resolve? scope name position = some (outer, id) →
      ∀ later, 0 < position ∧ position ≤ later ∨ later = noPosition →
        ∃ near nearId, forest.resolve? scope name later = some (near, nearId) ∧
          IsAsNear (forest.ancestors scope) near outer

theorem findsNearest (forest : Forest) (scope : ScopeId) : forest.FindsNearest scope where
  found_iff _ _ _ _ := findSome?_visible?_eq_some_iff
  nothing_iff name position := by
    simp only [resolve?, List.findSome?_eq_none_iff, visible?_eq_none_iff]
  further name position outer id found later further := by
    have stays (symbol : Symbol) (visible : symbol.VisibleAt position) :
        symbol.VisibleAt later := by
      rcases further with ⟨inside, le⟩ | rfl
      · exact visible.later inside le
      · exact symbol.visibleAt_noPosition
    obtain ⟨⟨near, nearId⟩, near_eq, asNear⟩ := findSome?_visible?_of_visible stays found
    exact ⟨near, nearId, near_eq, asNear⟩

end Forest

namespace ScopeHistory

/-- After any requests the scopes around a scope are finitely many different ones, from parent to
parent, and a look-up that starts in the scope finds the nearest visible symbol of the name among
them. -/
theorem afterRequests_findsNearest (requests : List ScopeRequest) :
    let history := afterRequests requests
    history.IsLinked ∧
      ∀ scope : ScopeId, scope.IsBefore history.forest.scopes.size →
        (history.forest.ancestors scope).Nodup ∧ history.forest.FindsNearest scope := by
  intro history
  have linked : history.IsLinked := isLinked_afterRequests requests
  exact ⟨linked, fun scope there =>
    ⟨linked.nodup_ancestors there, history.forest.findsNearest scope⟩⟩

end ScopeHistory

namespace Specimen

/-- The inner of two scopes declares a variable behind the place where the outer one does. -/
def declaredTwice : List ScopeRequest :=
  [.openScope (some .universe) 1 99 "package", .openScope (some (.region 0)) 10 50 "function",
    .create (variableAt 5), .create (variableAt 30), .insert 0 (.declared 0),
    .insert 1 (.declared 1)]

/-- Between the two declarations a look-up passes over the inner one, and behind both something as
near is found. -/
theorem findsNearest_declaredTwice :
    let forest := (ScopeHistory.afterRequests declaredTwice).forest
    (∃ symbol, forest.OffersNearest "x" 20 (forest.ancestors (.region 1)) (.region 0) (.declared 0)
      symbol) ∧
      (∃ near id, forest.resolve? (.region 1) "x" 40 = some (near, id) ∧
        IsAsNear (forest.ancestors (.region 1)) near (.region 0)) ∧
      forest.resolve? (.region 1) "x" 40 = some (.region 1, .declared 1) := by
  intro forest
  obtain ⟨-, nearest⟩ := ScopeHistory.afterRequests_findsNearest declaredTwice
  have there : 1 < forest.scopes.size := by decide +kernel
  have finds : forest.FindsNearest (.region 1) := (nearest (.region 1) there).2
  have found : forest.resolve? (.region 1) "x" 20 = some (.region 0, .declared 0) := by
    decide +kernel
  exact ⟨(finds.found_iff _ _ _ _).mp found,
    finds.further _ _ _ _ found 40 (.inl (by decide)), by decide +kernel⟩

end Specimen

end ShadowLint
