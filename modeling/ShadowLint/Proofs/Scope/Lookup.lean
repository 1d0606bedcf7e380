import ShadowLint.Proofs.Scope.Ownership

/-!
# The nearest visible symbol

A search through scopes answers with the nearest one that declares a visible symbol, and a symbol
hides what the search in the scopes around its own finds.
-/

namespace ShadowLint
namespace Forest

/-- The scope declares the symbol under the name, and the symbol is visible at the position. -/
structure Offers (forest : Forest) (name : String) (position : Int) (scope : ScopeId)
    (id : SymbolId) (symbol : Symbol) : Prop where
  /-- The scope declares it. -/
  declares : forest.lookup scope name = some id
  /-- It has these properties. -/
  found : forest.symbol? id = some symbol
  /-- It is visible. -/
  visible : symbol.VisibleAt position

/-- Of the scopes, nearest first, the nearest one that offers any symbol offers this one. -/
def OffersNearest (forest : Forest) (name : String) (position : Int) (scopes : List ScopeId)
    (scope : ScopeId) (id : SymbolId) (symbol : Symbol) : Prop :=
  ∃ nearer farther, scopes = nearer ++ scope :: farther ∧
    forest.Offers name position scope id symbol ∧
    ∀ other ∈ nearer, ∀ otherId otherSymbol,
      ¬forest.Offers name position other otherId otherSymbol

variable {forest : Forest} {name : String} {position : Int}

theorem visible?_eq_some_iff {scope : ScopeId} {found : ScopeId × SymbolId} :
    forest.visible? name position scope = some found ↔
      ∃ symbol, forest.Offers name position scope found.2 symbol ∧ found.1 = scope := by
  simp only [visible?, Option.bind_eq_bind, Option.bind_eq_some_iff, Option.ite_none_right_eq_some,
    Option.some.injEq]
  constructor
  · rintro ⟨id, declares, symbol, found, visible, rfl⟩
    exact ⟨symbol, ⟨declares, found, visible⟩, rfl⟩
  · rintro ⟨symbol, ⟨declares, found_eq, visible⟩, rfl⟩
    exact ⟨found.2, declares, symbol, found_eq, visible, rfl⟩

theorem visible?_eq_none_iff {scope : ScopeId} :
    forest.visible? name position scope = none ↔
      ∀ id symbol, ¬forest.Offers name position scope id symbol := by
  rw [Option.eq_none_iff_forall_ne_some]
  constructor
  · intro absent id symbol offers
    exact absent (scope, id) (visible?_eq_some_iff.mpr ⟨symbol, offers, rfl⟩)
  · intro absent found found_eq
    obtain ⟨symbol, offers, -⟩ := visible?_eq_some_iff.mp found_eq
    exact absent _ _ offers

/-- A search through scopes finds what the nearest of them offers. -/
theorem findSome?_visible?_eq_some_iff {scopes : List ScopeId} {found : ScopeId × SymbolId} :
    scopes.findSome? (forest.visible? name position) = some found ↔
      ∃ symbol, forest.OffersNearest name position scopes found.1 found.2 symbol := by
  rw [List.findSome?_eq_some_iff]
  simp only [visible?_eq_some_iff, visible?_eq_none_iff]
  constructor
  · rintro ⟨nearer, scope, farther, scopes_eq, ⟨symbol, offers, rfl⟩, absent⟩
    exact ⟨symbol, nearer, farther, scopes_eq, offers, absent⟩
  · rintro ⟨symbol, nearer, farther, scopes_eq, offers, absent⟩
    exact ⟨nearer, found.1, farther, scopes_eq, ⟨symbol, offers, rfl⟩, absent⟩

/-- A symbol hides what the nearest of the scopes around its own offers under its name. -/
theorem hidden?_eq_some_iff {id outer : SymbolId} :
    forest.hidden? id = some outer ↔
      ∃ symbol owner scope outerSymbol, forest.symbol? id = some symbol ∧
        symbol.owner = some owner ∧
        forest.OffersNearest symbol.name symbol.position (forest.enclosing owner) scope outer
          outerSymbol := by
  simp only [hidden?, Option.bind_eq_bind, Option.bind_eq_some_iff, Option.pure_def,
    Option.some.injEq, findSome?_visible?_eq_some_iff]
  constructor
  · rintro ⟨symbol, symbol_eq, owner, owner_eq, found, ⟨outerSymbol, nearest⟩, rfl⟩
    exact ⟨symbol, owner, found.1, outerSymbol, symbol_eq, owner_eq, nearest⟩
  · rintro ⟨symbol, owner, scope, outerSymbol, symbol_eq, owner_eq, nearest⟩
    exact ⟨symbol, symbol_eq, owner, owner_eq, (scope, outer), ⟨outerSymbol, nearest⟩, rfl⟩

/-- The symbol hides a declared one: the nearest of the scopes around its own that offers a symbol
under its name, where it is declared, is not the outermost scope. -/
def HidesDeclared (forest : Forest) (inner : Symbol) (outerId : SymbolId) (outer : Symbol) : Prop :=
  ∃ owner scope, inner.owner = some owner ∧ scope ≠ .universe ∧
    forest.OffersNearest inner.name inner.position (forest.enclosing owner) scope outerId outer

theorem IsOwned.hidesDeclared_iff (owned : forest.IsOwned) {innerId outerId : SymbolId}
    {inner outer : Symbol} (inner_eq : forest.symbol? innerId = some inner) :
    forest.HidesDeclared inner outerId outer ↔
      forest.hidden? innerId = some outerId ∧ forest.symbol? outerId = some outer ∧
        outer.owner ≠ some .universe := by
  rw [hidden?_eq_some_iff]
  constructor
  · rintro ⟨owner, scope, owner_eq, declared, nearest⟩
    obtain ⟨-, -, -, offers, -⟩ := id nearest
    refine ⟨⟨inner, owner, scope, outer, inner_eq, owner_eq, nearest⟩, offers.found, ?_⟩
    rwa [Ne, owned.owner_eq_universe_iff offers.declares offers.found]
  · rintro ⟨⟨symbol, owner, scope, outerSymbol, symbol_eq, owner_eq, nearest⟩, outer_eq, declared⟩
    obtain rfl : symbol = inner := Option.some.inj (symbol_eq.symm.trans inner_eq)
    obtain ⟨-, -, -, offers, -⟩ := id nearest
    obtain rfl : outerSymbol = outer := Option.some.inj (offers.found.symm.trans outer_eq)
    refine ⟨owner, scope, owner_eq, ?_, nearest⟩
    rwa [Ne, owned.owner_eq_universe_iff offers.declares offers.found] at declared

end Forest
end ShadowLint
