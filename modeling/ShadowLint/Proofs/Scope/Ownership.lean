import ShadowLint.Scope.Forest

/-!
# Owners of symbols

Where every symbol is owned by the scope that declares it, the outermost scope is the only one that
declares symbols of the outermost scope.
-/

namespace ShadowLint

namespace Universe

theorem owner_of_mem_symbols {symbol : Symbol} (mem : symbol ∈ symbols) :
    symbol.owner = some .universe := by
  simp only [symbols, List.mem_append, List.mem_map, List.mem_cons, List.not_mem_nil,
    or_false] at mem
  rcases mem with (⟨_, -, rfl⟩ | mem) | ⟨_, -, rfl⟩
  · rfl
  · rcases mem with rfl | rfl | rfl | rfl | rfl | rfl | rfl <;> rfl
  · rfl

/-- The outermost scope owns the predeclared symbols. -/
theorem owner_of_symbol?_eq_some {name : String} {symbol : Symbol}
    (found : symbol? name = some symbol) : symbol.owner = some .universe :=
  owner_of_mem_symbols (List.mem_of_find?_eq_some found)

theorem eq_predeclared_of_mem_table {entry : String × SymbolId} (mem : entry ∈ table) :
    entry.2 = .predeclared entry.1 := by
  obtain ⟨symbol, -, rfl⟩ := List.mem_map.mp mem
  rfl

end Universe

namespace Forest

/-- The scope at an index owns the symbol, and the symbol has the name. -/
def Owns (forest : Forest) (index : Nat) (name : String) (id : SymbolId) : Prop :=
  ∃ number symbol, id = .declared number ∧ forest.symbols[number]? = some symbol ∧
    symbol.owner = some (.region index) ∧ symbol.name = name

/-- Every scope owns the symbols in its name table, under their names. -/
def IsOwned (forest : Forest) : Prop :=
  ∀ index scope, forest.scopes[index]? = some scope →
    ∀ entry ∈ scope.table, forest.Owns index entry.1 entry.2

/-- A scope owns the symbols that it declares. -/
theorem IsOwned.owner_eq {forest : Forest} (owned : forest.IsOwned) {scope : ScopeId}
    {name : String} {id : SymbolId} {symbol : Symbol}
    (declares : forest.lookup scope name = some id) (found : forest.symbol? id = some symbol) :
    symbol.owner = some scope := by
  obtain ⟨record, record_eq, entry_eq⟩ := Option.bind_eq_some_iff.mp declares
  obtain ⟨before, after, table_eq, -⟩ := List.lookup_eq_some_iff.mp entry_eq
  have mem : (name, id) ∈ record.table := by simp [table_eq]
  rcases scope with _ | index
  · obtain rfl : Scope.outermost = record := Option.some.inj record_eq
    obtain rfl : id = .predeclared name := Universe.eq_predeclared_of_mem_table mem
    exact Universe.owner_of_symbol?_eq_some found
  · obtain ⟨number, declared, rfl, declared_eq, owner_eq, -⟩ := owned index record record_eq _ mem
    obtain rfl : declared = symbol := Option.some.inj (declared_eq.symm.trans found)
    exact owner_eq

/-- Only the outermost scope declares symbols that it owns. -/
theorem IsOwned.owner_eq_universe_iff {forest : Forest} (owned : forest.IsOwned) {scope : ScopeId}
    {name : String} {id : SymbolId} {symbol : Symbol}
    (declares : forest.lookup scope name = some id) (found : forest.symbol? id = some symbol) :
    symbol.owner = some .universe ↔ scope = .universe := by
  rw [owned.owner_eq declares found, Option.some.injEq]

end Forest

end ShadowLint
