import ShadowLint.Proofs.Scope.Lookup
import ShadowLint.Proofs.Scope.Tables

/-!
# Integrity of scopes and symbols that were read

The scopes of a package form a tree under the outermost one, every symbol stands in the name table
of one scope, the one that its entry names, and a symbol hides symbols of the scopes around its own
only.
-/

namespace ShadowLint

theorem Universe.nodup_table : (table.map Prod.fst).Nodup := by
  decide +kernel

namespace Forest

/-- The name table of a scope has the symbol under the name. -/
def Lists (forest : Forest) (scope : ScopeId) (name : String) (id : SymbolId) : Prop :=
  ∃ record, forest.scope? scope = some record ∧ (name, id) ∈ record.table

/-- The symbol is another one than the declared one at a number.  It has the same name, and a scope
around the one that owns that symbol lists and owns it. -/
def IsOuterOf (forest : Forest) (outer : SymbolId) (number : Nat) : Prop :=
  outer ≠ .declared number ∧
    ∃ symbol outerSymbol owner outerOwner, forest.symbols[number]? = some symbol ∧
      forest.symbol? outer = some outerSymbol ∧ symbol.owner = some owner ∧
      outerSymbol.owner = some outerOwner ∧ outerOwner ∈ forest.enclosing owner ∧
      outerOwner ≠ owner ∧ forest.lookup outerOwner symbol.name = some outer

/-- The scopes and symbols are those of the entries, and they form a tree of scopes with a name
table each. -/
structure IsForestOf (forest : Forest) (scopes symbols : List Json) : Prop where
  /-- There is a scope for every entry of a scope. -/
  scopeCount : forest.scopes.size = scopes.length
  /-- There is a symbol for every entry of a symbol. -/
  symbolCount : forest.symbols.size = symbols.length
  /-- A scope lies in the universe if its entry names no scope around it, and otherwise in the one
  that the entry names, which comes earlier. -/
  parents : ∀ (index : Nat) (entry : Json), scopes[index]? = some entry →
    ∃ members outer, entry = .object members ∧ Dump.parent index members = .ok outer ∧
      forest.ancestors (.region index) = .region index :: forest.ancestors outer
  /-- From a scope outwards the indices descend, and after finitely many scopes the universe is
  reached. -/
  ancestors : ∀ index < scopes.length, ∃ outer : List Nat,
    forest.ancestors (.region index) = (index :: outer).map .region ++ [.universe] ∧
      (index :: outer).Pairwise (· > ·)
  /-- A symbol is listed by the scope that its entry names, under the name of the entry, and nowhere
  else.  That scope owns it. -/
  declared : ∀ (number : Nat) (entry : Json), symbols[number]? = some entry →
    ∃ members symbol scope, entry = .object members ∧ forest.symbols[number]? = some symbol ∧
      Dump.content? members "name" .string = some symbol.name ∧
      Dump.content? members "scope" .int = some (scope : Nat) ∧ scope < scopes.length ∧
      symbol.owner = some (.region scope) ∧
      forest.lookup (.region scope) symbol.name = some (.declared number) ∧
      ∀ other name, forest.Lists other name (.declared number) ↔
        other = .region scope ∧ name = symbol.name
  /-- A scope lists no name twice. -/
  distinct : ∀ (scope : ScopeId) (record : Scope), forest.scope? scope = some record →
    (record.table.map Prod.fst).Nodup
  /-- No scope owns two symbols of the same name. -/
  unique : ∀ (first second : Nat) (left right : Symbol), forest.symbols[first]? = some left →
    forest.symbols[second]? = some right → left.owner = right.owner → left.name = right.name →
      first = second
  /-- A scope lists symbols of the entries only. -/
  listed : ∀ index name id, forest.Lists (.region index) name id →
    ∃ number < symbols.length, id = .declared number
  /-- The outermost scope is as it was when there were no scopes and symbols. -/
  outermost : forest.scope? .universe = empty.scope? .universe
  /-- A symbol hides nothing, or a symbol of a scope around its own. -/
  hidden : ∀ number outer, forest.hidden? (.declared number) = some outer →
    forest.IsOuterOf outer number

end Forest

namespace Dump

section Declared

variable {scopes symbols : List Json} {forest : Forest}

/-- The scopes list the symbols of the entries that they own, under their names. -/
theorem IsDeclared.lists_iff (declared : IsDeclared symbols forest) {index : Nat} {name : String}
    {id : SymbolId} (inside : index < forest.scopes.size) :
    forest.Lists (.region index) name id ↔
      ∃ number symbol, forest.symbols[number]? = some symbol ∧
        symbol.owner = some (.region index) ∧ name = symbol.name ∧ id = .declared number := by
  have record_eq := Array.getElem?_eq_getElem inside
  simp only [Forest.Lists, Forest.scope?, record_eq, Option.some.injEq, exists_eq_left',
    declared.tables index _ record_eq, Forest.mem_owned_iff, Prod.mk.injEq]

theorem inside_of_lists {index : Nat} {name : String} {id : SymbolId}
    (lists : forest.Lists (.region index) name id) : index < forest.scopes.size := by
  obtain ⟨record, record_eq, -⟩ := lists
  exact (Array.getElem?_eq_some_iff.mp record_eq).1

/-- A symbol of an entry is listed once. -/
theorem IsDeclared.lists_declared_iff (declared : IsDeclared symbols forest) {number : Nat}
    {symbol : Symbol} {index : Nat} (found : forest.symbols[number]? = some symbol)
    (owner_eq : symbol.owner = some (.region index)) (inside : index < forest.scopes.size)
    (scope : ScopeId) (name : String) :
    forest.Lists scope name (.declared number) ↔ scope = .region index ∧ name = symbol.name := by
  constructor
  · intro lists
    rcases scope with _ | other
    · obtain ⟨record, record_eq, mem⟩ := lists
      obtain rfl : Scope.outermost = record := Option.some.inj record_eq
      cases Universe.eq_predeclared_of_mem_table mem
    · obtain ⟨_, listed, listed_eq, listed_owner, rfl, same⟩ :=
        (declared.lists_iff (inside_of_lists lists)).mp lists
      cases same
      obtain rfl : listed = symbol := Option.some.inj (listed_eq.symm.trans found)
      exact ⟨Option.some.inj (listed_owner.symm.trans owner_eq), rfl⟩
  · rintro ⟨rfl, rfl⟩
    exact (declared.lists_iff inside).mpr ⟨number, symbol, found, owner_eq, rfl, rfl⟩

theorem IsDeclared.nodup_table (declared : IsDeclared symbols forest) {scope : ScopeId}
    {record : Scope} (found : forest.scope? scope = some record) :
    (record.table.map Prod.fst).Nodup := by
  rcases scope with _ | index
  · obtain rfl : Scope.outermost = record := Option.some.inj found
    exact Universe.nodup_table
  · exact declared.distinct index record found

theorem IsDeclared.lookup_eq_some (declared : IsDeclared symbols forest) {scope : ScopeId}
    {name : String} {id : SymbolId} (lists : forest.Lists scope name id) :
    forest.lookup scope name = some id := by
  obtain ⟨record, record_eq, mem⟩ := lists
  rw [Forest.lookup, record_eq]
  exact lookup_eq_some_of_mem (declared.nodup_table record_eq) mem

/-- Every symbol has an entry. -/
theorem IsDeclared.exists_owner (declared : IsDeclared symbols forest) {number : Nat}
    {symbol : Symbol} (found : forest.symbols[number]? = some symbol) :
    ∃ index < forest.scopes.size, symbol.owner = some (.region index) := by
  have inside : number < symbols.length :=
    declared.size ▸ (Array.getElem?_eq_some_iff.mp found).1
  obtain ⟨_, read, index, -, read_eq, -, -, index_inside, owner_eq⟩ :=
    declared.owners number _ (List.getElem?_eq_getElem inside)
  obtain rfl : read = symbol := Option.some.inj (read_eq.symm.trans found)
  exact ⟨index, index_inside, owner_eq⟩

theorem IsDeclared.eq_of_name_eq (declared : IsDeclared symbols forest) {first second : Nat}
    {left right : Symbol} (left_eq : forest.symbols[first]? = some left)
    (right_eq : forest.symbols[second]? = some right) (sameOwner : left.owner = right.owner)
    (sameName : left.name = right.name) : first = second := by
  obtain ⟨index, inside, owner_eq⟩ := declared.exists_owner left_eq
  have left_found := declared.lookup_eq_some
    ((declared.lists_iff inside).mpr ⟨first, left, left_eq, owner_eq, rfl, rfl⟩)
  have right_found := declared.lookup_eq_some
    ((declared.lists_iff inside).mpr ⟨second, right, right_eq, sameOwner ▸ owner_eq, rfl, rfl⟩)
  rw [sameName, right_found] at left_found
  cases left_found
  rfl

/-- What a symbol hides belongs to a scope around its own, so it is another symbol. -/
theorem IsNested.hidden (nested : IsNested scopes forest) (declared : IsDeclared symbols forest)
    {number : Nat} {outer : SymbolId}
    (hides : forest.hidden? (.declared number) = some outer) : forest.IsOuterOf outer number := by
  obtain ⟨symbol, owner, outerOwner, outerSymbol, symbol_eq, owner_eq, nearer, farther,
    enclosing_eq, offers, -⟩ := Forest.hidden?_eq_some_iff.mp hides
  have outer_owner := declared.isOwned.owner_eq offers.declares offers.found
  have mem : outerOwner ∈ forest.enclosing owner := by simp [enclosing_eq]
  obtain ⟨index, inside, region_eq⟩ := declared.exists_owner symbol_eq
  obtain rfl : .region index = owner := Option.some.inj (region_eq.symm.trans owner_eq)
  have differs : outerOwner ≠ .region index := by
    rintro rfl
    exact nested.not_mem_enclosing (nested.size ▸ inside) mem
  refine ⟨?_, symbol, outerSymbol, _, outerOwner, symbol_eq, offers.found, owner_eq, outer_owner,
    mem, differs, offers.declares⟩
  rintro rfl
  obtain rfl : symbol = outerSymbol := Option.some.inj (symbol_eq.symm.trans offers.found)
  exact differs (Option.some.inj (outer_owner.symm.trans owner_eq))

theorem IsNested.isForestOf (nested : IsNested scopes forest)
    (declared : IsDeclared symbols forest) : forest.IsForestOf scopes symbols where
  scopeCount := nested.size
  symbolCount := declared.size
  parents := by
    intro index entry entry_eq
    obtain ⟨members, outer, rfl, outer_eq, enclosing_eq⟩ := nested.nested index entry entry_eq
    exact ⟨members, outer, rfl, outer_eq, by rw [Forest.ancestors, enclosing_eq]⟩
  ancestors _ := nested.exists_ancestors_eq
  declared := by
    intro number entry entry_eq
    obtain ⟨members, symbol, scope, rfl, symbol_eq, name_eq, scope_eq, inside, owner_eq⟩ :=
      declared.owners number entry entry_eq
    have once := declared.lists_declared_iff symbol_eq owner_eq inside
    exact ⟨members, symbol, scope, rfl, symbol_eq, name_eq, scope_eq, nested.size ▸ inside,
      owner_eq, declared.lookup_eq_some ((once _ _).mpr ⟨rfl, rfl⟩), once⟩
  distinct _ _ := declared.nodup_table
  unique _ _ _ _ := declared.eq_of_name_eq
  listed := by
    intro index name id lists
    obtain ⟨number, symbol, symbol_eq, -, -, rfl⟩ :=
      (declared.lists_iff (inside_of_lists lists)).mp lists
    exact ⟨number, declared.size ▸ (Array.getElem?_eq_some_iff.mp symbol_eq).1, rfl⟩
  outermost := rfl
  hidden _ _ := nested.hidden declared

end Declared

/-- The scopes and symbols of every package that was read are a tree of scopes with a name table
each. -/
theorem isForestOf_of_package {document : Json} {result : Package}
    (read : package document = .ok result) :
    ∃ members, document = .object members ∧
      result.forest.IsForestOf (itemsUnder members "scopes") (itemsUnder members "symbols") := by
  obtain ⟨members, _, _, types, forest, _, _, rfl, -, -, -, forest_eq, -, -, rfl⟩ :=
    package_eq_ok_iff.mp read
  exact ⟨members, rfl,
    (isNested_of_forest forest_eq).isForestOf (isDeclared_of_forest forest_eq)⟩

end Dump

namespace Specimen

/-- The scopes of a dump, the second one inside the first one. -/
def nestedScopes : List Json := [.object [], .object [("parent", .int 0)]]

/-- The symbols of a dump: a variable `x` in both scopes, and a variable `len` in the second one. -/
def shadowingSymbols : List Json :=
  [.object [("name", .string "x"), ("pos", .int 11), ("scope", .int 0)],
    .object [("name", .string "x"), ("pos", .int 21), ("scope", .int 1)],
    .object [("name", .string "len"), ("pos", .int 31), ("scope", .int 1)]]

/-- A dump of these scopes and symbols without files. -/
def shadowingDocument : Json :=
  .object [("package", .string "p"), ("scopes", .array nestedScopes),
    ("symbols", .array shadowingSymbols), ("files", .array [])]

/-- The inner `x` hides the outer one, and `len` hides the predeclared function. -/
theorem isForestOf_nestedScopes :
    ∃ result, Dump.package shadowingDocument = .ok result ∧
      result.forest.IsForestOf nestedScopes shadowingSymbols ∧
      result.forest.hidden? (.declared 1) = some (.declared 0) ∧
      result.forest.hidden? (.declared 2) = some (.predeclared "len") := by
  refine ⟨_, rfl, ?_, by decide +kernel, by decide +kernel⟩
  obtain ⟨members, document_eq, integrity⟩ :=
    Dump.isForestOf_of_package (show Dump.package shadowingDocument = .ok _ from rfl)
  obtain rfl := Json.object.inj document_eq
  exact integrity

end Specimen

end ShadowLint
