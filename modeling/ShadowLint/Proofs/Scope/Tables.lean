import ShadowLint.Proofs.Scope.Nesting
import ShadowLint.Proofs.Scope.Ownership

/-!
# Name tables of scopes that were read

The name table of a scope lists the symbols that it owns, in their order and each under its own
name, and no two of them have the same name.  Hence a symbol stands in one table only, and what it
hides is another symbol, owned by a scope around its own.
-/

namespace ShadowLint

namespace Forest

/-- The symbols that the scope at an index owns, in their order and under their names. -/
def owned (forest : Forest) (index : Nat) : List (String × SymbolId) :=
  forest.symbols.toList.zipIdx.filterMap fun (symbol, number) =>
    if symbol.owner = some (.region index) then some (symbol.name, .declared number) else none

theorem mem_owned_iff {forest : Forest} {index : Nat} {entry : String × SymbolId} :
    entry ∈ forest.owned index ↔ ∃ number symbol, forest.symbols[number]? = some symbol ∧
      symbol.owner = some (.region index) ∧ entry = (symbol.name, .declared number) := by
  simp only [owned, List.mem_filterMap, Prod.exists, List.mk_mem_zipIdx_iff_getElem?,
    Option.ite_none_right_eq_some, Option.some.injEq, Array.getElem?_toList]
  constructor
  · rintro ⟨symbol, number, found, owner_eq, rfl⟩
    exact ⟨number, symbol, found, owner_eq, rfl⟩
  · rintro ⟨number, symbol, found, owner_eq, rfl⟩
    exact ⟨symbol, number, found, owner_eq, rfl⟩

/-- One more symbol, declared in the scope at an index. -/
def declare (forest : Forest) (index : Nat) (symbol : Symbol) : Forest where
  scopes := forest.scopes.modify index fun scope =>
    { scope with table := scope.table ++ [(symbol.name, .declared forest.symbols.size)] }
  symbols := forest.symbols.push symbol

/-- A new symbol with a free name is declared in its scope, which owns it. -/
theorem exists_declare_of_insert {forest after : Forest} {index : Nat} {symbol : Symbol}
    (inside : index < forest.scopes.size)
    (inserted : (forest.create symbol).insert index (.declared forest.symbols.size) =
      (none, after)) :
    ∃ scope, forest.scopes[index]? = some scope ∧ scope.table.lookup symbol.name = none ∧
      after = forest.declare index { symbol with owner := some (.region index) } := by
  have scope_eq : forest.scopes[index]? = some forest.scopes[index] :=
    Array.getElem?_eq_getElem inside
  have symbol_eq : (forest.create symbol).symbol? (.declared forest.symbols.size) =
      some { symbol with owner := none } := by
    simp [symbol?, create]
  refine ⟨_, scope_eq, ?_⟩
  unfold insert at inserted
  rw [symbol_eq, show (forest.create symbol).scopes = forest.scopes from rfl, scope_eq] at inserted
  dsimp only at inserted
  split at inserted
  · cases inserted
  · rename_i free
    obtain rfl := (Prod.mk.inj inserted).2
    refine ⟨free, congrArg (Forest.mk _) (Array.ext_getElem? fun number => ?_)⟩
    rw [Array.getElem?_modify, Forest.create, Array.getElem?_push, Array.getElem?_push]
    by_cases last : number = forest.symbols.size
    · simp [last]
    · simp [last, Ne.symm last]

theorem owned_declare (forest : Forest) (index : Nat) (symbol : Symbol) (other : Nat) :
    (forest.declare index symbol).owned other = forest.owned other ++
      if symbol.owner = some (.region other) then
        [(symbol.name, .declared forest.symbols.size)]
      else [] := by
  simp only [owned, declare, Array.toList_push, List.zipIdx_append, List.filterMap_append]
  split <;> simp [*]

theorem getElem?_scopes_declare {forest : Forest} {index other : Nat} {symbol : Symbol}
    {scope : Scope} (found : (forest.declare index symbol).scopes[other]? = some scope) :
    ∃ earlier, forest.scopes[other]? = some earlier ∧ scope.enclosing = earlier.enclosing ∧
      scope.table = earlier.table ++
        if index = other then [(symbol.name, .declared forest.symbols.size)] else [] := by
  rw [declare, Array.getElem?_modify] at found
  by_cases same : index = other
  · rw [if_pos same, Option.map_eq_some_iff] at found
    obtain ⟨earlier, earlier_eq, rfl⟩ := found
    exact ⟨earlier, earlier_eq, rfl, by rw [if_pos same]⟩
  · rw [if_neg same] at found
    exact ⟨scope, found, rfl, by rw [if_neg same, List.append_nil]⟩

theorem enclosing_declare (forest : Forest) (index : Nat) (symbol : Symbol) (id : ScopeId) :
    (forest.declare index symbol).enclosing id = forest.enclosing id := by
  rcases id with _ | other
  · rfl
  · simp only [enclosing, scope?, declare, Array.getElem?_modify]
    split
    · cases forest.scopes[other]? <;> rfl
    · rfl

end Forest

namespace Dump

/-- One more symbol has a name and a scope that is there, where the name is free, and it is declared
there. -/
theorem exists_declare_of_addSymbol {types : Array Ty} {before after : Forest} {entry : Json}
    (added : addSymbol types before entry = .ok after) :
    ∃ members symbol scope record, entry = .object members ∧
      content? members "name" .string = some symbol.name ∧
      content? members "scope" .int = some (scope : Nat) ∧
      symbol.owner = some (.region scope) ∧ before.scopes[scope]? = some record ∧
      record.table.lookup symbol.name = none ∧ after = before.declare scope symbol := by
  obtain ⟨members, kind, name, type, position, visiblePosition, scope, rfl, -, name_eq, -, -, -,
    scope_eq, inside, inserted⟩ := addSymbol_eq_ok_iff.mp added
  obtain ⟨scope, rfl⟩ := Int.eq_ofNat_of_zero_le inside.1
  obtain ⟨record, record_eq, free, rfl⟩ :=
    Forest.exists_declare_of_insert (Int.ofNat_lt.mp inside.2) inserted
  exact ⟨members, { name, kind, type, position, visiblePosition, owner := some (.region scope) },
    scope, record, rfl, require_eq_ok_iff_content?.mp name_eq,
    require_eq_ok_iff_content?.mp scope_eq, rfl, record_eq, free, rfl⟩

/-- The symbols of the forest are those of the entries, each owned by the scope that its entry
names, and the scopes list the symbols that they own. -/
structure IsDeclared (entries : List Json) (forest : Forest) : Prop where
  /-- There is a symbol for every entry. -/
  size : forest.symbols.size = entries.length
  /-- A symbol has the name and the scope of its entry. -/
  owners : ∀ (number : Nat) (entry : Json), entries[number]? = some entry →
    ∃ members symbol scope, entry = .object members ∧ forest.symbols[number]? = some symbol ∧
      content? members "name" .string = some symbol.name ∧
      content? members "scope" .int = some (scope : Nat) ∧ scope < forest.scopes.size ∧
      symbol.owner = some (.region scope)
  /-- A scope lists the symbols that it owns. -/
  tables : ∀ (index : Nat) (scope : Scope), forest.scopes[index]? = some scope →
    scope.table = forest.owned index
  /-- No two of them have the same name. -/
  distinct : ∀ (index : Nat) (scope : Scope), forest.scopes[index]? = some scope →
    (scope.table.map Prod.fst).Nodup

theorem IsDeclared.openScope {forest : Forest} (declared : IsDeclared [] forest)
    (parent : Option ScopeId) (start stop : Int) (comment : String) :
    IsDeclared [] (forest.openScope parent start stop comment) := by
  have no_symbols : forest.symbols = #[] := Array.eq_empty_of_size_eq_zero declared.size
  refine ⟨declared.size, by simp, fun index scope found => ?_, fun index scope found => ?_⟩
  all_goals
    rw [Forest.openScope, Array.getElem?_push] at found
    split at found
  · obtain rfl := Option.some.inj found
    simp [Forest.owned, Forest.openScope, no_symbols]
  · exact declared.tables index scope found
  · obtain rfl := Option.some.inj found
    exact .nil
  · exact declared.distinct index scope found

theorem isDeclared_of_scopes {entries : List Json} {forest : Forest}
    (read : entries.foldlM addScope .empty = .ok forest) : IsDeclared [] forest := by
  refine foldlM_induction (motive := IsDeclared []) ?_ ⟨rfl, by simp, ?_, ?_⟩ read
  · intro before entry after declared added
    obtain ⟨_, _, _, _, _, -, -, -, -, -, rfl⟩ := addScope_eq_ok_iff.mp added
    exact declared.openScope _ _ _ _
  all_goals
    intro index scope found
    simp [Forest.empty] at found

/-- A name that the table does not have can be added to it. -/
theorem nodup_concat_of_lookup_eq_none {table : List (String × SymbolId)} {name : String}
    {id : SymbolId} (distinct : (table.map Prod.fst).Nodup) (free : table.lookup name = none) :
    ((table ++ [(name, id)]).map Prod.fst).Nodup := by
  rw [List.map_append, List.map_singleton, List.nodup_append]
  refine ⟨distinct, List.pairwise_singleton .., fun taken mem other other_mem same => ?_⟩
  obtain ⟨entry, entry_mem, rfl⟩ := List.mem_map.mp mem
  obtain rfl : other = name := List.mem_singleton.mp other_mem
  simpa [same] using List.lookup_eq_none_iff.mp free entry entry_mem

theorem IsDeclared.addSymbol {types : Array Ty} {entries : List Json} {before after : Forest}
    {entry : Json} (declared : IsDeclared entries before)
    (added : addSymbol types before entry = .ok after) : IsDeclared (entries ++ [entry]) after := by
  obtain ⟨members, symbol, scope, record, rfl, name_eq, scope_eq, owner_eq, record_eq, free, rfl⟩ :=
    exists_declare_of_addSymbol added
  have inside : scope < before.scopes.size := (Array.getElem?_eq_some_iff.mp record_eq).1
  have owner_iff (other : Nat) : symbol.owner = some (.region other) ↔ scope = other := by
    simp [owner_eq]
  refine ⟨by simp [Forest.declare, declared.size], fun number other other_eq => ?_,
    fun index changed found => ?_, fun index changed found => ?_⟩
  · rcases getElem?_concat_eq_some_iff.mp other_eq with other_eq | ⟨rfl, rfl⟩
    · obtain ⟨others, earlier, earlierScope, rfl, earlier_eq, earlier_name, earlier_scope,
        earlier_inside, earlier_owner⟩ := declared.owners number other other_eq
      have bound := (Array.getElem?_eq_some_iff.mp earlier_eq).1
      refine ⟨others, earlier, earlierScope, rfl, ?_, earlier_name, earlier_scope, ?_,
        earlier_owner⟩
      · rwa [Forest.declare, Array.getElem?_push, if_neg (Nat.ne_of_lt bound)]
      · simpa [Forest.declare] using earlier_inside
    · refine ⟨members, symbol, scope, rfl, ?_, name_eq, scope_eq, ?_, owner_eq⟩
      · rw [Forest.declare, ← declared.size, Array.getElem?_push_size]
      · simpa [Forest.declare] using inside
  · obtain ⟨earlier, earlier_eq, -, table_eq⟩ := Forest.getElem?_scopes_declare found
    rw [table_eq, declared.tables index earlier earlier_eq, Forest.owned_declare]
    simp only [owner_iff]
  · obtain ⟨earlier, earlier_eq, -, table_eq⟩ := Forest.getElem?_scopes_declare found
    have distinct := declared.distinct index earlier earlier_eq
    rw [table_eq]
    split
    · rename_i same
      subst same
      obtain rfl : record = earlier := Option.some.inj (record_eq.symm.trans earlier_eq)
      exact nodup_concat_of_lookup_eq_none distinct free
    · rwa [List.append_nil]

theorem IsNested.addSymbol {types : Array Ty} {entries : List Json} {before after : Forest}
    {entry : Json} (nested : IsNested entries before)
    (added : addSymbol types before entry = .ok after) : IsNested entries after := by
  obtain ⟨_, symbol, scope, _, -, -, -, -, -, -, rfl⟩ := exists_declare_of_addSymbol added
  refine ⟨by simpa [Forest.declare] using nested.size, ?_⟩
  simpa only [Forest.ancestors, Forest.enclosing_declare] using nested.nested

/-- Scopes that list the symbols that they own own the symbols that they list. -/
theorem IsDeclared.isOwned {entries : List Json} {forest : Forest}
    (declared : IsDeclared entries forest) : forest.IsOwned := by
  intro index scope found entry mem
  rw [declared.tables index scope found] at mem
  obtain ⟨number, symbol, symbol_eq, owner_eq, rfl⟩ := Forest.mem_owned_iff.mp mem
  exact ⟨number, symbol, rfl, symbol_eq, owner_eq, rfl⟩

section Read

variable {types : Array Ty} {members : Members} {result : Forest}

theorem isNested_of_forest (read : forest types members = .ok result) :
    IsNested (itemsUnder members "scopes") result := by
  obtain ⟨_, _, _, scopes_eq, scopes_read, -, symbols_read⟩ := forest_eq_ok_iff.mp read
  obtain ⟨-, rfl⟩ := items_eq_ok_iff.mp scopes_eq
  exact foldlM_induction (fun _ _ _ => IsNested.addSymbol) (isNested_of_scopes scopes_read)
    symbols_read

theorem isDeclared_of_forest (read : forest types members = .ok result) :
    IsDeclared (itemsUnder members "symbols") result := by
  obtain ⟨_, _, _, -, scopes_read, symbols_eq, symbols_read⟩ := forest_eq_ok_iff.mp read
  obtain ⟨-, rfl⟩ := items_eq_ok_iff.mp symbols_eq
  exact foldlM_induction_append (fun _ _ _ _ declared added => IsDeclared.addSymbol declared added)
    [] (isDeclared_of_scopes scopes_read) symbols_read

/-- Every scope that was read owns the symbols that it declares. -/
theorem isOwned_of_forest (read : forest types members = .ok result) : result.IsOwned :=
  (isDeclared_of_forest read).isOwned

end Read

end Dump
end ShadowLint
