import ShadowLint.Scope.Forest

/-!
# Inserting a symbol

A scope takes a symbol in if its name is free there, and otherwise answers the symbol that has the
name.  A symbol that is taken in stands behind the others in the name table of the scope, and the
scope owns it unless another one does.  Nothing else changes.
-/

namespace ShadowLint
namespace Forest

/-- The name of a symbol, if there is such a symbol. -/
def nameOf? (forest : Forest) (id : SymbolId) : Option String :=
  (forest.symbol? id).map Symbol.name

/-- The scope at an index lists one more symbol, and owns it unless another scope does. -/
def enlist (forest : Forest) (index : Nat) (name : String) (id : SymbolId) : Forest :=
  { forest with
    scopes := forest.scopes.modify index fun scope =>
      { scope with table := scope.table ++ [(name, id)] } }.own (.region index) id

section Insert

variable {forest : Forest} {index : Nat} {id : SymbolId} {symbol : Symbol}

/-- If the name is taken, the symbol that has it is answered and nothing changes. -/
theorem insert_of_taken {existing : SymbolId} (found : forest.symbol? id = some symbol)
    (taken : forest.lookup (.region index) symbol.name = some existing) :
    forest.insert index id = (some existing, forest) := by
  obtain ⟨scope, scope_eq, existing_eq⟩ := Option.bind_eq_some_iff.mp taken
  replace scope_eq : forest.scopes[index]? = some scope := scope_eq
  rw [insert, scope_eq, found]
  dsimp only
  rw [existing_eq]

/-- If the name is free, the scope lists the symbol. -/
theorem insert_of_free (inside : index < forest.scopes.size)
    (found : forest.symbol? id = some symbol)
    (free : forest.lookup (.region index) symbol.name = none) :
    forest.insert index id = (none, forest.enlist index symbol.name id) := by
  have scope_eq : forest.scopes[index]? = some forest.scopes[index] :=
    Array.getElem?_eq_getElem inside
  have table_free : forest.scopes[index].table.lookup symbol.name = none := by
    simpa only [lookup, scope?, scope_eq, Option.bind_some] using free
  rw [insert, scope_eq, found]
  dsimp only
  rw [table_free]
  rfl

/-- The answer is the symbol that has the name, and a symbol that is not taken in changes
nothing. -/
theorem insert_spec (inside : index < forest.scopes.size)
    (found : forest.symbol? id = some symbol) :
    (forest.insert index id).1 = forest.lookup (.region index) symbol.name ∧
      ((forest.insert index id).1 ≠ none → (forest.insert index id).2 = forest) := by
  cases listed : forest.lookup (.region index) symbol.name with
  | none => simp [insert_of_free inside found listed]
  | some existing => simp [insert_of_taken found listed]

end Insert

section Enlist

variable (forest : Forest) (index : Nat) (name : String) (id : SymbolId)

theorem scopes_enlist : (forest.enlist index name id).scopes =
    forest.scopes.modify index fun scope =>
      { scope with table := scope.table ++ [(name, id)] } := by
  cases id <;> rfl

@[simp]
theorem size_scopes_enlist : (forest.enlist index name id).scopes.size = forest.scopes.size := by
  rw [scopes_enlist, Array.size_modify]

/-- Only the name table of the scope gets longer. -/
theorem getElem?_scopes_enlist (other : Nat) :
    (forest.enlist index name id).scopes[other]? = (forest.scopes[other]?).map fun scope =>
      { scope with table := scope.table ++ if index = other then [(name, id)] else [] } := by
  rw [scopes_enlist, Array.getElem?_modify]
  by_cases same : index = other
  · simp [same]
  · simp [same]

@[simp]
theorem enclosing_enlist (scope : ScopeId) :
    (forest.enlist index name id).enclosing scope = forest.enclosing scope := by
  rcases scope with _ | other
  · rfl
  · simp only [enclosing, scope?, getElem?_scopes_enlist, Option.map_map, Function.comp_def]

variable {forest index name id}

/-- A look-up in the scope finds the symbol if it found nothing before. -/
theorem lookup_enlist (inside : index < forest.scopes.size) (other : Nat) (asked : String) :
    (forest.enlist index name id).lookup (.region other) asked =
      (forest.lookup (.region other) asked).or
        (if index = other ∧ name = asked then some id else none) := by
  rw [lookup, lookup, scope?, scope?, getElem?_scopes_enlist]
  by_cases same : index = other
  · subst same
    rw [Array.getElem?_eq_getElem inside, Option.map_some, Option.bind_some, Option.bind_some,
      if_pos rfl, List.lookup_append]
    by_cases named : name = asked
    · simp [named]
    · have differs : (asked == name) = false := by simpa using Ne.symm named
      simp [named, List.lookup_cons, differs]
  · have elsewhere : ¬(index = other ∧ name = asked) := fun both => same both.1
    rw [if_neg same, if_neg elsewhere, Option.or_none]
    cases forest.scopes[other]? with
    | none => rfl
    | some scope => simp

/-- Only the symbol gets an owner, if it had none. -/
theorem getElem?_symbols_enlist (number : Nat) :
    (forest.enlist index name id).symbols[number]? = (forest.symbols[number]?).map fun symbol =>
      { symbol with
        owner := symbol.owner.or (if id = .declared number then some (.region index) else none) }
    := by
  have unchanged : forest.symbols[number]? = (forest.symbols[number]?).map fun symbol =>
      { symbol with owner := symbol.owner.or none } := by
    simp
  cases id with
  | predeclared _ => exact unchanged
  | declared other =>
      simp only [enlist, own, Array.getElem?_modify, SymbolId.declared.injEq]
      by_cases same : other = number
      · simp only [same, if_true]
      · simpa only [same, if_false] using unchanged

@[simp]
theorem nameOf?_enlist (other : SymbolId) :
    (forest.enlist index name id).nameOf? other = forest.nameOf? other := by
  cases other with
  | predeclared _ => rfl
  | declared number =>
      simp only [nameOf?, symbol?, getElem?_symbols_enlist, Option.map_map, Function.comp_def]

end Enlist

/-- A new symbol does not change the others. -/
theorem nameOf?_create {forest : Forest} {id : SymbolId} {name : String}
    (named : forest.nameOf? id = some name) (symbol : Symbol) :
    (forest.create symbol).nameOf? id = some name := by
  cases id with
  | predeclared _ => exact named
  | declared number =>
      obtain ⟨earlier, earlier_eq, name_eq⟩ := Option.map_eq_some_iff.mp named
      have inside : number < forest.symbols.size := (Array.getElem?_eq_some_iff.mp earlier_eq).1
      have differs : number ≠ forest.symbols.size := Nat.ne_of_lt inside
      rw [nameOf?, symbol?, create, Array.getElem?_push, if_neg differs]
      exact named

end Forest
end ShadowLint
