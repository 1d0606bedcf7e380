import ShadowLint.Proofs.Displacement.Space
import ShadowLint.Proofs.Scope.Ownership

/-!
# Displaced scopes and symbols

Scopes and symbols keep their identities when their positions move on.  A symbol is visible at a
displaced position exactly if it was visible before, so every symbol hides the same one.
-/

namespace ShadowLint

/-- The symbol at its displaced position. -/
def Symbol.displaced (offset : Nat) (symbol : Symbol) : Symbol :=
  { symbol with
    position := displace offset symbol.position
    visiblePosition := symbol.visiblePosition.map (displace offset) }

/-- The scope with its displaced region. -/
def Scope.displaced (offset : Nat) (scope : Scope) : Scope :=
  { scope with start := displace offset scope.start, stop := displace offset scope.stop }

@[simp]
theorem Symbol.name_displaced (offset : Nat) (symbol : Symbol) :
    (symbol.displaced offset).name = symbol.name :=
  rfl

@[simp]
theorem Scope.table_displaced (offset : Nat) (scope : Scope) :
    (scope.displaced offset).table = scope.table :=
  rfl

/-- The scopes and symbols at their displaced positions. -/
def Forest.displaced (offset : Nat) (forest : Forest) : Forest :=
  ⟨forest.scopes.map (Scope.displaced offset), forest.symbols.map (Symbol.displaced offset)⟩

/-- The symbol is not declared before everything, nor does it become visible there. -/
structure Symbol.IsPositioned (symbol : Symbol) : Prop where
  /-- It is declared somewhere or nowhere. -/
  position : noPosition ≤ symbol.position
  /-- It becomes visible somewhere or nowhere. -/
  visiblePosition : ∀ position ∈ symbol.visiblePosition, noPosition ≤ position

instance (symbol : Symbol) : Decidable symbol.IsPositioned :=
  decidable_of_iff
    (noPosition ≤ symbol.position ∧
      ∀ position ∈ symbol.visiblePosition, noPosition ≤ position)
    ⟨fun ⟨position, visiblePosition⟩ => ⟨position, visiblePosition⟩,
      fun positioned => ⟨positioned.position, positioned.visiblePosition⟩⟩

namespace Universe

variable {name : String} {symbol : Symbol}

theorem eq_predeclared_of_mem_symbols (mem : symbol ∈ symbols) :
    ∃ name kind type, symbol = predeclared name kind type := by
  simp only [symbols, List.mem_append, List.mem_map, List.mem_cons, List.not_mem_nil,
    or_false] at mem
  rcases mem with (⟨type, -, rfl⟩ | mem) | ⟨name, -, rfl⟩
  · exact ⟨_, _, _, rfl⟩
  · rcases mem with rfl | rfl | rfl | rfl | rfl | rfl | rfl <;> exact ⟨_, _, _, rfl⟩
  · exact ⟨_, _, _, rfl⟩

/-- Predeclared symbols are declared nowhere, so they do not move. -/
theorem displaced_of_symbol?_eq_some (offset : Nat) (found : symbol? name = some symbol) :
    symbol.displaced offset = symbol ∧ symbol.IsPositioned := by
  obtain ⟨name, kind, type, rfl⟩ := eq_predeclared_of_mem_symbols (List.mem_of_find?_eq_some found)
  exact ⟨rfl, by simp [predeclared], by simp [predeclared]⟩

end Universe

namespace Symbol

theorem IsPositioned.visibleFrom {symbol : Symbol} (positioned : symbol.IsPositioned) :
    noPosition ≤ symbol.visibleFrom := by
  unfold Symbol.visibleFrom
  cases visible : symbol.visiblePosition with
  | none => exact positioned.position
  | some position => exact positioned.visiblePosition position visible

theorem visibleFrom_displaced (offset : Nat) (symbol : Symbol) :
    (symbol.displaced offset).visibleFrom = displace offset symbol.visibleFrom := by
  unfold visibleFrom displaced
  cases symbol.visiblePosition <;> rfl

theorem visibleAt_displaced_iff {offset : Nat} {symbol : Symbol} {position : Int}
    (positioned : symbol.IsPositioned) (nonneg : noPosition ≤ position) :
    (symbol.displaced offset).VisibleAt (displace offset position) ↔ symbol.VisibleAt position := by
  rw [VisibleAt, VisibleAt, visibleFrom_displaced, displace_eq_noPosition_iff nonneg,
    displace_eq_noPosition_iff positioned.visibleFrom,
    displace_le_iff positioned.visibleFrom nonneg]

end Symbol

namespace Forest

/-- All symbols are positioned. -/
def IsPositioned (forest : Forest) : Prop :=
  ∀ symbol ∈ forest.symbols, symbol.IsPositioned

instance (forest : Forest) : Decidable forest.IsPositioned :=
  inferInstanceAs (Decidable (∀ symbol ∈ forest.symbols, _))

variable {forest : Forest} {offset : Nat}

theorem displaced_empty : empty.displaced offset = empty := by
  simp [displaced, empty]

@[simp]
theorem scope?_displaced (forest : Forest) (id : ScopeId) :
    (forest.displaced offset).scope? id = (forest.scope? id).map (Scope.displaced offset) := by
  rcases id with _ | index
  · rfl
  · exact Array.getElem?_map

@[simp]
theorem symbol?_displaced (forest : Forest) (id : SymbolId) :
    (forest.displaced offset).symbol? id = (forest.symbol? id).map (Symbol.displaced offset) := by
  cases id with
  | predeclared name =>
      change Universe.symbol? name = (Universe.symbol? name).map (Symbol.displaced offset)
      cases found : Universe.symbol? name with
      | none => rfl
      | some symbol =>
          rw [Option.map_some, (Universe.displaced_of_symbol?_eq_some offset found).1]
  | declared index => exact Array.getElem?_map

@[simp]
theorem enclosing_displaced (forest : Forest) (id : ScopeId) :
    (forest.displaced offset).enclosing id = forest.enclosing id := by
  rw [enclosing, enclosing, scope?_displaced, Option.map_map]
  rfl

@[simp]
theorem lookup_displaced (forest : Forest) (id : ScopeId) (name : String) :
    (forest.displaced offset).lookup id name = forest.lookup id name := by
  rw [lookup, lookup, scope?_displaced, Option.bind_map]
  rfl

theorem openScope_displaced (forest : Forest) (parent : Option ScopeId) (start stop : Int)
    (comment : String) :
    (forest.displaced offset).openScope parent (displace offset start) (displace offset stop)
      comment = (forest.openScope parent start stop comment).displaced offset := by
  have ancestors_eq : (forest.displaced offset).ancestors = forest.ancestors := by
    funext id
    rw [ancestors, ancestors, enclosing_displaced]
  rw [openScope, openScope, ancestors_eq]
  simp [displaced, Scope.displaced]

theorem create_displaced (forest : Forest) (symbol : Symbol) :
    (forest.displaced offset).create (symbol.displaced offset) =
      (forest.create symbol).displaced offset := by
  simp [create, displaced, Symbol.displaced]

theorem map_modify {Item : Type} {items : Array Item} {index : Nat} {change : Item → Item}
    {move : Item → Item} (commute : ∀ item, change (move item) = move (change item)) :
    (items.map move).modify index change = (items.modify index change).map move := by
  apply Array.ext_getElem?
  intro other
  rw [Array.getElem?_modify, Array.getElem?_map, Array.getElem?_map, Array.getElem?_modify]
  split
  · rw [Option.map_map, Option.map_map]
    exact congrFun (congrArg Option.map (funext commute)) _
  · rfl

theorem own_displaced (forest : Forest) (owner : ScopeId) (id : SymbolId) :
    (forest.displaced offset).own owner id = (forest.own owner id).displaced offset := by
  cases id with
  | predeclared name => rfl
  | declared index => exact congrArg (Forest.mk _) (map_modify fun _ => rfl)

theorem insert_displaced (offset : Nat) (forest : Forest) (index : Nat) (id : SymbolId) :
    (forest.displaced offset).insert index id =
      ((forest.insert index id).1, (forest.insert index id).2.displaced offset) := by
  have scope_eq : (forest.displaced offset).scopes[index]? =
      forest.scopes[index]?.map (Scope.displaced offset) := Array.getElem?_map
  unfold insert
  rw [scope_eq, symbol?_displaced]
  cases forest.scopes[index]? with
  | none => rfl
  | some scope =>
      cases forest.symbol? id with
      | none => rfl
      | some symbol =>
          simp only [Option.map_some, Scope.table_displaced, Symbol.name_displaced]
          cases scope.table.lookup symbol.name with
          | some existing => rfl
          | none =>
              refine congrArg (Prod.mk none) ?_
              rw [← own_displaced]
              refine congrArg (fun scopes => Forest.own ⟨scopes, _⟩ (.region index) id) ?_
              exact map_modify fun _ => rfl

/-- A symbol of a positioned forest is positioned. -/
theorem IsPositioned.of_symbol?_eq_some (positioned : forest.IsPositioned) {id : SymbolId}
    {symbol : Symbol} (found : forest.symbol? id = some symbol) : symbol.IsPositioned := by
  cases id with
  | predeclared name => exact (Universe.displaced_of_symbol?_eq_some 0 found).2
  | declared index => exact positioned symbol (Array.mem_of_getElem? found)

theorem visible?_displaced (positioned : forest.IsPositioned) (name : String) {position : Int}
    (nonneg : noPosition ≤ position) (scope : ScopeId) :
    (forest.displaced offset).visible? name (displace offset position) scope =
      forest.visible? name position scope := by
  unfold visible?
  rw [lookup_displaced]
  cases forest.lookup scope name with
  | none => rfl
  | some id =>
      simp only [Option.bind_eq_bind, Option.bind_some, symbol?_displaced]
      cases found : forest.symbol? id with
      | none => rfl
      | some symbol =>
          have positioned := positioned.of_symbol?_eq_some found
          simp only [Option.map_some, Option.bind_some,
            Symbol.visibleAt_displaced_iff positioned nonneg]

/-- Every symbol hides the same one. -/
theorem hidden?_displaced (positioned : forest.IsPositioned) (id : SymbolId) :
    (forest.displaced offset).hidden? id = forest.hidden? id := by
  unfold hidden?
  rw [symbol?_displaced]
  cases found : forest.symbol? id with
  | none => rfl
  | some symbol =>
      have visible_eq : (forest.displaced offset).visible? symbol.name
            (displace offset symbol.position) = forest.visible? symbol.name symbol.position :=
        funext fun scope => visible?_displaced positioned symbol.name
          (positioned.of_symbol?_eq_some found).position scope
      simp only [Option.map_some, Option.bind_eq_bind, Option.bind_some, Symbol.displaced,
        enclosing_displaced, visible_eq]

end Forest
end ShadowLint
