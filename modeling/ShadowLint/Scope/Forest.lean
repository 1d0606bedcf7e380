import ShadowLint.Scope.Universe

/-!
# Nested scopes

A scope is a region of the source with a name table of its own, and it knows the scopes around it
from the moment it is opened.  Name tables only grow: a name that is taken keeps its symbol.  A name
is looked up in a scope and then in the scopes around it, nearest first, and a declaration that is
not visible yet does not stop the search.
-/

namespace ShadowLint

/-- A region of the source with the names declared in it. -/
structure Scope where
  /-- The scopes around it, nearest first. -/
  enclosing : List ScopeId
  /-- First position of the region. -/
  start : Int
  /-- First position behind the region. -/
  stop : Int
  /-- What the region is, for readers. -/
  comment : String
  /-- The symbols declared here by name, in the order of their declarations. -/
  table : List (String × SymbolId)

namespace Scope

/-- The region holds the position. -/
def Contains (scope : Scope) (position : Int) : Prop :=
  scope.start ≤ position ∧ position < scope.stop

instance (scope : Scope) (position : Int) : Decidable (scope.Contains position) :=
  inferInstanceAs (Decidable (_ ∧ _))

/-- The scope around everything. -/
def outermost : Scope where
  enclosing := []
  start := noPosition
  stop := noPosition
  comment := "universe"
  table := Universe.table

end Scope

/-- The scopes and the declared symbols of a program. -/
structure Forest where
  /-- The scopes in the order in which they were opened. -/
  scopes : Array Scope
  /-- The declared symbols in the order in which they were created. -/
  symbols : Array Symbol

namespace Forest

/-- A program without scopes and symbols of its own. -/
def empty : Forest := ⟨#[], #[]⟩

/-- The scope with an identity. -/
def scope? (forest : Forest) : ScopeId → Option Scope
  | .universe => some .outermost
  | .region index => forest.scopes[index]?

/-- The symbol with an identity. -/
def symbol? (forest : Forest) : SymbolId → Option Symbol
  | .predeclared name => Universe.symbol? name
  | .declared index => forest.symbols[index]?

/-- The scopes around a scope, nearest first. -/
def enclosing (forest : Forest) (id : ScopeId) : List ScopeId :=
  ((forest.scope? id).map Scope.enclosing).getD []

/-- A scope and the scopes around it, nearest first. -/
def ancestors (forest : Forest) (id : ScopeId) : List ScopeId :=
  id :: forest.enclosing id

/-- The symbol that a scope itself declares under a name. -/
def lookup (forest : Forest) (id : ScopeId) (name : String) : Option SymbolId :=
  (forest.scope? id).bind fun scope => scope.table.lookup name

/-- Opens a scope inside another one, or apart from all others. -/
def openScope (forest : Forest) (parent : Option ScopeId) (start stop : Int) (comment : String) :
    Forest :=
  let enclosing := parent.elim [] forest.ancestors
  { forest with scopes := forest.scopes.push ⟨enclosing, start, stop, comment, []⟩ }

/-- Creates a symbol that no scope owns yet. -/
def create (forest : Forest) (symbol : Symbol) : Forest :=
  { forest with symbols := forest.symbols.push { symbol with owner := none } }

/-- Makes a scope the owner of a declared symbol that has none. -/
def own (forest : Forest) (owner : ScopeId) : SymbolId → Forest
  | .predeclared _ => forest
  | .declared index =>
      { forest with
        symbols := forest.symbols.modify index fun symbol =>
          { symbol with owner := symbol.owner.or (some owner) } }

/-- Declares a symbol in the scope at an index.  If the name is taken there, the symbol that has it
is answered and nothing changes; otherwise the scope owns the symbol, unless another one does.
Without such a scope or symbol nothing happens. -/
def insert (forest : Forest) (index : Nat) (id : SymbolId) : Option SymbolId × Forest :=
  match forest.scopes[index]?, forest.symbol? id with
  | some scope, some symbol =>
      match scope.table.lookup symbol.name with
      | some existing => (some existing, forest)
      | none =>
          let scopes := forest.scopes.modify index fun scope =>
            { scope with table := scope.table ++ [(symbol.name, id)] }
          (none, { forest with scopes := scopes }.own (.region index) id)
  | _, _ => (none, forest)

/-- The symbol that one of the scopes declares under a name, if it is visible at the position. -/
def visible? (forest : Forest) (name : String) (position : Int) (scope : ScopeId) :
    Option (ScopeId × SymbolId) := do
  let id ← forest.lookup scope name
  let symbol ← forest.symbol? id
  if symbol.VisibleAt position then some (scope, id) else none

/-- The nearest visible symbol with a name, with its scope: first in the scope itself, then in the
scopes around it. -/
def resolve? (forest : Forest) (scope : ScopeId) (name : String) (position : Int) :
    Option (ScopeId × SymbolId) :=
  (forest.ancestors scope).findSome? (forest.visible? name position)

/-- The symbol that a symbol hides: the nearest one of the same name, visible at the symbol's
declaration, in the scopes around the one that owns the symbol. -/
def hidden? (forest : Forest) (id : SymbolId) : Option SymbolId := do
  let symbol ← forest.symbol? id
  let owner ← symbol.owner
  let found ← (forest.enclosing owner).findSome? (forest.visible? symbol.name symbol.position)
  pure found.2

end Forest

end ShadowLint
