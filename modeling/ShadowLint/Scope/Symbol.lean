import ShadowLint.Source.PositionSpace
import ShadowLint.Types.Basic

/-!
# Symbols

A symbol is one declared or predeclared entity.  Symbols and scopes are known by identities, so two
symbols that agree in every property are still two.
-/

namespace ShadowLint

/-- What kind of entity a name stands for. -/
inductive SymbolKind where
  | var | const | type | func | package | builtin | nil | label
deriving DecidableEq, Repr

namespace SymbolKind

/-- All kinds. -/
def all : List SymbolKind := [var, const, type, func, package, builtin, nil, label]

/-- The name of a kind. -/
def name : SymbolKind → String
  | var => "var"
  | const => "const"
  | type => "type"
  | func => "func"
  | package => "package"
  | builtin => "builtin"
  | nil => "nil"
  | label => "label"

/-- The kind with a name. -/
def ofName? (name : String) : Option SymbolKind :=
  all.find? (·.name == name)

end SymbolKind

/-- The identity of a symbol. -/
inductive SymbolId where
  /-- The predeclared symbol of a name. -/
  | predeclared (name : String)
  /-- The declared symbol at an index. -/
  | declared (index : Nat)
deriving DecidableEq, Repr

/-- The identity of a scope. -/
inductive ScopeId where
  /-- The outermost scope, which holds the predeclared symbols. -/
  | universe
  /-- The scope at an index. -/
  | region (index : Nat)
deriving DecidableEq, Repr

/-- The properties of a symbol. -/
structure Symbol where
  /-- The name it is declared with. -/
  name : String
  /-- What it stands for. -/
  kind : SymbolKind
  /-- Its type, if it has one. -/
  type : Option Ty
  /-- Where it is declared; predeclared symbols are declared nowhere. -/
  position : Int := noPosition
  /-- Where it becomes visible, if not at its declaration.  `noPosition` makes it visible in its
  whole scope. -/
  visiblePosition : Option Int := none
  /-- The scope that owns it. -/
  owner : Option ScopeId := none

namespace Symbol

/-- The position from which the symbol is visible. -/
def visibleFrom (symbol : Symbol) : Int :=
  symbol.visiblePosition.getD symbol.position

/-- The symbol is visible at a position of its own scope. -/
def VisibleAt (symbol : Symbol) (position : Int) : Prop :=
  position = noPosition ∨ symbol.visibleFrom = noPosition ∨ symbol.visibleFrom ≤ position

instance (symbol : Symbol) (position : Int) : Decidable (symbol.VisibleAt position) :=
  inferInstanceAs (Decidable (_ ∨ _ ∨ _))

end Symbol

end ShadowLint
