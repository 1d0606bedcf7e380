import ShadowLint.Scope.Symbol
import ShadowLint.Syntax.Node

/-!
# Resolution of names

Which symbol every occurrence of a name declares or uses.  Occurrences are told apart by their
places, so the same name written twice is resolved twice.
-/

namespace ShadowLint

/-- The resolved occurrences of names, in the order in which they were resolved. -/
structure Resolution where
  /-- The occurrences that declare a symbol, or that reuse one in a declaration and declare none. -/
  definitions : List (Ident × Option SymbolId)
  /-- The occurrences that use a symbol. -/
  uses : List (Ident × SymbolId)

namespace Resolution

/-- Nothing is resolved. -/
def empty : Resolution := ⟨[], []⟩

/-- Adds an occurrence that declares a symbol, or none. -/
def define (resolution : Resolution) (ident : Ident) (symbol? : Option SymbolId) : Resolution :=
  { resolution with definitions := resolution.definitions ++ [(ident, symbol?)] }

/-- Adds an occurrence that uses a symbol. -/
def use (resolution : Resolution) (ident : Ident) (symbol : SymbolId) : Resolution :=
  { resolution with uses := resolution.uses ++ [(ident, symbol)] }

/-- The symbol that the occurrence at a place declares. -/
def declaredAt? (resolution : Resolution) (place : Place) : Option SymbolId :=
  (resolution.definitions.find? (·.1.place == place)).bind (·.2)

/-- The symbol that the occurrence at a place uses. -/
def usedAt? (resolution : Resolution) (place : Place) : Option SymbolId :=
  (resolution.uses.find? (·.1.place == place)).map (·.2)

end Resolution

end ShadowLint
