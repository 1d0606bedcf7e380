import ShadowLint.Diagnostic
import ShadowLint.Suppression
import ShadowLint.Types.Sharing
import ShadowLint.UseTable

/-!
# The verdict on a declared name

A declared name is reported when it hides a declared symbol of the same type, some write to it is
never read, and the hidden symbol is used later.  The verdict on a name depends on the package
alone and not on the names decided before it.
-/

namespace ShadowLint

/-- The name of nothing. -/
def blankName : String := "_"

/-- What the check knows about a package. -/
structure Evidence where
  /-- The package. -/
  package : Package
  /-- Its declarations, writes and loop variables. -/
  scan : Scan
  /-- The uses of its symbols. -/
  usage : UseTable

/-- What becomes of a declared name. -/
inductive Verdict where
  /-- It is the name of nothing. -/
  | blank
  /-- It declares no symbol. -/
  | declaresNothing
  /-- It hides nothing. -/
  | hidesNothing
  /-- It hides a predeclared symbol, which is allowed. -/
  | hidesPredeclared
  /-- It hides a symbol of another type. -/
  | differentType (inner outer : Symbol)
  /-- Every write to it is read. -/
  | writesRead (inner : Symbol)
  /-- The symbol that it hides is not used later. -/
  | outerUnused (inner : Symbol)
  /-- It hides a symbol for no good reason. -/
  | shadows (inner outer : Symbol)

namespace Evidence

/-- The line of a position. -/
def lineOf (evidence : Evidence) (position : Int) : Nat :=
  (evidence.package.space.location position).line

/-- Whether every write to a symbol behind its declaration is read. -/
def isConsumed (evidence : Evidence) (inner : SymbolId) (declaration : Int) : Bool :=
  Suppression.allRead (evidence.scan.writesTo inner) declaration (evidence.usage.usesOf inner)

/-- Whether a symbol is used behind a declaration and on another line. -/
def isUsedLater (evidence : Evidence) (outer : SymbolId) (declaration : Int) : Bool :=
  Suppression.isUsedLater (evidence.usage.usesOf outer) declaration evidence.lineOf

/-- The symbol that an occurrence of a name declares, with its identity. -/
def declared? (evidence : Evidence) (ident : Ident) : Option (SymbolId × Symbol) := do
  let id ← evidence.package.resolution.declaredAt? ident.place
  let symbol ← evidence.package.forest.symbol? id
  pure (id, symbol)

/-- The symbol that a symbol hides, with its identity. -/
def hidden? (evidence : Evidence) (inner : SymbolId) : Option (SymbolId × Symbol) := do
  let id ← evidence.package.forest.hidden? inner
  let symbol ← evidence.package.forest.symbol? id
  pure (id, symbol)

/-- The verdict on an occurrence of a name. -/
def verdict (evidence : Evidence) (ident : Ident) : Verdict :=
  if ident.name = blankName then .blank
  else
    match evidence.declared? ident with
    | none => .declaresNothing
    | some (innerId, inner) =>
        match evidence.hidden? innerId with
        | none => .hidesNothing
        | some (outerId, outer) =>
            if outer.owner = some .universe then .hidesPredeclared
            else if !Ty.haveSameType inner.type outer.type then .differentType inner outer
            else if evidence.isConsumed innerId ident.position then .writesRead inner
            else if !evidence.isUsedLater outerId ident.position then .outerUnused inner
            else .shadows inner outer

end Evidence

namespace Verdict

/-- The diagnostic for an occurrence with the verdict, if it is reported. -/
def diagnostic? (space : PositionSpace) (ident : Ident) : Verdict → Option Diagnostic
  | shadows inner outer => some (.shadow space ident inner outer)
  | _ => none

/-- The event for an occurrence with the verdict, if the verdict needs a reason. -/
def event? (location : Location) : Verdict → Option Event
  | differentType inner outer => some (.differentType location inner.name inner.type outer.type)
  | writesRead inner => some (.writesRead location inner.name)
  | outerUnused inner => some (.outerUnused location inner.name)
  | _ => none

end Verdict

end ShadowLint
