import ShadowLint.Dump.TypeTable
import ShadowLint.Scope.Forest

/-!
# The scopes and symbols of a dump

Scopes are listed so that every scope comes after the one around it, and every symbol names the
scope that declares it.
-/

namespace ShadowLint
namespace Dump

/-- The scope around the scope at an index: the universe, or an earlier scope. -/
def parent (index : Nat) (members : Members) : Except DumpError ScopeId :=
  match value members "parent" with
  | .null => .ok .universe
  | .int parent =>
      if 0 ≤ parent ∧ parent < index then .ok (.region parent.toNat)
      else .error (.badParent (.entry .scopes index) (.int parent))
  | found => .error (.badParent (.entry .scopes index) found)

/-- Reads one scope and opens it. -/
def addScope (forest : Forest) (entry : Json) : Except DumpError Forest := do
  let part : DumpPart := .entry .scopes forest.scopes.size
  match entry with
  | .object members =>
      let parent ← parent forest.scopes.size members
      let start ← optional? part members "pos" .int
      let stop ← optional? part members "end" .int
      let comment ← optional? part members "comment" .string
      pure (forest.openScope (some parent) (start.getD noPosition) (stop.getD noPosition)
        (comment.getD ""))
  | _ => throw (.entryNotObject part)

/-- The kind of a symbol; a variable unless the entry tells. -/
def symbolKind (part : DumpPart) (members : Members) : Except DumpError SymbolKind :=
  match members.lookup "kind" with
  | none => .ok .var
  | some found =>
      match Shape.string.read? found >>= SymbolKind.ofName? with
      | some kind => .ok kind
      | none => .error (.badSymbolKind part found)

/-- The type of a symbol, if the entry refers to one. -/
def symbolType (types : Array Ty) (part : DumpPart) (members : Members) :
    Except DumpError (Option Ty) :=
  match Json.present? members "type" with
  | none => .ok none
  | some found => do
      let index ← typeIndex types.size part found
      pure types[index]?

/-- Reads one symbol and declares it in its scope. -/
def addSymbol (types : Array Ty) (forest : Forest) (entry : Json) : Except DumpError Forest := do
  let index := forest.symbols.size
  let part : DumpPart := .entry .symbols index
  match entry with
  | .object members =>
      let kind ← symbolKind part members
      let name ← require part members "name" .string
      let type ← symbolType types part members
      let position ← require part members "pos" .int
      let visiblePosition ← optional? part members "scope_pos" .int
      let scope ← require part members "scope" .int
      if scope < 0 ∨ forest.scopes.size ≤ scope then
        throw (.badScopeReference part scope)
      let created := forest.create { name, kind, type, position, visiblePosition }
      match created.insert scope.toNat (.declared index) with
      | (none, inserted) => pure inserted
      | (some _, _) => throw (.redeclared part name scope.toNat)
  | _ => throw (.entryNotObject part)

/-- Reads the scopes and symbols of a program with the given types. -/
def forest (types : Array Ty) (members : Members) : Except DumpError Forest := do
  let scopes ← items .document members "scopes"
  let withScopes ← scopes.foldlM addScope .empty
  let symbols ← items .document members "symbols"
  symbols.foldlM (addSymbol types) withScopes

end Dump
end ShadowLint
