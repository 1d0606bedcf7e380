import ShadowLint.Dump.Member
import ShadowLint.Resolution
import ShadowLint.Scope.Universe

/-!
# The syntax trees of a dump

An object stands for a node and a list for a list of nodes.  A node is complete when everything in
its members is: then its fields are compared with the grammar, and a name may tell which symbol it
declares or uses.
-/

namespace ShadowLint
namespace Dump

/-- Reading of trees while names are resolved. -/
abbrev TreeReader := StateT Resolution (Except DumpError)

/-- The member that tells the kind of a node. -/
def kindKey : String := "node"

/-- The member that tells which symbol a name declares. -/
def definitionKey : String := "def"

/-- The member that tells which symbol a name uses. -/
def useKey : String := "use"

/-- The kind of the node that an object stands for. -/
def nodeKind (members : Members) : Except DumpError Kind :=
  let found := value members kindKey
  match Shape.string.read? found >>= Kind.ofName? with
  | some kind => .ok kind
  | none => .error (.unknownNode found)

/-- The slots of the given fields that the kind has. -/
def knownSlots (kind : Kind) : List (String × Value) → Except DumpError (List (String × Slot Node))
  | [] => .ok []
  | (name, content) :: rest =>
      match kind.fields.find? (·.name == name) with
      | none => knownSlots kind rest
      | some field =>
          match field.type.slot? content with
          | none => .error (.badField kind name content)
          | some slot => do
              let slots ← knownSlots kind rest
              pure ((name, slot) :: slots)

/-- The fields that the kind requires and that are not given. -/
def missingFields (kind : Kind) (slots : List (String × Slot Node)) : List String :=
  (kind.fields.filter fun field =>
    !field.omissible && !slots.any (·.1 == field.name)).map Field.name

/-- All fields of the kind in order, with the given contents. -/
def completeSlots (kind : Kind) (slots : List (String × Slot Node)) : List (String × Slot Node) :=
  kind.fields.map fun field => (field.name, (slots.lookup field.name).getD field.type.default)

/-- The node of a kind with the given contents of its fields. -/
def buildNode (place : Place) (kind : Kind) (contents : List (String × Value)) :
    Except DumpError Node := do
  let slots ← knownSlots kind contents
  match contents.find? (fun content => !kind.fields.any (·.name == content.1)) with
  | some (name, _) => throw (.unknownField kind name)
  | none =>
      match missingFields kind slots with
      | [] => pure ⟨place, kind, completeSlots kind slots⟩
      | missing => throw (.missingFields kind missing)

/-- The symbol that a name refers to, in a program with so many declared symbols: one of them by
index, or a predeclared one by name. -/
def symbolReference (symbolCount : Nat) (ident : Ident) (found : Value) :
    Except DumpError SymbolId :=
  match found with
  | .scalar (.string name) =>
      if (Universe.symbol? name).isSome then .ok (.predeclared name)
      else .error (.notPredeclared ident name)
  | .scalar (.int index) =>
      if 0 ≤ index ∧ index < symbolCount then .ok (.declared index.toNat)
      else .error (.badSymbolReference ident found)
  | _ => .error (.badSymbolReference ident found)

/-- The symbol that a name declares; null stands for none. -/
def definitionReference (symbolCount : Nat) (ident : Ident) (found : Value) :
    Except DumpError (Option SymbolId) :=
  match found with
  | .scalar .null => .ok none
  | _ => (symbolReference symbolCount ident found).map some

/-- Notes which symbol a name declares and which it uses, as far as its members tell. -/
def resolve (symbolCount : Nat) (ident : Ident) (definition? use? : Option Value) :
    TreeReader Unit := do
  if let some found := definition? then
    let symbol? ← definitionReference symbolCount ident found
    modify (·.define ident symbol?)
  if let some found := use? then
    let symbol ← symbolReference symbolCount ident found
    modify (·.use ident symbol)

/-- Builds a node from the contents of its members and resolves it if it is a name. -/
def finishNode (symbolCount : Nat) (place : Place) (kind : Kind)
    (contents : List (String × Value)) : TreeReader Node := do
  let isResolution (name : String) : Bool := name == definitionKey || name == useKey
  let node ← buildNode place kind (contents.filter fun content => !isResolution content.1)
  if contents.any (isResolution ·.1) then
    match node.ident? with
    | some ident =>
        resolve symbolCount ident (contents.lookup definitionKey) (contents.lookup useKey)
    | none => throw (.resolvedNotIdent kind)
  pure node

/-- The node that an object stands for, where `contents` reads the members of the object. -/
def nodeOf (symbolCount : Nat) (place : Place) (members : Members)
    (contents : TreeReader (List (String × Value))) : TreeReader Node := do
  let kind ← nodeKind members
  finishNode symbolCount place kind (← contents)

mutual

/-- Reads a value that stands at a place. -/
def readValue (symbolCount : Nat) (place : Place) : Json → TreeReader Value
  | .object members =>
      .node <$> nodeOf symbolCount place members (readMembers symbolCount place members)
  | .array items => .list <$> readItems symbolCount place 0 items
  | scalar => pure (.scalar scalar)

/-- Reads the members of a node, without the one that tells its kind. -/
def readMembers (symbolCount : Nat) (place : Place) :
    List (String × Json) → TreeReader (List (String × Value))
  | [] => pure []
  | (name, value) :: rest =>
      if name = kindKey then
        readMembers symbolCount place rest
      else do
        let content ← readValue symbolCount (.field name :: place) value
        let contents ← readMembers symbolCount place rest
        pure ((name, content) :: contents)

/-- Reads the items of a list from an index on. -/
def readItems (symbolCount : Nat) (place : Place) (index : Nat) :
    List Json → TreeReader (List Value)
  | [] => pure []
  | item :: rest => do
      let value ← readValue symbolCount (.item index :: place) item
      let values ← readItems symbolCount place (index + 1) rest
      pure (value :: values)

end

/-- Reads the node that an object at a place stands for. -/
def readNode (symbolCount : Nat) (place : Place) (members : Members) : TreeReader Node :=
  nodeOf symbolCount place members (readMembers symbolCount place members)

end Dump
end ShadowLint
