import ShadowLint.Scope.Symbol
import ShadowLint.Syntax.Value

/-!
# Faults of a package dump

Every way in which a document can fail to be a package dump, and the wording of each.
-/

namespace ShadowLint

/-- The tables of a dump. -/
inductive DumpTable where
  | types | scopes | symbols | files
deriving DecidableEq, Repr

/-- The name of a table. -/
def DumpTable.name : DumpTable → String
  | types => "types"
  | scopes => "scopes"
  | symbols => "symbols"
  | files => "files"

/-- A part of a dump that messages point to. -/
inductive DumpPart where
  /-- The document. -/
  | document
  /-- An entry of a table. -/
  | entry (table : DumpTable) (index : Nat)
deriving DecidableEq, Repr

/-- A part as messages show it. -/
def DumpPart.text : DumpPart → String
  | document => "dump"
  | entry table index => table.name ++ "[" ++ toString index ++ "]"

/-- Why a document is not a package dump. -/
inductive DumpError where
  /-- The document is not an object. -/
  | documentNotObject
  /-- A member that must be there is missing. -/
  | missing (part : DumpPart) (key : String)
  /-- A member holds a value of another kind. -/
  | wrongKind (part : DumpPart) (key expected : String) (found : Json)
  /-- An item of a list of objects is not an object. -/
  | itemNotObject (part : DumpPart) (key : String) (index : Nat) (found : Json)
  /-- An entry is not an object. -/
  | entryNotObject (part : DumpPart)
  /-- A reference to a type is not an index of the types. -/
  | badTypeReference (part : DumpPart) (found : Json)
  /-- A type is a part of itself. -/
  | cyclicType (part : DumpPart)
  /-- There is no such basic type. -/
  | unknownBasicType (part : DumpPart) (name : String)
  /-- There is no such direction of a channel. -/
  | unknownDirection (part : DumpPart) (name : String)
  /-- The type of a method is not a function type. -/
  | methodNotFunction (part : DumpPart) (method : Json)
  /-- There is no such kind of type. -/
  | unknownTypeKind (part : DumpPart) (found : Json)
  /-- The scope around a scope is not an earlier one. -/
  | badParent (part : DumpPart) (found : Json)
  /-- There is no such kind of symbol. -/
  | badSymbolKind (part : DumpPart) (found : Json)
  /-- A symbol belongs to no scope. -/
  | badScopeReference (part : DumpPart) (found : Int)
  /-- The name of a symbol is taken in its scope. -/
  | redeclared (part : DumpPart) (name : String) (scope : Nat)
  /-- A line table holds something else than offsets. -/
  | badLineStarts (part : DumpPart)
  /-- A file is refused. -/
  | badFile (part : DumpPart) (fault : FileError)
  /-- The tree of a file does not have a file as its root. -/
  | rootNotFile (part : DumpPart) (kind : Kind)
  /-- There is no such kind of node. -/
  | unknownNode (found : Json)
  /-- A field holds something that it may not hold. -/
  | badField (kind : Kind) (field : String) (found : Value)
  /-- A kind of node has no such field. -/
  | unknownField (kind : Kind) (field : String)
  /-- Fields are missing. -/
  | missingFields (kind : Kind) (fields : List String)
  /-- A node is resolved that is not a name. -/
  | resolvedNotIdent (kind : Kind)
  /-- A name is resolved to a predeclared name that does not exist. -/
  | notPredeclared (ident : Ident) (name : String)
  /-- A name is resolved to something that is no symbol. -/
  | badSymbolReference (ident : Ident) (found : Value)

namespace DumpError

/-- A name in single quotes. -/
def quoted (name : String) : String := "'" ++ name ++ "'"

/-- Names in single quotes, the last one after "and". -/
def enumerated : List String → String
  | [] => ""
  | [name] => quoted name
  | [first, second] => quoted first ++ " and " ++ quoted second
  | names =>
      String.join (names.dropLast.map fun name => quoted name ++ ", ") ++ "and " ++
        quoted (names.getLast?.getD "")

/-- The wording for fields that the document must give. -/
def missingText (fields : List String) : String :=
  let plural := if fields.length = 1 then "" else "s"
  "missing " ++ toString fields.length ++ " required positional argument" ++ plural ++ ": " ++
    enumerated fields

/-- The wording for a field that the kind does not have.  The name `self` is taken by the node. -/
def unknownText (field : String) : String :=
  if field = "self" then "got multiple values for argument " ++ quoted field
  else "got an unexpected keyword argument " ++ quoted field

/-- An occurrence of a name as messages show it. -/
def identText (ident : Ident) : String :=
  "Ident " ++ Text.literal ident.name ++ " at " ++ toString ident.position

/-- The wording of a fault. -/
def message : DumpError → String
  | documentNotObject => "dump must be a JSON object"
  | missing part key => part.text ++ ": missing " ++ Text.literal key
  | wrongKind part key expected found =>
      part.text ++ ": " ++ Text.literal key ++ " must be " ++ expected ++ ", got " ++ found.kindName
  | itemNotObject part key index found =>
      part.text ++ ": " ++ key ++ "[" ++ toString index ++ "] must be an object, got " ++
        found.kindName
  | entryNotObject part => part.text ++ ": must be an object"
  | badTypeReference part found => part.text ++ ": invalid type reference " ++ found.literal
  | cyclicType part => part.text ++ ": cyclic type not broken by a named type"
  | unknownBasicType part name => part.text ++ ": unknown basic type " ++ Text.literal name
  | unknownDirection part name => part.text ++ ": unknown channel direction " ++ Text.literal name
  | methodNotFunction part method =>
      part.text ++ ": method " ++ method.literal ++ " must have a signature type"
  | unknownTypeKind part found => part.text ++ ": unknown type kind " ++ found.literal
  | badParent part found =>
      part.text ++ ": parent must be null or the index of an earlier scope, got " ++ found.literal
  | badSymbolKind part found => part.text ++ ": " ++ found.literal ++ " is not a valid SymbolKind"
  | badScopeReference part found => part.text ++ ": invalid scope reference " ++ toString found
  | redeclared part name scope =>
      part.text ++ ": " ++ Text.literal name ++ " is already declared in " ++
        (DumpPart.entry .scopes scope).text
  | badLineStarts part => part.text ++ ": 'line_starts' must hold integer offsets"
  | badFile part fault => part.text ++ ": " ++ fault.message
  | rootNotFile part kind => part.text ++ ": syntax root must be a File node, got " ++ kind.name
  | unknownNode found => "unknown syntax node " ++ found.literal
  | badField kind field found =>
      kind.name ++ " node: " ++ Text.literal field ++ " cannot be " ++ found.kindName
  | unknownField kind field =>
      kind.name ++ " node: " ++ kind.name ++ ".__init__() " ++ unknownText field
  | missingFields kind fields =>
      kind.name ++ " node: " ++ kind.name ++ ".__init__() " ++ missingText fields
  | resolvedNotIdent kind => kind.name ++ " node: only Ident nodes carry def/use"
  | notPredeclared ident name =>
      identText ident ++ ": " ++ Text.literal name ++ " is not a predeclared identifier"
  | badSymbolReference ident found =>
      identText ident ++ ": invalid symbol reference " ++ found.literal

end DumpError

end ShadowLint
