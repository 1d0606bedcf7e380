import ShadowLint.Dump.Error

/-!
# Members of the objects in a dump

An object of a dump is read member by member: a member is either required or optional, where an
optional member may be missing or null, and its value has to be of one kind.
-/

namespace ShadowLint
namespace Dump

/-- The members of an object. -/
abbrev Members := List (String × Json)

/-- A kind of value with the content that its values have. -/
structure Shape (Content : Type) where
  /-- The name that messages give to the kind. -/
  name : String
  /-- The content of a value of the kind. -/
  read? : Json → Option Content

namespace Shape

/-- Whole numbers. -/
def int : Shape Int where
  name := "int"
  read?
    | .int value => some value
    | _ => none

/-- Texts. -/
def string : Shape String where
  name := "str"
  read?
    | .string value => some value
    | _ => none

/-- Lists. -/
def list : Shape (List Json) where
  name := "list"
  read?
    | .array items => some items
    | _ => none

/-- Objects. -/
def object : Shape Members where
  name := "dict"
  read?
    | .object members => some members
    | _ => none

end Shape

/-- The content of a member that must be there. -/
def require {Content : Type} (part : DumpPart) (members : Members) (key : String)
    (shape : Shape Content) : Except DumpError Content :=
  match members.lookup key with
  | none => .error (.missing part key)
  | some found =>
      match shape.read? found with
      | some content => .ok content
      | none => .error (.wrongKind part key shape.name found)

/-- The content of a member that may be missing or null. -/
def optional? {Content : Type} (part : DumpPart) (members : Members) (key : String)
    (shape : Shape Content) : Except DumpError (Option Content) :=
  match Json.present? members key with
  | none => .ok none
  | some _ => (require part members key shape).map some

/-- The list of a member that may be missing or null. -/
def items (part : DumpPart) (members : Members) (key : String) : Except DumpError (List Json) :=
  (optional? part members key .list).map (Option.getD · [])

/-- The objects in the list of a member that may be missing or null. -/
def objects (part : DumpPart) (members : Members) (key : String) :
    Except DumpError (List Members) := do
  (← items part members key).zipIdx.mapM fun (item, index) =>
    match item with
    | .object members => .ok members
    | found => .error (.itemNotObject part key index found)

/-- The value of a member, null if it is missing. -/
def value (members : Members) (key : String) : Json :=
  (members.lookup key).getD .null

end Dump
end ShadowLint
