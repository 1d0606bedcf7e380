import ShadowLint.Json.Literal
import ShadowLint.Syntax.Node

/-!
# Contents of fields before they are checked

While a document is decoded, a field of a node may hold anything: a scalar, a list, or a node that
is decoded already.  A content that has the type of its field becomes a slot.
-/

namespace ShadowLint

/-- A decoded content of a field that has not been compared with the grammar. -/
inductive Value where
  /-- A value that is neither a list nor an object. -/
  | scalar (value : Json)
  /-- A list. -/
  | list (items : List Value)
  /-- A node. -/
  | node (node : Node)

/-- The literal of several things in order; a single one is marked by a comma. -/
def groupLiteral : List String → String
  | [item] => "(" ++ item ++ ",)"
  | items => "(" ++ ", ".intercalate items ++ ")"

namespace Node

mutual

/-- The literal of a node: its kind and all of its fields. -/
def literal : Node → String
  | ⟨_, kind, slots⟩ => kind.name ++ "(" ++ ", ".intercalate (slotLiterals slots) ++ ")"

/-- The literals of fields. -/
def slotLiterals : List (String × Slot Node) → List String
  | [] => []
  | (name, slot) :: rest => (name ++ "=" ++ slotLiteral slot) :: slotLiterals rest

/-- The literal of the content of a field. -/
def slotLiteral : Slot Node → String
  | .position position => toString position
  | .text text => Text.literal text
  | .child none => Json.nullLiteral
  | .child (some node) => literal node
  | .children nodes => groupLiteral (literals nodes)

/-- The literals of nodes. -/
def literals : List Node → List String
  | [] => []
  | node :: rest => literal node :: literals rest

end

end Node

namespace Value

mutual

/-- The literal of a content. -/
def literal : Value → String
  | .scalar value => value.literal
  | .list items => groupLiteral (literals items)
  | .node root => root.literal

/-- The literals of contents. -/
def literals : List Value → List String
  | [] => []
  | value :: rest => literal value :: literals rest

end

/-- The name that messages give to the kind of a content. -/
def kindName : Value → String
  | .scalar value => value.kindName
  | .list _ => "tuple"
  | .node root => root.kind.name

/-- The node that a content is, if the class holds it. -/
def node? (accepted : NodeClass) : Value → Option Node
  | .node root => if accepted.accepts root.kind then some root else none
  | _ => none

end Value

/-- The slot of a field with a content, if the content has the type of the field. -/
def FieldType.slot? : FieldType → Value → Option (Slot Node)
  | .position, .scalar (.int number) => some (.position number)
  | .text, .scalar (.string word) => some (.text word)
  | .node accepted, value => (value.node? accepted).map fun root => .child (some root)
  | .optional _, .scalar .null => some (.child none)
  | .optional accepted, value => (value.node? accepted).map fun root => .child (some root)
  | .nodes accepted, .list items => (items.mapM (Value.node? accepted)).map .children
  | _, _ => none

end ShadowLint
