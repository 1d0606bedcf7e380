import ShadowLint.Source.PositionSpace
import ShadowLint.Syntax.Grammar

/-!
# Syntax trees

A node knows its kind, its place, and the contents of its fields in the order of the grammar.  The
place is the identity of a node: two nodes with equal contents at different places are different.
-/

namespace ShadowLint

/-- One step from a node, or from a list of nodes, to a part of it. -/
inductive Step where
  /-- To the content of a field. -/
  | field (name : String)
  /-- To the item at an index. -/
  | item (index : Nat)
deriving DecidableEq, Repr

/-- The place of a node: the steps to it, the last one first. -/
abbrev Place := List Step

/-- The content of a field. -/
inductive Slot (Child : Type) where
  /-- The position of a token. -/
  | position (position : Int)
  /-- The text of a token. -/
  | text (text : String)
  /-- One node or none. -/
  | child (content : Option Child)
  /-- Any number of nodes. -/
  | children (content : List Child)
deriving Repr

/-- The nodes in a field. -/
def Slot.toList {Child : Type} : Slot Child → List Child
  | .position _ => []
  | .text _ => []
  | .child content => content.toList
  | .children content => content

/-- What a field holds that a document leaves out. -/
def FieldType.default {Child : Type} : FieldType → Slot Child
  | .position => .position noPosition
  | .text => .text ""
  | .node _ => .child none
  | .optional _ => .child none
  | .nodes _ => .children []

/-- A syntax tree, or one node with everything below it. -/
structure Node where
  /-- Where it stands; no other node of a program stands there. -/
  place : Place
  /-- The construct. -/
  kind : Kind
  /-- The fields with their contents, in the order of the grammar. -/
  slots : List (String × Slot Node)

namespace Node

/-- The direct parts of a node in the order of its fields. -/
def children (node : Node) : List Node :=
  node.slots.flatMap fun (_, slot) => slot.toList

/-- The content of a field. -/
def slot? (node : Node) (field : String) : Option (Slot Node) :=
  node.slots.lookup field

/-- The position in a field. -/
def position (node : Node) (field : String) : Int :=
  match node.slot? field with
  | some (.position position) => position
  | _ => noPosition

/-- The text in a field. -/
def text (node : Node) (field : String) : String :=
  match node.slot? field with
  | some (.text text) => text
  | _ => ""

/-- The nodes in a field. -/
def nodes (node : Node) (field : String) : List Node :=
  ((node.slot? field).map Slot.toList).getD []

/-- The node in a field for one node. -/
def child? (node : Node) (field : String) : Option Node :=
  (node.nodes field).head?

end Node

/-- An occurrence of a name in the source. -/
structure Ident where
  /-- Where it stands in the tree. -/
  place : Place
  /-- The name. -/
  name : String
  /-- The position of its first character. -/
  position : Int
deriving DecidableEq, Repr

namespace Ident

/-- The position behind the name. -/
def stop (ident : Ident) : Int :=
  ident.position + ident.name.length

end Ident

/-- The occurrence of a name that a node is, if it is one. -/
def Node.ident? (node : Node) : Option Ident :=
  if node.kind = .ident then some ⟨node.place, node.text "name", node.position "name_pos"⟩
  else none

end ShadowLint
