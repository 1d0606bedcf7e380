import ShadowLint.Syntax.Span

/-!
# Traversals of a syntax tree

A tree is read from its root downwards, the parts of a node after the node and in the order of its
fields.  `preorder` says so by recursion, `walk` does it with a stack of trees still to read, and a
visitor sends every node to a method for its kind, which may visit the parts of the node or leave
them out.
-/

namespace ShadowLint
namespace Node

/-- The node and everything below it, each node before its parts. -/
def preorder (node : Node) : List Node :=
  node :: node.children.attach.flatMap fun ⟨part, _⟩ => part.preorder
termination_by sizeOf node
decreasing_by exact sizeOf_lt_of_mem_children (by assumption)

theorem preorder_eq (node : Node) :
    node.preorder = node :: node.children.flatMap preorder := by
  rw [preorder]
  simp

/-- The number of nodes in a list of trees. -/
def countNodes (trees : List Node) : Nat :=
  (trees.flatMap preorder).length

theorem countNodes_cons (node : Node) (rest : List Node) :
    countNodes (node :: rest) = countNodes (node.children ++ rest) + 1 := by
  simp [countNodes, preorder_eq node, Nat.add_right_comm]

/-- The trees on a stack in the order in which they are read: the last one comes first. -/
def pending (stack : Array Node) : List Node := stack.toList.reverse

/-- The root of the tree to read next, and the stack on which its parts have taken its place, the
first part last. -/
def popRoot? (stack : Array Node) : Option (Node × Array Node) :=
  stack.back?.map fun root => (root, stack.pop ++ root.children.reverse)

theorem popRoot?_eq_none {stack : Array Node} (empty : popRoot? stack = none) :
    pending stack = [] := by
  have none_left := Option.map_eq_none_iff.mp empty
  simp [pending, Array.back?_eq_none_iff.mp none_left]

/-- What is read next is the root, then its parts, and then the other trees. -/
theorem popRoot?_eq_some {stack rest : Array Node} {root : Node}
    (popped : popRoot? stack = some (root, rest)) :
    ∃ others, pending stack = root :: others ∧ pending rest = root.children ++ others := by
  obtain ⟨last, last_eq, popped⟩ := Option.map_eq_some_iff.mp popped
  obtain ⟨below, rfl⟩ := Array.back?_eq_some_iff.mp last_eq
  obtain ⟨rfl, rfl⟩ := Prod.mk.inj popped
  exact ⟨pending below, by simp [pending], by simp [pending]⟩

/-- The nodes that a stack of trees gives until it is empty. -/
def walkFrom (stack : Array Node) : List Node :=
  match _popped : popRoot? stack with
  | none => []
  | some (root, rest) => root :: walkFrom rest
termination_by countNodes (pending stack)
decreasing_by
  obtain ⟨others, stack_eq, rest_eq⟩ := popRoot?_eq_some ‹_›
  rw [stack_eq, rest_eq, countNodes_cons]
  exact Nat.lt_succ_self _

/-- The nodes of a tree in the order in which a stack gives them. -/
def walk (node : Node) : List Node := walkFrom #[node]

/-- A stack gives its trees one after the other. -/
theorem walkFrom_eq (stack : Array Node) : walkFrom stack = (pending stack).flatMap preorder := by
  fun_induction walkFrom stack with
  | case1 stack empty => simp [popRoot?_eq_none empty]
  | case2 stack root rest popped ih =>
      obtain ⟨others, stack_eq, rest_eq⟩ := popRoot?_eq_some popped
      simp [ih, stack_eq, rest_eq, preorder_eq root]

theorem walk_eq_preorder (node : Node) : node.walk = node.preorder := by
  simp [walk, walkFrom_eq, pending]

end Node

/-- A traversal by methods for some kinds of nodes.  A method is given the node and the visit of its
parts, which it may leave out. -/
structure Visitor (Effect : Type → Type) where
  /-- What happens whenever the traversal comes to a node. -/
  arrive : Node → Effect Unit
  /-- The method for the nodes of a kind, if the kind has one. -/
  method? : Kind → Option (Node → Effect Unit → Effect Unit)

namespace Visitor

variable {Effect : Type → Type} [Monad Effect]

/-- Sends a node to the method for its kind; without one its parts are visited. -/
def dispatch (visitor : Visitor Effect) (node : Node) (parts : Effect Unit) : Effect Unit := do
  visitor.arrive node
  match visitor.method? node.kind with
  | some method => method node parts
  | none => parts

/-- Visits a node. -/
def visit (visitor : Visitor Effect) (node : Node) : Effect Unit :=
  visitor.dispatch node (node.children.attach.forM fun part => visitor.visit part.val)
termination_by sizeOf node
decreasing_by exact Node.sizeOf_lt_of_mem_children part.property

theorem visit_eq [LawfulMonad Effect] (visitor : Visitor Effect) (node : Node) :
    visitor.visit node = visitor.dispatch node (node.children.forM visitor.visit) := by
  have parts_eq : forM (node.children.attach.map Subtype.val) visitor.visit =
      forM node.children.attach fun part => visitor.visit part.val := List.forM_map
  rw [List.attach_map_subtype_val] at parts_eq
  rw [visit, List.forM_eq_forM, List.forM_eq_forM, parts_eq]

/-- Notes every node that it comes to, and does not visit the parts of nodes of the closed kinds. -/
def recorder (closed : Kind → Bool) : Visitor (StateM (List Node)) where
  arrive node := modify (· ++ [node])
  method? kind := if closed kind then some fun _ _ => pure () else none

end Visitor

/-- The nodes that a visitor comes to if it does not visit the parts of nodes of the closed
kinds. -/
def Node.visit (closed : Kind → Bool) (node : Node) : List Node :=
  (((Visitor.recorder closed).visit node).run []).2

end ShadowLint
