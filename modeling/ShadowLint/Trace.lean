import ShadowLint.Event

/-!
# Traces

A check works on trees that may lack a position where it needs one.  A trace is a computation that
stops there, and that keeps the events which it told before.
-/

namespace ShadowLint

/-- A node has no edge where one is needed: what would give it is an empty list. -/
structure NoEdge where
  /-- The kind of the node. -/
  kind : Kind
deriving DecidableEq, Repr

/-- A computation that tells events and may stop at a node without an edge.  What it told before it
stopped is kept. -/
abbrev Trace := ExceptT NoEdge (StateM (List Event))

namespace Trace

/-- Tells an event. -/
def tell (event : Event) : Trace Unit :=
  modify (· ++ [event])

/-- The position of a node's edge on a side. -/
def edge (node : Node) (side : Side) : Trace Int :=
  match node.edgePosition? side with
  | some position => pure position
  | none => throw ⟨node.kind⟩

/-- The outcome of a computation, and the events that it told. -/
def outcome {Result : Type} (trace : Trace Result) : Except NoEdge Result × List Event :=
  trace.run.run []

end Trace

end ShadowLint
