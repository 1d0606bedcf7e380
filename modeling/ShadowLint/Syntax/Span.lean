import ShadowLint.Syntax.Node

/-!
# Spans of nodes

The first position of a node, and the position behind it, are those of the first present anchor that
the grammar lists.  An anchor is a token of the node or one of its parts; a node whose anchors are
all absent has no edge, and neither has a node whose edge is that of such a part.
-/

namespace ShadowLint

/-- What gives a node its edge: a token of its own, or the same edge of a part. -/
inductive Edge where
  /-- A token, by the position of the edge. -/
  | token (position : Int)
  /-- A part of the node. -/
  | part (part : Node)

/-- The edge that an anchor gives to a node, if what it names is there. -/
def Anchor.edge? (node : Node) : Anchor → Option Edge
  | .token field width => some (.token (node.position field + width))
  | .closing field =>
      if node.position field = noPosition then none else some (.token (node.position field + 1))
  | .spelled position text => some (.token (node.position position + (node.text text).length))
  | .node field => (node.child? field).map .part
  | .first field => (node.nodes field).head?.map .part
  | .last field => (node.nodes field).getLast?.map .part

namespace Node

/-- The first edge that a list of anchors gives to the node. -/
def edge? (node : Node) (anchors : List Anchor) : Option Edge :=
  anchors.findSome? (Anchor.edge? node)

theorem mem_children_of_mem_nodes {node part : Node} {field : String}
    (mem : part ∈ node.nodes field) : part ∈ node.children := by
  cases found : node.slot? field with
  | none => simp [nodes, found] at mem
  | some slot =>
      obtain ⟨before, after, slots_eq, -⟩ := List.lookup_eq_some_iff.mp found
      refine List.mem_flatMap.mpr ⟨(field, slot), ?_, ?_⟩
      · simp [slots_eq]
      · simpa [nodes, found] using mem

theorem mem_children_of_edge {node part : Node} {anchors : List Anchor}
    (edge : node.edge? anchors = some (.part part)) : part ∈ node.children := by
  obtain ⟨anchor, -, found⟩ := List.exists_of_findSome?_eq_some edge
  cases anchor with
  | token => simp [Anchor.edge?] at found
  | closing => simp only [Anchor.edge?] at found; split at found <;> simp at found
  | spelled => simp [Anchor.edge?] at found
  | node field =>
      simp only [Anchor.edge?, Option.map_eq_some_iff, Edge.part.injEq, exists_eq_right] at found
      exact mem_children_of_mem_nodes (List.mem_of_mem_head? found)
  | first field =>
      simp only [Anchor.edge?, Option.map_eq_some_iff, Edge.part.injEq, exists_eq_right] at found
      exact mem_children_of_mem_nodes (List.mem_of_mem_head? found)
  | last field =>
      simp only [Anchor.edge?, Option.map_eq_some_iff, Edge.part.injEq, exists_eq_right] at found
      exact mem_children_of_mem_nodes (List.mem_of_getLast? found)

/-- A part is smaller than the node. -/
theorem sizeOf_lt_of_mem_children {node part : Node} (mem : part ∈ node.children) :
    sizeOf part < sizeOf node := by
  obtain ⟨place, kind, slots⟩ := node
  obtain ⟨⟨name, slot⟩, slot_mem, part_mem⟩ := List.mem_flatMap.mp mem
  replace part_mem : part ∈ slot.toList := part_mem
  have slot_lt : sizeOf (name, slot) < sizeOf slots := List.sizeOf_lt_of_mem slot_mem
  have part_lt : sizeOf part < sizeOf slot := by
    cases slot with
    | position => simp [Slot.toList] at part_mem
    | text => simp [Slot.toList] at part_mem
    | child content =>
        cases content with
        | none => simp [Slot.toList] at part_mem
        | some child =>
            obtain rfl : part = child := by simpa [Slot.toList] using part_mem
            simp
            omega
    | children content =>
        have : sizeOf part < sizeOf content := List.sizeOf_lt_of_mem part_mem
        simp
        omega
  simp at slot_lt ⊢
  omega

/-- The position of the node's edge on a side, if it has one. -/
def edgePosition? (node : Node) (side : Side) : Option Int :=
  match _edge : node.edge? (node.kind.anchors side) with
  | none => none
  | some (.token position) => some position
  | some (.part part) => part.edgePosition? side
termination_by sizeOf node
decreasing_by exact sizeOf_lt_of_mem_children (mem_children_of_edge ‹_›)

end Node

/-- The position that an edge stands for on a side, if it has one. -/
def Edge.position? (edge : Edge) (side : Side) : Option Int :=
  match edge with
  | .token position => some position
  | .part node => node.edgePosition? side

namespace Node

theorem edgePosition?_eq (node : Node) (side : Side) :
    node.edgePosition? side =
      (node.edge? (node.kind.anchors side)).bind fun edge => edge.position? side := by
  rw [edgePosition?]
  split <;> simp [*, Edge.position?]

/-- The first position of the node, if it has one. -/
def start? (node : Node) : Option Int :=
  node.edgePosition? .start

/-- The position behind the node, if it has one. -/
def stop? (node : Node) : Option Int :=
  node.edgePosition? .stop

end Node

end ShadowLint
