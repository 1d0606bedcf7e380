import ShadowLint.Proofs.Syntax.Preorder

/-!
# Nodes that conform to the grammar

A node conforms to the grammar when it has the fields of its kind, each with a content of the
field's type.  In a tree of such nodes most kinds have both edges whatever their lists hold; the
main statement is `exists_span`.  The others miss an edge only where a list is empty, or where the
part that gives the edge misses it.
-/

namespace ShadowLint

/-- A field of the type may hold the content. -/
def FieldType.Admits : FieldType → Slot Node → Prop
  | .position, .position _ => True
  | .text, .text _ => True
  | .node accepted, .child (some part) => accepted.accepts part.kind
  | .optional accepted, .child content => ∀ part ∈ content, accepted.accepts part.kind
  | .nodes accepted, .children content => ∀ part ∈ content, accepted.accepts part.kind
  | _, _ => False

theorem FieldType.admits_node_iff {accepted : NodeClass} {slot : Slot Node} :
    (FieldType.node accepted).Admits slot ↔
      ∃ part, slot = .child (some part) ∧ accepted.accepts part.kind := by
  rcases slot with _ | _ | (_ | part) | _ <;> simp [Admits]

theorem FieldType.admits_optional_iff {accepted : NodeClass} {slot : Slot Node} :
    (FieldType.optional accepted).Admits slot ↔
      ∃ content, slot = .child content ∧ ∀ part ∈ content, accepted.accepts part.kind := by
  rcases slot with _ | _ | content | _ <;> simp [Admits]

theorem FieldType.admits_nodes_iff {accepted : NodeClass} {slot : Slot Node} :
    (FieldType.nodes accepted).Admits slot ↔
      ∃ content, slot = .children content ∧ ∀ part ∈ content, accepted.accepts part.kind := by
  rcases slot with _ | _ | _ | content <;> simp [Admits]

instance : (type : FieldType) → (slot : Slot Node) → Decidable (type.Admits slot)
  | .position, .position _ | .text, .text _ => inferInstanceAs (Decidable True)
  | .node accepted, .child (some part) => inferInstanceAs (Decidable (accepted.accepts part.kind))
  | .optional accepted, .child content =>
      inferInstanceAs (Decidable (∀ part ∈ content, accepted.accepts part.kind))
  | .nodes accepted, .children content =>
      inferInstanceAs (Decidable (∀ part ∈ content, accepted.accepts part.kind))
  | .node _, .child none | .position, .text _ | .position, .child _ | .position, .children _
  | .text, .position _ | .text, .child _ | .text, .children _
  | .node _, .position _ | .node _, .text _ | .node _, .children _
  | .optional _, .position _ | .optional _, .text _ | .optional _, .children _
  | .nodes _, .position _ | .nodes _, .text _ | .nodes _, .child _ =>
      inferInstanceAs (Decidable False)

/-- No kind has two fields of one name. -/
theorem Kind.fieldNames_nodup (kind : Kind) : (kind.fields.map Field.name).Nodup := by
  cases kind <;> decide

/-- The type of the field of a kind with a name. -/
def Kind.fieldType? (kind : Kind) (name : String) : Option FieldType :=
  (kind.fields.find? (·.name == name)).map Field.type

theorem Kind.fieldType?_eq_of_mem {kind : Kind} {field : Field} (mem : field ∈ kind.fields) :
    kind.fieldType? field.name = some field.type := by
  have table : ∀ field ∈ kind.fields, kind.fieldType? field.name = some field.type := by
    cases kind <;> decide
  exact table field mem

/-- The type of a field with a name is that of a field of the kind. -/
theorem Kind.exists_field_of_fieldType? {kind : Kind} {name : String} {type : FieldType}
    (found : kind.fieldType? name = some type) :
    ∃ field ∈ kind.fields, field.name = name ∧ field.type = type := by
  obtain ⟨field, field_eq, type_eq⟩ := Option.map_eq_some_iff.mp found
  exact ⟨field, List.mem_of_find?_eq_some field_eq, by simpa using List.find?_some field_eq,
    type_eq⟩

namespace Node

/-- The node has the fields of its kind with contents of their types. -/
structure Conforms (node : Node) : Prop where
  /-- The fields are those of the kind, in order. -/
  names : node.slots.map Prod.fst = node.kind.fields.map Field.name
  /-- Each field holds something of its type. -/
  admits : ∀ name type, node.kind.fieldType? name = some type →
    ∃ slot, node.slot? name = some slot ∧ type.Admits slot

/-- Field by field it can be checked whether a node conforms to the grammar. -/
theorem conforms_iff {node : Node} :
    node.Conforms ↔ node.slots.map Prod.fst = node.kind.fields.map Field.name ∧
      ∀ field ∈ node.kind.fields, ∃ slot ∈ node.slot? field.name, field.type.Admits slot := by
  constructor
  · intro conforms
    exact ⟨conforms.names, fun field mem =>
      conforms.admits field.name field.type (Kind.fieldType?_eq_of_mem mem)⟩
  · rintro ⟨names, admits⟩
    refine ⟨names, fun name type found => ?_⟩
    obtain ⟨field, mem, rfl, rfl⟩ := Kind.exists_field_of_fieldType? found
    exact admits field mem

instance (node : Node) : Decidable node.Conforms :=
  decidable_of_iff _ conforms_iff.symm

/-- Every node of the tree conforms to the grammar. -/
def IsGrammatical (node : Node) : Prop :=
  ∀ part ∈ node.preorder, part.Conforms

instance (node : Node) : Decidable node.IsGrammatical :=
  inferInstanceAs (Decidable (∀ part ∈ node.preorder, part.Conforms))

theorem IsGrammatical.conforms {node : Node} (grammatical : node.IsGrammatical) : node.Conforms :=
  grammatical node (self_mem_preorder node)

theorem IsGrammatical.of_mem_preorder {node part : Node} (grammatical : node.IsGrammatical)
    (mem : part ∈ node.preorder) : part.IsGrammatical :=
  fun other other_mem => grammatical other (preorder_subset mem other_mem)

theorem IsGrammatical.of_mem_children {node part : Node} (grammatical : node.IsGrammatical)
    (mem : part ∈ node.children) : part.IsGrammatical :=
  grammatical.of_mem_preorder (mem_preorder_of_mem_children (self_mem_preorder node) mem)

section Contents

variable {node : Node} {field : String} {accepted : NodeClass}

/-- A field for one node holds one of its class. -/
theorem Conforms.exists_nodes_eq (conforms : node.Conforms)
    (type : node.kind.fieldType? field = some (.node accepted)) :
    ∃ part, node.nodes field = [part] ∧ accepted.accepts part.kind := by
  obtain ⟨slot, found, admitted⟩ := conforms.admits _ _ type
  obtain ⟨part, rfl, accepts⟩ := FieldType.admits_node_iff.mp admitted
  exact ⟨part, by simp [nodes, found, Slot.toList], accepts⟩

/-- A field for one node or none holds nothing else than nodes of its class. -/
theorem Conforms.accepts_of_optional (conforms : node.Conforms)
    (type : node.kind.fieldType? field = some (.optional accepted)) {part : Node}
    (mem : part ∈ node.nodes field) : accepted.accepts part.kind := by
  obtain ⟨slot, found, admitted⟩ := conforms.admits _ _ type
  obtain ⟨content, rfl, accepts⟩ := FieldType.admits_optional_iff.mp admitted
  exact accepts part (by simpa [nodes, found, Slot.toList] using mem)

/-- A field for nodes holds nothing else than nodes of its class. -/
theorem Conforms.accepts_of_nodes (conforms : node.Conforms)
    (type : node.kind.fieldType? field = some (.nodes accepted)) {part : Node}
    (mem : part ∈ node.nodes field) : accepted.accepts part.kind := by
  obtain ⟨slot, found, admitted⟩ := conforms.admits _ _ type
  obtain ⟨content, rfl, accepts⟩ := FieldType.admits_nodes_iff.mp admitted
  exact accepts part (by simpa [nodes, found, Slot.toList] using mem)

end Contents

end Node

/-- The kinds whose nodes have both edges whatever their lists hold. -/
def Kind.isSpanned : Kind → Bool
  | .assignStmt | .ifStmt | .caseClause | .declStmt | .valueSpec | .genDecl | .file => false
  | _ => true

/-- The class holds spanned kinds only. -/
def NodeClass.isSpanned (accepted : NodeClass) : Bool :=
  Kind.all.all fun kind => !accepted.accepts kind || kind.isSpanned

theorem Kind.mem_all (kind : Kind) : kind ∈ all := by
  cases kind <;> decide

theorem NodeClass.isSpanned_of_accepts {accepted : NodeClass} {kind : Kind}
    (spanned : accepted.isSpanned) (accepts : accepted.accepts kind) : kind.isSpanned := by
  have kind_spanned := List.all_eq_true.mp spanned kind kind.mem_all
  simpa [accepts] using kind_spanned

/-- One of the anchors is there in every node of the kind, and the anchors up to it lead to spanned
kinds only. -/
def Kind.holds (kind : Kind) : List Anchor → Bool
  | [] => false
  | .token .. :: _ | .spelled .. :: _ => true
  | .closing _ :: rest => kind.holds rest
  | .node name :: rest =>
      match kind.fieldType? name with
      | some (.node accepted) => accepted.isSpanned
      | some (.optional accepted) => accepted.isSpanned && kind.holds rest
      | _ => false
  | .first name :: rest | .last name :: rest =>
      match kind.fieldType? name with
      | some (.nodes accepted) => accepted.isSpanned && kind.holds rest
      | _ => false

/-- The rules of the grammar span the spanned kinds. -/
theorem Kind.holds_of_isSpanned {kind : Kind} (spanned : kind.isSpanned) (side : Side) :
    kind.holds (kind.anchors side) := by
  revert spanned
  cases kind <;> cases side <;> decide

/-- The list of nodes that ends on the side. -/
def Side.outermost : Side → String → Anchor
  | .start => .first
  | .stop => .last

namespace Node

theorem edge?_cons (node : Node) (anchor : Anchor) (rest : List Anchor) :
    node.edge? (anchor :: rest) = (anchor.edge? node).or (node.edge? rest) := by
  rw [edge?, List.findSome?_cons]
  cases anchor.edge? node <;> rfl

/-- Among nodes of a spanned class and the anchors behind them, one gives an edge. -/
theorem exists_edge_or {accepted : NodeClass} {content? : Option Node}
    {rest : Option Edge} (spanned : accepted.isSpanned)
    (accepts : ∀ part ∈ content?, accepted.accepts part.kind)
    (behind : ∃ edge, rest = some edge ∧ ∀ part, edge = .part part → part.kind.isSpanned) :
    ∃ edge, (content?.map Edge.part).or rest = some edge ∧
      ∀ part, edge = .part part → part.kind.isSpanned := by
  cases content? with
  | none => simpa using behind
  | some part =>
      have part_spanned := NodeClass.isSpanned_of_accepts spanned (accepts part rfl)
      exact ⟨.part part, rfl, by simp [part_spanned]⟩

/-- Anchors that hold give an edge, and a part that gives it is of a spanned kind. -/
theorem exists_edge_of_holds {node : Node} (conforms : node.Conforms) {anchors : List Anchor}
    (holds : node.kind.holds anchors) :
    ∃ edge, node.edge? anchors = some edge ∧ ∀ part, edge = .part part → part.kind.isSpanned := by
  induction anchors with
  | nil => simp [Kind.holds] at holds
  | cons anchor rest ih =>
      -- The first and the last node of a list are alike: either is one of the list.
      have among {field : String} {content? : Option Node}
          (mem : ∀ part ∈ content?, part ∈ node.nodes field)
          (holds : node.kind.holds (.first field :: rest)) :
          ∃ edge, (content?.map Edge.part).or (node.edge? rest) = some edge ∧
            ∀ part, edge = .part part → part.kind.isSpanned := by
        simp only [Kind.holds] at holds
        split at holds
        · rename_i accepted type
          rw [Bool.and_eq_true] at holds
          exact exists_edge_or holds.1
            (fun part part_mem => conforms.accepts_of_nodes type (mem part part_mem))
            (ih holds.2)
        · cases holds
      rw [edge?_cons]
      cases anchor with
      | token field width => exact ⟨_, by rw [Anchor.edge?, Option.some_or], by simp⟩
      | spelled position text => exact ⟨_, by rw [Anchor.edge?, Option.some_or], by simp⟩
      | closing field =>
          rw [Anchor.edge?]
          split
          · exact ih holds
          · exact ⟨_, Option.some_or, by simp⟩
      | node field =>
          simp only [Kind.holds] at holds
          split at holds
          · rename_i accepted type
            obtain ⟨part, nodes_eq, accepts⟩ := conforms.exists_nodes_eq type
            have part_spanned := NodeClass.isSpanned_of_accepts holds accepts
            exact ⟨.part part, by simp [Anchor.edge?, child?, nodes_eq], by simp [part_spanned]⟩
          · rename_i accepted type
            rw [Bool.and_eq_true] at holds
            exact exists_edge_or holds.1
              (fun part mem => conforms.accepts_of_optional type (List.mem_of_mem_head? mem))
              (ih holds.2)
          · cases holds
      | first field => exact among (fun _ => List.mem_of_mem_head?) holds
      | last field => exact among (fun _ => List.mem_of_getLast?) holds

/-- A node of a spanned kind has an edge on each side. -/
theorem exists_edgePosition {node : Node} (grammatical : node.IsGrammatical)
    (spanned : node.kind.isSpanned) (side : Side) :
    ∃ position, node.edgePosition? side = some position := by
  induction node using Node.induction with
  | step node ih =>
      obtain ⟨edge, edge_eq, edge_spanned⟩ :=
        exists_edge_of_holds grammatical.conforms (Kind.holds_of_isSpanned spanned side)
      rw [edgePosition?_eq, edge_eq]
      cases edge with
      | token position => exact ⟨position, rfl⟩
      | part part =>
          have mem := mem_children_of_edge edge_eq
          exact ih part mem (grammatical.of_mem_children mem) (edge_spanned part rfl)

/-- The nodes of a field for nodes of a spanned class have an edge on each side. -/
theorem exists_edgePosition_of_mem_nodes {node part : Node} {field : String}
    {accepted : NodeClass} (grammatical : node.IsGrammatical)
    (type : node.kind.fieldType? field = some (.nodes accepted)) (spanned : accepted.isSpanned)
    (mem : part ∈ node.nodes field) (side : Side) :
    ∃ position, part.edgePosition? side = some position :=
  exists_edgePosition (grammatical.of_mem_children (mem_children_of_mem_nodes mem))
    (NodeClass.isSpanned_of_accepts spanned (grammatical.conforms.accepts_of_nodes type mem)) side

/-- The outermost node of a list gives no edge exactly if the list is empty; otherwise the node that
gives it is one of the list. -/
theorem edge?_outermost (node : Node) (side : Side) (field : String) :
    (node.nodes field = [] ∧ node.edge? [side.outermost field] = none) ∨
      ∃ part ∈ node.nodes field, node.edge? [side.outermost field] = some (.part part) := by
  rw [edge?_cons, edge?, List.findSome?_nil, Option.or_none]
  rcases (node.nodes field).eq_nil_or_concat with empty | ⟨rest, last, nodes_eq⟩
  · left
    cases side <;> simp [Side.outermost, Anchor.edge?, empty]
  · right
    cases side with
    | start =>
        have nonempty : node.nodes field ≠ [] := by simp [nodes_eq]
        exact ⟨(node.nodes field).head nonempty, List.head_mem nonempty,
          by simp [Side.outermost, Anchor.edge?, List.head?_eq_some_head nonempty]⟩
    | stop => exact ⟨last, by simp [nodes_eq], by simp [Side.outermost, Anchor.edge?, nodes_eq]⟩

/-- Where the outermost node of a list gives the edge, there is none exactly if the list is
empty. -/
theorem edgePosition?_eq_none_iff {node : Node} {side : Side} {field : String}
    {accepted : NodeClass} (grammatical : node.IsGrammatical)
    (anchors : node.kind.anchors side = [side.outermost field])
    (type : node.kind.fieldType? field = some (.nodes accepted)) (spanned : accepted.isSpanned) :
    node.edgePosition? side = none ↔ node.nodes field = [] := by
  rw [edgePosition?_eq, anchors]
  rcases node.edge?_outermost side field with ⟨empty, edge_eq⟩ | ⟨part, mem, edge_eq⟩
  · simp [edge_eq, empty]
  · obtain ⟨position, position_eq⟩ :=
      exists_edgePosition_of_mem_nodes grammatical type spanned mem side
    simp [edge_eq, Edge.position?, position_eq, List.ne_nil_of_mem mem]

end Node
end ShadowLint
