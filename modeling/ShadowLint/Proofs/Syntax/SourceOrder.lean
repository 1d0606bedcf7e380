import ShadowLint.Proofs.Displacement.Tree
import ShadowLint.Proofs.Dump.Building
import ShadowLint.Proofs.Syntax.Traversal

/-!
# Nodes in source order

A node consists of its tokens and its parts.  In the source these follow each other in the order of
the fields, but for the name of an import, which stands before the path.  The grammar takes the
edges of a node from the first and from the last one of them that is there, so it never passes over
anything that stands further out; the main statements are `exists_opening` and `exists_closing`.
-/

namespace ShadowLint

/-- The fields of a kind in the order in which their contents stand in the source. -/
def Kind.sourceFields (kind : Kind) : List Field :=
  match kind with
  | .importSpec => kind.fields.reverse
  | _ => kind.fields

theorem Kind.mem_sourceFields_iff {kind : Kind} {field : Field} :
    field ∈ kind.sourceFields ↔ field ∈ kind.fields := by
  unfold sourceFields
  split
  · exact List.mem_reverse
  · exact Iff.rfl

/-- The lists of a kind that are never empty in a source. -/
def Kind.filledLists : Kind → List String
  | .assignStmt => ["lhs", "rhs"]
  | .valueSpec => ["names"]
  | _ => []

namespace Edge

/-- Where a constituent of a node begins. -/
def start? (edge : Edge) : Option Int :=
  edge.position? .start

/-- The position behind a constituent of a node; the token counts by its position alone. -/
def stop? (edge : Edge) : Option Int :=
  edge.position? .stop

/-- The later constituent does not begin before the earlier one ends. -/
def Precedes (earlier later : Edge) : Prop :=
  ∀ stop ∈ earlier.stop?, ∀ start ∈ later.start?, stop ≤ start

instance (earlier later : Edge) : Decidable (earlier.Precedes later) :=
  inferInstanceAs (Decidable (∀ stop ∈ earlier.stop?, ∀ start ∈ later.start?, stop ≤ start))

/-- The edge is that of the constituent, or behind it by the width of a token. -/
inductive Widens : Edge → Edge → Prop
  | token (position : Int) (width : Nat) : Widens (.token position) (.token (position + width))
  | part (node : Node) : Widens (.part node) (.part node)

end Edge

namespace Node

/-- The tokens and parts in a field.  A token that may lack is none if it stands nowhere. -/
def constituentsIn (node : Node) (field : Field) : List Edge :=
  match field.type with
  | .position =>
      if node.kind.mayLack field.name ∧ node.position field.name = noPosition then []
      else [.token (node.position field.name)]
  | .text => []
  | .node _ | .optional _ | .nodes _ => (node.nodes field.name).map .part

theorem mem_children_of_mem_constituentsIn {node part : Node} {field : Field}
    (mem : .part part ∈ node.constituentsIn field) : part ∈ node.children := by
  rw [constituentsIn] at mem
  split at mem
  · split at mem <;> simp at mem
  · cases mem
  all_goals
    obtain ⟨other, other_mem, same⟩ := List.mem_map.mp mem
    obtain rfl := Edge.part.inj same
    exact mem_children_of_mem_nodes other_mem

/-- What a node consists of, in the order of the source. -/
def constituents (node : Node) : List Edge :=
  node.kind.sourceFields.flatMap node.constituentsIn

/-- The constituents of the node follow each other, and no list is empty that is never empty. -/
structure InOrder (node : Node) : Prop where
  /-- Every constituent begins where the one before it ends, or later. -/
  follow : node.constituents.IsChain Edge.Precedes
  /-- An assignment has two sides, and a specification of values has a name. -/
  filled : ∀ field ∈ node.kind.filledLists, node.nodes field ≠ []

instance (node : Node) : Decidable node.InOrder :=
  decidable_of_iff (node.constituents.IsChain Edge.Precedes ∧
      ∀ field ∈ node.kind.filledLists, node.nodes field ≠ [])
    ⟨fun inOrder => ⟨inOrder.1, inOrder.2⟩, fun inOrder => ⟨inOrder.follow, inOrder.filled⟩⟩

/-- All nodes of the tree are in source order. -/
def IsSourceOrdered (node : Node) : Prop :=
  ∀ part ∈ node.preorder, part.InOrder

instance (node : Node) : Decidable node.IsSourceOrdered :=
  inferInstanceAs (Decidable (∀ part ∈ node.preorder, part.InOrder))

theorem IsSourceOrdered.inOrder {node : Node} (ordered : node.IsSourceOrdered) : node.InOrder :=
  ordered node (self_mem_preorder node)

theorem IsSourceOrdered.of_mem_preorder {node part : Node} (ordered : node.IsSourceOrdered)
    (mem : part ∈ node.preorder) : part.IsSourceOrdered :=
  fun other other_mem => ordered other (preorder_subset mem other_mem)

theorem IsSourceOrdered.of_mem_children {node part : Node} (ordered : node.IsSourceOrdered)
    (mem : part ∈ node.children) : part.IsSourceOrdered :=
  ordered.of_mem_preorder (mem_preorder_of_mem_children (self_mem_preorder node) mem)

end Node

section Alignment

/-- The anchor speaks of the content of the field. -/
def Anchor.isOf (kind : Kind) (field : Field) : Anchor → Bool
  | .token name _ | .spelled name _ =>
      name == field.name && field.type == .position && !kind.mayLack name
  | .closing name => name == field.name && field.type == .position && kind.mayLack name
  | .node name =>
      match field.type with
      | .node _ | .optional _ => name == field.name
      | _ => false
  | .first name | .last name =>
      match field.type with
      | .nodes _ => name == field.name
      | _ => false

/-- What an anchor speaks of. -/
def Anchor.constituents (node : Node) : Anchor → List Edge
  | .token name _ | .spelled name _ => [.token (node.position name)]
  | .closing name =>
      if node.position name = noPosition then [] else [.token (node.position name)]
  | .node name | .first name | .last name => (node.nodes name).map .part

/-- The anchor gives the edge in front of what it speaks of. -/
def Anchor.opens : Anchor → Bool
  | .token _ width => width == 0
  | .node _ | .first _ => true
  | .closing _ | .spelled .. | .last _ => false

/-- The anchor gives the edge behind what it speaks of. -/
def Anchor.closes : Anchor → Bool
  | .first _ => false
  | _ => true

/-- The field is never empty in a source. -/
def Kind.fills (kind : Kind) (field : Field) : Bool :=
  match field.type with
  | .position => !kind.mayLack field.name
  | .node _ => true
  | .nodes _ => kind.filledLists.contains field.name
  | .text | .optional _ => false

/-- The anchors speak of the fields one after the other, up to a field that is never empty. -/
def Kind.aligns (kind : Kind) : List Field → List Anchor → Bool
  | next :: fields, anchor :: anchors =>
      if next.type = .text then kind.aligns fields (anchor :: anchors)
      else anchor.isOf kind next && (kind.fills next || kind.aligns fields anchors)
  | _, _ => false

/-- The first position is that of the first field that is there. -/
theorem Kind.aligns_startAnchors (kind : Kind) :
    kind.aligns kind.sourceFields kind.startAnchors := by
  cases kind <;> decide

theorem Kind.opens_startAnchors (kind : Kind) : kind.startAnchors.all Anchor.opens := by
  cases kind <;> decide

/-- The last position is that of the last field that is there, but for functions: there the receiver
is the last field. -/
theorem Kind.aligns_stopAnchors {kind : Kind} (other : kind ≠ .funcDecl) :
    kind.aligns kind.sourceFields.reverse kind.stopAnchors ∧
      kind.stopAnchors.all Anchor.closes := by
  revert other
  cases kind <;> decide

end Alignment

namespace Node

section Field

variable {node : Node} {field : Field}

theorem Conforms.constituentsIn_ne_nil (conforms : node.Conforms)
    (filled : ∀ list ∈ node.kind.filledLists, node.nodes list ≠ [])
    (mem : field ∈ node.kind.fields) (fills : node.kind.fills field) :
    node.constituentsIn field ≠ [] := by
  have type_eq := Kind.fieldType?_eq_of_mem mem
  rw [Kind.fills] at fills
  rw [constituentsIn]
  cases type : field.type with
  | position =>
      have present : node.kind.mayLack field.name = false := by simpa [type] using fills
      simp [present]
  | text => simp [type] at fills
  | node accepted =>
      rw [type] at type_eq
      obtain ⟨part, nodes_eq, -⟩ := conforms.exists_nodes_eq type_eq
      simp [nodes_eq]
  | optional accepted => simp [type] at fills
  | nodes accepted =>
      have listed : field.name ∈ node.kind.filledLists := by simpa [type] using fills
      simpa using filled field.name listed

theorem Conforms.getLast?_eq_head? (conforms : node.Conforms) (mem : field ∈ node.kind.fields)
    {name : String} (isOf : (Anchor.node name).isOf node.kind field) :
    (node.nodes name).getLast? = (node.nodes name).head? := by
  have type_eq := Kind.fieldType?_eq_of_mem mem
  cases type : field.type <;>
    simp only [Anchor.isOf, type, beq_iff_eq, Bool.false_eq_true] at isOf
  all_goals rw [type, ← isOf] at type_eq
  · obtain ⟨part, nodes_eq, -⟩ := conforms.exists_nodes_eq type_eq
    rw [nodes_eq]
    rfl
  · obtain ⟨slot, found, admitted⟩ := conforms.admits _ _ type_eq
    obtain ⟨content, rfl, -⟩ := FieldType.admits_optional_iff.mp admitted
    cases content <;> simp [nodes, found, Slot.toList]

theorem constituentsIn_of_isOf {anchor : Anchor} (isOf : anchor.isOf node.kind field) :
    node.constituentsIn field = anchor.constituents node := by
  rw [constituentsIn]
  cases anchor with
  | token name _ | spelled name _ =>
      simp only [Anchor.isOf, Bool.and_eq_true, beq_iff_eq, Bool.not_eq_true'] at isOf
      obtain ⟨⟨rfl, type⟩, present⟩ := isOf
      simp [type, present, Anchor.constituents]
  | closing name =>
      simp only [Anchor.isOf, Bool.and_eq_true, beq_iff_eq] at isOf
      obtain ⟨⟨rfl, type⟩, lacks⟩ := isOf
      simp [type, lacks, Anchor.constituents]
  | node name | first name | last name =>
      cases type : field.type <;>
        simp only [Anchor.isOf, type, beq_iff_eq, Bool.false_eq_true] at isOf
      all_goals
        rw [isOf]
        rfl

/-- The edge in front of a field is that of its first constituent. -/
theorem head?_constituentsIn {anchor : Anchor} (isOf : anchor.isOf node.kind field)
    (opens : anchor.opens) :
    Option.Rel Eq (node.constituentsIn field).head? (anchor.edge? node) := by
  suffices head_eq : (anchor.constituents node).head? = anchor.edge? node by
    rw [constituentsIn_of_isOf isOf, head_eq]
    cases anchor.edge? node with
    | none => exact .none
    | some edge => exact .some rfl
  cases anchor with
  | token name width =>
      obtain rfl : width = 0 := by simpa [Anchor.opens] using opens
      simp [Anchor.constituents, Anchor.edge?]
  | node name => simp [Anchor.constituents, Anchor.edge?, child?, List.head?_map]
  | first name => simp [Anchor.constituents, Anchor.edge?, List.head?_map]
  | closing _ | spelled _ _ | last _ => cases opens

/-- The edge behind a field is that of its last constituent, or behind it. -/
theorem getLast?_constituentsIn {anchor : Anchor} (conforms : node.Conforms)
    (mem : field ∈ node.kind.fields) (isOf : anchor.isOf node.kind field) (closes : anchor.closes) :
    Option.Rel Edge.Widens (node.constituentsIn field).getLast? (anchor.edge? node) := by
  have part_widens (last? : Option Node) :
      Option.Rel Edge.Widens (last?.map .part) (last?.map .part) := by
    cases last? with
    | none => exact .none
    | some last => exact .some (.part last)
  rw [constituentsIn_of_isOf isOf]
  cases anchor with
  | token name width => exact .some (.token (node.position name) width)
  | spelled name text => exact .some (.token (node.position name) (node.text text).length)
  | closing name =>
      rw [Anchor.constituents, Anchor.edge?]
      split
      · exact .none
      · exact .some (.token (node.position name) 1)
  | node name =>
      have last_eq := conforms.getLast?_eq_head? mem isOf
      rw [Anchor.constituents, List.getLast?_map, last_eq]
      exact part_widens _
  | last name =>
      rw [Anchor.constituents, List.getLast?_map]
      exact part_widens _
  | first _ => cases closes

end Field

section Outermost

variable {node : Node}

/-- Anchors that align with fields give the edge of the outermost constituent in these fields, if
each of them does so for its own field. -/
theorem exists_edge_of_aligns {outermost? : List Edge → Option Edge} (Gives : Edge → Edge → Prop)
    (none_iff : ∀ edges, outermost? edges = none ↔ edges = []) (conforms : node.Conforms)
    (filled : ∀ list ∈ node.kind.filledLists, node.nodes list ≠ [])
    {fields : List Field} {anchors : List Anchor}
    (known : ∀ field ∈ fields, field ∈ node.kind.fields)
    (each : ∀ field ∈ node.kind.fields, ∀ anchor ∈ anchors, anchor.isOf node.kind field →
      Option.Rel Gives (outermost? (node.constituentsIn field)) (anchor.edge? node))
    (aligns : node.kind.aligns fields anchors) :
    ∃ outermost edge,
      (fields.findSome? fun field => outermost? (node.constituentsIn field)) = some outermost ∧
        node.edge? anchors = some edge ∧ Gives outermost edge := by
  induction fields generalizing anchors with
  | nil => simp [Kind.aligns] at aligns
  | cons field fields ih =>
      have here : field ∈ node.kind.fields := known field List.mem_cons_self
      have known_later : ∀ other ∈ fields, other ∈ node.kind.fields := fun other mem =>
        known other (List.mem_cons_of_mem _ mem)
      cases anchors with
      | nil => simp [Kind.aligns] at aligns
      | cons anchor anchors =>
          rw [Kind.aligns] at aligns
          split at aligns
          · rename_i type
            have empty : outermost? (node.constituentsIn field) = none := by
              simp [none_iff, constituentsIn, type]
            rw [List.findSome?_cons, empty]
            exact ih known_later each aligns
          · rw [Bool.and_eq_true, Bool.or_eq_true] at aligns
            obtain ⟨isOf, rest⟩ := aligns
            have gives := each field here anchor List.mem_cons_self isOf
            rw [List.findSome?_cons, edge?_cons]
            generalize outermost_eq : outermost? (node.constituentsIn field) = outermost at gives ⊢
            generalize anchor.edge? node = edge at gives ⊢
            cases gives with
            | some gives => exact ⟨_, _, rfl, rfl, gives⟩
            | none =>
                -- nothing is in the field, so it is not the last one that an anchor speaks of
                have empty : node.constituentsIn field = [] := (none_iff _).mp outermost_eq
                have mayBeEmpty : ¬node.kind.fills field := fun fills =>
                  conforms.constituentsIn_ne_nil filled here fills empty
                refine ih known_later (fun other mem later later_mem => ?_)
                  (rest.resolve_left mayBeEmpty)
                exact each other mem later (List.mem_cons_of_mem _ later_mem)

/-- A node begins where the first constituent in its fields does, if the fields are in an order with
which the anchors align. -/
theorem Conforms.exists_opening_of_aligns (conforms : node.Conforms)
    (filled : ∀ list ∈ node.kind.filledLists, node.nodes list ≠ []) {fields : List Field}
    (known : ∀ field ∈ fields, field ∈ node.kind.fields)
    (aligns : node.kind.aligns fields node.kind.startAnchors) :
    ∃ opening, (fields.flatMap node.constituentsIn).head? = some opening ∧
      node.start? = opening.start? := by
  have opens := node.kind.opens_startAnchors
  obtain ⟨opening, _, first_eq, edge_eq, rfl⟩ :=
    exists_edge_of_aligns Eq (fun _ => List.head?_eq_none_iff) conforms filled known
      (fun _ _ anchor mem isOf =>
        head?_constituentsIn isOf (List.all_eq_true.mp opens anchor mem))
      aligns
  refine ⟨opening, ?_, ?_⟩
  · rw [List.head?_flatMap, first_eq]
  · rw [start?, edgePosition?_eq, Kind.anchors, edge_eq, Option.bind_some, Edge.start?]

variable (inOrder : node.InOrder) (conforms : node.Conforms)
include inOrder conforms

/-- A node begins where its first constituent does. -/
theorem exists_opening : ∃ opening, node.constituents.head? = some opening ∧
    node.start? = opening.start? :=
  conforms.exists_opening_of_aligns inOrder.filled (fun _ => Kind.mem_sourceFields_iff.mp)
    node.kind.aligns_startAnchors

/-- A node ends where its last constituent does, or behind that by the width of a token. -/
theorem exists_closing (other : node.kind ≠ .funcDecl) :
    ∃ closing edge, node.constituents.getLast? = some closing ∧ node.stop? = edge.stop? ∧
      closing.Widens edge := by
  obtain ⟨aligns, closes⟩ := Kind.aligns_stopAnchors other
  obtain ⟨closing, edge, last_eq, edge_eq, widens⟩ :=
    exists_edge_of_aligns Edge.Widens (fun _ => List.getLast?_eq_none_iff) conforms inOrder.filled
      (fun _ mem => Kind.mem_sourceFields_iff.mp (List.mem_reverse.mp mem))
      (fun _ field_mem anchor mem isOf =>
        getLast?_constituentsIn conforms field_mem isOf (List.all_eq_true.mp closes anchor mem))
      aligns
  refine ⟨closing, edge, ?_, ?_, widens⟩
  · rw [constituents, List.getLast?_flatMap, last_eq]
  · rw [stop?, edgePosition?_eq, Kind.anchors, edge_eq, Option.bind_some, Edge.stop?]

end Outermost

end Node
end ShadowLint
