import ShadowLint.Proofs.Displacement.Space
import ShadowLint.Proofs.Dump.Tree

/-!
# Displaced trees

The trees of files that move on keep their shape: every token moves on by the same offset, and the
places of the nodes say that one more tree comes first.  What is read off a node moves on with it,
and so do its edges if none of its tokens that give an edge is nowhere.  The tree that comes first
is bare: a file without declarations holds nothing but its name.
-/

namespace ShadowLint

/-- The step to a tree in a package with one more tree in front. -/
def Step.next : Step → Step
  | .field name => .field name
  | .item index => .item (index + 1)

theorem Step.next_injective : Function.Injective Step.next := by
  rintro (left | left) (right | right) same <;> simp_all [Step.next]

namespace Place

/-- The place in a package with one more tree in front: only the step to the tree changes. -/
def behind : Place → Place
  | [] => []
  | [step] => [step.next]
  | step :: outer :: rest => step :: behind (outer :: rest)

theorem behind_cons (step : Step) {place : Place} (inner : place ≠ []) :
    behind (step :: place) = step :: behind place := by
  obtain ⟨outer, rest, rfl⟩ := List.exists_cons_of_ne_nil inner
  rfl

theorem length_behind (place : Place) : place.behind.length = place.length := by
  fun_induction behind place with
  | case1 => rfl
  | case2 => rfl
  | case3 step outer rest ih => simpa using ih

theorem behind_injective : Function.Injective behind := by
  intro left right same
  have sameLength := congrArg List.length same
  rw [length_behind, length_behind] at sameLength
  induction left using behind.induct generalizing right with
  | case1 => exact (List.eq_nil_of_length_eq_zero sameLength.symm).symm
  | case2 step =>
      obtain ⟨other, rfl⟩ := List.length_eq_one_iff.mp sameLength.symm
      rw [Step.next_injective (List.cons.inj same).1]
  | case3 step outer rest ih =>
      match right, sameLength with
      | other :: otherOuter :: otherRest, sameLength =>
          obtain ⟨rfl, same_rest⟩ := List.cons.inj same
          rw [ih same_rest (Nat.succ.inj sameLength)]

end Place

namespace Node

mutual

/-- The node in a package with one more tree in front, where tokens move on by an offset. -/
def displaced (offset : Nat) : Node → Node
  | ⟨place, kind, slots⟩ => ⟨place.behind, kind, displacedSlots offset slots⟩

/-- The displaced fields. -/
def displacedSlots (offset : Nat) : List (String × Slot Node) → List (String × Slot Node)
  | [] => []
  | (name, slot) :: rest => (name, displacedSlot offset slot) :: displacedSlots offset rest

/-- The displaced content of a field. -/
def displacedSlot (offset : Nat) : Slot Node → Slot Node
  | .position position => .position (displace offset position)
  | .text text => .text text
  | .child none => .child none
  | .child (some node) => .child (some (displaced offset node))
  | .children nodes => .children (displacedAll offset nodes)

/-- The displaced nodes. -/
def displacedAll (offset : Nat) : List Node → List Node
  | [] => []
  | node :: rest => displaced offset node :: displacedAll offset rest

end

theorem displacedAll_eq (offset : Nat) (nodes : List Node) :
    displacedAll offset nodes = nodes.map (displaced offset) := by
  induction nodes with
  | nil => rfl
  | cons node rest ih => rw [displacedAll, ih, List.map_cons]

theorem displacedSlots_eq (offset : Nat) (slots : List (String × Slot Node)) :
    displacedSlots offset slots =
      slots.map fun (name, slot) => (name, displacedSlot offset slot) := by
  induction slots with
  | nil => rfl
  | cons entry rest ih => rw [displacedSlots, ih, List.map_cons]

@[simp]
theorem toList_displacedSlot (offset : Nat) (slot : Slot Node) :
    (displacedSlot offset slot).toList = slot.toList.map (displaced offset) := by
  rcases slot with _ | _ | (_ | node) | nodes <;>
    simp [displacedSlot, Slot.toList, displacedAll_eq]

variable {offset : Nat}

@[simp]
theorem place_displaced (node : Node) : (node.displaced offset).place = node.place.behind := by
  cases node
  rfl

@[simp]
theorem kind_displaced (node : Node) : (node.displaced offset).kind = node.kind := by
  cases node
  rfl

theorem slots_displaced (node : Node) :
    (node.displaced offset).slots =
      node.slots.map fun (name, slot) => (name, displacedSlot offset slot) := by
  cases node
  exact displacedSlots_eq offset _

theorem slot?_displaced (node : Node) (field : String) :
    (node.displaced offset).slot? field = (node.slot? field).map (displacedSlot offset) := by
  rw [slot?, slot?, slots_displaced]
  exact Dump.lookup_map (fun _ => displacedSlot offset) node.slots field

@[simp]
theorem position_displaced (node : Node) (field : String) :
    (node.displaced offset).position field = displace offset (node.position field) := by
  rw [position, position, slot?_displaced]
  rcases node.slot? field with _ | (_ | _ | (_ | _) | _) <;> simp [displacedSlot]

@[simp]
theorem text_displaced (node : Node) (field : String) :
    (node.displaced offset).text field = node.text field := by
  rw [text, text, slot?_displaced]
  rcases node.slot? field with _ | (_ | _ | (_ | _) | _) <;> rfl

@[simp]
theorem nodes_displaced (node : Node) (field : String) :
    (node.displaced offset).nodes field = (node.nodes field).map (displaced offset) := by
  rw [nodes, nodes, slot?_displaced]
  cases node.slot? field <;> simp

@[simp]
theorem child?_displaced (node : Node) (field : String) :
    (node.displaced offset).child? field = (node.child? field).map (displaced offset) := by
  rw [child?, child?, nodes_displaced, List.head?_map]

theorem children_displaced (node : Node) :
    (node.displaced offset).children = node.children.map (displaced offset) := by
  rw [children, children, slots_displaced]
  simp [List.flatMap_map, List.map_flatMap]

theorem preorder_displaced (node : Node) :
    (node.displaced offset).preorder = node.preorder.map (displaced offset) := by
  induction node using Node.induction with
  | step node ih =>
      rw [preorder_eq, preorder_eq, children_displaced, List.flatMap_map, List.map_cons,
        List.map_flatMap]
      congr 1
      exact List.flatMap_congr fun part mem => ih part mem

end Node

/-- The name at its displaced place. -/
def Ident.displaced (offset : Nat) (ident : Ident) : Ident :=
  ⟨ident.place.behind, ident.name, displace offset ident.position⟩

namespace Node

variable {offset : Nat}

@[simp]
theorem ident?_displaced (node : Node) :
    (node.displaced offset).ident? = node.ident?.map (Ident.displaced offset) := by
  unfold ident?
  rw [kind_displaced]
  split <;> simp [Ident.displaced]

end Node

/-- The token may stand nowhere: it is the closing parenthesis of a declaration without parentheses,
or the assignment of a loop that binds nothing. -/
def Kind.mayLack : Kind → String → Bool
  | .genDecl, "rparen" | .rangeStmt, "tok_pos" => true
  | _, _ => false

/-- A token that gives a node of the kind its edge stands somewhere. -/
def Anchor.isGrounded (kind : Kind) : Anchor → Bool
  | .token field _ | .spelled field _ =>
      kind.fieldType? field == some .position && !kind.mayLack field
  | _ => true

theorem Kind.isGrounded_anchors (kind : Kind) (side : Side) :
    ∀ anchor ∈ kind.anchors side, anchor.isGrounded kind := by
  cases kind <;> cases side <;> decide

/-- The edge where tokens move on by an offset. -/
def Edge.displaced (offset : Nat) : Edge → Edge
  | .token position => .token (displace offset position)
  | .part node => .part (node.displaced offset)

/-- A token in the field stands somewhere, or nowhere if it may lack. -/
def Slot.Stands (mayLack : Bool) : Slot Node → Prop
  | .position start => if mayLack then noPosition ≤ start else noPosition < start
  | _ => True

instance (mayLack : Bool) : (slot : Slot Node) → Decidable (slot.Stands mayLack)
  | .position start =>
      inferInstanceAs (Decidable (if mayLack then noPosition ≤ start else noPosition < start))
  | .text _ => inferInstanceAs (Decidable True)
  | .child _ => inferInstanceAs (Decidable True)
  | .children _ => inferInstanceAs (Decidable True)

namespace Node

/-- Every token of the node stands somewhere, but for those that may stand nowhere. -/
def IsPositioned (node : Node) : Prop :=
  ∀ field ∈ node.slots, field.2.Stands (node.kind.mayLack field.1)

instance (node : Node) : Decidable node.IsPositioned :=
  inferInstanceAs (Decidable (∀ field ∈ node.slots, _))

/-- All nodes of the tree are positioned. -/
def IsAllPositioned (node : Node) : Prop :=
  ∀ part ∈ node.preorder, part.IsPositioned

section Edges

variable {node : Node} {field : String} {offset : Nat}

theorem IsPositioned.nonneg (positioned : node.IsPositioned) (field : String) :
    noPosition ≤ node.position field := by
  unfold position
  split
  · rename_i position found
    have held : if node.kind.mayLack field then noPosition ≤ position else noPosition < position :=
      positioned _ (Dump.mem_of_lookup_eq_some found)
    split at held
    · exact held
    · exact Int.le_of_lt held
  · exact Int.le_refl _

theorem IsPositioned.pos (positioned : node.IsPositioned) (conforms : node.Conforms)
    (type : node.kind.fieldType? field = some .position)
    (required : node.kind.mayLack field = false) : noPosition < node.position field := by
  obtain ⟨slot, found, admitted⟩ := conforms.admits _ _ type
  cases slot with
  | position position =>
      have held : (Slot.position position).Stands (node.kind.mayLack field) :=
        positioned _ (Dump.mem_of_lookup_eq_some found)
      simpa [Slot.Stands, required, Node.position, found] using held
  | _ => cases admitted

theorem IsPositioned.pos_of_isGrounded (positioned : node.IsPositioned)
    (conforms : node.Conforms)
    (grounded : node.kind.fieldType? field == some .position && !node.kind.mayLack field) :
    noPosition < node.position field := by
  rw [Bool.and_eq_true, beq_iff_eq, Bool.not_eq_true'] at grounded
  exact positioned.pos conforms grounded.1 grounded.2

/-- The edge that an anchor gives to a node moves on with it. -/
theorem anchorEdge?_displaced (positioned : node.IsPositioned) (conforms : node.Conforms)
    {anchor : Anchor} (grounded : anchor.isGrounded node.kind) :
    anchor.edge? (node.displaced offset) = (anchor.edge? node).map (Edge.displaced offset) ∧
      ∀ position, anchor.edge? node = some (.token position) → noPosition < position := by
  cases anchor with
  | token field width =>
      have positive := positioned.pos_of_isGrounded conforms grounded
      obtain ⟨moves, behind_positive⟩ := displace_add offset positive width
      simp [Anchor.edge?, Edge.displaced, moves, behind_positive]
  | spelled field text =>
      have positive := positioned.pos_of_isGrounded conforms grounded
      obtain ⟨moves, behind_positive⟩ := displace_add offset positive (node.text text).length
      simp [Anchor.edge?, Edge.displaced, moves, behind_positive]
  | closing field =>
      have nonneg := positioned.nonneg field
      simp only [Anchor.edge?, position_displaced, displace_eq_noPosition_iff nonneg]
      split
      · exact ⟨rfl, by simp⟩
      · rename_i present
        have positive : noPosition < node.position field := by omega
        obtain ⟨moves, behind_positive⟩ :
            displace offset (node.position field + 1) = displace offset (node.position field) + 1 ∧
              noPosition < node.position field + 1 :=
          displace_add offset positive 1
        simp [Edge.displaced, moves, behind_positive]
  | node field => simp [Anchor.edge?, Function.comp_def, Edge.displaced]
  | first field => simp [Anchor.edge?, Function.comp_def, Edge.displaced]
  | last field => simp [Anchor.edge?, Function.comp_def, Edge.displaced]

theorem edge?_displaced (offset : Nat) (positioned : node.IsPositioned) (conforms : node.Conforms)
    {anchors : List Anchor} (grounded : ∀ anchor ∈ anchors, anchor.isGrounded node.kind) :
    (node.displaced offset).edge? anchors = (node.edge? anchors).map (Edge.displaced offset) ∧
      ∀ position, node.edge? anchors = some (.token position) → noPosition < position := by
  induction anchors with
  | nil => exact ⟨rfl, fun _ found => (Option.some_ne_none _ found.symm).elim⟩
  | cons anchor rest ih =>
      obtain ⟨anchor_grounded, rest_grounded⟩ := List.forall_mem_cons.mp grounded
      obtain ⟨moves, positive⟩ := anchorEdge?_displaced positioned conforms anchor_grounded
      obtain ⟨rest_moves, rest_positive⟩ := ih rest_grounded
      rw [edge?_cons, edge?_cons, moves, rest_moves]
      cases found : anchor.edge? node with
      | none => simpa using rest_positive
      | some edge => simpa [found] using positive

variable (positioned : node.IsAllPositioned) (grammatical : node.IsGrammatical)
include positioned grammatical

/-- An edge of a tree moves on with the tree, and it stands somewhere. -/
theorem edgePosition?_displaced_and_pos (offset : Nat) (side : Side) :
    (node.displaced offset).edgePosition? side =
        (node.edgePosition? side).map (displace offset) ∧
      ∀ position, node.edgePosition? side = some position → noPosition < position := by
  induction node using Node.induction with
  | step node ih =>
      obtain ⟨moves, positive⟩ := edge?_displaced offset
        (positioned node (self_mem_preorder node)) grammatical.conforms
        (node.kind.isGrounded_anchors side)
      rw [edgePosition?_eq (node.displaced offset), edgePosition?_eq node, kind_displaced, moves]
      cases edge_eq : node.edge? (node.kind.anchors side) with
      | none => exact ⟨rfl, by simp⟩
      | some edge =>
          cases edge with
          | token position =>
              exact ⟨rfl, fun _ same => Option.some.inj same ▸ positive position edge_eq⟩
          | part part =>
              have mem := mem_children_of_edge edge_eq
              have part_positioned : part.IsAllPositioned := fun other other_mem =>
                positioned other (mem_preorder_iff.mpr (.inr ⟨part, mem, other_mem⟩))
              exact ih part mem part_positioned (grammatical.of_mem_children mem)

theorem edgePosition?_displaced (offset : Nat) (side : Side) :
    (node.displaced offset).edgePosition? side =
      (node.edgePosition? side).map (displace offset) :=
  (edgePosition?_displaced_and_pos positioned grammatical offset side).1

theorem pos_of_edgePosition?_eq_some {side : Side} {position : Int}
    (position_eq : node.edgePosition? side = some position) : noPosition < position :=
  (edgePosition?_displaced_and_pos positioned grammatical 0 side).2 position position_eq

end Edges

/-- The file declares nothing: its tree holds no more than the file and its name. -/
def IsBare (root : Node) : Prop :=
  ∀ part ∈ root.preorder, part.kind = .file ∨ part.kind = .ident

/-- The parts of a node stand in fields of its kind. -/
theorem Conforms.exists_field {node part : Node} (conforms : node.Conforms)
    (mem : part ∈ node.children) :
    ∃ field ∈ node.kind.fields, part ∈ node.nodes field.name := by
  obtain ⟨⟨name, slot⟩, slot_mem, part_mem⟩ := List.mem_flatMap.mp mem
  have distinct : (node.slots.map Prod.fst).Nodup :=
    conforms.names ▸ node.kind.fieldNames_nodup
  have named : name ∈ node.kind.fields.map Field.name :=
    conforms.names ▸ List.mem_map_of_mem slot_mem
  obtain ⟨field, field_mem, rfl⟩ := List.mem_map.mp named
  refine ⟨field, field_mem, ?_⟩
  rw [nodes, slot?, Dump.lookup_eq_some_of_mem distinct slot_mem]
  exact part_mem

/-- A token is no node. -/
theorem Conforms.nodes_eq_nil {node : Node} (conforms : node.Conforms) {field : String}
    {type : FieldType} (type_eq : node.kind.fieldType? field = some type)
    (token : type = .position ∨ type = .text) : node.nodes field = [] := by
  obtain ⟨slot, found, admitted⟩ := conforms.admits _ _ type_eq
  rw [nodes, found, Option.map_some, Option.getD_some]
  rcases token with rfl | rfl
  · cases slot with
    | position => rfl
    | _ => cases admitted
  · cases slot with
    | text => rfl
    | _ => cases admitted

/-- A name has no parts. -/
theorem Conforms.children_eq_nil {node : Node} (conforms : node.Conforms)
    (isIdent : node.kind = .ident) : node.children = [] := by
  refine List.eq_nil_iff_forall_not_mem.mpr fun part mem => ?_
  obtain ⟨field, field_mem, part_mem⟩ := conforms.exists_field mem
  rw [isIdent] at field_mem
  rcases List.mem_pair.mp field_mem with rfl | rfl
  · rw [conforms.nodes_eq_nil (isIdent ▸ rfl) (.inr rfl)] at part_mem
    cases part_mem
  · rw [conforms.nodes_eq_nil (isIdent ▸ rfl) (.inl rfl)] at part_mem
    cases part_mem

theorem isBare_of_nodes_eq_nil {root : Node} (grammatical : root.IsGrammatical)
    (isFile : root.kind = .file) (bare : root.nodes "decls" = []) : root.IsBare := by
  intro part mem
  rcases mem_preorder_iff.mp mem with rfl | ⟨child, child_mem, mem⟩
  · exact .inl isFile
  · have conforms := grammatical.conforms
    obtain ⟨field, field_mem, in_field⟩ := conforms.exists_field child_mem
    rw [isFile] at field_mem
    obtain rfl | rfl | rfl : field = Grammar.position "package_pos" ∨
        field = Grammar.node "name" (.only .ident) ∨
          field = Grammar.omissible (Grammar.nodes "decls" (.any .decl)) := by
      simpa [Kind.fields] using field_mem
    · rw [conforms.nodes_eq_nil (isFile ▸ rfl) (.inl rfl)] at in_field
      cases in_field
    · have type_eq : root.kind.fieldType? "name" = some (.node (.only .ident)) := isFile ▸ rfl
      obtain ⟨name, name_eq, isIdent⟩ := conforms.exists_nodes_eq type_eq
      obtain rfl : child = name := List.mem_singleton.mp (name_eq ▸ in_field)
      replace isIdent : child.kind = .ident := by simpa [NodeClass.accepts] using isIdent
      have child_conforms := (grammatical.of_mem_children child_mem).conforms
      rcases mem_preorder_iff.mp mem with rfl | ⟨other, other_mem, -⟩
      · exact .inr isIdent
      · rw [child_conforms.children_eq_nil isIdent] at other_mem
        cases other_mem
    · replace in_field : child ∈ root.nodes "decls" := in_field
      rw [bare] at in_field
      cases in_field

end Node

end ShadowLint
