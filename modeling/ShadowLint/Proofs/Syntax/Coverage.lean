import ShadowLint.Proofs.Syntax.SourceOrder

/-!
# Nodes cover what lies below them

In a tree in source order every node has both edges, but for functions and files, and both edges of
everything below the node lie between its own.
-/

namespace ShadowLint

/-- Both positions are there, in this order and between the bounds. -/
def IsSpanWithin (start? stop? : Option Int) (lower upper : Int) : Prop :=
  ∃ start stop, start? = some start ∧ stop? = some stop ∧
    lower ≤ start ∧ start ≤ stop ∧ stop ≤ upper

theorem IsSpanWithin.mono {start? stop? : Option Int} {lower upper below above : Int}
    (within : IsSpanWithin start? stop? lower upper) (below_le : below ≤ lower)
    (le_above : upper ≤ above) : IsSpanWithin start? stop? below above := by
  obtain ⟨start, stop, start_eq, stop_eq, lower_le, le, le_upper⟩ := within
  exact ⟨start, stop, start_eq, stop_eq, by omega, le, by omega⟩

theorem IsSpanWithin.lower_le_upper {start? stop? : Option Int} {lower upper : Int}
    (within : IsSpanWithin start? stop? lower upper) : lower ≤ upper := by
  obtain ⟨start, stop, _, _, lower_le, le, le_upper⟩ := within
  omega

theorem isSpanWithin_self {start? stop? : Option Int} {start stop : Int}
    (start_eq : start? = some start) (stop_eq : stop? = some stop) (le : start ≤ stop) :
    IsSpanWithin start? stop? start stop :=
  ⟨start, stop, start_eq, stop_eq, Int.le_refl start, le, Int.le_refl stop⟩

namespace Edge

/-- Of constituents that follow each other the first one begins first and the last one ends last. -/
theorem exists_bounds_of_isChain {edges : List Edge} {opening closing : Edge}
    (follow : edges.IsChain Precedes)
    (spanned : ∀ edge ∈ edges, ∃ lower upper, IsSpanWithin edge.start? edge.stop? lower upper)
    (opening_eq : edges.head? = some opening) (closing_eq : edges.getLast? = some closing) :
    ∃ start stop, opening.start? = some start ∧ closing.stop? = some stop ∧
      ∀ edge ∈ edges, IsSpanWithin edge.start? edge.stop? start stop := by
  induction edges generalizing opening with
  | nil => cases opening_eq
  | cons edge rest ih =>
      obtain rfl : edge = opening := Option.some.inj opening_eq
      obtain ⟨_, _, start, stop, start_eq, stop_eq, _, le, _⟩ := spanned edge List.mem_cons_self
      cases rest with
      | nil =>
          obtain rfl : edge = closing := Option.some.inj closing_eq
          refine ⟨start, stop, start_eq, stop_eq, fun other mem => ?_⟩
          obtain rfl := List.mem_singleton.mp mem
          exact isSpanWithin_self start_eq stop_eq le
      | cons next rest =>
          obtain ⟨precedes, follow⟩ := List.isChain_cons_cons.mp follow
          obtain ⟨nextStart, last, nextStart_eq, last_eq, within⟩ :=
            ih follow (fun other mem => spanned other (List.mem_cons_of_mem _ mem)) rfl closing_eq
          have stop_le : stop ≤ nextStart := precedes stop stop_eq nextStart nextStart_eq
          have nextStart_le : nextStart ≤ last := (within next List.mem_cons_self).lower_le_upper
          refine ⟨start, last, start_eq, last_eq, fun other mem => ?_⟩
          rcases List.mem_cons.mp mem with rfl | later
          · exact (isSpanWithin_self start_eq stop_eq le).mono (Int.le_refl start) (by omega)
          · exact (within other later).mono (by omega) (Int.le_refl last)

/-- An edge that widens the one of a constituent does not stand in front of it. -/
theorem Widens.exists_stop {closing edge : Edge} (widens : closing.Widens edge) {last : Int}
    (last_eq : closing.stop? = some last) : ∃ stop, edge.stop? = some stop ∧ last ≤ stop := by
  cases widens with
  | token position width =>
      obtain rfl : position = last := Option.some.inj last_eq
      exact ⟨position + width, rfl, by omega⟩
  | part node => exact ⟨last, last_eq, Int.le_refl _⟩

end Edge

/-- Functions and files stand in no statement. -/
def Kind.isInner (kind : Kind) : Bool :=
  kind != .funcDecl && kind != .file

/-- No function and no file may stand in the field. -/
def FieldType.isInner : FieldType → Bool
  | .node accepted | .optional accepted | .nodes accepted =>
      !accepted.accepts .funcDecl && !accepted.accepts .file
  | .position | .text => true

/-- Below inner kinds there are inner kinds only. -/
theorem Kind.isInner_fields {kind : Kind} (inner : kind.isInner) :
    kind.fields.all (·.type.isInner) := by
  revert inner
  cases kind <;> decide

theorem NodeClass.isInner_of_accepts {accepted : NodeClass} {kind : Kind}
    (inner : !accepted.accepts .funcDecl && !accepted.accepts .file)
    (accepts : accepted.accepts kind) : kind.isInner := by
  rw [Bool.and_eq_true, Bool.not_eq_true', Bool.not_eq_true'] at inner
  have differs (other : Kind) (refuses : accepted.accepts other = false) : kind ≠ other := by
    rintro rfl
    exact Bool.false_ne_true (refuses.symm.trans accepts)
  simp [Kind.isInner, differs _ inner.1, differs _ inner.2]

namespace Node

/-- The node has both edges, and both edges of every node of its tree lie between them. -/
structure Covers (node : Node) (start stop : Int) : Prop where
  /-- The first position of the node. -/
  start_eq : node.start? = some start
  /-- The position behind the node. -/
  stop_eq : node.stop? = some stop
  /-- What lies below the node lies between its edges. -/
  below : ∀ part ∈ node.preorder, IsSpanWithin part.start? part.stop? start stop

section Parts

variable {node part : Node}

/-- A field that holds a node is one for nodes of some class, and the node is of that class. -/
theorem Conforms.exists_accepted (conforms : node.Conforms) {field : Field}
    (field_mem : field ∈ node.kind.fields) (mem : part ∈ node.nodes field.name) :
    ∃ accepted, (field.type = .node accepted ∨ field.type = .optional accepted ∨
      field.type = .nodes accepted) ∧ accepted.accepts part.kind := by
  have type_eq := Kind.fieldType?_eq_of_mem field_mem
  cases type : field.type with
  | position =>
      rw [conforms.nodes_eq_nil type_eq (.inl type)] at mem
      cases mem
  | text =>
      rw [conforms.nodes_eq_nil type_eq (.inr type)] at mem
      cases mem
  | node accepted =>
      obtain ⟨other, nodes_eq, accepts⟩ := conforms.exists_nodes_eq (type ▸ type_eq)
      obtain rfl : part = other := List.mem_singleton.mp (nodes_eq ▸ mem)
      exact ⟨accepted, .inl rfl, accepts⟩
  | optional accepted =>
      have accepts := conforms.accepts_of_optional (type ▸ type_eq) mem
      exact ⟨accepted, .inr (.inl rfl), accepts⟩
  | nodes accepted =>
      have accepts := conforms.accepts_of_nodes (type ▸ type_eq) mem
      exact ⟨accepted, .inr (.inr rfl), accepts⟩

theorem Conforms.mem_constituents_of_mem_children (conforms : node.Conforms)
    (mem : part ∈ node.children) : .part part ∈ node.constituents := by
  obtain ⟨field, field_mem, part_mem⟩ := conforms.exists_field mem
  obtain ⟨accepted, type, -⟩ := conforms.exists_accepted field_mem part_mem
  refine List.mem_flatMap.mpr ⟨field, Kind.mem_sourceFields_iff.mpr field_mem, ?_⟩
  rcases type with type | type | type <;> simpa [constituentsIn, type] using part_mem

theorem Conforms.isInner_of_mem_children (conforms : node.Conforms) (inner : node.kind.isInner)
    (mem : part ∈ node.children) : part.kind.isInner := by
  obtain ⟨field, field_mem, part_mem⟩ := conforms.exists_field mem
  obtain ⟨accepted, type, accepts⟩ := conforms.exists_accepted field_mem part_mem
  have field_inner : field.type.isInner :=
    List.all_eq_true.mp (Kind.isInner_fields inner) field field_mem
  rcases type with type | type | type <;> rw [type] at field_inner <;>
    exact NodeClass.isInner_of_accepts field_inner accepts

theorem mem_children_of_mem_constituents (mem : .part part ∈ node.constituents) :
    part ∈ node.children := by
  obtain ⟨field, -, mem⟩ := List.mem_flatMap.mp mem
  exact mem_children_of_mem_constituentsIn mem

end Parts

/-- If all constituents of a node have spans, the node has both edges, and the spans lie between
them. -/
theorem InOrder.exists_bounds {node : Node} (inOrder : node.InOrder) (conforms : node.Conforms)
    (inner : node.kind.isInner)
    (spanned : ∀ edge ∈ node.constituents,
      ∃ lower upper, IsSpanWithin edge.start? edge.stop? lower upper) :
    ∃ start stop, node.start? = some start ∧ node.stop? = some stop ∧ start ≤ stop ∧
      ∀ edge ∈ node.constituents, IsSpanWithin edge.start? edge.stop? start stop := by
  have other : node.kind ≠ .funcDecl := by
    intro isFunction
    rw [isFunction] at inner
    cases inner
  obtain ⟨opening, opening_eq, start_eq⟩ := exists_opening inOrder conforms
  obtain ⟨closing, edge, closing_eq, stop_eq, widens⟩ := exists_closing inOrder conforms other
  obtain ⟨start, last, first_eq, last_eq, within⟩ :=
    Edge.exists_bounds_of_isChain inOrder.follow spanned opening_eq closing_eq
  obtain ⟨stop, edge_eq, last_le⟩ := widens.exists_stop last_eq
  have start_le : start ≤ last :=
    (within opening (List.mem_of_mem_head? opening_eq)).lower_le_upper
  exact ⟨start, stop, start_eq.trans first_eq, stop_eq.trans edge_eq, by omega,
    fun edge mem => (within edge mem).mono (Int.le_refl start) last_le⟩

/-- In source order a node of an inner kind covers its tree. -/
theorem IsSourceOrdered.exists_covers {node : Node} (ordered : node.IsSourceOrdered)
    (grammatical : node.IsGrammatical) (inner : node.kind.isInner) :
    ∃ start stop, node.Covers start stop := by
  induction node using Node.induction with
  | step node ih =>
      have conforms := grammatical.conforms
      have covers (part : Node) (mem : part ∈ node.children) :
          ∃ start stop, part.Covers start stop :=
        ih part mem (ordered.of_mem_children mem) (grammatical.of_mem_children mem)
          (conforms.isInner_of_mem_children inner mem)
      have spanned : ∀ edge ∈ node.constituents,
          ∃ lower upper, IsSpanWithin edge.start? edge.stop? lower upper := by
        intro edge mem
        cases edge with
        | token position =>
            exact ⟨position, position, isSpanWithin_self rfl rfl (Int.le_refl position)⟩
        | part part =>
            obtain ⟨lower, upper, covered⟩ := covers part (mem_children_of_mem_constituents mem)
            exact ⟨lower, upper, covered.below part (self_mem_preorder part)⟩
      obtain ⟨start, stop, start_eq, stop_eq, le, within⟩ :=
        ordered.inOrder.exists_bounds conforms inner spanned
      refine ⟨start, stop, start_eq, stop_eq, fun part mem => ?_⟩
      rcases mem_preorder_iff.mp mem with rfl | ⟨child, child_mem, mem⟩
      · exact isSpanWithin_self start_eq stop_eq le
      · -- the node lies in the part that it stands below, and the part lies in the whole
        obtain ⟨lower, upper, covered⟩ := covers child child_mem
        obtain ⟨first, behind, first_eq, behind_eq, le_first, -, le_stop⟩ :=
          within (.part child) (conforms.mem_constituents_of_mem_children child_mem)
        obtain rfl : lower = first := Option.some.inj (covered.start_eq.symm.trans first_eq)
        obtain rfl : upper = behind := Option.some.inj (covered.stop_eq.symm.trans behind_eq)
        exact (covered.below part mem).mono le_first le_stop

end Node
end ShadowLint
