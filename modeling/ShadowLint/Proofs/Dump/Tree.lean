import ShadowLint.Proofs.Dump.Success
import ShadowLint.Proofs.Syntax.Conformance
import ShadowLint.Proofs.Syntax.Placement

/-!
# Trees that were read

Whatever document a tree is read from, all of its nodes conform to the grammar and stand apart.
-/

namespace ShadowLint

namespace Value

mutual

/-- The nodes in a content, with everything below them. -/
def nodes : Value → List Node
  | .scalar _ => []
  | .list items => nodesOfAll items
  | .node root => root.preorder

/-- The nodes in several contents. -/
def nodesOfAll : List Value → List Node
  | [] => []
  | value :: rest => nodes value ++ nodesOfAll rest

end

theorem nodesOfAll_eq (values : List Value) : nodesOfAll values = values.flatMap nodes := by
  induction values with
  | nil => rfl
  | cons value rest ih => rw [nodesOfAll, ih, List.flatMap_cons]

theorem node?_eq_some_iff {accepted : NodeClass} {value : Value} {root : Node} :
    value.node? accepted = some root ↔ value = .node root ∧ accepted.accepts root.kind := by
  cases value with
  | scalar => simp [node?]
  | list => simp [node?]
  | node other =>
      simp only [node?, Option.ite_none_right_eq_some, Option.some.injEq, node.injEq]
      constructor
      · rintro ⟨accepts, rfl⟩
        exact ⟨rfl, accepts⟩
      · rintro ⟨rfl, accepts⟩
        exact ⟨accepts, rfl⟩

theorem mapM_node?_eq_some {accepted : NodeClass} {values : List Value} {roots : List Node}
    (read : values.mapM (node? accepted) = some roots) :
    values = roots.map .node ∧ ∀ root ∈ roots, accepted.accepts root.kind := by
  induction values generalizing roots with
  | nil =>
      obtain rfl : roots = [] := by simpa using read.symm
      simp
  | cons value rest ih =>
      rw [List.mapM_cons] at read
      simp only [Option.bind_eq_bind, Option.bind_eq_some_iff, Option.pure_def,
        Option.some.injEq] at read
      obtain ⟨root, root_eq, others, others_eq, rfl⟩ := read
      obtain ⟨rfl, accepts⟩ := node?_eq_some_iff.mp root_eq
      obtain ⟨rfl, allAccept⟩ := ih others_eq
      exact ⟨rfl, List.forall_mem_cons.mpr ⟨accepts, allAccept⟩⟩

/-- Below a place, the nodes in a content conform to the grammar and stand apart. -/
structure IsSound (place : Place) (value : Value) : Prop where
  /-- The nodes stand apart. -/
  placed : Placed place value.nodes
  /-- The nodes conform to the grammar. -/
  conforms : ∀ node ∈ value.nodes, node.Conforms

end Value

namespace FieldType

/-- A slot holds what a field of the type may hold. -/
theorem admits_of_slot?_eq_some {type : FieldType} {content : Value} {slot : Slot Node}
    (read : type.slot? content = some slot) : type.Admits slot := by
  unfold slot? at read
  split at read
  · cases read
    trivial
  · cases read
    trivial
  · obtain ⟨root, found, rfl⟩ := Option.map_eq_some_iff.mp read
    exact (Value.node?_eq_some_iff.mp found).2
  · cases read
    simp [Admits]
  · obtain ⟨root, found, rfl⟩ := Option.map_eq_some_iff.mp read
    simpa [Admits] using (Value.node?_eq_some_iff.mp found).2
  · obtain ⟨roots, found, rfl⟩ := Option.map_eq_some_iff.mp read
    exact (Value.mapM_node?_eq_some found).2
  · cases read

/-- A slot holds exactly the nodes of its content. -/
theorem nodes_of_slot?_eq_some {type : FieldType} {content : Value} {slot : Slot Node}
    (read : type.slot? content = some slot) :
    slot.toList.flatMap Node.preorder = content.nodes := by
  unfold slot? at read
  split at read
  · cases read
    rfl
  · cases read
    rfl
  · obtain ⟨root, found, rfl⟩ := Option.map_eq_some_iff.mp read
    obtain ⟨rfl, -⟩ := Value.node?_eq_some_iff.mp found
    simp [Slot.toList, Value.nodes]
  · cases read
    rfl
  · obtain ⟨root, found, rfl⟩ := Option.map_eq_some_iff.mp read
    obtain ⟨rfl, -⟩ := Value.node?_eq_some_iff.mp found
    simp [Slot.toList, Value.nodes]
  · obtain ⟨roots, found, rfl⟩ := Option.map_eq_some_iff.mp read
    obtain ⟨rfl, -⟩ := Value.mapM_node?_eq_some found
    simp [Slot.toList, Value.nodes, Value.nodesOfAll_eq, List.flatMap_map]
  · cases read

end FieldType

namespace Dump

/-- Every slot that was read comes from a content with its name. -/
theorem mem_of_knownSlots {kind : Kind} {contents : List (String × Value)}
    {slots : List (String × Slot Node)} (read : knownSlots kind contents = .ok slots)
    {name : String} {slot : Slot Node} (mem : (name, slot) ∈ slots) :
    ∃ content type, (name, content) ∈ contents ∧ kind.fieldType? name = some type ∧
      type.slot? content = some slot := by
  induction contents generalizing slots with
  | nil =>
      obtain rfl : [] = slots := Except.ok.inj read
      cases mem
  | cons entry rest ih =>
      obtain ⟨entryName, entryContent⟩ := entry
      rw [knownSlots] at read
      split at read
      · obtain ⟨content, type, content_mem, known⟩ := ih read mem
        exact ⟨content, type, .tail _ content_mem, known⟩
      · rename_i field found
        split at read
        · cases read
        · rename_i first first_eq
          obtain ⟨others, others_eq, slots_eq⟩ := bind_eq_ok_iff.mp read
          obtain rfl := Except.ok.inj slots_eq
          rcases List.mem_cons.mp mem with same | mem
          · obtain ⟨rfl, rfl⟩ := Prod.mk.inj same
            exact ⟨entryContent, field.type, .head _, by simp [Kind.fieldType?, found], first_eq⟩
          · obtain ⟨content, type, content_mem, known⟩ := ih others_eq mem
            exact ⟨content, type, .tail _ content_mem, known⟩

theorem buildNode_eq_ok {place : Place} {kind : Kind} {contents : List (String × Value)}
    {node : Node} (built : buildNode place kind contents = .ok node) :
    ∃ slots, knownSlots kind contents = .ok slots ∧ missingFields kind slots = [] ∧
      node = ⟨place, kind, completeSlots kind slots⟩ := by
  obtain ⟨slots, slots_eq, built⟩ := bind_eq_ok_iff.mp built
  refine ⟨slots, slots_eq, ?_⟩
  split at built
  · cases built
  · split at built
    · rename_i complete
      exact ⟨complete, (Except.ok.inj built).symm⟩
    · cases built

theorem lookup_completeSlots (kind : Kind) (slots : List (String × Slot Node)) (name : String) :
    (completeSlots kind slots).lookup name =
      (kind.fieldType? name).map fun type => (slots.lookup name).getD type.default := by
  unfold completeSlots Kind.fieldType?
  induction kind.fields with
  | nil => rfl
  | cons field rest ih =>
      rw [List.map_cons, List.lookup_cons, List.find?_cons]
      by_cases same : field.name = name
      · simp [same]
      · have differs : (name == field.name) = false := by simpa using Ne.symm same
        have differs' : (field.name == name) = false := by simpa using same
        rw [differs, differs', ih]

/-- A field of the kind that documents may leave out is not one for exactly one node. -/
theorem omissible_not_node (kind : Kind) :
    kind.fields.all (fun field => !field.omissible || field.type matches
      .position | .text | .optional _ | .nodes _) = true := by
  cases kind <;> rfl

/-- A field that documents may leave out admits what it holds then. -/
theorem admits_default_of_omissible {kind : Kind} {field : Field} (mem : field ∈ kind.fields)
    (omissible : field.omissible = true) : field.type.Admits field.type.default := by
  have table := List.all_eq_true.mp (omissible_not_node kind) field mem
  cases type : field.type with
  | node accepted => simp [omissible, type] at table
  | position => trivial
  | text => trivial
  | optional accepted => simp [FieldType.Admits, FieldType.default]
  | nodes accepted => simp [FieldType.Admits, FieldType.default]

theorem mem_of_lookup_eq_some {Content : Type} {entries : List (String × Content)} {name : String}
    {content : Content} (found : entries.lookup name = some content) :
    (name, content) ∈ entries := by
  obtain ⟨before, after, rfl, -⟩ := List.lookup_eq_some_iff.mp found
  simp

theorem omissible_of_missingFields {kind : Kind} {slots : List (String × Slot Node)}
    (complete : missingFields kind slots = []) {field : Field} (mem : field ∈ kind.fields)
    (absent : slots.lookup field.name = none) : field.omissible = true := by
  have required := List.filter_eq_nil_iff.mp (List.map_eq_nil_iff.mp complete) field mem
  have unnamed : slots.any (·.1 == field.name) = false := by
    rw [List.any_eq_false]
    intro entry entry_mem named
    have := List.lookup_eq_none_iff.mp absent entry entry_mem
    grind
  simpa [unnamed] using required

/-- A built node conforms to the grammar. -/
theorem conforms_of_buildNode {place : Place} {kind : Kind} {contents : List (String × Value)}
    {node : Node} (built : buildNode place kind contents = .ok node) : node.Conforms := by
  obtain ⟨slots, slots_eq, complete, rfl⟩ := buildNode_eq_ok built
  refine ⟨by simp [completeSlots], fun name type type_eq => ?_⟩
  refine ⟨(slots.lookup name).getD type.default, ?_, ?_⟩
  · rw [Node.slot?, lookup_completeSlots, type_eq, Option.map_some]
  · cases found : slots.lookup name with
    | some slot =>
        obtain ⟨content, known, -, known_eq, read⟩ :=
          mem_of_knownSlots slots_eq (mem_of_lookup_eq_some found)
        obtain rfl : known = type := Option.some.inj (known_eq.symm.trans type_eq)
        exact FieldType.admits_of_slot?_eq_some read
    | none =>
        obtain ⟨field, mem, rfl, rfl⟩ := Kind.exists_field_of_fieldType? type_eq
        have omissible := omissible_of_missingFields complete mem found
        exact admits_default_of_omissible mem omissible

/-- The nodes of a built node are itself and, field by field, those of sound contents. -/
theorem preorder_of_buildNode {place : Place} {kind : Kind} {contents : List (String × Value)}
    {node : Node} (built : buildNode place kind contents = .ok node)
    (sound : ∀ name content, (name, content) ∈ contents → content.IsSound (.field name :: place)) :
    ∃ value : Field → Value, (∀ field, (value field).IsSound (.field field.name :: place)) ∧
      node.place = place ∧
      node.preorder = node :: kind.fields.flatMap fun field => (value field).nodes := by
  obtain ⟨slots, slots_eq, complete, rfl⟩ := buildNode_eq_ok built
  have held (field : Field) : ∃ value : Value, value.IsSound (.field field.name :: place) ∧
      ((slots.lookup field.name).getD field.type.default).toList.flatMap Node.preorder =
        value.nodes := by
    cases found : slots.lookup field.name with
    | some slot =>
        obtain ⟨content, type, mem, -, read⟩ :=
          mem_of_knownSlots slots_eq (mem_of_lookup_eq_some found)
        exact ⟨content, sound _ _ mem, FieldType.nodes_of_slot?_eq_some read⟩
    | none =>
        refine ⟨.scalar .null, ⟨.nil _, by simp [Value.nodes]⟩, ?_⟩
        cases field.type <;> rfl
  choose value value_sound value_nodes using held
  refine ⟨value, value_sound, rfl, ?_⟩
  rw [Node.preorder_eq]
  simp [Node.children, completeSlots, List.flatMap_map, List.flatMap_assoc, value_nodes]

/-- A node built from sound contents is sound. -/
theorem isSound_of_buildNode {place : Place} {kind : Kind} {contents : List (String × Value)}
    {node : Node} (built : buildNode place kind contents = .ok node)
    (sound : ∀ name content, (name, content) ∈ contents → content.IsSound (.field name :: place)) :
    (Value.node node).IsSound place := by
  obtain ⟨value, value_sound, rfl, preorder_eq⟩ := preorder_of_buildNode built sound
  have apart : (kind.fields.map fun field => Step.field field.name).Nodup := by
    have steps := kind.fieldNames_nodup.map fun _ _ same => Step.field.inj same
    rwa [List.map_map] at steps
  refine ⟨?_, ?_⟩
  · rw [Value.nodes, preorder_eq]
    exact .cons_flatMap apart fun field _ => (value_sound field).placed
  · rw [Value.nodes, preorder_eq]
    refine List.forall_mem_cons.mpr ⟨conforms_of_buildNode built, fun part mem => ?_⟩
    obtain ⟨field, -, part_mem⟩ := List.mem_flatMap.mp mem
    exact (value_sound field).conforms part part_mem

section Reader

variable {symbolCount : Nat} {before after : Resolution}

/-- A finished node is the one built from the contents that do not resolve it. -/
theorem buildNode_of_finishNode {place : Place} {kind : Kind} {contents : List (String × Value)}
    {node : Node}
    (read : (finishNode symbolCount place kind contents).run before = .ok (node, after)) :
    ∃ fields ⊆ contents, buildNode place kind fields = .ok node := by
  unfold finishNode at read
  obtain ⟨built, between, first, read⟩ := run_bind_eq_ok_iff.mp read
  obtain ⟨first, -⟩ := run_lift_eq_ok_iff.mp first
  -- Resolving a name leaves the node as it was built.
  suffices same : built = node from ⟨_, List.filter_subset_self _, same ▸ first⟩
  dsimp only at read
  split at read
  · split at read
    · obtain ⟨_, _, _, last⟩ := run_bind_eq_ok_iff.mp read
      exact (run_pure_eq_ok_iff.mp last).1
    · cases read
  · exact (run_pure_eq_ok_iff.mp read).1

theorem isSound_of_nodeOf {place : Place} {members : Members}
    {contents : TreeReader (List (String × Value))} {node : Node}
    (read : (nodeOf symbolCount place members contents).run before = .ok (node, after))
    (sound : ∀ start values stop, contents.run start = .ok (values, stop) →
      ∀ name value, (name, value) ∈ values → value.IsSound (.field name :: place)) :
    (Value.node node).IsSound place := by
  obtain ⟨kind, _, -, read⟩ := run_bind_eq_ok_iff.mp read
  obtain ⟨values, _, values_eq, read⟩ := run_bind_eq_ok_iff.mp read
  obtain ⟨fields, subset, built⟩ := buildNode_of_finishNode read
  exact isSound_of_buildNode built fun name value mem => sound _ _ _ values_eq _ _ (subset mem)

/-- The items of a list stand apart behind their indices. -/
theorem isSound_list {place : Place} {index : Nat} {values : List Value}
    (each : ∀ entry ∈ values.zipIdx index, entry.1.IsSound (.item entry.2 :: place)) :
    (Value.list values).IsSound place := by
  have nodes_eq : (Value.list values).nodes = (values.zipIdx index).flatMap (·.1.nodes) := by
    rw [Value.nodes, Value.nodesOfAll_eq]
    nth_rewrite 1 [← List.zipIdx_map_fst index values]
    rw [List.flatMap_map]
  have apart : ((values.zipIdx index).map fun entry => Step.item entry.2).Nodup := by
    have indices : ((values.zipIdx index).map Prod.snd).Nodup := by
      rw [List.zipIdx_map_snd]
      exact List.nodup_range'
    have steps := indices.map fun _ _ same => Step.item.inj same
    rwa [List.map_map] at steps
  refine ⟨?_, ?_⟩
  · rw [nodes_eq]
    exact .flatMap apart fun entry mem => (each entry mem).placed
  · rw [nodes_eq]
    intro node mem
    obtain ⟨entry, entry_mem, node_mem⟩ := List.mem_flatMap.mp mem
    exact (each entry entry_mem).conforms node node_mem

mutual

/-- Every content that is read is sound. -/
theorem isSound_of_readValue : (json : Json) → {place : Place} → {value : Value} →
    {before after : Resolution} →
    (readValue symbolCount place json).run before = .ok (value, after) → value.IsSound place
  | .object members, place, value, before, after, read => by
      rw [readValue] at read
      obtain ⟨node, node_read, rfl⟩ := run_map_eq_ok_iff.mp read
      exact isSound_of_nodeOf node_read fun _ _ _ => isSound_of_readMembers members
  | .array items, place, value, before, after, read => by
      rw [readValue] at read
      obtain ⟨values, values_read, rfl⟩ := run_map_eq_ok_iff.mp read
      exact isSound_list (isSound_of_readItems items values_read)
  | .null, place, value, before, after, read | .bool _, place, value, before, after, read
  | .int _, place, value, before, after, read | .float _, place, value, before, after, read
  | .string _, place, value, before, after, read => by
      obtain ⟨rfl, -⟩ := run_pure_eq_ok_iff.mp read
      exact ⟨.nil place, by simp [Value.nodes]⟩

/-- Every content that is read for a member is sound. -/
theorem isSound_of_readMembers : (members : List (String × Json)) → {place : Place} →
    {contents : List (String × Value)} → {before after : Resolution} →
    (readMembers symbolCount place members).run before = .ok (contents, after) →
    ∀ name content, (name, content) ∈ contents → content.IsSound (.field name :: place)
  | [], place, contents, before, after, read => by
      obtain ⟨rfl, -⟩ := run_pure_eq_ok_iff.mp read
      simp
  | (name, json) :: rest, place, contents, before, after, read => by
      rw [readMembers] at read
      split at read
      · exact isSound_of_readMembers rest read
      · obtain ⟨first, _, first_read, read⟩ := run_bind_eq_ok_iff.mp read
        obtain ⟨others, _, others_read, read⟩ := run_bind_eq_ok_iff.mp read
        obtain ⟨rfl, -⟩ := run_pure_eq_ok_iff.mp read
        intro other content mem
        rcases List.mem_cons.mp mem with same | mem
        · obtain ⟨rfl, rfl⟩ := Prod.mk.inj same
          exact isSound_of_readValue json first_read
        · exact isSound_of_readMembers rest others_read other content mem

/-- Every item that is read is sound. -/
theorem isSound_of_readItems : (items : List Json) → {place : Place} → {index : Nat} →
    {values : List Value} → {before after : Resolution} →
    (readItems symbolCount place index items).run before = .ok (values, after) →
    ∀ entry ∈ values.zipIdx index, entry.1.IsSound (.item entry.2 :: place)
  | [], place, index, values, before, after, read => by
      obtain ⟨rfl, -⟩ := run_pure_eq_ok_iff.mp read
      simp
  | item :: rest, place, index, values, before, after, read => by
      rw [readItems] at read
      obtain ⟨first, _, first_read, read⟩ := run_bind_eq_ok_iff.mp read
      obtain ⟨others, _, others_read, read⟩ := run_bind_eq_ok_iff.mp read
      obtain ⟨rfl, -⟩ := run_pure_eq_ok_iff.mp read
      rw [List.zipIdx_cons]
      exact List.forall_mem_cons.mpr
        ⟨isSound_of_readValue item first_read, isSound_of_readItems rest others_read⟩

end

/-- Every node that is read is sound. -/
theorem isSound_of_readNode {place : Place} {members : Members} {node : Node}
    (read : (readNode symbolCount place members).run before = .ok (node, after)) :
    (Value.node node).IsSound place :=
  isSound_of_nodeOf read fun _ _ _ => isSound_of_readMembers members

end Reader

end Dump
end ShadowLint
