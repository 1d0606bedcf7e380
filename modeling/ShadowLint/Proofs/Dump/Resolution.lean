import ShadowLint.Proofs.Dump.Package
import ShadowLint.Proofs.Json.DistinctNames

/-!
# Names are resolved once

In a package that was read, every name that is resolved stands in one of the trees, and it is
resolved at most once as a declaration and at most once as a use.
-/

namespace ShadowLint

theorem Node.place_of_ident?_eq_some {node : Node} {ident : Ident}
    (named : node.ident? = some ident) : ident.place = node.place := by
  obtain ⟨-, same⟩ := Option.ite_none_right_eq_some.mp named
  obtain rfl := Option.some.inj same
  rfl

/-- Of nodes that stand apart, the former and the latter ones do. -/
theorem Placed.disjoint {place : Place} {l r : List Node} (placed : Placed place (l ++ r)) :
    (l.map Node.place).Disjoint (r.map Node.place) :=
  List.disjoint_of_nodup_append (List.map_append ▸ placed.distinct)

/-- The names stand among the nodes, and no two of them at one place. -/
structure OccurOnce (nodes : List Node) (idents : List Ident) : Prop where
  /-- Every name is one of the nodes. -/
  named : ∀ ident ∈ idents, ∃ node ∈ nodes, node.ident? = some ident
  /-- The names stand apart. -/
  distinct : (idents.map Ident.place).Nodup

namespace OccurOnce

variable {nodes others : List Node} {idents more : List Ident}

theorem nil : OccurOnce nodes [] := ⟨by simp, by simp⟩

theorem singleton {node : Node} {ident : Ident} (named : node.ident? = some ident) :
    OccurOnce [node] [ident] :=
  ⟨by simp [named], by simp⟩

theorem mono (once : OccurOnce nodes idents) (subset : nodes ⊆ others) :
    OccurOnce others idents where
  named ident mem := by
    obtain ⟨node, node_mem, named⟩ := once.named ident mem
    exact ⟨node, subset node_mem, named⟩
  distinct := once.distinct

theorem append (left : OccurOnce nodes idents) (right : OccurOnce others more)
    (apart : (nodes.map Node.place).Disjoint (others.map Node.place)) :
    OccurOnce (nodes ++ others) (idents ++ more) where
  named ident mem := by
    rcases List.mem_append.mp mem with mem | mem
    · exact (left.mono (List.subset_append_left _ _)).named ident mem
    · exact (right.mono (List.subset_append_right _ _)).named ident mem
  distinct := by
    rw [List.map_append, List.nodup_append]
    refine ⟨left.distinct, right.distinct, fun place place_mem other other_mem same => ?_⟩
    obtain ⟨ident, mem, rfl⟩ := List.mem_map.mp place_mem
    obtain ⟨another, another_mem, rfl⟩ := List.mem_map.mp other_mem
    obtain ⟨leftNode, leftNode_mem, left_named⟩ := left.named ident mem
    obtain ⟨rightNode, rightNode_mem, right_named⟩ := right.named another another_mem
    rw [Node.place_of_ident?_eq_some left_named, Node.place_of_ident?_eq_some right_named] at same
    exact apart (List.mem_map_of_mem leftNode_mem) (same ▸ List.mem_map_of_mem rightNode_mem)

end OccurOnce

namespace Resolution

/-- Names among the nodes were resolved, each at most once as a declaration and at most once as a
use. -/
def Adds (before after : Resolution) (nodes : List Node) : Prop :=
  ∃ definitions uses, after = ⟨before.definitions ++ definitions, before.uses ++ uses⟩ ∧
    OccurOnce nodes (definitions.map Prod.fst) ∧ OccurOnce nodes (uses.map Prod.fst)

namespace Adds

variable {before middle after : Resolution} {nodes others : List Node}

theorem refl (resolution : Resolution) (nodes : List Node) : resolution.Adds resolution nodes :=
  ⟨[], [], by simp, .nil, .nil⟩

theorem mono (adds : before.Adds after nodes) (subset : nodes ⊆ others) :
    before.Adds after others := by
  obtain ⟨definitions, uses, after_eq, defined, used⟩ := adds
  exact ⟨definitions, uses, after_eq, defined.mono subset, used.mono subset⟩

theorem trans (first : before.Adds middle nodes) (second : middle.Adds after others)
    (apart : (nodes.map Node.place).Disjoint (others.map Node.place)) :
    before.Adds after (nodes ++ others) := by
  obtain ⟨definitions, uses, rfl, defined, used⟩ := first
  obtain ⟨definitions', uses', rfl, defined', used'⟩ := second
  refine ⟨definitions ++ definitions', uses ++ uses', by simp, ?_, ?_⟩
  · rw [List.map_append]
    exact defined.append defined' apart
  · rw [List.map_append]
    exact used.append used' apart

end Adds

end Resolution

namespace Dump

theorem map_fst_sublist_of_knownSlots {kind : Kind} {contents : List (String × Value)}
    {slots : List (String × Slot Node)} (read : knownSlots kind contents = .ok slots) :
    (slots.map Prod.fst).Sublist (contents.map Prod.fst) := by
  induction contents generalizing slots with
  | nil =>
      obtain rfl : [] = slots := Except.ok.inj read
      exact .slnil
  | cons entry rest ih =>
      obtain ⟨name, content⟩ := entry
      rw [knownSlots] at read
      split at read
      · exact (ih read).cons _
      · split at read
        · cases read
        · obtain ⟨others, others_eq, slots_eq⟩ := bind_eq_ok_iff.mp read
          obtain rfl := Except.ok.inj slots_eq
          exact (ih others_eq).cons_cons _

/-- Every content with the name of a field makes a slot. -/
theorem exists_mem_knownSlots {kind : Kind} {contents : List (String × Value)}
    {slots : List (String × Slot Node)} (read : knownSlots kind contents = .ok slots)
    {name : String} {content : Value} (mem : (name, content) ∈ contents) {type : FieldType}
    (type_eq : kind.fieldType? name = some type) :
    ∃ slot, (name, slot) ∈ slots ∧ type.slot? content = some slot := by
  obtain ⟨field, found, rfl⟩ := Option.map_eq_some_iff.mp type_eq
  induction contents generalizing slots with
  | nil => cases mem
  | cons entry rest ih =>
      obtain ⟨entryName, entryContent⟩ := entry
      rw [knownSlots] at read
      rcases List.mem_cons.mp mem with same | mem
      · obtain ⟨rfl, rfl⟩ := Prod.mk.inj same
        simp only [found] at read
        split at read
        · cases read
        · rename_i slot slot_eq
          obtain ⟨others, -, slots_eq⟩ := bind_eq_ok_iff.mp read
          obtain rfl := Except.ok.inj slots_eq
          exact ⟨slot, .head _, slot_eq⟩
      · split at read
        · exact ih read mem
        · split at read
          · cases read
          · obtain ⟨others, others_eq, slots_eq⟩ := bind_eq_ok_iff.mp read
            obtain rfl := Except.ok.inj slots_eq
            obtain ⟨slot, slot_mem, slot_eq⟩ := ih others_eq mem
            exact ⟨slot, .tail _ slot_mem, slot_eq⟩

/-- Every content of a built node has the name of a field. -/
theorem exists_fieldType_of_buildNode {place : Place} {kind : Kind}
    {contents : List (String × Value)} {node : Node}
    (built : buildNode place kind contents = .ok node) {name : String} {content : Value}
    (mem : (name, content) ∈ contents) : ∃ type, kind.fieldType? name = some type := by
  obtain ⟨slots, -, built⟩ := bind_eq_ok_iff.mp built
  split at built
  · cases built
  · rename_i all_known
    have known : (kind.fields.find? (·.name == name)).isSome := by
      simpa using List.find?_eq_none.mp all_known (name, content) mem
    obtain ⟨field, found⟩ := Option.isSome_iff_exists.mp known
    exact ⟨field.type, Option.map_eq_some_iff.mpr ⟨field, found, rfl⟩⟩

/-- The nodes in the contents of a built node are nodes of its tree. -/
theorem nodes_subset_preorder_of_buildNode {place : Place} {kind : Kind}
    {contents : List (String × Value)} {node : Node}
    (built : buildNode place kind contents = .ok node)
    (distinct : (contents.map Prod.fst).Nodup) {name : String} {content : Value}
    (mem : (name, content) ∈ contents) : content.nodes ⊆ node.preorder := by
  obtain ⟨type, type_eq⟩ := exists_fieldType_of_buildNode built mem
  obtain ⟨slots, slots_eq, -, rfl⟩ := buildNode_eq_ok built
  obtain ⟨slot, slot_mem, slot_eq⟩ := exists_mem_knownSlots slots_eq mem type_eq
  have found : slots.lookup name = some slot :=
    lookup_eq_some_of_mem ((map_fst_sublist_of_knownSlots slots_eq).nodup distinct) slot_mem
  obtain ⟨field, field_mem, rfl, rfl⟩ := Kind.exists_field_of_fieldType? type_eq
  have slot_held : (field.name, slot) ∈ completeSlots kind slots :=
    List.mem_map.mpr ⟨field, field_mem, by rw [found, Option.getD_some]⟩
  intro part part_mem
  rw [← FieldType.nodes_of_slot?_eq_some slot_eq] at part_mem
  obtain ⟨child, child_mem, part_mem⟩ := List.mem_flatMap.mp part_mem
  have child_held : child ∈ Node.children ⟨place, kind, completeSlots kind slots⟩ :=
    List.mem_flatMap.mpr ⟨_, slot_held, child_mem⟩
  exact Node.mem_preorder_iff.mpr (.inr ⟨child, child_held, part_mem⟩)

section Reader

variable {symbolCount : Nat} {before after : Resolution} {place : Place}

theorem nodes_eq_nil_of_symbolReference {ident : Ident} {found : Value} {symbol : SymbolId}
    (read : symbolReference symbolCount ident found = .ok symbol) : found.nodes = [] := by
  unfold symbolReference at read
  split at read
  · rfl
  · rfl
  · cases read

theorem nodes_eq_nil_of_definitionReference {ident : Ident} {found : Value}
    {symbol? : Option SymbolId}
    (read : definitionReference symbolCount ident found = .ok symbol?) : found.nodes = [] := by
  unfold definitionReference at read
  split at read
  · rfl
  · cases reference : symbolReference symbolCount ident found with
    | error fault => simp [reference, Except.map] at read
    | ok symbol => exact nodes_eq_nil_of_symbolReference reference

/-- Resolving a name adds it to the declarations and to the uses, as far as its members tell. -/
theorem run_resolve {ident : Ident} {definition? use? : Option Value} :
    (resolve symbolCount ident definition? use?).run before = (do
      let declared ← definition?.mapM (definitionReference symbolCount ident)
      let used ← use?.mapM (symbolReference symbolCount ident)
      pure ((), ⟨before.definitions ++ declared.toList.map (ident, ·),
        before.uses ++ used.toList.map (ident, ·)⟩)) := by
  unfold resolve
  cases definition? with
  | none =>
      cases use? with
      | none => simp
      | some found =>
          dsimp only [Option.mapM]
          generalize symbolReference symbolCount ident found = used
          cases used with
          | error fault => rfl
          | ok symbol =>
              exact congrArg (fun definitions => Except.ok ((), Resolution.mk definitions _))
                (List.append_nil _).symm
  | some definition =>
      dsimp only [Option.mapM]
      generalize definitionReference symbolCount ident definition = declared
      cases use? with
      | none =>
          cases declared with
          | error fault => rfl
          | ok symbol? =>
              exact congrArg (fun uses => Except.ok ((), Resolution.mk _ uses))
                (List.append_nil _).symm
      | some found =>
          dsimp only
          generalize symbolReference symbolCount ident found = used
          cases declared <;> cases used <;> rfl

/-- The member tells which symbol a name declares or uses. -/
abbrev isResolution (name : String) : Bool := name == definitionKey || name == useKey

/-- A node is finished if it can be built from the members that do not resolve it, and is a name if
there are others. -/
theorem run_finishNode_eq_ok_iff {kind : Kind} {contents : List (String × Value)} {node : Node} :
    (finishNode symbolCount place kind contents).run before = .ok (node, after) ↔
      buildNode place kind (contents.filter fun content => !isResolution content.1) = .ok node ∧
        if contents.any (isResolution ·.1) then
          ∃ ident, node.ident? = some ident ∧
            (resolve symbolCount ident (contents.lookup definitionKey)
              (contents.lookup useKey)).run before = .ok ((), after)
        else before = after := by
  unfold finishNode
  rw [run_bind_eq_ok_iff]
  simp only [run_lift_eq_ok_iff]
  constructor
  · rintro ⟨built, between, ⟨built_eq, rfl⟩, run⟩
    split at run
    · rename_i resolves
      split at run
      · rename_i ident named
        obtain ⟨_, _, resolved, last⟩ := run_bind_eq_ok_iff.mp run
        obtain ⟨rfl, rfl⟩ := run_pure_eq_ok_iff.mp last
        refine ⟨built_eq, ?_⟩
        rw [if_pos resolves]
        exact ⟨ident, named, resolved⟩
      · cases run
    · rename_i silent
      obtain ⟨rfl, rfl⟩ := run_pure_eq_ok_iff.mp run
      refine ⟨built_eq, ?_⟩
      rw [if_neg silent]
  · rintro ⟨built_eq, rest⟩
    refine ⟨node, before, ⟨built_eq, rfl⟩, ?_⟩
    split at rest
    · rename_i resolves
      obtain ⟨ident, named, run⟩ := rest
      rw [if_pos resolves, named]
      exact run_bind_eq_ok_iff.mpr ⟨(), after, run, run_pure_eq_ok_iff.mpr ⟨rfl, rfl⟩⟩
    · rename_i silent
      rw [if_neg silent]
      exact run_pure_eq_ok_iff.mpr ⟨rfl, rest⟩

/-- A resolved name is added to the declarations and to the uses. -/
theorem adds_of_resolve {node : Node} {ident : Ident} (named : node.ident? = some ident)
    {definition? use? : Option Value}
    (run : (resolve symbolCount ident definition? use?).run before = .ok ((), after)) :
    before.Adds after [node] := by
  rw [run_resolve] at run
  obtain ⟨declared, -, run⟩ := bind_eq_ok_iff.mp run
  obtain ⟨used, -, run⟩ := bind_eq_ok_iff.mp run
  obtain ⟨-, rfl⟩ := Prod.mk.inj (Except.ok.inj run)
  have once {Symbol : Type} (found : Option Symbol) :
      OccurOnce [node] ((found.toList.map (ident, ·)).map Prod.fst) := by
    cases found with
    | none => exact .nil
    | some _ => exact .singleton named
  exact ⟨_, _, rfl, once declared, once used⟩

/-- The members that resolve a name hold no nodes. -/
theorem nodes_eq_nil_of_resolve {ident : Ident} {definition? use? : Option Value}
    (run : (resolve symbolCount ident definition? use?).run before = .ok ((), after)) :
    (∀ found ∈ definition?, found.nodes = []) ∧ ∀ found ∈ use?, found.nodes = [] := by
  rw [run_resolve] at run
  obtain ⟨declared, declared_eq, run⟩ := bind_eq_ok_iff.mp run
  obtain ⟨used, used_eq, -⟩ := bind_eq_ok_iff.mp run
  constructor
  · rintro found rfl
    obtain ⟨symbol?, read, -⟩ := map_eq_ok_iff.mp declared_eq
    exact nodes_eq_nil_of_definitionReference read
  · rintro found rfl
    obtain ⟨symbol, read, -⟩ := map_eq_ok_iff.mp used_eq
    exact nodes_eq_nil_of_symbolReference read

/-- A finished node adds at most itself, and all nodes in its members are nodes of its tree. -/
theorem adds_of_finishNode {kind : Kind} {contents : List (String × Value)} {node : Node}
    (read : (finishNode symbolCount place kind contents).run before = .ok (node, after))
    (distinct : (contents.map Prod.fst).Nodup) :
    before.Adds after [node] ∧ contents.flatMap (·.2.nodes) ⊆ node.preorder := by
  obtain ⟨built, rest⟩ := run_finishNode_eq_ok_iff.mp read
  have kept (name : String) (content : Value) (mem : (name, content) ∈ contents)
      (other : isResolution name = false) : content.nodes ⊆ node.preorder := by
    have filtered : (contents.filter fun content => !isResolution content.1).Sublist contents :=
      List.filter_sublist
    apply nodes_subset_preorder_of_buildNode built ((filtered.map Prod.fst).nodup distinct)
    exact List.mem_filter.mpr ⟨mem, by simp [other]⟩
  split at rest
  · obtain ⟨ident, named, run⟩ := rest
    refine ⟨adds_of_resolve named run, fun part part_mem => ?_⟩
    obtain ⟨⟨name, content⟩, mem, part_mem⟩ := List.mem_flatMap.mp part_mem
    obtain ⟨no_definition, no_use⟩ := nodes_eq_nil_of_resolve run
    by_cases other : isResolution name = false
    · exact kept name content mem other part_mem
    · have found := lookup_eq_some_of_mem distinct mem
      have empty : content.nodes = [] := by
        rcases Bool.or_eq_true_iff.mp (eq_true_of_ne_false other) with same | same
        · exact no_definition content (beq_iff_eq.mp same ▸ found)
        · exact no_use content (beq_iff_eq.mp same ▸ found)
      simp [empty] at part_mem
  · rename_i silent
    refine ⟨rest ▸ .refl _ _, fun part part_mem => ?_⟩
    obtain ⟨⟨name, content⟩, mem, part_mem⟩ := List.mem_flatMap.mp part_mem
    refine kept name content mem (eq_false_of_ne_true fun resolves => ?_) part_mem
    exact silent (List.any_eq_true.mpr ⟨_, mem, resolves⟩)

theorem adds_of_nodeOf {members : Members} {contents : TreeReader (List (String × Value))}
    {node : Node}
    (read : (nodeOf symbolCount place members contents).run before = .ok (node, after))
    (each : ∀ values between, contents.run before = .ok (values, between) →
      before.Adds between (values.flatMap (·.2.nodes)) ∧ (values.map Prod.fst).Nodup ∧
        ∀ name value, (name, value) ∈ values → value.IsSound (.field name :: place)) :
    before.Adds after node.preorder := by
  obtain ⟨kind, _, kind_eq, read⟩ := run_bind_eq_ok_iff.mp read
  obtain ⟨-, rfl⟩ := run_lift_eq_ok_iff.mp kind_eq
  obtain ⟨values, between, values_eq, finished⟩ := run_bind_eq_ok_iff.mp read
  obtain ⟨adds, distinct, sound⟩ := each values between values_eq
  obtain ⟨adds_self, held⟩ := adds_of_finishNode finished distinct
  obtain ⟨fields, -, built⟩ := buildNode_of_finishNode finished
  obtain rfl : node.place = place := by
    obtain ⟨_, -, -, rfl⟩ := buildNode_eq_ok built
    rfl
  -- The node stands above everything in its members.
  have apart : Placed node.place (node :: values.flatMap (·.2.nodes)) := by
    have steps : (values.map fun entry => Step.field entry.1).Nodup := by
      have named := distinct.map fun _ _ same => Step.field.inj same
      rwa [List.map_map] at named
    exact .cons_flatMap steps fun entry mem => (sound entry.1 entry.2 mem).placed
  have above := List.disjoint_symm (apart.disjoint (l := [node]))
  refine (adds.trans adds_self above).mono ?_
  refine List.append_subset.mpr ⟨held, ?_⟩
  simp [Node.self_mem_preorder]

theorem map_fst_of_readMembers {members : List (String × Json)} {contents : List (String × Value)}
    (read : (readMembers symbolCount place members).run before = .ok (contents, after)) :
    (contents.map Prod.fst).Sublist (members.map Prod.fst) := by
  induction members generalizing contents before with
  | nil =>
      obtain ⟨rfl, -⟩ := run_pure_eq_ok_iff.mp read
      exact .slnil
  | cons member rest ih =>
      obtain ⟨name, json⟩ := member
      rw [readMembers] at read
      split at read
      · exact (ih read).cons _
      · obtain ⟨first, _, -, read⟩ := run_bind_eq_ok_iff.mp read
        obtain ⟨others, _, others_read, read⟩ := run_bind_eq_ok_iff.mp read
        obtain ⟨rfl, rfl⟩ := run_pure_eq_ok_iff.mp read
        exact (ih others_read).cons_cons _

mutual

/-- Reading a content resolves names in it, each of them once. -/
theorem adds_of_readValue : (json : Json) → json.hasDistinctNames → {place : Place} →
    {value : Value} → {before after : Resolution} →
    (readValue symbolCount place json).run before = .ok (value, after) →
    before.Adds after value.nodes
  | .object members, distinct, place, value, before, after, read => by
      rw [readValue] at read
      obtain ⟨node, node_read, rfl⟩ := run_map_eq_ok_iff.mp read
      obtain ⟨names, all_distinct⟩ := Json.hasDistinctNames_object_iff.mp distinct
      exact adds_of_nodeOf node_read fun values between values_read =>
        ⟨adds_of_readMembers members names all_distinct values_read,
          (map_fst_of_readMembers values_read).nodup names,
          isSound_of_readMembers members values_read⟩
  | .array items, distinct, place, value, before, after, read => by
      rw [readValue] at read
      obtain ⟨values, values_read, rfl⟩ := run_map_eq_ok_iff.mp read
      exact adds_of_readItems items (Json.hasDistinctNames_array_iff.mp distinct) values_read
  | .null, _, place, value, before, after, read | .bool _, _, place, value, before, after, read
  | .int _, _, place, value, before, after, read | .float _, _, place, value, before, after, read
  | .string _, _, place, value, before, after, read => by
      obtain ⟨rfl, rfl⟩ := run_pure_eq_ok_iff.mp read
      exact .refl _ _

/-- Reading the members of a node resolves names in them, each of them once. -/
theorem adds_of_readMembers : (members : List (String × Json)) →
    (members.map Prod.fst).Nodup → (∀ member ∈ members, member.2.hasDistinctNames) →
    {place : Place} → {contents : List (String × Value)} → {before after : Resolution} →
    (readMembers symbolCount place members).run before = .ok (contents, after) →
    before.Adds after (contents.flatMap (·.2.nodes))
  | [], _, _, place, contents, before, after, read => by
      obtain ⟨rfl, rfl⟩ := run_pure_eq_ok_iff.mp read
      exact .refl _ _
  | (name, json) :: rest, names, distinct, place, contents, before, after, read => by
      have sound := isSound_of_readMembers _ read
      have named := (map_fst_of_readMembers read).nodup names
      obtain ⟨json_distinct, rest_distinct⟩ := List.forall_mem_cons.mp distinct
      obtain ⟨-, rest_names⟩ := List.nodup_cons.mp names
      rw [readMembers] at read
      split at read
      · exact adds_of_readMembers rest rest_names rest_distinct read
      · obtain ⟨first, _, first_read, read⟩ := run_bind_eq_ok_iff.mp read
        obtain ⟨others, _, others_read, read⟩ := run_bind_eq_ok_iff.mp read
        obtain ⟨rfl, rfl⟩ := run_pure_eq_ok_iff.mp read
        have apart : Placed place (first.nodes ++ others.flatMap (·.2.nodes)) := by
          have steps := named.map fun _ _ same => Step.field.inj same
          rw [List.map_map] at steps
          exact .flatMap steps fun entry mem => (sound entry.1 entry.2 mem).placed
        exact (adds_of_readValue json json_distinct first_read).trans
          (adds_of_readMembers rest rest_names rest_distinct others_read) apart.disjoint

/-- Reading the items of a list resolves names in them, each of them once. -/
theorem adds_of_readItems : (items : List Json) → (∀ item ∈ items, item.hasDistinctNames) →
    {place : Place} → {index : Nat} → {values : List Value} → {before after : Resolution} →
    (readItems symbolCount place index items).run before = .ok (values, after) →
    before.Adds after (Value.nodesOfAll values)
  | [], _, place, index, values, before, after, read => by
      obtain ⟨rfl, rfl⟩ := run_pure_eq_ok_iff.mp read
      exact .refl _ _
  | item :: rest, distinct, place, index, values, before, after, read => by
      have sound := isSound_list (isSound_of_readItems _ read)
      obtain ⟨item_distinct, rest_distinct⟩ := List.forall_mem_cons.mp distinct
      rw [readItems] at read
      obtain ⟨first, _, first_read, read⟩ := run_bind_eq_ok_iff.mp read
      obtain ⟨others, _, others_read, read⟩ := run_bind_eq_ok_iff.mp read
      obtain ⟨rfl, rfl⟩ := run_pure_eq_ok_iff.mp read
      exact (adds_of_readValue item item_distinct first_read).trans
        (adds_of_readItems rest rest_distinct others_read) sound.placed.disjoint

end

end Reader

theorem hasDistinctNames_of_lookup {members : Members} {key : String} {found : Json}
    (distinct : (Json.object members).hasDistinctNames)
    (lookup_eq : members.lookup key = some found) :
    found.hasDistinctNames :=
  (Json.hasDistinctNames_object_iff.mp distinct).2 _ (mem_of_lookup_eq_some lookup_eq)

theorem hasDistinctNames_of_require_object {part : DumpPart} {members found : Members}
    {key : String} (distinct : (Json.object members).hasDistinctNames)
    (read : require part members key .object = .ok found) :
    (Json.object found).hasDistinctNames := by
  obtain ⟨json, lookup_eq, shape⟩ := require_eq_ok_iff.mp read
  have json_distinct := hasDistinctNames_of_lookup distinct lookup_eq
  cases json with
  | object members => exact Option.some.inj shape ▸ json_distinct
  | _ => cases shape

theorem hasDistinctNames_of_require_list {part : DumpPart} {members : Members} {found : List Json}
    {key : String} (distinct : (Json.object members).hasDistinctNames)
    (read : require part members key .list = .ok found) :
    (Json.array found).hasDistinctNames := by
  obtain ⟨json, lookup_eq, shape⟩ := require_eq_ok_iff.mp read
  have json_distinct := hasDistinctNames_of_lookup distinct lookup_eq
  cases json with
  | array items => exact Option.some.inj shape ▸ json_distinct
  | _ => cases shape

/-- What holds of the files read so far: their trees stand apart, and they resolve names once. -/
structure FilesRead.IsSound (read : FilesRead) : Prop where
  /-- Each tree is sound behind its index. -/
  trees : ∀ tree ∈ read.trees.zipIdx, (Value.node tree.1).IsSound [.item tree.2]
  /-- The names were resolved in the trees. -/
  adds : Resolution.empty.Adds read.resolution (read.trees.flatMap Node.preorder)

theorem FilesRead.IsSound.addFile {symbolCount : Nat} {read after : FilesRead} {entry : Json}
    (sound : read.IsSound) (distinct : entry.hasDistinctNames)
    (added : addFile symbolCount read entry = .ok after) : after.IsSound := by
  have trees_sound := isSound_of_addFile sound.trees added
  refine ⟨trees_sound, ?_⟩
  have placed := (isSound_trees trees_sound).1
  obtain ⟨members, _, _, _, _, _, tree, root, _, rfl, -, -, -, -, -, tree_eq, root_eq, -, rfl⟩ :=
    addFile_eq_ok_iff.mp added
  obtain ⟨names, members_distinct⟩ := Json.hasDistinctNames_object_iff.mp
    (hasDistinctNames_of_require_object distinct tree_eq)
  have adds_root := adds_of_nodeOf root_eq fun values between values_read =>
    ⟨adds_of_readMembers tree names members_distinct values_read,
      (map_fst_of_readMembers values_read).nodup names, isSound_of_readMembers tree values_read⟩
  simp only [List.flatMap_append, List.flatMap_singleton] at placed ⊢
  exact sound.adds.trans adds_root placed.disjoint

/-- In a package that was read, the declared names occur once and the used names do. -/
theorem occurOnce_of_package {document : Json} {result : Package}
    (distinct : document.hasDistinctNames) (read : package document = .ok result) :
    OccurOnce result.nodes (result.resolution.definitions.map Prod.fst) ∧
      OccurOnce result.nodes (result.resolution.uses.map Prod.fst) := by
  obtain ⟨_, _, _, _, _, files, filesRead, rfl, -, -, -, -, files_eq, filesRead_eq, rfl⟩ :=
    package_eq_ok_iff.mp read
  have files_distinct : (Json.array files).hasDistinctNames :=
    hasDistinctNames_of_require_list distinct files_eq
  have sound : filesRead.IsSound := by
    refine foldlM_induction_of_mem (fun before entry mem after sound added => ?_) ?_ filesRead_eq
    · exact sound.addFile (Json.hasDistinctNames_array_iff.mp files_distinct entry mem) added
    · exact ⟨by simp, .refl _ _⟩
  obtain ⟨definitions, uses, resolution_eq, defined, used⟩ := sound.adds
  simp only [Package.nodes, resolution_eq, Resolution.empty, List.nil_append]
  exact ⟨defined, used⟩

end Dump
end ShadowLint
