import ShadowLint.Proofs.Displacement.Tree
import ShadowLint.Proofs.Dump.Resolution

/-!
# Trees that are read behind one more tree

In the object of a tree all numbers but those of symbols are positions.  Where they move on and one
more tree comes first, the displaced tree is read, and the same names are resolved at their
displaced places.
-/

namespace ShadowLint

namespace Json

/-- The value is a whole number. -/
def isInt : Json → Bool
  | .int _ => true
  | _ => false

mutual

/-- A part of a syntax tree whose positions move on by an offset. -/
def displaced (offset : Nat) : Json → Json
  | .int position => .int (displace offset position)
  | .array items => .array (displacedItems offset items)
  | .object members => .object (displacedMembers offset members)
  | other => other

/-- The displaced items of a list. -/
def displacedItems (offset : Nat) : List Json → List Json
  | [] => []
  | item :: rest => item.displaced offset :: displacedItems offset rest

/-- The displaced members of a node.  The number of a symbol is no position. -/
def displacedMembers (offset : Nat) : List (String × Json) → List (String × Json)
  | [] => []
  | (name, value) :: rest =>
      (name, if Dump.isResolution name && value.isInt then value else value.displaced offset) ::
        displacedMembers offset rest

end

/-- The displaced value of a member. -/
def displacedUnder (offset : Nat) (name : String) (value : Json) : Json :=
  if Dump.isResolution name && value.isInt then value else value.displaced offset

theorem displacedMembers_eq (offset : Nat) (members : List (String × Json)) :
    displacedMembers offset members =
      members.map fun (name, value) => (name, displacedUnder offset name value) := by
  induction members with
  | nil => rfl
  | cons member rest ih =>
      rw [displacedMembers, ih]
      rfl

end Json

namespace Value

/-- The content is a whole number. -/
def isInt : Value → Bool
  | .scalar value => value.isInt
  | _ => false

mutual

/-- The content where positions move on by an offset. -/
def displaced (offset : Nat) : Value → Value
  | .scalar value => .scalar (value.displaced offset)
  | .list items => .list (displacedAll offset items)
  | .node root => .node (root.displaced offset)

/-- The displaced contents. -/
def displacedAll (offset : Nat) : List Value → List Value
  | [] => []
  | value :: rest => value.displaced offset :: displacedAll offset rest

end

theorem displacedAll_eq (offset : Nat) (values : List Value) :
    displacedAll offset values = values.map (displaced offset) := by
  induction values with
  | nil => rfl
  | cons value rest ih => rw [displacedAll, ih, List.map_cons]

/-- The displaced content of a member. -/
def displacedUnder (offset : Nat) (name : String) (content : Value) : Value :=
  if Dump.isResolution name && content.isInt then content else content.displaced offset

variable {offset : Nat}

theorem node?_displaced (accepted : NodeClass) (content : Value) :
    (content.displaced offset).node? accepted =
      (content.node? accepted).map (Node.displaced offset) := by
  cases content with
  | node root =>
      simp only [displaced, node?, Node.kind_displaced]
      split <;> rfl
  | _ => rfl

theorem mapM_node?_displaced (accepted : NodeClass) (values : List Value) :
    (values.map (displaced offset)).mapM (node? accepted) =
      (values.mapM (node? accepted)).map (List.map (Node.displaced offset)) := by
  induction values with
  | nil => rfl
  | cons value rest ih =>
      rw [List.map_cons, List.mapM_cons, List.mapM_cons, ih, node?_displaced]
      cases value.node? accepted <;> cases rest.mapM (node? accepted) <;> rfl

end Value

/-- A displaced content makes the displaced slot. -/
theorem FieldType.slot?_displaced {offset : Nat} (type : FieldType) (content : Value) :
    type.slot? (content.displaced offset) =
      (type.slot? content).map (Node.displacedSlot offset) := by
  cases type with
  | position =>
      rcases content with (_ | _ | _ | _ | _ | _ | _) | _ | _ <;> rfl
  | text => rcases content with (_ | _ | _ | _ | _ | _ | _) | _ | _ <;> rfl
  | node accepted =>
      simp only [slot?, Value.node?_displaced]
      cases content.node? accepted <;> rfl
  | optional accepted =>
      rcases content with (_ | _ | _ | _ | _ | _ | _) | _ | root
      case node =>
        simp only [Value.displaced, slot?, Value.node?, Node.kind_displaced]
        split <;> rfl
      all_goals rfl
  | nodes accepted =>
      cases content with
      | list items =>
          simp only [Value.displaced, Value.displacedAll_eq, slot?, Value.mapM_node?_displaced]
          cases items.mapM (Value.node? accepted) with
          | none => rfl
          | some roots => simp [Node.displacedSlot, Node.displacedAll_eq]
      | scalar value => rcases value with _ | _ | _ | _ | _ | _ | _ <;> rfl
      | node root => rfl

/-- The resolution with all names at their displaced places. -/
def Resolution.displaced (offset : Nat) (resolution : Resolution) : Resolution where
  definitions := resolution.definitions.map fun (ident, symbol?) =>
    (ident.displaced offset, symbol?)
  uses := resolution.uses.map fun (ident, symbol) => (ident.displaced offset, symbol)

namespace Dump

/-- The displaced contents of a node. -/
def displacedContents (offset : Nat) (contents : List (String × Value)) : List (String × Value) :=
  contents.map fun (name, content) => (name, content.displacedUnder offset name)

section Building

variable {offset : Nat} {kind : Kind} {place : Place}

theorem knownSlots_displaced {contents : List (String × Value)}
    {slots : List (String × Slot Node)} (read : knownSlots kind contents = .ok slots) :
    knownSlots kind (contents.map fun (name, content) => (name, content.displaced offset)) =
      .ok (Node.displacedSlots offset slots) := by
  induction contents generalizing slots with
  | nil =>
      obtain rfl : [] = slots := Except.ok.inj read
      rfl
  | cons entry rest ih =>
      obtain ⟨name, content⟩ := entry
      rw [List.map_cons, knownSlots]
      rw [knownSlots] at read
      split at read
      · rename_i unknown
        simp only [ih read]
      · rename_i field known
        split at read
        · cases read
        · rename_i slot slot_eq
          obtain ⟨others, others_eq, slots_eq⟩ := bind_eq_ok_iff.mp read
          obtain rfl := Except.ok.inj slots_eq
          simp only [FieldType.slot?_displaced, slot_eq, Option.map_some, ih others_eq]
          rfl

theorem missingFields_displaced (slots : List (String × Slot Node)) :
    missingFields kind (Node.displacedSlots offset slots) = missingFields kind slots := by
  simp only [missingFields, Node.displacedSlots_eq, List.any_map, Function.comp_def]

theorem completeSlots_displaced (slots : List (String × Slot Node)) :
    completeSlots kind (Node.displacedSlots offset slots) =
      Node.displacedSlots offset (completeSlots kind slots) := by
  have default_displaced (type : FieldType) :
      Node.displacedSlot offset type.default = type.default := by
    cases type <;> simp [FieldType.default, Node.displacedSlot, Node.displacedAll]
  rw [Node.displacedSlots_eq, Node.displacedSlots_eq, completeSlots, completeSlots, List.map_map]
  refine List.map_congr_left fun field _ => ?_
  rw [lookup_map (fun _ => Node.displacedSlot offset), Function.comp_apply]
  cases slots.lookup field.name with
  | none => exact congrArg (Prod.mk field.name) (default_displaced field.type).symm
  | some slot => rfl

/-- From displaced contents the displaced node is built. -/
theorem buildNode_displaced {contents : List (String × Value)} {node : Node}
    (built : buildNode place kind contents = .ok node) :
    buildNode place.behind kind
        (contents.map fun (name, content) => (name, content.displaced offset)) =
      .ok (node.displaced offset) := by
  obtain ⟨slots, slots_eq, built⟩ := bind_eq_ok_iff.mp built
  refine bind_eq_ok_iff.mpr ⟨_, knownSlots_displaced slots_eq, ?_⟩
  split at built
  · cases built
  · rename_i all_known
    have displaced_known :
        (contents.map fun (name, content) => (name, content.displaced offset)).find?
          (fun content => !kind.fields.any (·.name == content.1)) = none := by
      rw [List.find?_map]
      exact Option.map_eq_none_iff.mpr all_known
    rw [displaced_known]
    dsimp only
    rw [missingFields_displaced]
    split at built
    · obtain rfl := Except.ok.inj built
      rw [completeSlots_displaced]
      rfl
    · cases built

end Building

section Resolving

variable {symbolCount offset : Nat} {before after : Resolution} {place : Place}

/-- A symbol that a name refers to does not depend on where the name stands. -/
theorem symbolReference_displaced (offset : Nat) {ident : Ident} {found : Value} {symbol : SymbolId}
    {name : String} (resolves : isResolution name)
    (read : symbolReference symbolCount ident found = .ok symbol) :
    symbolReference symbolCount (ident.displaced offset) (found.displacedUnder offset name) =
      .ok symbol := by
  unfold symbolReference at read
  split at read
  · rename_i text
    have same : (Value.scalar (.string text)).displacedUnder offset name = .scalar (.string text) :=
      ite_self _
    rw [same, symbolReference]
    split at read
    · rw [if_pos ‹_›, read]
    · cases read
  · rename_i index
    have same : (Value.scalar (.int index)).displacedUnder offset name = .scalar (.int index) :=
      if_pos (by simp [resolves, Value.isInt, Json.isInt])
    rw [same, symbolReference]
    split at read
    · rw [if_pos ‹_›, read]
    · cases read
  · cases read

theorem definitionReference_displaced {ident : Ident} {found : Value} {symbol? : Option SymbolId}
    {name : String} (resolves : isResolution name)
    (read : definitionReference symbolCount ident found = .ok symbol?) :
    definitionReference symbolCount (ident.displaced offset) (found.displacedUnder offset name) =
      .ok symbol? := by
  unfold definitionReference at read
  split at read
  · have same : (Value.scalar .null).displacedUnder offset name = .scalar .null := ite_self _
    rw [same]
    exact read
  · obtain ⟨symbol, symbol_eq, rfl⟩ := map_eq_ok_iff.mp read
    have displaced_eq := symbolReference_displaced offset resolves symbol_eq
    unfold definitionReference
    split
    · rename_i null
      simp [null, symbolReference] at displaced_eq
    · exact map_eq_ok_iff.mpr ⟨symbol, displaced_eq, rfl⟩

theorem run_resolve_displaced {ident : Ident} {definition? use? : Option Value}
    (run : (resolve symbolCount ident definition? use?).run before = .ok ((), after)) :
    (resolve symbolCount (ident.displaced offset)
        (definition?.map (Value.displacedUnder offset definitionKey))
        (use?.map (Value.displacedUnder offset useKey))).run (before.displaced offset) =
      .ok ((), after.displaced offset) := by
  rw [run_resolve] at run ⊢
  obtain ⟨declared, declared_eq, run⟩ := bind_eq_ok_iff.mp run
  obtain ⟨used, used_eq, run⟩ := bind_eq_ok_iff.mp run
  obtain ⟨-, rfl⟩ := Prod.mk.inj (Except.ok.inj run)
  refine bind_eq_ok_iff.mpr ⟨declared, ?_, bind_eq_ok_iff.mpr ⟨used, ?_, ?_⟩⟩
  · cases definition? with
    | none => exact declared_eq
    | some found =>
        obtain ⟨symbol?, read, rfl⟩ := map_eq_ok_iff.mp declared_eq
        exact map_eq_ok_iff.mpr ⟨symbol?, definitionReference_displaced rfl read, rfl⟩
  · cases use? with
    | none => exact used_eq
    | some found =>
        obtain ⟨symbol, read, rfl⟩ := map_eq_ok_iff.mp used_eq
        exact map_eq_ok_iff.mpr ⟨symbol, symbolReference_displaced offset rfl read, rfl⟩
  · cases declared <;> cases used <;> simp [Resolution.displaced, pure, Except.pure]

/-- From displaced contents the displaced node is finished. -/
theorem run_finishNode_displaced {kind : Kind} {contents : List (String × Value)} {node : Node}
    (read : (finishNode symbolCount place kind contents).run before = .ok (node, after)) :
    (finishNode symbolCount place.behind kind (displacedContents offset contents)).run
        (before.displaced offset) = .ok (node.displaced offset, after.displaced offset) := by
  obtain ⟨built, rest⟩ := run_finishNode_eq_ok_iff.mp read
  rw [run_finishNode_eq_ok_iff]
  constructor
  · have kept : (displacedContents offset contents).filter
          (fun content => !isResolution content.1) =
        (contents.filter fun content => !isResolution content.1).map
          fun (name, content) => (name, content.displaced offset) := by
      rw [displacedContents, List.filter_map]
      refine List.map_congr_left fun entry mem => ?_
      have other : isResolution entry.1 = false := by
        simpa using (List.mem_filter.mp mem).2
      simp [Value.displacedUnder, other]
    rw [kept]
    exact buildNode_displaced built
  · have resolves_eq : (displacedContents offset contents).any (isResolution ·.1) =
        contents.any (isResolution ·.1) := by
      rw [displacedContents, List.any_map]
      rfl
    have lookup_eq := lookup_map (Value.displacedUnder offset) contents
    rw [resolves_eq, displacedContents, lookup_eq, lookup_eq]
    split at rest
    · rename_i resolves
      obtain ⟨ident, named, run⟩ := rest
      rw [if_pos resolves]
      exact ⟨ident.displaced offset, by simp [named], run_resolve_displaced run⟩
    · rename_i silent
      rw [if_neg silent, rest]

theorem read?_string_displaced (json : Json) :
    Shape.string.read? (json.displaced offset) = Shape.string.read? json := by
  cases json <;> rfl

theorem value_displacedMembers (members : Members) (key : String) :
    value (Json.displacedMembers offset members) key =
      (value members key).displacedUnder offset key := by
  rw [value, Json.displacedMembers_eq, lookup_map (Json.displacedUnder offset), value]
  cases members.lookup key with
  | none => exact (ite_self _).symm
  | some found => rfl

theorem nodeKind_displaced {members : Members} {kind : Kind}
    (read : nodeKind members = .ok kind) :
    nodeKind (Json.displacedMembers offset members) = .ok kind := by
  have same : Shape.string.read? (value (Json.displacedMembers offset members) kindKey) =
      Shape.string.read? (value members kindKey) := by
    rw [value_displacedMembers, ← read?_string_displaced (value members kindKey)]
    rfl
  unfold nodeKind at read ⊢
  dsimp only at read ⊢
  rw [same]
  split at read
  · exact read
  · cases read

/-- From displaced members the displaced node is read. -/
theorem run_nodeOf_displaced (offset : Nat) {members : Members}
    {contents displacedReader : TreeReader (List (String × Value))} {node : Node}
    (read : (nodeOf symbolCount place members contents).run before = .ok (node, after))
    (each : ∀ values between, contents.run before = .ok (values, between) →
      displacedReader.run (before.displaced offset) =
        .ok (displacedContents offset values, between.displaced offset)) :
    (nodeOf symbolCount place.behind (Json.displacedMembers offset members) displacedReader).run
        (before.displaced offset) = .ok (node.displaced offset, after.displaced offset) := by
  obtain ⟨kind, _, kind_eq, read⟩ := run_bind_eq_ok_iff.mp read
  obtain ⟨kind_read, rfl⟩ := run_lift_eq_ok_iff.mp kind_eq
  obtain ⟨values, between, values_eq, finished⟩ := run_bind_eq_ok_iff.mp read
  exact run_bind_eq_ok_iff.mpr ⟨kind, _, run_lift_eq_ok_iff.mpr ⟨nodeKind_displaced kind_read, rfl⟩,
    run_bind_eq_ok_iff.mpr ⟨_, _, each values between values_eq, run_finishNode_displaced finished⟩⟩

/-- A content that is read is a whole number exactly if the value is. -/
theorem isInt_of_readValue {json : Json} {content : Value}
    (read : (readValue symbolCount place json).run before = .ok (content, after)) :
    content.isInt = json.isInt := by
  cases json with
  | object members =>
      rw [readValue] at read
      obtain ⟨_, -, rfl⟩ := run_map_eq_ok_iff.mp read
      rfl
  | array items =>
      rw [readValue] at read
      obtain ⟨_, -, rfl⟩ := run_map_eq_ok_iff.mp read
      rfl
  | _ =>
      obtain ⟨rfl, -⟩ := run_pure_eq_ok_iff.mp read
      rfl

mutual

/-- At a place behind one more tree, a displaced value has the displaced content. -/
theorem run_readValue_displaced : (json : Json) → {place : Place} → place ≠ [] →
    {content : Value} → {before after : Resolution} →
    (readValue symbolCount place json).run before = .ok (content, after) →
    (readValue symbolCount place.behind (json.displaced offset)).run (before.displaced offset) =
      .ok (content.displaced offset, after.displaced offset)
  | .object members, place, inner, content, before, after, read => by
      rw [readValue] at read
      obtain ⟨node, node_read, rfl⟩ := run_map_eq_ok_iff.mp read
      rw [Json.displaced, readValue]
      refine run_map_eq_ok_iff.mpr ⟨_, run_nodeOf_displaced offset node_read ?_, rfl⟩
      exact fun values between => run_readMembers_displaced members inner
  | .array items, place, inner, content, before, after, read => by
      rw [readValue] at read
      obtain ⟨values, values_read, rfl⟩ := run_map_eq_ok_iff.mp read
      rw [Json.displaced, readValue]
      exact run_map_eq_ok_iff.mpr ⟨_, run_readItems_displaced items inner values_read, rfl⟩
  | .null, _, _, _, _, _, read | .bool _, _, _, _, _, _, read | .int _, _, _, _, _, _, read
  | .float _, _, _, _, _, _, read | .string _, _, _, _, _, _, read => by
      obtain ⟨rfl, rfl⟩ := run_pure_eq_ok_iff.mp read
      rfl

/-- At a place behind one more tree, displaced members have the displaced contents. -/
theorem run_readMembers_displaced : (members : List (String × Json)) → {place : Place} →
    place ≠ [] → {contents : List (String × Value)} → {before after : Resolution} →
    (readMembers symbolCount place members).run before = .ok (contents, after) →
    (readMembers symbolCount place.behind (Json.displacedMembers offset members)).run
        (before.displaced offset) = .ok (displacedContents offset contents, after.displaced offset)
  | [], place, inner, contents, before, after, read => by
      obtain ⟨rfl, rfl⟩ := run_pure_eq_ok_iff.mp read
      rfl
  | (name, json) :: rest, place, inner, contents, before, after, read => by
      rw [readMembers] at read
      rw [Json.displacedMembers, readMembers]
      split at read
      · rename_i isKind
        rw [if_pos isKind]
        exact run_readMembers_displaced rest inner read
      · rename_i isField
        rw [if_neg isField]
        obtain ⟨first, between, first_read, read⟩ := run_bind_eq_ok_iff.mp read
        obtain ⟨others, _, others_read, read⟩ := run_bind_eq_ok_iff.mp read
        obtain ⟨rfl, rfl⟩ := run_pure_eq_ok_iff.mp read
        -- The number of a symbol stays what it is; everything else moves on.
        have first_displaced : (readValue symbolCount (.field name :: place.behind)
              (json.displacedUnder offset name)).run (before.displaced offset) =
            .ok (first.displacedUnder offset name, between.displaced offset) := by
          unfold Json.displacedUnder Value.displacedUnder
          rw [isInt_of_readValue first_read]
          split
          · rename_i number
            cases json with
            | int number =>
                obtain ⟨rfl, rfl⟩ := run_pure_eq_ok_iff.mp first_read
                rfl
            | _ => cases (Bool.and_eq_true_iff.mp number).2
          · rw [← Place.behind_cons _ inner]
            exact run_readValue_displaced json (List.cons_ne_nil _ _) first_read
        exact run_bind_eq_ok_iff.mpr ⟨_, _, first_displaced, run_bind_eq_ok_iff.mpr
          ⟨_, _, run_readMembers_displaced rest inner others_read, rfl⟩⟩

/-- At a place behind one more tree, displaced items have the displaced contents. -/
theorem run_readItems_displaced : (items : List Json) → {place : Place} → place ≠ [] →
    {index : Nat} → {values : List Value} → {before after : Resolution} →
    (readItems symbolCount place index items).run before = .ok (values, after) →
    (readItems symbolCount place.behind index (Json.displacedItems offset items)).run
        (before.displaced offset) = .ok (Value.displacedAll offset values, after.displaced offset)
  | [], place, inner, index, values, before, after, read => by
      obtain ⟨rfl, rfl⟩ := run_pure_eq_ok_iff.mp read
      rfl
  | item :: rest, place, inner, index, values, before, after, read => by
      rw [readItems] at read
      obtain ⟨first, _, first_read, read⟩ := run_bind_eq_ok_iff.mp read
      obtain ⟨others, _, others_read, read⟩ := run_bind_eq_ok_iff.mp read
      obtain ⟨rfl, rfl⟩ := run_pure_eq_ok_iff.mp read
      rw [Json.displacedItems, readItems, ← Place.behind_cons _ inner]
      exact run_bind_eq_ok_iff.mpr
        ⟨_, _, run_readValue_displaced item (List.cons_ne_nil _ _) first_read,
          run_bind_eq_ok_iff.mpr ⟨_, _, run_readItems_displaced rest inner others_read, rfl⟩⟩

end

end Resolving

end Dump
end ShadowLint
