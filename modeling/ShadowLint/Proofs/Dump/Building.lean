import ShadowLint.Proofs.Dump.Resolution

/-!
# Nodes that are built

A node is built from named contents if every content is that of a field and has its type, and if no
field is missing that documents have to give.  The node then depends on nothing else than what each
field is given.
-/

namespace ShadowLint
namespace Dump

section Build

variable {place : Place} {kind : Kind} {contents : List (String × Value)}

/-- The slot of a field, from the first content with its name. -/
def slotFrom (contents : List (String × Value)) (field : Field) : Slot Node :=
  ((contents.lookup field.name).bind field.type.slot?).getD field.type.default

/-- The node of a kind whose fields are given by named contents. -/
def nodeFrom (place : Place) (kind : Kind) (contents : List (String × Value)) : Node :=
  ⟨place, kind, kind.fields.map fun field => (field.name, slotFrom contents field)⟩

theorem slot?_nodeFrom (name : String) :
    (nodeFrom place kind contents).slot? name = (kind.fieldType? name).map fun type =>
      ((contents.lookup name).bind type.slot?).getD type.default := by
  unfold Node.slot? nodeFrom slotFrom Kind.fieldType?
  induction kind.fields with
  | nil => rfl
  | cons field rest ih =>
      rw [List.map_cons, List.lookup_cons, List.find?_cons]
      by_cases same : field.name = name
      · simp [same]
      · have differs : (name == field.name) = false := by simpa using Ne.symm same
        have differs' : (field.name == name) = false := by simpa using same
        rw [differs, differs', ih]

/-- The content is that of a field of the kind and has its type. -/
def IsFieldContent (kind : Kind) (entry : String × Value) : Prop :=
  ∃ type, kind.fieldType? entry.1 = some type ∧ (type.slot? entry.2).isSome

/-- Contents of fields become slots under their names. -/
theorem lookup_of_knownSlots
    (known : ∀ entry ∈ contents, ∃ type, kind.fieldType? entry.1 = some type)
    {slots : List (String × Slot Node)} (read : knownSlots kind contents = .ok slots)
    (name : String) :
    slots.lookup name = (contents.lookup name).bind fun content =>
      (kind.fieldType? name).bind (·.slot? content) := by
  induction contents generalizing slots with
  | nil =>
      obtain rfl : [] = slots := Except.ok.inj read
      rfl
  | cons entry rest ih =>
      obtain ⟨⟨type, type_eq⟩, rest_known⟩ := List.forall_mem_cons.mp known
      obtain ⟨entryName, content⟩ := entry
      obtain ⟨field, found, rfl⟩ := Option.map_eq_some_iff.mp type_eq
      rw [knownSlots, found] at read
      dsimp only at read
      split at read
      · cases read
      · rename_i slot slot_eq
        obtain ⟨others, others_eq, slots_eq⟩ := bind_eq_ok_iff.mp read
        obtain rfl := Except.ok.inj slots_eq
        rw [List.lookup_cons, List.lookup_cons]
        by_cases same : name = entryName
        · subst same
          simp [type_eq, slot_eq]
        · have differs : (name == entryName) = false := by simpa using same
          rw [differs]
          exact ih rest_known others_eq

/-- Contents of fields all become slots, if they have the types of the fields. -/
theorem exists_knownSlots (typed : ∀ entry ∈ contents, IsFieldContent kind entry) :
    ∃ slots, knownSlots kind contents = .ok slots ∧
      slots.map Prod.fst = contents.map Prod.fst := by
  induction contents with
  | nil => exact ⟨[], rfl, rfl⟩
  | cons entry rest ih =>
      obtain ⟨⟨type, type_eq, slotted⟩, rest_typed⟩ := List.forall_mem_cons.mp typed
      obtain ⟨slots, slots_eq, names⟩ := ih rest_typed
      obtain ⟨name, content⟩ := entry
      obtain ⟨field, found, rfl⟩ := Option.map_eq_some_iff.mp type_eq
      obtain ⟨slot, slot_eq⟩ := Option.isSome_iff_exists.mp slotted
      refine ⟨(name, slot) :: slots, ?_, by simp [names]⟩
      simp only [knownSlots, found, slot_eq, slots_eq]
      rfl

theorem completeSlots_eq (known : ∀ entry ∈ contents, ∃ type, kind.fieldType? entry.1 = some type)
    {slots : List (String × Slot Node)} (read : knownSlots kind contents = .ok slots) :
    completeSlots kind slots =
      kind.fields.map fun field => (field.name, slotFrom contents field) := by
  refine List.map_congr_left fun field mem => ?_
  rw [lookup_of_knownSlots known read, Kind.fieldType?_eq_of_mem mem]
  rfl

/-- A field is missing if there is no slot of its name. -/
theorem missingFields_eq_nil_iff {slots : List (String × Slot Node)} :
    missingFields kind slots = [] ↔
      ∀ field ∈ kind.fields, field.omissible = false → field.name ∈ slots.map Prod.fst := by
  rw [missingFields, List.map_eq_nil_iff, List.filter_eq_nil_iff]
  simp only [Bool.and_eq_true, Bool.not_eq_true', not_and, Bool.not_eq_false, List.any_eq_true,
    beq_iff_eq, List.mem_map]

/-- A node is built exactly if every content is that of a field and no field is missing. -/
theorem buildNode_eq_ok_iff {node : Node} :
    buildNode place kind contents = .ok node ↔
      (∀ entry ∈ contents, IsFieldContent kind entry) ∧
        (∀ field ∈ kind.fields, field.omissible = false →
          field.name ∈ contents.map Prod.fst) ∧
        nodeFrom place kind contents = node := by
  constructor
  · intro built
    have known (entry : String × Value) (mem : entry ∈ contents) :=
      exists_fieldType_of_buildNode built mem
    obtain ⟨slots, slots_eq, complete, rfl⟩ := buildNode_eq_ok built
    have names := map_fst_sublist_of_knownSlots slots_eq
    refine ⟨fun entry mem => ?_, fun field mem required => ?_, ?_⟩
    · obtain ⟨type, type_eq⟩ := known entry mem
      obtain ⟨slot, -, slot_eq⟩ := exists_mem_knownSlots slots_eq mem type_eq
      exact ⟨type, type_eq, by rw [slot_eq, Option.isSome_some]⟩
    · exact names.subset (missingFields_eq_nil_iff.mp complete field mem required)
    · rw [completeSlots_eq known slots_eq, nodeFrom]
  · rintro ⟨typed, complete, rfl⟩
    have known (entry : String × Value) (mem : entry ∈ contents) :
        ∃ type, kind.fieldType? entry.1 = some type := by
      obtain ⟨type, type_eq, -⟩ := typed entry mem
      exact ⟨type, type_eq⟩
    obtain ⟨slots, slots_eq, names⟩ := exists_knownSlots typed
    have all_known : contents.find? (fun content => !kind.fields.any (·.name == content.1)) =
        none := by
      refine List.find?_eq_none.mpr fun entry mem => ?_
      obtain ⟨type, type_eq⟩ := known entry mem
      obtain ⟨field, field_mem, named, -⟩ := Kind.exists_field_of_fieldType? type_eq
      have some_named : kind.fields.any (·.name == entry.1) = true :=
        List.any_eq_true.mpr ⟨field, field_mem, beq_iff_eq.mpr named⟩
      simp [some_named]
    have none_missing : missingFields kind slots = [] := by
      rw [missingFields_eq_nil_iff, names]
      exact complete
    refine bind_eq_ok_iff.mpr ⟨slots, slots_eq, ?_⟩
    rw [all_known, none_missing, completeSlots_eq known slots_eq]
    rfl

end Build

end Dump
end ShadowLint
