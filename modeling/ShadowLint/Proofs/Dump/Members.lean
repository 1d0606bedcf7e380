import Mathlib.Data.List.Forall2
import ShadowLint.Proofs.Dump.Success

/-!
# What members hold

The contents of the members of an object, by the kinds of values.  A member is read if it holds what
it has to hold, and what is read is its content.
-/

namespace ShadowLint
namespace Dump

section Members

variable {Content : Type}

/-- The content of a member, if it is there and of the kind. -/
def content? (members : Members) (key : String) (shape : Shape Content) : Option Content :=
  (members.lookup key).bind shape.read?

/-- The content of a member, if it is there, not null and of the kind. -/
def presentContent? (members : Members) (key : String) (shape : Shape Content) : Option Content :=
  (Json.present? members key).bind shape.read?

/-- The member is missing, null or of the kind. -/
def MayHold (members : Members) (key : String) (shape : Shape Content) : Prop :=
  ∀ found, Json.present? members key = some found → (shape.read? found).isSome

/-- The items of the list in a member, none if there is no list. -/
def itemsUnder (members : Members) (key : String) : List Json :=
  (presentContent? members key .list).getD []

/-- The objects among the items of the list in a member. -/
def objectsUnder (members : Members) (key : String) : List Members :=
  (itemsUnder members key).filterMap Shape.object.read?

/-- The member is missing or null, or it is a list of objects. -/
def MayHoldObjects (members : Members) (key : String) : Prop :=
  MayHold members key .list ∧ ∀ item ∈ itemsUnder members key, (Shape.object.read? item).isSome

variable {part : DumpPart} {members : Members} {key : String} {shape : Shape Content}

theorem value_eq_string_iff {word : String} :
    value members key = .string word ↔ members.lookup key = some (.string word) := by
  unfold value
  cases members.lookup key <;> simp

theorem require_eq_ok_iff_content? {content : Content} :
    require part members key shape = .ok content ↔ content? members key shape = some content := by
  rw [require_eq_ok_iff, content?, Option.bind_eq_some_iff]

theorem optional?_eq_ok_iff_mayHold {content? : Option Content} :
    optional? part members key shape = .ok content? ↔
      MayHold members key shape ∧ presentContent? members key shape = content? := by
  rw [optional?_eq_ok_iff, MayHold, presentContent?]
  cases Json.present? members key with
  | none => simp
  | some found => cases read : shape.read? found <;> simp [read]

theorem items_eq_ok_iff {listed : List Json} :
    items part members key = .ok listed ↔
      MayHold members key .list ∧ itemsUnder members key = listed := by
  unfold items itemsUnder
  constructor
  · intro read
    obtain ⟨_, list_read, rfl⟩ := map_eq_ok_iff.mp read
    obtain ⟨held, rfl⟩ := optional?_eq_ok_iff_mayHold.mp list_read
    exact ⟨held, rfl⟩
  · rintro ⟨held, rfl⟩
    exact map_eq_ok_iff.mpr ⟨_, optional?_eq_ok_iff_mayHold.mpr ⟨held, rfl⟩, rfl⟩

theorem mapM_eq_ok_iff {Fault Item Result : Type} {read : Item → Except Fault Result}
    {listed : List Item} {results : List Result} :
    listed.mapM read = .ok results ↔
      List.Forall₂ (fun item result => read item = .ok result) listed results := by
  induction listed generalizing results with
  | nil =>
      rw [List.mapM_nil, List.forall₂_nil_left_iff]
      exact ⟨fun same => (Except.ok.inj same).symm, fun same => same ▸ rfl⟩
  | cons item rest ih =>
      rw [List.mapM_cons, bind_eq_ok_iff, List.forall₂_cons_left_iff]
      constructor
      · rintro ⟨first, first_eq, run⟩
        obtain ⟨others, others_eq, same⟩ := bind_eq_ok_iff.mp run
        exact ⟨first, others, first_eq, ih.mp others_eq, (Except.ok.inj same).symm⟩
      · rintro ⟨first, others, first_eq, others_eq, rfl⟩
        exact ⟨first, first_eq, bind_eq_ok_iff.mpr ⟨others, ih.mpr others_eq, rfl⟩⟩

theorem exists_of_mem_of_forall₂ {Item Other : Type} {related : Item → Other → Prop}
    {items : List Item} {others : List Other} (all : List.Forall₂ related items others)
    {item : Item} (mem : item ∈ items) : ∃ other ∈ others, related item other := by
  induction all with
  | nil => cases mem
  | cons first _ ih =>
      rcases List.mem_cons.mp mem with rfl | mem
      · exact ⟨_, .head _, first⟩
      · obtain ⟨other, other_mem, held⟩ := ih mem
        exact ⟨other, .tail _ other_mem, held⟩

/-- Of a list of objects, the objects are all items. -/
theorem filterMap_read?_eq_iff {listed : List Json} {objects : List Members} :
    ((∀ item ∈ listed, (Shape.object.read? item).isSome) ∧
        listed.filterMap Shape.object.read? = objects) ↔ listed = objects.map .object := by
  constructor
  · rintro ⟨all, rfl⟩
    induction listed with
    | nil => rfl
    | cons item rest ih =>
        obtain ⟨item_object, rest_objects⟩ := List.forall_mem_cons.mp all
        cases item with
        | object members =>
            exact congrArg (Json.object members :: ·) (ih rest_objects)
        | _ => cases item_object
  · rintro rfl
    refine ⟨?_, ?_⟩
    · intro item mem
      obtain ⟨members, -, rfl⟩ := List.mem_map.mp mem
      rfl
    · rw [List.filterMap_map]
      exact List.filterMap_some

/-- A reader that takes objects and nothing else takes lists of objects. -/
theorem zipIdx_mapM_eq_ok_iff_eq_map {read : Json × Nat → Except DumpError Members}
    (each : ∀ item object, read item = .ok object ↔ item.1 = .object object)
    {found : List Json} {listed : List Members} :
    found.zipIdx.mapM read = .ok listed ↔ found = listed.map .object := by
  have items_eq := List.zipIdx_map_fst 0 found
  generalize found.zipIdx = indexed at items_eq
  simp only [mapM_eq_ok_iff, each, ← items_eq]
  rw [← List.forall₂_eq_eq_eq, List.forall₂_map_left_iff, List.forall₂_map_right_iff]

theorem objects_eq_ok_iff {listed : List Members} :
    objects part members key = .ok listed ↔
      MayHoldObjects members key ∧ objectsUnder members key = listed := by
  rw [MayHoldObjects, objectsUnder, and_assoc, filterMap_read?_eq_iff, objects, bind_eq_ok_iff]
  refine (exists_congr fun found =>
    and_congr items_eq_ok_iff (zipIdx_mapM_eq_ok_iff_eq_map ?_)).trans ?_
  · rintro ⟨item, index⟩ object
    cases item <;> simp
  · simp

end Members

end Dump
end ShadowLint
