import ShadowLint.Proofs.Dump.Members

/-!
# Members that change

The values of members change by the names of the members, and the items of lists each by itself.
What a member holds then is what it held before, or that with the change made to it.
-/

namespace ShadowLint
namespace Dump

section Change

/-- A list, the items of which change. -/
def changedItems (change : Json → Json) : Json → Json
  | .array items => .array (items.map change)
  | other => other

/-- Members, the values of which change by their names. -/
def changedMembers (change : String → Json → Json) (members : Members) : Members :=
  members.map fun (key, found) => (key, change key found)

/-- An object, the members of which change. -/
def changedObject (change : String → Json → Json) : Json → Json
  | .object members => .object (changedMembers change members)
  | other => other

variable {change : String → Json → Json} {members : Members} {key : String}

theorem lookup_changedMembers (change : String → Json → Json) (members : Members) (key : String) :
    (changedMembers change members).lookup key = (members.lookup key).map (change key) :=
  lookup_map change members key

section Stays

variable (stays : change key = id)
include stays

theorem lookup_changedMembers_of_stays :
    (changedMembers change members).lookup key = members.lookup key := by
  rw [lookup_changedMembers, stays, Option.map_id_fun, id]

theorem value_changedMembers_of_stays :
    value (changedMembers change members) key = value members key := by
  rw [value, lookup_changedMembers_of_stays stays, value]

theorem present?_changedMembers_of_stays :
    Json.present? (changedMembers change members) key = Json.present? members key := by
  rw [Json.present?, lookup_changedMembers_of_stays stays, Json.present?]

theorem flag_changedMembers_of_stays :
    Json.flag (changedMembers change members) key = Json.flag members key := by
  rw [Json.flag, lookup_changedMembers_of_stays stays, Json.flag]

variable {Content : Type} (shape : Shape Content)

theorem content?_changedMembers_of_stays :
    content? (changedMembers change members) key shape = content? members key shape := by
  rw [content?, lookup_changedMembers_of_stays stays, content?]

theorem presentContent?_changedMembers_of_stays :
    presentContent? (changedMembers change members) key shape =
      presentContent? members key shape := by
  rw [presentContent?, present?_changedMembers_of_stays stays, presentContent?]

theorem mayHold_changedMembers_of_stays :
    MayHold (changedMembers change members) key shape ↔ MayHold members key shape := by
  rw [MayHold, present?_changedMembers_of_stays stays, MayHold]

end Stays

theorem value_changedMembers (null : change key .null = .null) :
    value (changedMembers change members) key = change key (value members key) := by
  rw [value, lookup_changedMembers, value]
  cases members.lookup key with
  | none => exact null.symm
  | some found => rfl

theorem present?_changedMembers (null : ∀ found, change key found = .null ↔ found = .null) :
    Json.present? (changedMembers change members) key =
      (Json.present? members key).map (change key) := by
  unfold Json.present?
  rw [lookup_changedMembers]
  cases members.lookup key with
  | none => rfl
  | some found =>
      by_cases absent : found = .null
      · simp [absent, (null .null).mpr rfl]
      · have present : change key found ≠ .null := (null found).not.mpr absent
        simp [absent, present]

section Items

variable {item : Json → Json} (items : change key = changedItems item)
include items

theorem present?_changedMembers_of_items :
    Json.present? (changedMembers change members) key =
      (Json.present? members key).map (changedItems item) := by
  rw [present?_changedMembers, items]
  intro found
  rw [items]
  cases found <;> simp [changedItems]

theorem presentContent?_changedMembers_of_items :
    presentContent? (changedMembers change members) key .list =
      (presentContent? members key .list).map (List.map item) := by
  rw [presentContent?, present?_changedMembers_of_items items, presentContent?]
  cases Json.present? members key with
  | none => rfl
  | some found => cases found <;> rfl

theorem mayHold_changedMembers_of_items :
    MayHold (changedMembers change members) key .list ↔ MayHold members key .list := by
  rw [MayHold, present?_changedMembers_of_items items, MayHold]
  cases Json.present? members key with
  | none => simp
  | some found => cases found <;> simp [changedItems, Shape.list]

theorem itemsUnder_changedMembers :
    itemsUnder (changedMembers change members) key = (itemsUnder members key).map item := by
  rw [itemsUnder, presentContent?_changedMembers_of_items items, itemsUnder]
  cases presentContent? members key .list <;> rfl

end Items

section Objects

variable {part : String → Json → Json} (objects : change key = changedItems (changedObject part))
include objects

omit objects in
theorem read?_changedObject (part : String → Json → Json) (item : Json) :
    Shape.object.read? (changedObject part item) =
      (Shape.object.read? item).map (changedMembers part) := by
  cases item <;> rfl

theorem objectsUnder_changedMembers :
    objectsUnder (changedMembers change members) key =
      (objectsUnder members key).map (changedMembers part) := by
  rw [objectsUnder, itemsUnder_changedMembers objects, List.filterMap_map, objectsUnder,
    List.map_filterMap]
  exact congrArg (List.filterMap · _) (funext (read?_changedObject part))

theorem mayHoldObjects_changedMembers :
    MayHoldObjects (changedMembers change members) key ↔ MayHoldObjects members key := by
  rw [MayHoldObjects, mayHold_changedMembers_of_items objects, itemsUnder_changedMembers objects,
    MayHoldObjects, List.forall_mem_map]
  simp only [read?_changedObject, Option.isSome_map]

end Objects

end Change

end Dump
end ShadowLint
