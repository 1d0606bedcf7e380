import ShadowLint.Syntax.Node
import ShadowLint.Json.Value

/-!
# The objects in a document

The objects in a value with the places where they stand, each behind those in its members.
-/

namespace ShadowLint
namespace Json

/-- The value has no parts. -/
def isScalar : Json → Bool
  | .array _ | .object _ => false
  | _ => true

/-- What holds of a list or an object as soon as it holds of its parts, and of all values without
parts, holds of every value. -/
@[elab_as_elim]
theorem induction {motive : Json → Prop} (scalar : ∀ json : Json, json.isScalar → motive json)
    (array : ∀ items, (∀ item ∈ items, motive item) → motive (.array items))
    (object : ∀ members, (∀ member ∈ members, motive member.2) → motive (.object members))
    (json : Json) : motive json :=
  match json with
  | .array items => array items fun item _mem => induction scalar array object item
  | .object members => object members fun ⟨_, value⟩ mem =>
      have : sizeOf value < sizeOf members := by
        have := List.sizeOf_lt_of_mem mem
        rw [Prod.mk.sizeOf_spec] at this
        omega
      induction scalar array object value
  | .null | .bool _ | .int _ | .float _ | .string _ => scalar _ rfl

mutual

/-- The objects in a value that stands at a place. -/
def objectsAt (place : Place) : Json → List (Place × List (String × Json))
  | .object members => objectsOfMembers place members ++ [(place, members)]
  | .array items => objectsOfItems place 0 items
  | _ => []

/-- The objects in the values of members. -/
def objectsOfMembers (place : Place) :
    List (String × Json) → List (Place × List (String × Json))
  | [] => []
  | (name, value) :: rest => objectsAt (.field name :: place) value ++ objectsOfMembers place rest

/-- The objects in the items of a list from an index on. -/
def objectsOfItems (place : Place) (index : Nat) : List Json → List (Place × List (String × Json))
  | [] => []
  | item :: rest => objectsAt (.item index :: place) item ++ objectsOfItems place (index + 1) rest

end

theorem objectsOfMembers_eq (place : Place) (members : List (String × Json)) :
    objectsOfMembers place members =
      members.flatMap fun member => member.2.objectsAt (.field member.1 :: place) := by
  induction members with
  | nil => rfl
  | cons member rest ih => rw [objectsOfMembers, ih, List.flatMap_cons]

theorem objectsOfItems_eq (place : Place) (index : Nat) (items : List Json) :
    objectsOfItems place index items =
      (items.zipIdx index).flatMap fun item => item.1.objectsAt (.item item.2 :: place) := by
  induction items generalizing index with
  | nil => rfl
  | cons item rest ih => rw [objectsOfItems, ih, List.zipIdx_cons, List.flatMap_cons]

end Json
end ShadowLint
