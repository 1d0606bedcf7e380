import ShadowLint.Dump.Member

/-!
# The types of a dump

An entry of the type table may refer to any other entry.  Defined types are known by their index, so
references to them need no further look; every other reference is followed, and a chain of
references that comes back to its start is refused.  A chain never visits an entry twice, so its
length is bounded by the table.
-/

namespace ShadowLint

/-- The types of a program by index. -/
structure TypeTable where
  /-- The types. -/
  types : Array Ty
  /-- What each defined type stands for, if the table tells. -/
  underlying : Array (Option Ty)

namespace Dump

/-- The types found so far, by index. -/
abbrev FoundTypes := Array (Option Ty)

/-- Reading of types while others are known already. -/
abbrev TypeReader := StateT FoundTypes (Except DumpError)

/-- The index that a reference means, in a table of the given size. -/
def typeIndex (size : Nat) (part : DumpPart) (found : Json) : Except DumpError Nat :=
  match found with
  | .int index =>
      if 0 ≤ index ∧ index < size then .ok index.toNat else .error (.badTypeReference part found)
  | _ => .error (.badTypeReference part found)

/-- The type of an entry that is not a defined type, where `follow` gives the type that a reference
means. -/
def entryType (part : DumpPart) (members : Members) (follow : Json → TypeReader Ty) :
    TypeReader Ty := do
  match value members "kind" with
  | .string "basic" =>
      let name ← require part members "name" .string
      match BasicType.ofName? name with
      | some type => pure (.basic type)
      | none => throw (.unknownBasicType part name)
  | .string "pointer" => .pointer <$> follow (value members "elem")
  | .string "slice" => .slice <$> follow (value members "elem")
  | .string "array" =>
      let length ← require part members "length" .int
      .array length <$> follow (value members "elem")
  | .string "map" =>
      let key ← follow (value members "key")
      .map key <$> follow (value members "elem")
  | .string "chan" =>
      match ← optional? part members "direction" .string with
      | none => .channel .both <$> follow (value members "elem")
      | some name =>
          match ChannelDirection.ofName? name with
          | some direction => .channel direction <$> follow (value members "elem")
          | none => throw (.unknownDirection part name)
  | .string "tuple" =>
      .tuple <$> (← items part members "types").mapM follow
  | .string "signature" =>
      let params ← (← items part members "params").mapM follow
      let results ← (← items part members "results").mapM follow
      pure (.function ⟨params, results, Json.flag members "variadic"⟩)
  | .string "struct" =>
      .struct <$> (← objects part members "fields").mapM fun field => do
        let name ← require part field "name" .string
        let type ← follow (value field "type")
        let tag ← optional? part field "tag" .string
        pure ⟨name, type, tag.getD "", Json.flag field "embedded"⟩
  | .string "interface" =>
      .interface <$> (← objects part members "methods").mapM fun method => do
        match ← follow (value method "type") with
        | .function signature =>
            let name ← require part method "name" .string
            pure ⟨name, signature⟩
        | _ => throw (.methodNotFunction part (value method "name"))
  | found => throw (.unknownTypeKind part found)

/-- The type at an index.  The indices in `free` are those that no reference under way comes
from. -/
def typeAt (entries : Array Json) (free : List Nat) (index : Nat) : TypeReader Ty := do
  match (← get)[index]?.join with
  | some type => pure type
  | none =>
      let part : DumpPart := .entry .types index
      if _isFree : index ∈ free then
        match entries[index]? with
        | some (.object members) =>
            let type ← entryType part members fun found => do
              let target ← typeIndex entries.size part found
              typeAt entries (free.erase index) target
            modify (·.setIfInBounds index (some type))
            pure type
        | _ => throw (.entryNotObject part)
      else
        throw (.cyclicType part)
termination_by free.length
decreasing_by
  rw [List.length_erase_of_mem ‹_›]
  have := List.length_pos_of_mem ‹index ∈ free›
  omega

/-- The defined type that an entry is, if it is one. -/
def definedType? (entry : Json) (index : Nat) : Except DumpError (Option Ty) :=
  match entry with
  | .object members =>
      match members.lookup "kind" with
      | some (.string "named") => do
          let part : DumpPart := .entry .types index
          let name ← require part members "name" .string
          let package ← optional? part members "pkg" .string
          pure (some (.named (.declared index) name (package.getD "")))
      | _ => .ok none
  | _ => .ok none

/-- What the defined type at an entry stands for, if the entry tells. -/
def underlying? (types : Array Ty) (entry : Json) (index : Nat) : Except DumpError (Option Ty) :=
  match entry, types[index]? with
  | .object members, some (.named ..) =>
      match Json.present? members "underlying" with
      | none => .ok none
      | some found => do
          let target ← typeIndex types.size (.entry .types index) found
          pure types[target]?
  | _, _ => .ok none

/-- Reads the type table: the defined types, then all entries in order, then what the defined types
stand for. -/
def typeTable (entries : List Json) : Except DumpError TypeTable := do
  let defined ← entries.zipIdx.mapM fun (entry, index) => definedType? entry index
  let indices := List.range entries.length
  let (types, _) ← (indices.mapM (typeAt entries.toArray indices)).run defined.toArray
  let underlying ← entries.zipIdx.mapM fun (entry, index) =>
    underlying? types.toArray entry index
  pure ⟨types.toArray, underlying.toArray⟩

end Dump
end ShadowLint
