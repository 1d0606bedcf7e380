import Mathlib.Logic.Function.Basic
import ShadowLint.Types.Sharing

/-!
# Types with other identities

The indices of defined types may change as long as different ones stay different: types are
identical as before, and messages show them as before.
-/

namespace ShadowLint

/-- The identity with another index. -/
def TypeId.renamed (change : Nat → Nat) : TypeId → TypeId
  | .predeclared name => .predeclared name
  | .declared index => .declared (change index)

theorem TypeId.renamed_inj {change : Nat → Nat} (injective : Function.Injective change)
    {left right : TypeId} : left.renamed change = right.renamed change ↔ left = right := by
  cases left <;> cases right <;> simp [renamed, injective.eq_iff]

namespace Ty

mutual

/-- A type with other indices of defined types. -/
def renamed (change : Nat → Nat) : Ty → Ty
  | .basic type => .basic type
  | .named id name package => .named (id.renamed change) name package
  | .pointer element => .pointer (renamed change element)
  | .slice element => .slice (renamed change element)
  | .array length element => .array length (renamed change element)
  | .map key element => .map (renamed change key) (renamed change element)
  | .channel direction element => .channel direction (renamed change element)
  | .tuple types => .tuple (renamedAll change types)
  | .function signature => .function (renamedSignature change signature)
  | .struct fields => .struct (renamedFields change fields)
  | .interface methods => .interface (renamedMethods change methods)

/-- A signature with other indices of defined types. -/
def renamedSignature (change : Nat → Nat) : Signature → Signature
  | ⟨params, results, variadic⟩ =>
      ⟨renamedAll change params, renamedAll change results, variadic⟩

/-- Types with other indices of defined types. -/
def renamedAll (change : Nat → Nat) : List Ty → List Ty
  | [] => []
  | type :: rest => renamed change type :: renamedAll change rest

/-- Fields with other indices of defined types. -/
def renamedFields (change : Nat → Nat) : List StructField → List StructField
  | [] => []
  | ⟨name, type, tag, embedded⟩ :: rest =>
      ⟨name, renamed change type, tag, embedded⟩ :: renamedFields change rest

/-- Methods with other indices of defined types. -/
def renamedMethods (change : Nat → Nat) : List Method → List Method
  | [] => []
  | ⟨name, signature⟩ :: rest =>
      ⟨name, renamedSignature change signature⟩ :: renamedMethods change rest

end

section Lists

variable (change : Nat → Nat)

theorem renamedAll_eq (types : List Ty) : renamedAll change types = types.map (renamed change) := by
  induction types with
  | nil => rfl
  | cons type rest ih => rw [renamedAll, ih, List.map_cons]

theorem renamedFields_eq (fields : List StructField) :
    renamedFields change fields =
      fields.map fun field => { field with type := renamed change field.type } := by
  induction fields with
  | nil => rfl
  | cons field rest ih => cases field; rw [renamedFields, ih, List.map_cons]

theorem renamedMethods_eq (methods : List Method) :
    renamedMethods change methods =
      methods.map fun method =>
        { method with signature := renamedSignature change method.signature } := by
  induction methods with
  | nil => rfl
  | cons method rest ih => cases method; rw [renamedMethods, ih, List.map_cons]

theorem last?_renamedMethods (methods : List Method) (name : String) :
    Method.last? (renamedMethods change methods) name =
      (Method.last? methods name).map fun method =>
        { method with signature := renamedSignature change method.signature } := by
  simp only [renamedMethods_eq, Method.last?, List.findRev?_eq_find?_reverse, ← List.map_reverse,
    List.find?_map]
  rfl

theorem any_renamedMethods (methods : List Method) (name : String) :
    (renamedMethods change methods).any (·.name == name) = methods.any (·.name == name) := by
  rw [renamedMethods_eq, List.any_map]
  rfl

end Lists

section Identity

variable {change : Nat → Nat}

mutual

/-- Types with other indices are identical exactly if they were so before. -/
theorem identical_renamed (injective : Function.Injective change) : (left right : Ty) →
    identical (renamed change left) (renamed change right) = identical left right
  | .basic _, right => by cases right <;> simp only [renamed, identical]
  | .named .., right => by
      cases right with
      | named =>
          rw [renamed, renamed, identical, identical, Bool.eq_iff_iff, beq_iff_eq, beq_iff_eq,
            TypeId.renamed_inj injective]
      | _ => simp only [renamed, identical]
  | .pointer left, right => by
      cases right <;> simp only [renamed, identical, identical_renamed injective left]
  | .slice left, right => by
      cases right <;> simp only [renamed, identical, identical_renamed injective left]
  | .array _ left, right => by
      cases right <;> simp only [renamed, identical, identical_renamed injective left]
  | .map leftKey left, right => by
      cases right <;>
        simp only [renamed, identical, identical_renamed injective leftKey,
          identical_renamed injective left]
  | .channel _ left, right => by
      cases right <;> simp only [renamed, identical, identical_renamed injective left]
  | .tuple left, right => by
      cases right <;> simp only [renamed, identical, identicalAll_renamed injective left]
  | .function left, right => by
      cases right <;> simp only [renamed, identical, identicalSignatures_renamed injective left]
  | .struct left, right => by
      cases right <;> simp only [renamed, identical, identicalFields_renamed injective left]
  | .interface left, right => by
      cases right with
      | interface right =>
          simp only [renamed, identical, identicalMethods_renamed injective left,
            any_renamedMethods]
          rw [renamedMethods_eq change right, List.all_map]
          rfl
      | _ => simp only [renamed, identical]

theorem identicalSignatures_renamed (injective : Function.Injective change) :
    (left right : Signature) →
    identicalSignatures (renamedSignature change left) (renamedSignature change right) =
      identicalSignatures left right
  | ⟨params, results, _⟩, ⟨_, _, _⟩ => by
      simp only [renamedSignature, identicalSignatures, identicalAll_renamed injective params,
        identicalAll_renamed injective results]

theorem identicalAll_renamed (injective : Function.Injective change) : (left right : List Ty) →
    identicalAll (renamedAll change left) (renamedAll change right) = identicalAll left right
  | [], right => by cases right <;> simp only [renamedAll, identicalAll]
  | left :: lefts, right => by
      cases right <;>
        simp only [renamedAll, identicalAll, identical_renamed injective left,
          identicalAll_renamed injective lefts]

theorem identicalFields_renamed (injective : Function.Injective change) :
    (left right : List StructField) →
    identicalFields (renamedFields change left) (renamedFields change right) =
      identicalFields left right
  | [], right => by cases right <;> simp only [renamedFields_eq, identicalFields, List.map]
  | ⟨_, left, _, _⟩ :: lefts, right => by
      cases right with
      | nil => simp only [renamedFields, identicalFields]
      | cons right rights =>
          cases right
          simp only [renamedFields, identicalFields, identical_renamed injective left,
            identicalFields_renamed injective lefts]

theorem identicalMethods_renamed (injective : Function.Injective change) :
    (left right : List Method) →
    identicalMethods (renamedMethods change left) (renamedMethods change right) =
      identicalMethods left right
  | [], _ => by simp only [renamedMethods, identicalMethods]
  | ⟨name, signature⟩ :: rest, right => by
      simp only [renamedMethods, identicalMethods, identicalMethods_renamed injective rest,
        any_renamedMethods, last?_renamedMethods, Option.any_map,
        identicalSignatures_renamed injective signature]

end

theorem haveSameType_renamed (injective : Function.Injective change) (left right : Option Ty) :
    haveSameType (left.map (renamed change)) (right.map (renamed change)) =
      haveSameType left right := by
  cases left <;> cases right <;>
    simp [haveSameType_eq, identicalOptions, identical_renamed injective]

end Identity

section Text

variable (change : Nat → Nat)

mutual

/-- Messages show a type without the indices of defined types. -/
theorem text_renamed : (type : Ty) → text (renamed change type) = text type
  | .basic _ => rfl
  | .named .. => rfl
  | .pointer element => by simp only [renamed, text, text_renamed element]
  | .slice element => by simp only [renamed, text, text_renamed element]
  | .array _ element => by simp only [renamed, text, text_renamed element]
  | .map key element => by simp only [renamed, text, text_renamed key, text_renamed element]
  | .channel _ element => by simp only [renamed, text, text_renamed element]
  | .tuple types => by simp only [renamed, text, texts_renamedAll types]
  | .function signature => by simp only [renamed, text, signatureText_renamedSignature signature]
  | .struct _ => by simp only [renamed, text]
  | .interface [] => by simp only [renamed, renamedMethods, text]
  | .interface (⟨_, _⟩ :: _) => by simp only [renamed, renamedMethods, text]

theorem signatureText_renamedSignature : (signature : Signature) →
    signatureText (renamedSignature change signature) = signatureText signature
  | ⟨params, results, _⟩ => by
      simp only [renamedSignature, signatureText, texts_renamedAll params,
        texts_renamedAll results]
      rw [renamedAll_eq, List.isEmpty_map]

theorem texts_renamedAll : (types : List Ty) → texts (renamedAll change types) = texts types
  | [] => rfl
  | type :: rest => by simp only [renamedAll, texts, text_renamed type, texts_renamedAll rest]

end

theorem textOf_renamed (type? : Option Ty) :
    textOf (type?.map (renamed change)) = textOf type? := by
  cases type? with
  | none => rfl
  | some type => exact text_renamed change type

end Text

end Ty
end ShadowLint
