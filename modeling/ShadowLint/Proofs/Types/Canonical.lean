import Mathlib.Data.List.Forall2
import ShadowLint.Types.Sharing

/-!
# Canonical types

Two types are identical exactly if they have the same canonical form.  It has the names that second
names of basic types stand for, the identities of defined types without their names, and for the
methods of an interface what every name stands for; everything else is as in the type itself.
Therefore identity is an equivalence, and it goes along with every way to build a type.
-/

namespace ShadowLint

namespace BasicType

/-- The name that a name of a basic type stands for. -/
def aliasTarget (name : String) : String :=
  if name = "byte" then "uint8" else if name = "rune" then "int32" else name

theorem ofName?_name (type : BasicType) : ofName? type.name = some type := by
  cases type <;> decide

theorem name_canonical (type : BasicType) : type.canonical.name = aliasTarget type.name := by
  cases type <;> decide

theorem aliasTarget_name_eq_iff {left right : BasicType} :
    aliasTarget left.name = aliasTarget right.name ↔ left.canonical = right.canonical := by
  rw [← name_canonical, ← name_canonical]
  constructor
  · intro same
    have found := ofName?_name left.canonical
    rw [same, ofName?_name] at found
    exact (Option.some.inj found).symm
  · exact congrArg name

end BasicType

mutual

/-- The canonical form of a type. -/
inductive CanonicalType where
  /-- A type without parts that has no other name. -/
  | basic (name : String)
  /-- A defined type. -/
  | named (id : TypeId)
  /-- A pointer. -/
  | pointer (element : CanonicalType)
  /-- A slice. -/
  | slice (element : CanonicalType)
  /-- An array with a length. -/
  | array (length : Int) (element : CanonicalType)
  /-- A map. -/
  | map (key element : CanonicalType)
  /-- A channel. -/
  | channel (direction : ChannelDirection) (element : CanonicalType)
  /-- Several types in order. -/
  | tuple (types : List CanonicalType)
  /-- A function type. -/
  | function (signature : CanonicalSignature)
  /-- A structure type. -/
  | struct (fields : List CanonicalField)
  /-- An interface type, with the signatures that the names of methods stand for. -/
  | interface (methods : String → Option CanonicalSignature)

/-- Parameters and results of a function with canonical types. -/
structure CanonicalSignature where
  /-- Types of the parameters. -/
  params : List CanonicalType
  /-- Types of the results. -/
  results : List CanonicalType
  /-- Whether the last parameter takes any number of arguments. -/
  variadic : Bool

/-- A field of a structure type with a canonical type. -/
structure CanonicalField where
  /-- Name of the field. -/
  name : String
  /-- Type of the field. -/
  type : CanonicalType
  /-- Annotation of the field. -/
  tag : String
  /-- Whether the field's own members are members of the structure. -/
  embedded : Bool

end

namespace Method

/-- A method counts if none behind it has its name. -/
theorem last?_cons (method : Method) (rest : List Method) (name : String) :
    last? (method :: rest) name =
      (last? rest name).or (if method.name = name then some method else none) := by
  simp [last?, List.findRev?_eq_find?_reverse, List.find?_append, List.find?_singleton]

theorem last?_isSome_iff {methods : List Method} {name : String} :
    (last? methods name).isSome ↔ methods.any (·.name == name) := by
  simp [last?, List.findRev?_eq_find?_reverse]

end Method

namespace Ty

mutual

/-- The canonical form of a type. -/
def canonical : Ty → CanonicalType
  | .basic type => .basic (BasicType.aliasTarget type.name)
  | .named id _ _ => .named id
  | .pointer element => .pointer (canonical element)
  | .slice element => .slice (canonical element)
  | .array length element => .array length (canonical element)
  | .map key element => .map (canonical key) (canonical element)
  | .channel direction element => .channel direction (canonical element)
  | .tuple types => .tuple (canonicalAll types)
  | .function signature => .function (canonicalSignature signature)
  | .struct fields => .struct (canonicalFields fields)
  | .interface methods => .interface (canonicalMethods methods)

/-- The canonical form of a signature. -/
def canonicalSignature : Signature → CanonicalSignature
  | ⟨params, results, variadic⟩ => ⟨canonicalAll params, canonicalAll results, variadic⟩

/-- The canonical forms of types in order. -/
def canonicalAll : List Ty → List CanonicalType
  | [] => []
  | type :: rest => canonical type :: canonicalAll rest

/-- The canonical forms of fields in order. -/
def canonicalFields : List StructField → List CanonicalField
  | [] => []
  | ⟨name, type, tag, embedded⟩ :: rest =>
      ⟨name, canonical type, tag, embedded⟩ :: canonicalFields rest

/-- The canonical signatures that names stand for; the last method of a name counts. -/
def canonicalMethods : List Method → String → Option CanonicalSignature
  | [], _ => none
  | ⟨name, signature⟩ :: rest, other =>
      (canonicalMethods rest other).or
        (if other = name then some (canonicalSignature signature) else none)

end

/-- The canonical methods of an interface are those that are the last of their names. -/
theorem canonicalMethods_eq (methods : List Method) (name : String) :
    canonicalMethods methods name =
      (Method.last? methods name).map fun method => canonicalSignature method.signature := by
  induction methods with
  | nil => rfl
  | cons method rest ih =>
      obtain ⟨other, signature⟩ := method
      rw [canonicalMethods, ih, Method.last?_cons]
      cases Method.last? rest name with
      | some last => rfl
      | none =>
          by_cases same : name = other
          · simp [same]
          · simp [same, Ne.symm same]

/-- An interface has canonical methods for the names of its methods, so for finitely many. -/
theorem canonicalMethods_isSome_iff {methods : List Method} {name : String} :
    (canonicalMethods methods name).isSome ↔ methods.any (·.name == name) := by
  rw [canonicalMethods_eq, Option.isSome_map, Method.last?_isSome_iff]

/-- Two interfaces have the same canonical methods if those of the first one are some of the second
one and no name of the second one is missing in the first one. -/
theorem canonicalMethods_eq_iff {left right : List Method} :
    canonicalMethods left = canonicalMethods right ↔
      right.all (fun method => left.any (·.name == method.name)) = true ∧
        ∀ name signature, canonicalMethods left name = some signature →
          canonicalMethods right name = some signature := by
  have covered : right.all (fun method => left.any (·.name == method.name)) = true ↔
      ∀ name, (canonicalMethods right name).isSome → (canonicalMethods left name).isSome := by
    simp only [canonicalMethods_isSome_iff, List.all_eq_true, List.any_eq_true, beq_iff_eq]
    constructor
    · rintro all name ⟨method, mem, rfl⟩
      exact all method mem
    · exact fun all method mem => all method.name ⟨method, mem, rfl⟩
  rw [covered]
  constructor
  · intro same
    simp [same]
  · rintro ⟨names, signatures⟩
    funext name
    cases left_eq : canonicalMethods left name with
    | some signature => exact (signatures name signature left_eq).symm
    | none =>
        have missing : ¬(canonicalMethods right name).isSome := by
          intro present
          simpa [left_eq] using names name present
        exact (Option.not_isSome_iff_eq_none.mp missing).symm

@[simp]
theorem canonicalFields_cons (field : StructField) (rest : List StructField) :
    canonicalFields (field :: rest) =
      ⟨field.name, canonical field.type, field.tag, field.embedded⟩ :: canonicalFields rest := by
  cases field
  rfl

mutual

/-- Two types are identical exactly if they have the same canonical form. -/
theorem identical_iff :
    (left right : Ty) → (identical left right = true ↔ canonical left = canonical right)
  | .basic left, right => by
      cases right <;> simp [identical, canonical, BasicType.aliasTarget_name_eq_iff]
  | .named .., right => by cases right <;> simp [identical, canonical]
  | .pointer left, right => by cases right <;> simp [identical, canonical, identical_iff left]
  | .slice left, right => by cases right <;> simp [identical, canonical, identical_iff left]
  | .array _ left, right => by cases right <;> simp [identical, canonical, identical_iff left]
  | .map leftKey left, right => by
      cases right <;> simp [identical, canonical, identical_iff leftKey, identical_iff left]
  | .channel _ left, right => by cases right <;> simp [identical, canonical, identical_iff left]
  | .tuple left, right => by cases right <;> simp [identical, canonical, identicalAll_iff left]
  | .function left, right => by
      cases right <;> simp [identical, canonical, identicalSignatures_iff left]
  | .struct left, right => by
      cases right <;> simp [identical, canonical, identicalFields_iff left]
  | .interface left, right => by
      cases right with
      | interface right =>
          rw [identical, Bool.and_eq_true, identicalMethods_iff left, canonical, canonical,
            CanonicalType.interface.injEq]
          exact canonicalMethods_eq_iff.symm
      | _ => simp [identical, canonical]

/-- Two signatures are identical exactly if they have the same canonical form. -/
theorem identicalSignatures_iff : (left right : Signature) →
    (identicalSignatures left right = true ↔ canonicalSignature left = canonicalSignature right)
  | ⟨params, results, variadic⟩, ⟨rightParams, rightResults, rightVariadic⟩ => by
      simp only [identicalSignatures, canonicalSignature, CanonicalSignature.mk.injEq,
        Bool.and_eq_true, beq_iff_eq, identicalAll_iff params, identicalAll_iff results]
      rw [and_assoc, and_comm, and_assoc]

/-- Two lists of types are identical exactly if they have the same canonical forms. -/
theorem identicalAll_iff : (left right : List Ty) →
    (identicalAll left right = true ↔ canonicalAll left = canonicalAll right)
  | [], right => by cases right <;> simp [identicalAll, canonicalAll]
  | left :: lefts, right => by
      cases right <;> simp [identicalAll, canonicalAll, identical_iff left, identicalAll_iff lefts]

/-- Two lists of fields are identical exactly if they have the same canonical forms. -/
theorem identicalFields_iff : (left right : List StructField) →
    (identicalFields left right = true ↔ canonicalFields left = canonicalFields right)
  | [], right => by cases right <;> simp [identicalFields, canonicalFields]
  | ⟨name, type, tag, embedded⟩ :: lefts, right => by
      cases right with
      | nil => simp [identicalFields, canonicalFields]
      | cons right rights =>
          simp only [identicalFields, canonicalFields_cons, List.cons.injEq,
            CanonicalField.mk.injEq, Bool.and_eq_true, beq_iff_eq, identical_iff type,
            identicalFields_iff lefts, and_assoc, and_left_comm]

/-- The last methods of their names have identical counterparts exactly if what their names stand
for is the same for the counterparts. -/
theorem identicalMethods_iff : (left right : List Method) →
    (identicalMethods left right = true ↔ ∀ name signature,
      canonicalMethods left name = some signature → canonicalMethods right name = some signature)
  | [], right => by simp [identicalMethods, canonicalMethods]
  | ⟨name, signature⟩ :: rest, right => by
      rw [identicalMethods, Bool.and_eq_true, identicalMethods_iff rest, Bool.or_eq_true,
        ← canonicalMethods_isSome_iff]
      have counterpart : ((Method.last? right name).any fun method =>
          identicalSignatures signature method.signature) = true ↔
            canonicalMethods right name = some (canonicalSignature signature) := by
        rw [canonicalMethods_eq, Option.any_eq_true, Option.map_eq_some_iff]
        exact exists_congr fun method => and_congr_right fun _ =>
          (identicalSignatures_iff signature method.signature).trans eq_comm
      rw [counterpart]
      constructor
      · rintro ⟨first, others⟩ other found found_eq
        rcases Option.or_eq_some_iff.mp found_eq with later | ⟨absent, found_eq⟩
        · exact others other found later
        · obtain ⟨rfl, rfl⟩ : other = name ∧ canonicalSignature signature = found := by
            simpa using found_eq
          simpa [absent] using first
      · intro all
        refine ⟨?_, fun other found later => all other found ?_⟩
        · cases later : canonicalMethods rest name with
          | some found => exact .inl rfl
          | none => exact .inr (all name _ (by simp [canonicalMethods, later]))
        · rw [canonicalMethods, later, Option.some_or]

end

theorem identicalOptions_iff {left right : Option Ty} :
    identicalOptions left right = true ↔ left.map canonical = right.map canonical := by
  cases left <;> cases right <;> simp [identicalOptions, identical_iff]

theorem canonicalAll_eq (types : List Ty) : canonicalAll types = types.map canonical := by
  induction types with
  | nil => rfl
  | cons type rest ih => rw [canonicalAll, ih, List.map_cons]

theorem canonicalFields_eq (fields : List StructField) :
    canonicalFields fields =
      fields.map fun field => ⟨field.name, canonical field.type, field.tag, field.embedded⟩ := by
  induction fields with
  | nil => rfl
  | cons field rest ih => rw [canonicalFields_cons, ih, List.map_cons]

/-- A relation between types that goes along with every way to build a type: types that are built
the same way are related exactly if their parts are and everything else about them agrees. -/
structure IsCongruence (related : Ty → Ty → Prop) : Prop where
  /-- Basic types are related if their names stand for the same. -/
  basic : ∀ left right, related (.basic left) (.basic right) ↔ left.canonical = right.canonical
  /-- Defined types are related if they are one. -/
  named : ∀ left right leftName rightName leftPackage rightPackage,
    related (.named left leftName leftPackage) (.named right rightName rightPackage) ↔ left = right
  /-- Pointers need related elements. -/
  pointer : ∀ left right, related (.pointer left) (.pointer right) ↔ related left right
  /-- Slices need related elements. -/
  slice : ∀ left right, related (.slice left) (.slice right) ↔ related left right
  /-- Arrays need the same length, too. -/
  array : ∀ leftLength rightLength left right,
    related (.array leftLength left) (.array rightLength right) ↔
      leftLength = rightLength ∧ related left right
  /-- Maps need related keys and related elements. -/
  map : ∀ leftKey rightKey left right,
    related (.map leftKey left) (.map rightKey right) ↔
      related leftKey rightKey ∧ related left right
  /-- Channels need the same direction, too. -/
  channel : ∀ leftDirection rightDirection left right,
    related (.channel leftDirection left) (.channel rightDirection right) ↔
      leftDirection = rightDirection ∧ related left right
  /-- Types in order are related one by one. -/
  tuple : ∀ left right, related (.tuple left) (.tuple right) ↔ List.Forall₂ related left right
  /-- Functions need related parameters and results in order. -/
  function : ∀ left right : Signature,
    related (.function left) (.function right) ↔
      List.Forall₂ related left.params right.params ∧
        List.Forall₂ related left.results right.results ∧ left.variadic = right.variadic
  /-- Structures need the same fields in order, with related types. -/
  struct : ∀ left right,
    related (.struct left) (.struct right) ↔
      List.Forall₂ (fun (left right : StructField) =>
        left.name = right.name ∧ related left.type right.type ∧ left.tag = right.tag ∧
          left.embedded = right.embedded) left right
  /-- Interfaces need methods of the same names, and the last ones of each name are related. -/
  interface : ∀ left right,
    related (.interface left) (.interface right) ↔ ∀ name,
      Option.Rel (fun left right => related (.function left.signature) (.function right.signature))
        (Method.last? left name) (Method.last? right name)

theorem map_eq_map_iff_rel {Item Image : Type} {change : Item → Image} {left right : Option Item} :
    left.map change = right.map change ↔
      Option.Rel (fun left right => change left = change right) left right := by
  cases left <;> cases right <;> simp

theorem map_eq_map_iff_forall₂ {Item Image : Type} {change : Item → Image}
    {left right : List Item} :
    left.map change = right.map change ↔
      List.Forall₂ (fun left right => change left = change right) left right := by
  rw [← List.forall₂_eq_eq_eq, List.forall₂_map_left_iff, List.forall₂_map_right_iff]

/-- Equality of canonical forms goes along with every way to build a type. -/
theorem isCongruence_canonical :
    IsCongruence fun left right => canonical left = canonical right where
  basic left right := by simp [canonical, BasicType.aliasTarget_name_eq_iff]
  named := by simp [canonical]
  pointer := by simp [canonical]
  slice := by simp [canonical]
  array := by simp [canonical]
  map := by simp [canonical]
  channel := by simp [canonical]
  tuple left right := by
    simp only [canonical, CanonicalType.tuple.injEq, canonicalAll_eq, map_eq_map_iff_forall₂]
  function left right := by
    obtain ⟨params, results, variadic⟩ := left
    obtain ⟨rightParams, rightResults, rightVariadic⟩ := right
    simp only [canonical, canonicalSignature, CanonicalType.function.injEq,
      CanonicalSignature.mk.injEq, canonicalAll_eq, map_eq_map_iff_forall₂]
  struct left right := by
    simp only [canonical, CanonicalType.struct.injEq, canonicalFields_eq, map_eq_map_iff_forall₂,
      CanonicalField.mk.injEq]
  interface left right := by
    simp only [canonical, CanonicalType.interface.injEq, CanonicalType.function.injEq, funext_iff,
      canonicalMethods_eq, map_eq_map_iff_rel]

/-- Declarations have the same type exactly if their types have the same canonical form or neither
has a type.  So this is an equivalence, and it goes along with every way to build a type. -/
theorem haveSameType_iff_canonical :
    (∀ left right : Option Ty,
      haveSameType left right = true ↔ left.map canonical = right.map canonical) ∧
      Equivalence (fun left right : Option Ty => haveSameType left right = true) ∧
      IsCongruence fun left right => haveSameType (some left) (some right) = true := by
  have same_iff (left right : Option Ty) :
      haveSameType left right = true ↔ left.map canonical = right.map canonical := by
    rw [haveSameType_eq, identicalOptions_iff]
  refine ⟨same_iff, ?_, ?_⟩
  · simp only [same_iff]
    exact ⟨fun _ => rfl, Eq.symm, Eq.trans⟩
  · simp only [same_iff, Option.map_some, Option.some.injEq]
    exact isCongruence_canonical

/-- Of two methods with one name, the last one counts. -/
example : identical
    (.interface [⟨"close", ⟨[], [], false⟩⟩, ⟨"close", ⟨[.basic .byte], [], false⟩⟩])
    (.interface [⟨"close", ⟨[.basic .uint8], [], false⟩⟩]) = true := by
  decide +kernel

end Ty
end ShadowLint
