import ShadowLint.Types.Identity

/-!
# Types that share parts

Entries of a type table may refer to the same entry many times, so a type of a few entries can be a
tree of very many parts.  Every type is identical to itself, hence a comparison may stop where both
sides are one and the same object.  The main statement is `haveSameType_eq`: the answer is that of
the comparison part by part.
-/

namespace ShadowLint

/-- Behind the last method with a name, the methods in front do not count. -/
theorem Method.last?_append_cons (before after : List Method) (method : Method)
    (isLast : after.any (·.name == method.name) = false) :
    Method.last? (before ++ method :: after) method.name = some method := by
  have absent : after.reverse.find? (·.name == method.name) = none := by
    simpa using isLast
  simp [Method.last?, List.findRev?_eq_find?_reverse, List.find?_append, absent]

namespace Ty

mutual

/-- Every type is identical to itself. -/
theorem identical_self : (type : Ty) → identical type type = true
  | .basic _ => by simp [identical]
  | .named .. => by simp [identical]
  | .pointer element => by simp [identical, identical_self element]
  | .slice element => by simp [identical, identical_self element]
  | .array _ element => by simp [identical, identical_self element]
  | .map key element => by simp [identical, identical_self key, identical_self element]
  | .channel _ element => by simp [identical, identical_self element]
  | .tuple types => by simp [identical, identicalAll_self types]
  | .function signature => by simp [identical, identicalSignatures_self signature]
  | .struct fields => by simp [identical, identicalFields_self fields]
  | .interface methods => by
      have same := identicalMethods_self [] methods
      rw [List.nil_append] at same
      simp only [identical, same, Bool.and_true, List.all_eq_true, List.any_eq_true]
      exact fun method isIn => ⟨method, isIn, BEq.rfl⟩

/-- Every signature is identical to itself. -/
theorem identicalSignatures_self :
    (signature : Signature) → identicalSignatures signature signature = true
  | ⟨params, results, _⟩ => by
      simp [identicalSignatures, identicalAll_self params, identicalAll_self results]

/-- Every list of types is identical to itself. -/
theorem identicalAll_self : (types : List Ty) → identicalAll types types = true
  | [] => by simp [identicalAll]
  | type :: rest => by simp [identicalAll, identical_self type, identicalAll_self rest]

/-- Every list of fields is identical to itself. -/
theorem identicalFields_self : (fields : List StructField) → identicalFields fields fields = true
  | [] => by simp [identicalFields]
  | ⟨_, type, _, _⟩ :: rest => by
      simp [identicalFields, identical_self type, identicalFields_self rest]

/-- The methods of a list have identical counterparts in a list that ends with them. -/
theorem identicalMethods_self (before : List Method) :
    (methods : List Method) → identicalMethods methods (before ++ methods) = true
  | [] => by simp [identicalMethods]
  | ⟨name, signature⟩ :: rest => by
      have same := identicalMethods_self (before ++ [⟨name, signature⟩]) rest
      rw [List.append_assoc, List.singleton_append] at same
      rw [identicalMethods, same, Bool.and_true]
      cases isLast : rest.any (·.name == name) with
      | true => rfl
      | false =>
          rw [Method.last?_append_cons before rest ⟨name, signature⟩ isLast]
          simp [identicalSignatures_self signature]

end

mutual

/-- Compares two types; one object is identical to itself at once. -/
def compare (left right : Ty) : { answer : Bool // answer = identical left right } :=
  let byParts : Unit → { answer : Bool // answer = identical left right } := fun _ =>
    match left, right with
    | .pointer left, .pointer right =>
        ⟨compare left right, by rw [identical, (compare left right).property]⟩
    | .slice left, .slice right =>
        ⟨compare left right, by rw [identical, (compare left right).property]⟩
    | .array leftLength left, .array rightLength right =>
        ⟨leftLength == rightLength && compare left right, by
          rw [identical, (compare left right).property]⟩
    | .map leftKey left, .map rightKey right =>
        ⟨compare leftKey rightKey && compare left right, by
          rw [identical, (compare leftKey rightKey).property, (compare left right).property]⟩
    | .channel leftDirection left, .channel rightDirection right =>
        ⟨leftDirection == rightDirection && compare left right, by
          rw [identical, (compare left right).property]⟩
    | .tuple left, .tuple right =>
        ⟨compareAll left right, by rw [identical, (compareAll left right).property]⟩
    | .function left, .function right =>
        ⟨compareSignatures left right, by
          rw [identical, (compareSignatures left right).property]⟩
    | .struct left, .struct right =>
        ⟨compareFields left right, by rw [identical, (compareFields left right).property]⟩
    | .interface left, .interface right =>
        ⟨right.all (fun method => left.any (·.name == method.name)) &&
            compareMethods left right, by
          rw [identical, (compareMethods left right).property]⟩
    | left, right => ⟨identical left right, rfl⟩
  ⟨withPtrEq left right (fun _ => byParts ()) fun same => by
      rw [(byParts ()).property, same, identical_self],
    (byParts ()).property⟩
termination_by structural left

/-- Compares two signatures; one object is identical to itself at once. -/
def compareSignatures (left right : Signature) :
    { answer : Bool // answer = identicalSignatures left right } :=
  let byParts : Unit → { answer : Bool // answer = identicalSignatures left right } := fun _ =>
    match left with
    | ⟨params, results, variadic⟩ =>
        ⟨variadic == right.variadic && compareAll params right.params &&
            compareAll results right.results, by
          rw [identicalSignatures, (compareAll params right.params).property,
            (compareAll results right.results).property]⟩
  ⟨withPtrEq left right (fun _ => byParts ()) fun same => by
      rw [(byParts ()).property, same, identicalSignatures_self],
    (byParts ()).property⟩
termination_by structural left

/-- Compares two lists of types. -/
def compareAll : (left right : List Ty) → { answer : Bool // answer = identicalAll left right }
  | left :: lefts, right :: rights =>
      ⟨compare left right && compareAll lefts rights, by
        rw [identicalAll, (compare left right).property, (compareAll lefts rights).property]⟩
  | [], right => ⟨identicalAll [] right, rfl⟩
  | left, [] => ⟨identicalAll left [], rfl⟩
termination_by structural left => left

/-- Compares two lists of fields. -/
def compareFields :
    (left right : List StructField) → { answer : Bool // answer = identicalFields left right }
  | ⟨name, type, tag, embedded⟩ :: lefts, right :: rights =>
      ⟨name == right.name && tag == right.tag && embedded == right.embedded &&
          compare type right.type && compareFields lefts rights, by
        rw [identicalFields, (compare type right.type).property,
          (compareFields lefts rights).property]⟩
  | [], right => ⟨identicalFields [] right, rfl⟩
  | left, [] => ⟨identicalFields left [], rfl⟩
termination_by structural left => left

/-- Compares the methods of a list with those of another one. -/
def compareMethods :
    (left right : List Method) → { answer : Bool // answer = identicalMethods left right }
  | [], right => ⟨true, by rw [identicalMethods]⟩
  | ⟨name, signature⟩ :: rest, rights =>
      ⟨(rest.any (·.name == name) ||
            (Method.last? rights name).any fun right =>
              compareSignatures signature right.signature) &&
          compareMethods rest rights, by
        have same (right : Signature) := (compareSignatures signature right).property
        simp only [identicalMethods, same, (compareMethods rest rights).property]⟩
termination_by structural left => left

end

/-- Whether two declarations have identical types, or neither has a type. -/
def haveSameType : Option Ty → Option Ty → Bool
  | some left, some right => compare left right
  | none, none => true
  | _, _ => false

/-- Sharing has no effect on the answer. -/
theorem haveSameType_eq (left right : Option Ty) :
    haveSameType left right = identicalOptions left right := by
  cases left <;> cases right <;> simp [haveSameType, identicalOptions, (compare _ _).property]

end Ty

end ShadowLint
