import ShadowLint.Types.Basic

/-!
# Type identity

Two types are identical when they are built the same way from identical parts.  Second names of a
basic type count as the type they stand for, a defined type is identical to itself alone, and the
methods of an interface count by name, without their order; where a name stands twice the last
method counts.
-/

namespace ShadowLint

/-- The last of the methods with a name. -/
def Method.last? (methods : List Method) (name : String) : Option Method :=
  methods.findRev? (·.name == name)

namespace Ty

mutual

/-- Whether two types are identical. -/
def identical : Ty → Ty → Bool
  | .basic left, .basic right => left.canonical == right.canonical
  | .named left _ _, .named right _ _ => left == right
  | .pointer left, .pointer right => identical left right
  | .slice left, .slice right => identical left right
  | .array leftLength left, .array rightLength right =>
      leftLength == rightLength && identical left right
  | .map leftKey left, .map rightKey right => identical leftKey rightKey && identical left right
  | .channel leftDirection left, .channel rightDirection right =>
      leftDirection == rightDirection && identical left right
  | .tuple left, .tuple right => identicalAll left right
  | .function left, .function right => identicalSignatures left right
  | .struct left, .struct right => identicalFields left right
  | .interface left, .interface right =>
      right.all (fun method => left.any (·.name == method.name)) && identicalMethods left right
  | _, _ => false

/-- Whether two signatures have identical parameters and results and agree on their last
parameter. -/
def identicalSignatures : Signature → Signature → Bool
  | ⟨leftParams, leftResults, leftVariadic⟩, right =>
      leftVariadic == right.variadic && identicalAll leftParams right.params &&
        identicalAll leftResults right.results

/-- Whether two lists have the same length and identical types at every place. -/
def identicalAll : List Ty → List Ty → Bool
  | [], [] => true
  | left :: lefts, right :: rights => identical left right && identicalAll lefts rights
  | _, _ => false

/-- Whether two lists have the same length and at every place fields that agree in everything. -/
def identicalFields : List StructField → List StructField → Bool
  | [], [] => true
  | ⟨name, type, tag, embedded⟩ :: lefts, right :: rights =>
      name == right.name && tag == right.tag && embedded == right.embedded &&
        identical type right.type && identicalFields lefts rights
  | _, _ => false

/-- Whether every method that is the last of its name in the list has an identical counterpart. -/
def identicalMethods : List Method → List Method → Bool
  | [], _ => true
  | ⟨name, signature⟩ :: rest, rights =>
      (rest.any (·.name == name) ||
          (Method.last? rights name).any fun right =>
            identicalSignatures signature right.signature) &&
        identicalMethods rest rights

end

/-- Whether two declarations have identical types, or neither has a type. -/
def identicalOptions : Option Ty → Option Ty → Bool
  | some left, some right => identical left right
  | none, none => true
  | _, _ => false

end Ty

end ShadowLint
