/-!
# JSON values

A document as its text spells it: whole numbers and numbers with a fraction or an exponent are
different values, and the members of an object keep the order in which they stand.
-/

namespace ShadowLint

/-- A JSON value. -/
inductive Json where
  /-- The value without content. -/
  | null
  /-- A truth value. -/
  | bool (value : Bool)
  /-- A number without fraction and exponent, of any size. -/
  | int (value : Int)
  /-- A number with a fraction or an exponent, or one of the three special values. -/
  | float (value : Float)
  /-- A text. -/
  | string (value : String)
  /-- A list of values. -/
  | array (items : List Json)
  /-- Named values in document order; no name stands twice. -/
  | object (members : List (String × Json))
deriving Inhabited

namespace Json

/-- Whether a value counts as "yes" where a document may put any value as a flag: the values
without content and the zeros do not. -/
def isTruthy : Json → Bool
  | .null => false
  | .bool value => value
  | .int value => value != 0
  | .float value => value != 0
  | .string value => value != ""
  | .array items => !items.isEmpty
  | .object members => !members.isEmpty

/-- The flag stored under a name; a name that is missing is "no". -/
def flag (members : List (String × Json)) (name : String) : Bool :=
  (members.lookup name).any isTruthy

/-- The value under a name, where `null` counts as missing. -/
def present? (members : List (String × Json)) (name : String) : Option Json :=
  match members.lookup name with
  | some .null => none
  | found => found

end Json

end ShadowLint
