import ShadowLint.Json.Value
import ShadowLint.Text.Quoted
import ShadowLint.Decimal

/-!
# Values inside messages

A message that names an offending value shows it as a literal on one line.
-/

namespace ShadowLint
namespace Json

/-- The literal of a truth value. -/
def boolLiteral (value : Bool) : String :=
  if value then "True" else "False"

/-- The literal of the value without content. -/
def nullLiteral : String := "None"

/-- Decimal digits with a point after the first `place` of them. -/
def positional (digits : List Char) (place : Int) : String :=
  if place ≤ 0 then
    "0." ++ String.ofList (List.replicate (-place).toNat '0' ++ digits)
  else if digits.length ≤ place then
    String.ofList (digits ++ List.replicate (place.toNat - digits.length) '0') ++ ".0"
  else
    String.ofList (digits.take place.toNat) ++ "." ++ String.ofList (digits.drop place.toNat)

/-- Decimal digits with a point after the first of them and an exponent of at least two digits. -/
def exponential (digits : List Char) (exponent : Int) : String :=
  let fraction := if digits.length ≤ 1 then [] else '.' :: digits.drop 1
  let power := Nat.toDigits 10 exponent.natAbs
  String.ofList (digits.take 1 ++ fraction) ++ (if exponent < 0 then "e-" else "e+") ++
    String.ofList (List.replicate (2 - power.length) '0' ++ power)

/-- A positive decimal: positional from `0.0001` up to below `10 ^ 16`, and with an exponent
outside. -/
def decimalLiteral (decimal : Decimal.Scaled) : String :=
  let digits := Nat.toDigits 10 decimal.digits
  let place := digits.length + decimal.exponent
  if -4 < place ∧ place ≤ 16 then positional digits place else exponential digits (place - 1)

/-- A floating-point number by its shortest decimal. -/
def floatLiteral (value : Float) : String :=
  let bits := value.toBits.toNat
  let sign := if bits / Decimal.powerOfTwo 63 = 1 then "-" else ""
  let magnitude := bits % Decimal.powerOfTwo 63
  if value.isNaN then "nan"
  else if value.isInf then sign ++ "inf"
  else if magnitude = 0 then sign ++ "0.0"
  else sign ++ decimalLiteral (Decimal.Binary.ofBits magnitude).shortest.trimmed

mutual

/-- The literal of a value. -/
def literal : Json → String
  | .null => nullLiteral
  | .bool value => boolLiteral value
  | .int value => toString value
  | .float value => floatLiteral value
  | .string value => Text.literal value
  | .array items => "[" ++ ", ".intercalate (itemLiterals items) ++ "]"
  | .object members => "\x7b" ++ ", ".intercalate (memberLiterals members) ++ "\x7d"

/-- The literals of the items of a list. -/
def itemLiterals : List Json → List String
  | [] => []
  | item :: rest => literal item :: itemLiterals rest

/-- The literals of the members of an object. -/
def memberLiterals : List (String × Json) → List String
  | [] => []
  | (name, value) :: rest => (Text.literal name ++ ": " ++ literal value) :: memberLiterals rest

end

/-- The name that messages give to the kind of a value. -/
def kindName : Json → String
  | .null => "NoneType"
  | .bool _ => "bool"
  | .int _ => "int"
  | .float _ => "float"
  | .string _ => "str"
  | .array _ => "list"
  | .object _ => "dict"

end Json
end ShadowLint
