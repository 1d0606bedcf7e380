import ShadowLint.Decimal
import ShadowLint.Json.Value
import ShadowLint.Text.Digit

/-!
# Tokens of a JSON text

A reader of one token answers how many characters the token takes, so the next token starts at a
tail of the same text and reading ends with the text, or with a whole number of too many digits.  A
text that holds anything but tokens and blanks up to there has no tokens at all.
-/

namespace ShadowLint
namespace Json

/-- A bracket, a separator or a value without parts. -/
inductive Token where
  /-- Start of a list. -/
  | openArray
  /-- End of a list. -/
  | closeArray
  /-- Start of an object. -/
  | openObject
  /-- End of an object. -/
  | closeObject
  /-- Between a name and its value. -/
  | colon
  /-- Between items or members. -/
  | comma
  /-- A value without parts. -/
  | scalar (value : Json)
  /-- A whole number of too many digits. -/
  | overlongNumber (digits : Nat)

/-- The characters that may stand between tokens. -/
def isBlank (c : Char) : Bool :=
  c == ' ' || c == '\t' || c == '\n' || c == '\r'

/-- The number that four hexadecimal digits write. -/
def hexUnit? (a b c d : Char) : Option Nat := do
  let a ← Text.hexDigit? a
  let b ← Text.hexDigit? b
  let c ← Text.hexDigit? c
  let d ← Text.hexDigit? d
  pure (((a * 16 + b) * 16 + c) * 16 + d)

/-- The character that stands for a code unit which is half of a pair without its other half. -/
def loneHalf : Char := Char.ofNat 0xFFFD

/-- The character a code unit writes on its own. -/
def ofUnit (unit : Nat) : Char :=
  if 0xD800 ≤ unit ∧ unit < 0xE000 then loneHalf else Char.ofNat unit

/-- The character that two code units write together, if they are the two halves of a pair. -/
def ofPair? (high low : Nat) : Option Char :=
  if 0xD800 ≤ high ∧ high < 0xDC00 ∧ 0xDC00 ≤ low ∧ low < 0xE000 then
    some (Char.ofNat (0x10000 + (high - 0xD800) * 0x400 + (low - 0xDC00)))
  else
    none

/-- The character written by a backslash and one letter. -/
def ofEscape? : Char → Option Char
  | '"' => some '"'
  | '\\' => some '\\'
  | '/' => some '/'
  | 'b' => some '\x08'
  | 'f' => some '\x0c'
  | 'n' => some '\n'
  | 'r' => some '\r'
  | 't' => some '\t'
  | _ => none

/-- Reads a string after its opening quote: its text, and the characters taken up to and with the
closing quote.  Control characters must be escaped. -/
def readString? (text : String) (taken : Nat) : List Char → Option (String × Nat)
  | [] => none
  | '"' :: _ => some (text, taken + 1)
  | '\\' :: 'u' :: a :: b :: c :: d :: '\\' :: 'u' :: e :: f :: g :: h :: rest => do
      let first ← hexUnit? a b c d
      match hexUnit? e f g h >>= ofPair? first with
      | some character => readString? (text.push character) (taken + 12) rest
      | none =>
          readString? (text.push (ofUnit first)) (taken + 6)
            ('\\' :: 'u' :: e :: f :: g :: h :: rest)
  | '\\' :: 'u' :: a :: b :: c :: d :: rest => do
      let unit ← hexUnit? a b c d
      readString? (text.push (ofUnit unit)) (taken + 6) rest
  | '\\' :: letter :: rest => do
      let character ← ofEscape? letter
      readString? (text.push character) (taken + 2) rest
  | c :: rest =>
      if c < ' ' || c == '\\' then none else readString? (text.push c) (taken + 1) rest

/-- The decimal digits at the start of a text. -/
def digits (text : List Char) : List Char :=
  text.takeWhile Char.isDigit

/-- The number that decimal digits write. -/
def ofDigits (digits : List Char) : Nat :=
  digits.foldl (fun value c => 10 * value + (c.toNat - '0'.toNat)) 0

/-- The whole part at the start of a text: one zero, or digits that do not start with zero. -/
def wholePart (text : List Char) : List Char :=
  match text with
  | '0' :: _ => ['0']
  | _ => digits text

/-- The digits of a fraction at the start of a text, none if no fraction stands there. -/
def fractionPart (text : List Char) : List Char :=
  match text with
  | '.' :: rest => digits rest
  | _ => []

/-- The exponent at the start of a text with the characters it takes, if one stands there. -/
def exponentPart? (text : List Char) : Option (Int × Nat) :=
  match text with
  | 'e' :: rest | 'E' :: rest =>
      match rest with
      | '-' :: rest =>
          if (digits rest).isEmpty then none
          else some (-(ofDigits (digits rest) : Int), (digits rest).length + 2)
      | '+' :: rest =>
          if (digits rest).isEmpty then none
          else some (ofDigits (digits rest), (digits rest).length + 2)
      | rest =>
          if (digits rest).isEmpty then none
          else some (ofDigits (digits rest), (digits rest).length + 1)
  | _ => none

/-- Reads a number after its sign: its token and the characters taken. -/
def readNumber? (negative : Bool) (text : List Char) : Option (Token × Nat) :=
  let whole := wholePart text
  let fraction := fractionPart (text.drop whole.length)
  let fractionLength := if fraction.isEmpty then 0 else fraction.length + 1
  let exponent := exponentPart? (text.drop (whole.length + fractionLength))
  if whole.isEmpty then
    none
  else
    match fraction, exponent with
    | [], none =>
        let value : Int := ofDigits whole
        let token : Token :=
          if Text.digitLimit < whole.length then .overlongNumber whole.length
          else .scalar (.int (if negative then -value else value))
        some (token, whole.length)
    | _, _ =>
        let (power, exponentLength) := exponent.getD (0, 0)
        let value :=
          Decimal.nearestSigned negative (ofDigits (whole ++ fraction)) (power - fraction.length)
        some (.scalar (.float value), whole.length + fractionLength + exponentLength)

/-- The names of the values that are written as words. -/
def words : List (String × Json) :=
  [("null", .null), ("true", .bool true), ("false", .bool false),
    ("NaN", .float Decimal.notANumber), ("Infinity", .float Decimal.infinity),
    ("-Infinity", .float (-Decimal.infinity))]

/-- Reads one of the words: its value and the characters taken. -/
def readWord? (text : List Char) : Option (Json × Nat) :=
  words.findSome? fun (word, value) =>
    if word.toList.isPrefixOf text then some (value, word.length) else none

/-- Reads a value without parts: its token and the characters taken. -/
def readScalar? (text : List Char) : Option (Token × Nat) :=
  match readWord? text with
  | some (value, taken) => some (.scalar value, taken)
  | none =>
      match text with
      | '"' :: rest =>
          (readString? "" 1 rest).map fun (value, taken) => (.scalar (.string value), taken)
      | '-' :: rest => (readNumber? true rest).map fun (token, taken) => (token, taken + 1)
      | _ => readNumber? false text

/-- Reads the token at the start of a text: the token and the characters taken after the first. -/
def readToken? (first : Char) (rest : List Char) : Option (Token × Nat) :=
  match first with
  | '[' => some (.openArray, 0)
  | ']' => some (.closeArray, 0)
  | '\x7b' => some (.openObject, 0)
  | '\x7d' => some (.closeObject, 0)
  | ':' => some (.colon, 0)
  | ',' => some (.comma, 0)
  | _ => (readScalar? (first :: rest)).map fun (token, taken) => (token, taken - 1)

/-- The tokens of a text, after those already read. -/
def tokensFrom? (before : Array Token) : List Char → Option (List Token)
  | [] => some before.toList
  | c :: rest =>
      if isBlank c then
        tokensFrom? before rest
      else
        match readToken? c rest with
        | none => none
        | some (.overlongNumber digits, _) => some (before.push (.overlongNumber digits)).toList
        | some (token, taken) => tokensFrom? (before.push token) (rest.drop taken)
termination_by text => text.length
decreasing_by
  · exact Nat.lt_succ_self _
  · rw [List.length_drop, List.length_cons]
    omega

/-- The tokens of a text up to an overlong number; none if it holds anything else. -/
def tokens? (text : String) : Option (List Token) :=
  tokensFrom? #[] text.toList

end Json
end ShadowLint
