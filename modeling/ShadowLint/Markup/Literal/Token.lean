import ShadowLint.Text.CharacterName
import ShadowLint.Text.Digit

/-!
# Tokens of a literal

A literal is written in numbers, texts, names, brackets and signs.  A reader of one token answers
how many characters the token takes, so the next token starts at a tail of the same text.  Remarks
and joined lines leave no token.  Every line ends with a line feed.
-/

namespace ShadowLint
namespace Markup
namespace Literal

/-- A token of a literal. -/
inductive Token where
  /-- An opening parenthesis. -/
  | openParenthesis
  /-- A closing parenthesis. -/
  | closeParenthesis
  /-- An opening brace. -/
  | openBrace
  /-- A closing brace. -/
  | closeBrace
  /-- A comma. -/
  | comma
  /-- A colon. -/
  | colon
  /-- A plus or minus sign. -/
  | sign
  /-- A number, which may be imaginary. -/
  | number (imaginary : Bool)
  /-- A text or bytes. -/
  | text (bytes : Bool)
  /-- A constant that is no number. -/
  | constant
  /-- The name of the empty set's maker. -/
  | setName
  /-- The end of a line. -/
  | lineEnd
  /-- Blanks at the start of a line with a token on it. -/
  | indentation
deriving DecidableEq, Repr

/-- The characters between tokens. -/
def isSpace (c : Char) : Bool :=
  c == ' ' || c == '\t' || c == '\x0c'

/-- Whether a character continues a name or a number. -/
def isNameCharacter (c : Char) : Bool :=
  c.isAlphanum || c == '_' || 0x80 ≤ c.toNat

/-! ## Numbers -/

/-- The digits at the start of a text, with single underscores between them. -/
def digitRun (isDigit : Char → Bool) : List Char → List Char
  | [] => []
  | '_' :: c :: rest => if isDigit c then '_' :: c :: digitRun isDigit rest else []
  | c :: rest => if isDigit c then c :: digitRun isDigit rest else []

/-- The decimal digits at the start of a text; the first character is a digit. -/
def decimalRun (text : List Char) : List Char :=
  match text with
  | c :: _ => if c.isDigit then digitRun Char.isDigit text else []
  | [] => []

/-- The length of a fraction at the start of a text. -/
def fractionLength (text : List Char) : Nat :=
  match text with
  | '.' :: rest => 1 + (decimalRun rest).length
  | _ => 0

/-- The length of an exponent at the start of a text. -/
def exponentLength (text : List Char) : Nat :=
  match text with
  | letter :: rest =>
      if letter == 'e' || letter == 'E' then
        let signLength := if rest.head? == some '+' || rest.head? == some '-' then 1 else 0
        let digits := decimalRun (rest.drop signLength)
        if digits.isEmpty then 0 else 1 + signLength + digits.length
      else
        0
  | [] => 0

/-- The digits of the base that a letter behind a zero stands for. -/
def baseDigit? (letter : Char) : Option (Char → Bool) :=
  if letter == 'x' || letter == 'X' then some Text.isHexDigit
  else if letter == 'o' || letter == 'O' then some fun c => '0' ≤ c && c ≤ '7'
  else if letter == 'b' || letter == 'B' then some fun c => c == '0' || c == '1'
  else none

/-- The length of a number in another base at the start of a text. -/
def basedLength? (text : List Char) : Option Nat :=
  match text with
  | '0' :: letter :: rest => do
      let isDigit ← baseDigit? letter
      let digits := digitRun isDigit rest
      if digits.isEmpty then none else some (2 + digits.length)
  | _ => none

/-- Whether some digits write a whole number.  It begins with no zero unless it is zero, and other
numbers are not too long. -/
def isWholeNumber (run : List Char) : Bool :=
  let digits := run.filter Char.isDigit
  digits.all (· == '0') || (digits.head? != some '0' && digits.length ≤ Text.digitLimit)

/-- The length of a decimal number at the start of a text, and whether it is imaginary. -/
def decimalLength? (text : List Char) : Option (Nat × Bool) :=
  let whole := decimalRun text
  let afterWhole := text.drop whole.length
  let fraction := fractionLength afterWhole
  let exponent := exponentLength (afterWhole.drop fraction)
  let length := whole.length + fraction + exponent
  let imaginary := (text[length]?).any fun c => c == 'j' || c == 'J'
  let isWhole := fraction == 0 && exponent == 0 && !imaginary
  if whole.isEmpty && fraction ≤ 1 then none
  else if isWhole && !isWholeNumber whole then none
  else some (if imaginary then length + 1 else length, imaginary)

/-- The number at the start of a text with its length.  No letter stands right behind it. -/
def number? (text : List Char) : Option (Token × Nat) := do
  let (length, imaginary) ←
    match text with
    | '0' :: letter :: _ =>
        if (baseDigit? letter).isSome then (basedLength? text).map fun length => (length, false)
        else decimalLength? text
    | _ => decimalLength? text
  if (text[length]?).any isNameCharacter then none else some (.number imaginary, length)

/-! ## Texts -/

/-- How a text is written. -/
structure Quotation where
  /-- Backslashes have no effect but on quotes. -/
  isRaw : Bool
  /-- The text is one of bytes. -/
  isBytes : Bool
  /-- The quotes at its end. -/
  quotes : List Char
deriving DecidableEq, Repr

/-- The letters that may stand in front of quotes, and whether they make raw texts and bytes. -/
def quotationLetters : List (String × Bool × Bool) :=
  [("", false, false), ("u", false, false), ("r", true, false), ("b", false, true),
    ("br", true, true), ("rb", true, true)]

/-- The beginning of a text: how it is written, and the characters in front of its content. -/
def quotation? (text : List Char) : Option (Quotation × Nat) := do
  let letters := text.takeWhile Char.isAlpha
  let (isRaw, isBytes) ← quotationLetters.lookup (String.ofList (letters.map Char.toLower))
  let quote ← text[letters.length]?
  if quote != '"' && quote != '\'' then none
  else
    let triple := List.replicate 3 quote
    let quotes := if triple.isPrefixOf (text.drop letters.length) then triple else [quote]
    some (⟨isRaw, isBytes, quotes⟩, letters.length + quotes.length)

/-- Whether some hexadecimal digits stand at the start of a text. -/
def startsHexadecimal (count : Nat) (text : List Char) : Bool :=
  (text.take count).length == count && (text.take count).all Text.isHexDigit

/-- The greatest code point. -/
def greatestCode : Nat := 0x10ffff

/-- Whether the name of a character in braces stands at the start of a text. -/
def startsWithCharacterName (text : List Char) : Bool :=
  match text with
  | '\x7b' :: rest =>
      rest.contains '\x7d' && Text.isCharacterName (rest.takeWhile (· != '\x7d'))
  | _ => false

/-- Whether what stands behind a backslash and a letter completes the character they write. -/
def completesEscape (quotation : Quotation) (letter : Char) (rest : List Char) : Bool :=
  if quotation.isRaw then true
  else if letter == 'x' then startsHexadecimal 2 rest
  else if quotation.isBytes then true
  else if letter == 'u' then startsHexadecimal 4 rest
  else if letter == 'U' then
    startsHexadecimal 8 rest && Text.ofHexadecimal (rest.take 8) ≤ greatestCode
  else if letter == 'N' then startsWithCharacterName rest
  else true

/-- Whether a character may stand in a text. -/
def isAllowed (quotation : Quotation) (c : Char) : Bool :=
  (!quotation.isBytes || c.toNat < 0x80) && (quotation.quotes.length == 3 || c != '\n')

/-- The number of characters up to and with the quotes that end a text. -/
def contentLength? (quotation : Quotation) : List Char → Option Nat
  | [] => none
  | c :: rest =>
      if quotation.quotes.isPrefixOf (c :: rest) then some quotation.quotes.length
      else if c = '\\' then
        match rest with
        | [] => none
        | letter :: rest =>
            if completesEscape quotation letter rest && (!quotation.isBytes || letter.toNat < 0x80)
            then (contentLength? quotation rest).map (· + 2)
            else none
      else if isAllowed quotation c then (contentLength? quotation rest).map (· + 1)
      else none

/-- The text at the start of a text with its length. -/
def text? (text : List Char) : Option (Token × Nat) := do
  let (quotation, start) ← quotation? text
  let length ← contentLength? quotation (text.drop start)
  some (.text quotation.isBytes, start + length)

/-! ## Other tokens -/

/-- The tokens of one character. -/
def punctuation : List (Char × Token) :=
  [('(', .openParenthesis), (')', .closeParenthesis), ('\x7b', .openBrace), ('\x7d', .closeBrace),
    (',', .comma), (':', .colon), ('+', .sign), ('-', .sign)]

/-- The names of constants that are no numbers. -/
def constantNames : List String :=
  ["True", "False", "None"]

/-- The letters of the name of the empty set's maker, each with its other forms. -/
def setLetterForms : List (Char × List Char) :=
  [('s', "sſˢₛｓ𝐬𝑠𝒔𝓈𝓼𝔰𝕤𝖘𝗌𝘀𝘴𝙨𝚜".toList), ('e', "eᵉₑℯⅇｅ𝐞𝑒𝒆𝓮𝔢𝕖𝖊𝖾𝗲𝘦𝙚𝚎".toList),
    ('t', "tᵗₜｔ𝐭𝑡𝒕𝓉𝓽𝔱𝕥𝖙𝗍𝘁𝘵𝙩𝚝".toList)]

/-- Whether a name is that of the empty set's maker, each letter in one of its forms. -/
def isSetName (name : List Char) : Bool :=
  name.length == setLetterForms.length &&
    (name.zip setLetterForms).all fun (c, _, forms) => forms.contains c

/-- The token that a name stands for. -/
def nameToken? (name : List Char) : Option Token :=
  if constantNames.contains (String.ofList name) then some .constant
  else if isSetName name then some .setName
  else none

/-- The name at the start of a text with its length, if it stands for a literal. -/
def name? (text : List Char) : Option (Token × Nat) := do
  let name := text.takeWhile isNameCharacter
  let token ← nameToken? name
  some (token, name.length)

/-! ## Lines -/

/-- The blanks in front of the first token of a line. -/
structure Margin where
  /-- The characters taken. -/
  length : Nat
  /-- A blank counts. -/
  isIndented : Bool
deriving DecidableEq, Repr

/-- A margin with some more characters in front. -/
def Margin.after (taken : Nat) (margin : Margin) : Margin :=
  { margin with length := taken + margin.length }

/-- The margin at the start of a text, behind blanks that count if `indented`.  A form feed makes
the blanks in front of it void, but not if they stand in front of a joined line, which `joined`
tells. -/
def marginAfter (indented joined : Bool) : List Char → Margin
  | '\\' :: '\n' :: c :: rest => (marginAfter indented (joined || indented) (c :: rest)).after 2
  | c :: rest =>
      if c = ' ' ∨ c = '\t' then (marginAfter true joined rest).after 1
      else if c = '\x0c' then (marginAfter false joined rest).after 1
      else ⟨0, indented || joined⟩
  | [] => ⟨0, false⟩

/-- The tokens at the start of a line with the characters taken.  Blanks count on a line that holds
a token. -/
def lineStart (text : List Char) : List Token × Nat :=
  let margin := marginAfter false false text
  let isBare := (text[margin.length]?).all fun c => c == '\n' || c == '#'
  (if margin.isIndented && !isBare then [.indentation] else [], margin.length)

/-- The tokens at a line end with the characters taken. -/
def lineEnd (next : List Char) : List Token × Nat :=
  let (found, taken) := lineStart next
  (.lineEnd :: found, 1 + taken)

/-! ## All tokens -/

/-- A token with its length as a list of tokens. -/
def single : Token × Nat → List Token × Nat
  | (token, length) => ([token], length)

/-- The tokens at the start of a text that begins with a character, and the characters taken.  A
number sign begins a remark, and a backslash joins a line with the next one. -/
def tokensAt? (c : Char) (rest : List Char) : Option (List Token × Nat) :=
  if isSpace c then some ([], 1)
  else if c = '\n' then some (lineEnd rest)
  else if c = '#' then some ([], 1 + (rest.takeWhile (· != '\n')).length)
  else if c = '\\' then
    if rest.head? == some '\n' && 1 < rest.length then some ([], 2) else none
  else
    match punctuation.lookup c with
    | some token => some ([token], 1)
    | none =>
        if ['.', '.', '.'].isPrefixOf (c :: rest) then some ([.constant], 3)
        else (((text? (c :: rest)).or (number? (c :: rest))).or (name? (c :: rest))).map single

/-- The tokens of a text behind the start of a line, none if something else stands in it. -/
def tokensFrom? : List Char → Option (List Token)
  | [] => some []
  | c :: rest =>
      match tokensAt? c rest with
      | none => none
      | some (found, taken) => (tokensFrom? (rest.drop (taken - 1))).map (found ++ ·)
termination_by text => text.length
decreasing_by
  rw [List.length_drop, List.length_cons]
  omega

/-- The tokens of a text, none if something else stands in it. -/
def tokens? (text : List Char) : Option (List Token) :=
  let (found, taken) := lineStart text
  (tokensFrom? (text.drop taken)).map (found ++ ·)

end Literal
end Markup
end ShadowLint
