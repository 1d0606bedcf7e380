import ShadowLint.Text.Printable

/-!
# Quoted text

Two ways to show a text inside a message.  A *literal* shows any text on one line: it stands in
single quotes, or in double quotes if only single quotes occur in it, and characters without a
visible form are written by their numbers.  A *double-quoted* name keeps all characters and only
puts a backslash before quotes and backslashes, so the name can be read back.
-/

namespace ShadowLint
namespace Text

/-- A number in hexadecimal digits, filled with zeros to a width. -/
def hexadecimal (width : Nat) (value : Nat) : String :=
  let digits := Nat.toDigits 16 value
  String.ofList (List.replicate (width - digits.length) '0' ++ digits)

/-- A character inside a literal whose quotes are `quote`. -/
def escape (quote c : Char) : String :=
  if c = quote ∨ c = '\\' then String.ofList ['\\', c]
  else if c = '\n' then "\\n"
  else if c = '\r' then "\\r"
  else if c = '\t' then "\\t"
  else if isPrintable c then String.singleton c
  else if c.toNat < 0x100 then "\\x" ++ hexadecimal 2 c.toNat
  else if c.toNat < 0x10000 then "\\u" ++ hexadecimal 4 c.toNat
  else "\\U" ++ hexadecimal 8 c.toNat

/-- The quote around the literal of a text. -/
def literalQuote (text : String) : Char :=
  if text.toList.contains '\'' && !text.toList.contains '"' then '"' else '\''

/-- The literal of a text. -/
def literal (text : String) : String :=
  let quote := literalQuote text
  String.singleton quote ++ String.join (text.toList.map (escape quote)) ++ String.singleton quote

/-- The characters of a name inside double quotes: a backslash stands before every quote and every
backslash of the name. -/
def backslashed : List Char → List Char
  | [] => []
  | c :: rest =>
      if c = '"' ∨ c = '\\' then '\\' :: c :: backslashed rest else c :: backslashed rest

/-- The closing quote is the first one without a backslash, so the name ends where it ended. -/
theorem backslashed_append_quote_inj {left right leftRest rightRest : List Char}
    (same : backslashed left ++ '"' :: leftRest = backslashed right ++ '"' :: rightRest) :
    left = right ∧ leftRest = rightRest := by
  induction left generalizing right with
  | nil =>
      cases right with
      | nil => simpa [backslashed] using same
      | cons c rest =>
          by_cases special : c = '"' ∨ c = '\\'
          · simp [backslashed, special] at same
          · simp only [backslashed, special, if_false] at same
            simp only [not_or] at special
            simp [Ne.symm special.1] at same
  | cons d left ih =>
      cases right with
      | nil =>
          by_cases special : d = '"' ∨ d = '\\'
          · simp [backslashed, special] at same
          · simp only [backslashed, special, if_false] at same
            simp only [not_or] at special
            simp [special.1] at same
      | cons c rest =>
          by_cases left_special : d = '"' ∨ d = '\\' <;>
            by_cases right_special : c = '"' ∨ c = '\\'
          · simp only [backslashed, left_special, right_special, if_true, List.cons_append,
              List.cons.injEq, true_and] at same
            obtain ⟨rfl, rest_eq⟩ := ih same.2
            simp [same.1, rest_eq]
          · simp only [backslashed, left_special, right_special, if_true, if_false,
              List.cons_append, List.cons.injEq] at same
            simp [← same.1] at right_special
          · simp only [backslashed, left_special, right_special, if_true, if_false,
              List.cons_append, List.cons.injEq] at same
            simp [same.1] at left_special
          · simp only [backslashed, left_special, right_special, if_false, List.cons_append,
              List.cons.injEq] at same
            obtain ⟨rfl, rest_eq⟩ := ih same.2
            simp [same.1, rest_eq]

/-- A name in double quotes. -/
def doubleQuoted (name : String) : String :=
  String.ofList ('"' :: (backslashed name.toList ++ ['"']))

end Text
end ShadowLint
