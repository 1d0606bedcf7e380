/-!
# Classes of characters

A property of characters is given by the code points that have it, as ascending ranges with both
ends included.  Blank characters separate the words of a text; some control characters, which would
move the cursor of a printer, are never shown.
-/

namespace ShadowLint
namespace Text

/-- Code points from a first one to a last one. -/
abbrev CodeRange := Nat × Nat

/-- Whether a character lies in one of some ranges. -/
def isWithin (ranges : List CodeRange) (c : Char) : Bool :=
  ranges.any fun (first, last) => first ≤ c.toNat && c.toNat ≤ last

/-- The blank code points: the white space of the Unicode character database (version 14) and the
four separators of records among the control characters. -/
def blankRanges : List CodeRange := [
    (0x9, 0xd), (0x1c, 0x20), (0x85, 0x85), (0xa0, 0xa0), (0x1680, 0x1680), (0x2000, 0x200a),
    (0x2028, 0x2029), (0x202f, 0x202f), (0x205f, 0x205f), (0x3000, 0x3000)]

/-- Whether a character is blank. -/
def isBlank (c : Char) : Bool :=
  isWithin blankRanges c

/-- A text without the blanks around it. -/
def trimmed (text : List Char) : List Char :=
  ((text.dropWhile isBlank).reverse.dropWhile isBlank).reverse

/-- The words of a text, where `word` has been read already, last character first. -/
def wordsAfter (word : List Char) : List Char → List (List Char)
  | [] => if word.isEmpty then [] else [word.reverse]
  | c :: rest =>
      if isBlank c then
        if word.isEmpty then wordsAfter [] rest else word.reverse :: wordsAfter [] rest
      else
        wordsAfter (c :: word) rest

/-- The words of a text: what stands between its blanks. -/
def words (text : List Char) : List (List Char) :=
  wordsAfter [] text

/-- The characters that are never shown: bell, backspace, vertical tab, form feed and carriage
return. -/
def isDropped (c : Char) : Bool :=
  [7, 8, 11, 12, 13].contains c.toNat

/-- A text without the characters that are never shown. -/
def withoutControls (text : List Char) : List Char :=
  text.filter fun c => !isDropped c

end Text
end ShadowLint
