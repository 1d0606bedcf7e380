/-!
# Tags in a text

A console text may hold tags in square brackets.  A tag begins with a small letter, a number sign,
a slash or an at sign, and ends at the first closing bracket; no opening bracket stands in it.
Backslashes in front of a tag take its meaning away, and a text that should be shown as it is gets
such backslashes.
-/

namespace ShadowLint
namespace Markup

/-- A stretch of a text: one without tags, or a tag with the backslashes in front of it. -/
inductive Segment where
  /-- Text without tags. -/
  | plain (text : List Char)
  /-- A tag, by what stands between its brackets. -/
  | tag (slashes : Nat) (content : List Char)
deriving DecidableEq, Repr

/-- The characters that a tag may begin with. -/
def beginsTag (c : Char) : Bool :=
  ('a' ≤ c && c ≤ 'z') || c == '#' || c == '/' || c == '@'

/-- What stands between the brackets of the tag at the start of a text, if a tag stands there. -/
def tagContent? : List Char → Option (List Char)
  | '[' :: first :: rest =>
      if beginsTag first then
        let more := rest.takeWhile fun c => c != ']' && c != '['
        if (rest.drop more.length).head? = some ']' then some (first :: more) else none
      else
        none
  | _ => none

/-- A tag with its brackets. -/
def bracketed (content : List Char) : List Char :=
  '[' :: (content ++ [']'])

/-- The stretches of a text, where `before` is the plain text just in front of it, last character
first. -/
def segmentsAfter (before : List Char) : List Char → List Segment
  | [] => [.plain before.reverse]
  | c :: rest =>
      let slashes := ((c :: rest).takeWhile (· == '\\')).length
      match tagContent? ((c :: rest).drop slashes) with
      | some content =>
          .plain before.reverse :: .tag slashes content ::
            segmentsAfter [] (rest.drop (slashes + content.length + 1))
      | none => segmentsAfter (c :: before) rest
termination_by text => text.length
decreasing_by
  · rw [List.length_drop, List.length_cons]
    omega
  · exact Nat.lt_succ_self _

/-- The stretches of a text. -/
def segments (text : List Char) : List Segment :=
  segmentsAfter [] text

/-- A part of a text after its backslashes have had their effect. -/
inductive Piece where
  /-- Text that is shown. -/
  | plain (text : List Char)
  /-- A tag, by what stands between its brackets. -/
  | tag (content : List Char)
deriving DecidableEq, Repr

namespace Segment

/-- What a stretch stands for: two backslashes in front of a tag are one, and the last of an odd
number makes the tag plain text. -/
def pieces : Segment → List Piece
  | plain text => [.plain text]
  | tag slashes content =>
      [.plain (List.replicate (slashes / 2) '\\'),
        if slashes % 2 = 1 then .plain (bracketed content) else .tag content]

/-- A stretch with backslashes added so that it stands for itself. -/
def escaped : Segment → List Char
  | plain text => text
  | tag slashes content => List.replicate (2 * slashes + 1) '\\' ++ bracketed content

end Segment

/-- The pieces of a text. -/
def pieces (text : List Char) : List Piece :=
  (segments text).flatMap Segment.pieces

/-- Plain text without the backslashes in front of opening brackets. -/
def unescaped : List Char → List Char
  | '\\' :: '[' :: rest => '[' :: unescaped rest
  | c :: rest => c :: unescaped rest
  | [] => []

/-- A text whose tags are shown as they are; a single backslash at its end is doubled. -/
def escape (text : String) : String :=
  let escaped := (segments text.toList).flatMap Segment.escaped
  let ending := (escaped.reverse.takeWhile (· == '\\')).length
  String.ofList (if ending = 1 then escaped ++ ['\\'] else escaped)

end Markup
end ShadowLint
