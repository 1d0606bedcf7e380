import ShadowLint.Diagnostic
import ShadowLint.Text.Character

/-!
# Styled text

A console text is a sequence of pieces, each in a style or in none.  Control characters that move
the cursor of a printer are never shown.
-/

namespace ShadowLint

/-- How a piece of text is shown. -/
inductive Style where
  | cyan | yellow | red | dim
deriving DecidableEq, Repr

/-- The name of a style. -/
def Style.name : Style → String
  | cyan => "cyan"
  | yellow => "yellow"
  | red => "red"
  | dim => "dim"

/-- A text in one style. -/
structure StyledPiece where
  /-- The text. -/
  text : String
  /-- Its style, if it has one. -/
  style : Option Style
deriving DecidableEq, Repr

/-- A stretch of a text in one style. -/
structure StyleSpan where
  /-- The first character of the stretch. -/
  start : Nat
  /-- The character behind the stretch. -/
  stop : Nat
  /-- The style. -/
  style : Style
deriving DecidableEq, Repr

/-- Pieces of text that follow each other. -/
abbrev StyledText := List StyledPiece

namespace StyledText

/-- A text without the characters that are never shown. -/
def shown (text : String) : String :=
  String.ofList (Text.withoutControls text.toList)

/-- The text without styles. -/
def plain (text : StyledText) : String :=
  String.join (text.map fun piece => shown piece.text)

/-- The styled stretches of pieces that begin at a character.  A piece without text has none. -/
def spansFrom (start : Nat) : StyledText → List StyleSpan
  | [] => []
  | ⟨text, style?⟩ :: rest =>
      let stop := start + (shown text).length
      let spans :=
        match style? with
        | some style => if text.isEmpty then [] else [⟨start, stop, style⟩]
        | none => []
      spans ++ spansFrom stop rest

/-- The styled stretches of a text. -/
def spans (text : StyledText) : List StyleSpan := spansFrom 0 text

end StyledText

namespace Diagnostic

/-- The style of a message. -/
def messageStyle : Category → Style
  | .shadow => .yellow
  | .invalidTree => .red

/-- A related place on a line of its own. -/
def relatedText (space : PositionSpace) (related : Related) : StyledText :=
  [⟨"\n    ", none⟩, ⟨(space.location related.start).text, some .cyan⟩,
    ⟨": " ++ related.message, some .dim⟩]

/-- A diagnostic with its location, and its related places on lines of their own. -/
def styledText (space : PositionSpace) (diagnostic : Diagnostic) : StyledText :=
  [⟨(space.location diagnostic.start).text, some .cyan⟩, ⟨": ", none⟩,
    ⟨diagnostic.message, some (messageStyle diagnostic.category)⟩] ++
    diagnostic.related.flatMap (relatedText space)

end Diagnostic

end ShadowLint
