import ShadowLint.Markup.Literal.Reading
import ShadowLint.Markup.StyleDefinition
import ShadowLint.Markup.Tag
import ShadowLint.Text.Character
import ShadowLint.Text.Emoji
import ShadowLint.Text.WordCharacter

/-!
# The text that is shown of a marked-up one

Tags are never shown.  A tag opens a style under the normal form of its name, a closing tag closes
the last style that was opened under its name, and one without a name closes the last style of all.
A tag that begins with an at sign may name a handler and give it arguments, which are a literal.
Between tags, names of pictures become pictures and control characters are dropped.

Marked-up text is a matter of the display alone: the findings do not depend on it, and nothing is
stated about it.
-/

namespace ShadowLint
namespace Markup

/-- Why a marked-up text cannot be shown. -/
inductive Fault where
  /-- A closing tag closes nothing. -/
  | unmatchedClosingTag
  /-- The parameters of a handler cannot be read. -/
  | unreadableHandler
  /-- A colour lacks one of its three components. -/
  | missingComponent
deriving DecidableEq, Repr

/-- The wording of a fault. -/
def Fault.message : Fault → String
  | unmatchedClosingTag => "a closing tag closes nothing"
  | unreadableHandler => "the parameters of a handler cannot be read"
  | missingComponent => "invalid literal for int() with base 10: ''"

/-- The name by which styles are opened and closed: a definition in its normal form, another text in
small letters. -/
def styleName (text : List Char) : Except Fault String :=
  match StyleDefinition.read text with
  | .ok definition => .ok definition.text
  | .error .unknownWord => .ok (String.ofList (Text.lowercase (Text.trimmed text)))
  | .error .missingComponent => .error .missingComponent

/-- Whether the parameters of a handler can be read: a name, with or without arguments in
parentheses on one line, or a literal without a name. -/
def Handler.isReadable (parameters : List Char) : Bool :=
  let text := Text.trimmed parameters
  let arguments := text.dropWhile fun c => Text.isWordCharacter c || c == '.'
  if arguments.isEmpty then true
  else if arguments.head? == some '(' && arguments.getLast? == some ')' &&
      !arguments.contains '\n' then
    Literal.isLiteral arguments
  else
    Literal.isLiteral text

/-- A style that has been opened. -/
structure OpenStyle where
  /-- The number of characters shown in front of it. -/
  start : Nat
  /-- Its name. -/
  name : String
  /-- What stands behind the equals sign of its tag. -/
  parameters : Option (List Char)
deriving DecidableEq, Repr

namespace OpenStyle

/-- The style calls a handler. -/
def isHandler (style : OpenStyle) : Bool :=
  style.name.toList.head? == some '@'

/-- The words that define the style: its name and its parameters. -/
def definition (style : OpenStyle) : List Char :=
  style.name.toList ++ (style.parameters.map fun parameters => ' ' :: parameters).getD []

/-- The parameters of a handler can be read. -/
def isReadable (style : OpenStyle) : Bool :=
  match style.parameters with
  | some (c :: rest) => Handler.isReadable (c :: rest)
  | _ => true

end OpenStyle

/-- A stretch of shown text with the words that define its style. -/
structure Stretch where
  /-- Its first character. -/
  start : Nat
  /-- The character behind it. -/
  stop : Nat
  /-- The words. -/
  definition : List Char
deriving DecidableEq, Repr

/-- A marked-up text as far as it has been shown. -/
structure Rendering where
  /-- What is shown. -/
  shown : List Char
  /-- The styles that are open, last one first. -/
  opened : List OpenStyle
  /-- The stretches whose styles have been closed. -/
  stretches : List Stretch

namespace Rendering

/-- Nothing is shown. -/
def empty : Rendering := ⟨[], [], []⟩

/-- Shows some text. -/
def addText (rendering : Rendering) (text : List Char) : Rendering :=
  { rendering with
    shown := rendering.shown ++ Text.withoutControls (Text.withPictures (unescaped text)) }

/-- The stretch from the start of a style to the end of what is shown. -/
def stretchOf (rendering : Rendering) (style : OpenStyle) : Stretch :=
  ⟨style.start, rendering.shown.length, style.definition⟩

/-- Closes a style.  The style of a handler leaves no stretch. -/
def close (rendering : Rendering) (style : OpenStyle) (opened : List OpenStyle) :
    Except Fault Rendering :=
  if style.isHandler then
    if style.isReadable then .ok { rendering with opened := opened }
    else .error .unreadableHandler
  else
    .ok { rendering with
      opened := opened
      stretches := rendering.stretchOf style :: rendering.stretches }

/-- Closes the last style that was opened under a name, or the last one if there is no name. -/
def closeNamed (rendering : Rendering) (name : List Char) : Except Fault Rendering := do
  let matching ←
    if name.isEmpty then
      pure fun _ => true
    else
      let name ← styleName name
      pure fun (style : OpenStyle) => style.name == name
  match rendering.opened.find? matching with
  | some style => rendering.close style (rendering.opened.eraseP matching)
  | none => throw .unmatchedClosingTag

/-- Follows a tag. -/
def addTag (rendering : Rendering) (content : List Char) : Except Fault Rendering :=
  let name := content.takeWhile (· != '=')
  let parameters := (content.drop name.length).tail?
  match name with
  | '/' :: name => rendering.closeNamed (Text.trimmed name)
  | name => do
      let style : OpenStyle := ⟨rendering.shown.length, ← styleName name, parameters⟩
      pure { rendering with opened := style :: rendering.opened }

/-- Shows or follows one more piece. -/
def add (rendering : Rendering) : Piece → Except Fault Rendering
  | .plain text => .ok (rendering.addText text)
  | .tag content => rendering.addTag content

/-- All stretches, where the styles that are still open end with the text. -/
def allStretches (rendering : Rendering) : List Stretch :=
  rendering.opened.map rendering.stretchOf ++ rendering.stretches

/-- Whether a stretch is drawn.  A text on several lines draws the stretches with a character on a
line, one with tabs those with a character, and another text draws all. -/
def isDrawn (rendering : Rendering) (stretch : Stretch) : Bool :=
  let inside := (rendering.shown.take stretch.stop).drop stretch.start
  if rendering.shown.contains '\n' then inside.any (· != '\n')
  else !rendering.shown.contains '\t' || !inside.isEmpty

/-- A stretch with a style that lacks a component of a colour. -/
def isFaulty (stretch : Stretch) : Bool :=
  match StyleDefinition.read stretch.definition with
  | .error .missingComponent => true
  | _ => false

/-- What is shown, if every stretch that is drawn can be. -/
def result (rendering : Rendering) : Except Fault (List Char) :=
  if rendering.allStretches.any fun stretch => rendering.isDrawn stretch && isFaulty stretch then
    .error .missingComponent
  else
    .ok rendering.shown

end Rendering

/-- The text that is shown of a marked-up text. -/
def render (text : String) : Except Fault String := do
  let rendering ← (pieces text.toList).foldlM Rendering.add .empty
  return String.ofList (← rendering.result)

end Markup
end ShadowLint
