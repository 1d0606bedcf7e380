import ShadowLint.Markup.Color

/-!
# Definitions of styles

A style is defined by words: features, which a `not` switches off, a colour, a colour behind `on`
for the background, and an address behind `link`.  A later word overrides an earlier one, and two
definitions of the same style have the same normal form.
-/

namespace ShadowLint
namespace Markup

/-- A feature of a style. -/
inductive Feature where
  | bold | dim | italic | underline | blink | fastBlink | reverse | conceal | strike
  | doubleUnderline | frame | encircle | overline
deriving DecidableEq, Repr

namespace Feature

/-- The features, in the order of normal forms. -/
def all : List Feature :=
  [bold, dim, italic, underline, blink, fastBlink, reverse, conceal, strike, doubleUnderline, frame,
    encircle, overline]

/-- The name of a feature. -/
def name : Feature → String
  | bold => "bold"
  | dim => "dim"
  | italic => "italic"
  | underline => "underline"
  | blink => "blink"
  | fastBlink => "blink2"
  | reverse => "reverse"
  | conceal => "conceal"
  | strike => "strike"
  | doubleUnderline => "underline2"
  | frame => "frame"
  | encircle => "encircle"
  | overline => "overline"

/-- The short names of some features. -/
def shortNames : List (String × Feature) :=
  [("d", dim), ("b", bold), ("i", italic), ("u", underline), ("r", reverse), ("c", conceal),
    ("s", strike), ("uu", doubleUnderline), ("o", overline)]

/-- The feature with a name or a short name. -/
def ofName? (text : String) : Option Feature :=
  (all.find? (·.name == text)).or (shortNames.lookup text)

end Feature

/-- The definition of a style. -/
structure StyleDefinition where
  /-- The features that are switched on or off, last one first. -/
  features : List (Feature × Bool)
  /-- The colour of the text. -/
  color : Option String
  /-- The colour behind the text. -/
  background : Option String
  /-- The address that the text leads to. -/
  link : Option String
deriving DecidableEq, Repr

namespace StyleDefinition

/-- The definition without words. -/
def empty : StyleDefinition := ⟨[], none, none, none⟩

/-- Switches a feature on or off. -/
def setFeature (definition : StyleDefinition) (feature : Feature) (value : Bool) :
    StyleDefinition :=
  { definition with features := (feature, value) :: definition.features }

/-- Reads the words of a definition after some that have been read. -/
def readWords (definition : StyleDefinition) :
    List (List Char) → Except DefinitionFault StyleDefinition
  | [] => .ok definition
  | word :: rest =>
      let spelling := String.ofList (Text.lowercase word)
      if spelling = "on" ∨ spelling = "not" ∨ spelling = "link" then
        match rest with
        | [] => .error .unknownWord
        | object :: rest =>
            if spelling = "on" then do
              let color ← Color.read object
              readWords { definition with background := some color } rest
            else if spelling = "link" then
              readWords { definition with link := some (String.ofList object) } rest
            else
              match Feature.ofName? (String.ofList object) with
              | some feature => readWords (definition.setFeature feature false) rest
              | none => .error .unknownWord
      else
        match Feature.ofName? spelling with
        | some feature => readWords (definition.setFeature feature true) rest
        | none => do
            let color ← Color.read word
            readWords { definition with color := some color } rest

/-- Reads the definition of a style. -/
def read (text : List Char) : Except DefinitionFault StyleDefinition :=
  readWords empty (Text.words text)

/-- The words for a feature, none if it is neither switched on nor off. -/
def featureWords (definition : StyleDefinition) (feature : Feature) : List String :=
  match definition.features.lookup feature with
  | some true => [feature.name]
  | some false => ["not", feature.name]
  | none => []

/-- The words of the normal form. -/
def words (definition : StyleDefinition) : List String :=
  Feature.all.flatMap definition.featureWords ++ definition.color.toList ++
    (definition.background.map fun color => ["on", color]).getD [] ++
    (definition.link.map fun address => ["link", address]).getD []

/-- The normal form of a definition. -/
def text (definition : StyleDefinition) : String :=
  if definition.words.isEmpty then "none" else " ".intercalate definition.words

end StyleDefinition

end Markup
end ShadowLint
