import ShadowLint.Markup.Literal.Token

/-!
# Literals

A literal is a number, a text, bytes, a constant, or a tuple, a set or a table of literals.  Numbers
may have one sign, and an imaginary number may be added to a real one.  The items of a set and the
keys of a table cannot change.  A literal is read token by token; the unfinished brackets are kept
as frames, the innermost one first.
-/

namespace ShadowLint
namespace Markup
namespace Literal

/-- The value of a literal, as far as it matters to what stands around it. -/
inductive Value where
  /-- A number without a sign. -/
  | number (imaginary : Bool)
  /-- A number with a sign. -/
  | signed (imaginary : Bool)
  /-- Another value that cannot change. -/
  | fixed
  /-- A set or a table, or a tuple that holds one. -/
  | changeable
deriving DecidableEq, Repr

/-- The value cannot change. -/
def Value.isFixed (value : Value) : Bool :=
  value != .changeable

/-- An item that is read. -/
inductive Item where
  /-- Nothing of it has come. -/
  | awaited
  /-- A sign has come. -/
  | signed
  /-- A real number and a sign have come. -/
  | sum
  /-- The name of the empty set's maker has come. -/
  | maker
  /-- Texts, or bytes, have come, which make one text. -/
  | text (bytes : Bool)
  /-- The item is complete. -/
  | complete (value : Value)
deriving DecidableEq, Repr

namespace Item

/-- The value of an item, if it is complete. -/
def value? : Item → Option Value
  | complete value => some value
  | text _ => some .fixed
  | _ => none

/-- An item after a text.  Texts and bytes do not mix. -/
def afterText? (bytes : Bool) : Item → Option Item
  | awaited => some (text bytes)
  | text before => if before = bytes then some (text bytes) else none
  | _ => none

/-- An item after another value. -/
def next? : Item → Value → Option Item
  | awaited, value => some (complete value)
  | signed, .number imaginary => some (complete (.signed imaginary))
  | sum, .number true => some (complete .fixed)
  | _, _ => none

/-- An item after a sign. -/
def afterSign? : Item → Option Item
  | awaited => some signed
  | complete (.number false) | complete (.signed false) => some sum
  | _ => none

end Item

/-- A bracket, with what stands in it in front of the item that is read. -/
inductive Bracket where
  /-- The parentheses of the empty set's maker. -/
  | call
  /-- Parentheses, or none around all. -/
  | tuple (count : Nat) (isFixed : Bool)
  /-- Braces without an item. -/
  | braces
  /-- The braces of a set. -/
  | set
  /-- The braces of a table in front of a key. -/
  | tableKey
  /-- The braces of a table behind a key. -/
  | tableValue
deriving DecidableEq, Repr

/-- A bracket and the item that is read in it. -/
structure Frame where
  /-- The bracket. -/
  bracket : Bracket
  /-- The item. -/
  item : Item
deriving DecidableEq, Repr

namespace Frame

/-- A bracket without an item. -/
def start (bracket : Bracket) : Frame := ⟨bracket, .awaited⟩

/-- A bracket after a comma. -/
def afterComma? (frame : Frame) : Option Frame :=
  match frame.bracket, frame.item.value? with
  | .tuple count fixed, some value =>
      some (start (.tuple (count + 1) (fixed && value.isFixed)))
  | .braces, some value | .set, some value =>
      if value.isFixed then some (start .set) else none
  | .tableValue, some _ => some (start .tableKey)
  | _, _ => none

/-- A bracket after a colon. -/
def afterColon? (frame : Frame) : Option Frame :=
  match frame.bracket, frame.item.value? with
  | .braces, some value | .tableKey, some value =>
      if value.isFixed then some (start .tableValue) else none
  | _, _ => none

/-- The value of parentheses by their last item and those in front of it. -/
def tupleValue (count : Nat) (fixed : Bool) (last : Value) : Value :=
  if count = 0 then last else if fixed && last.isFixed then .fixed else .changeable

/-- The value of a bracket that ends with a parenthesis. -/
def parenthesised? (frame : Frame) : Option Value :=
  match frame.bracket, frame.item.value? with
  | .tuple count fixed, some value => some (tupleValue count fixed value)
  | .tuple _ fixed, none =>
      if frame.item = .awaited then some (if fixed then .fixed else .changeable) else none
  | .call, none => if frame.item = .awaited then some .changeable else none
  | _, _ => none

/-- The value of a bracket that ends with a brace. -/
def braced? (frame : Frame) : Option Value :=
  match frame.bracket, frame.item.value? with
  | .braces, some value | .set, some value =>
      if value.isFixed then some .changeable else none
  | .tableValue, some _ => some .changeable
  | .braces, none | .set, none | .tableKey, none =>
      if frame.item = .awaited then some .changeable else none
  | _, _ => none

/-- Nothing has come in the bracket. -/
def isEmpty (frame : Frame) : Bool :=
  frame.bracket == .tuple 0 true && frame.item == .awaited

end Frame

/-- What has been read of a literal. -/
structure Reading where
  /-- The innermost bracket. -/
  inner : Frame
  /-- The brackets around it, from the inside out. -/
  outer : List Frame
  /-- The line of the literal has ended. -/
  hasEnded : Bool
deriving DecidableEq, Repr

namespace Reading

/-- Nothing has been read. -/
def start : Reading := ⟨.start (.tuple 0 true), [], false⟩

/-- A reading with another item in the innermost bracket. -/
def setItem (reading : Reading) (item : Item) : Reading :=
  { reading with inner := { reading.inner with item := item } }

/-- The greatest number of brackets around a token. -/
def depthLimit : Nat := 200

/-- A reading with one more bracket. -/
def enter? (reading : Reading) (bracket : Bracket) : Option Reading :=
  if reading.outer.length < depthLimit then
    some { reading with inner := .start bracket, outer := reading.inner :: reading.outer }
  else
    none

/-- A reading after the innermost bracket has ended with a value. -/
def leave? (reading : Reading) (ended? : Option Value) : Option Reading := do
  let value ← ended?
  match reading.outer with
  | [] => none
  | frame :: outer =>
      let item ← (if frame.item = .maker then Item.awaited else frame.item).next? value
      some { reading with inner := { frame with item := item }, outer := outer }

/-- A reading after a parenthesis has ended the innermost bracket.  The empty set's maker may stand
in parentheses. -/
def leaveParenthesis? (reading : Reading) : Option Reading :=
  match reading.inner, reading.outer with
  | ⟨.tuple 0 _, .maker⟩, ⟨bracket, .awaited⟩ :: outer =>
      some { reading with inner := ⟨bracket, .maker⟩, outer := outer }
  | inner, _ => reading.leave? inner.parenthesised?

/-- A reading after a token. -/
def next? (reading : Reading) (token : Token) : Option Reading :=
  let item := reading.inner.item
  let take (value : Value) := (item.next? value).map reading.setItem
  match token with
  | .lineEnd =>
      some { reading with
        hasEnded := reading.hasEnded || (reading.outer.isEmpty && !reading.inner.isEmpty) }
  | .indentation => if reading.outer.isEmpty then none else some reading
  | token =>
      if reading.hasEnded then none
      else
        match token with
        | .openParenthesis =>
            if item.value?.isSome then none
            else reading.enter? (if item = .maker then .call else .tuple 0 true)
        | .openBrace => if item = .awaited then reading.enter? .braces else none
        | .closeParenthesis => reading.leaveParenthesis?
        | .closeBrace => reading.leave? reading.inner.braced?
        | .comma => reading.inner.afterComma?.map fun frame => { reading with inner := frame }
        | .colon => reading.inner.afterColon?.map fun frame => { reading with inner := frame }
        | .sign => item.afterSign?.map reading.setItem
        | .number imaginary => take (.number imaginary)
        | .text bytes => (item.afterText? bytes).map reading.setItem
        | .constant => take .fixed
        | .setName => if item = .awaited then some (reading.setItem .maker) else none
        | .lineEnd | .indentation => none

/-- Whether a reading may end where it is: no bracket is open, and something has come. -/
def isComplete (reading : Reading) : Bool :=
  reading.outer.isEmpty && !reading.inner.isEmpty && reading.inner.parenthesised?.isSome

end Reading

/-- A text whose lines end with line feeds, in place of carriage returns with or without one. -/
def withLineFeeds : List Char → List Char
  | '\r' :: '\n' :: rest => '\n' :: withLineFeeds rest
  | c :: rest => (if c = '\r' then '\n' else c) :: withLineFeeds rest
  | [] => []

/-- Whether a text is a literal.  The null character stands in none. -/
def isLiteral (text : List Char) : Bool :=
  match tokens? (withLineFeeds text) with
  | some tokens =>
      !text.contains '\x00' && (tokens.foldlM Reading.next? .start).any Reading.isComplete
  | none => false

end Literal
end Markup
end ShadowLint
