import ShadowLint.Json.Token

/-!
# Reading a JSON text

The reader is a stack machine over tokens: the stack holds the lists and objects whose ends have
not come yet, and every token either has one next state or none.  A text is a document when its
tokens lead from the start to a finished value around which nothing is open.  An overlong number
where a value may stand ends the reading with a fault of its own.
-/

namespace ShadowLint
namespace Json

/-- A list or an object whose end has not come, with the parts read so far, newest first. -/
inductive Container where
  /-- A list. -/
  | items (before : List Json)
  /-- An object that waits for the value of the given name. -/
  | members (before : List (String × Json)) (name : String)

/-- What the reader waits for, and what is open around it. -/
inductive ReaderState where
  /-- A value. -/
  | wantsValue (outer : List Container)
  /-- The first item of a list, or its end. -/
  | wantsFirstItem (outer : List Container)
  /-- The first name of an object, or its end. -/
  | wantsFirstName (outer : List Container)
  /-- The next name of an object. -/
  | wantsName (before : List (String × Json)) (outer : List Container)
  /-- The colon after a name. -/
  | wantsColon (before : List (String × Json)) (name : String) (outer : List Container)
  /-- Nothing more of a value that has just ended: a separator, an end, or the end of the text. -/
  | ended (value : Json) (outer : List Container)
  /-- Nothing, since a number of too many digits has come. -/
  | stopped (digits : Nat)

/-- Stores a member, newest first.  A name that is there already keeps its place and takes the new
value. -/
def putMember (name : String) (value : Json) (members : List (String × Json)) :
    List (String × Json) :=
  if members.any (·.1 == name) then
    members.map fun member => if member.1 == name then (name, value) else member
  else
    (name, value) :: members

/-- The state after the first token of a value. -/
def ReaderState.begin? (outer : List Container) : Token → Option ReaderState
  | .scalar value => some (.ended value outer)
  | .openArray => some (.wantsFirstItem outer)
  | .openObject => some (.wantsFirstName outer)
  | .overlongNumber digits => some (.stopped digits)
  | _ => none

/-- The state after one more token. -/
def ReaderState.next? : ReaderState → Token → Option ReaderState
  | .wantsValue outer, token => begin? outer token
  | .wantsFirstItem outer, .closeArray => some (.ended (.array []) outer)
  | .wantsFirstItem outer, token => begin? (.items [] :: outer) token
  | .wantsFirstName outer, .closeObject => some (.ended (.object []) outer)
  | .wantsFirstName outer, .scalar (.string name) => some (.wantsColon [] name outer)
  | .wantsName before outer, .scalar (.string name) => some (.wantsColon before name outer)
  | .wantsColon before name outer, .colon => some (.wantsValue (.members before name :: outer))
  | .ended value (.items before :: outer), .comma =>
      some (.wantsValue (.items (value :: before) :: outer))
  | .ended value (.items before :: outer), .closeArray =>
      some (.ended (.array (value :: before).reverse) outer)
  | .ended value (.members before name :: outer), .comma =>
      some (.wantsName (putMember name value before) outer)
  | .ended value (.members before name :: outer), .closeObject =>
      some (.ended (.object (putMember name value before).reverse) outer)
  | _, _ => none

/-- Why a text is no document. -/
inductive Fault where
  /-- It is not written as one. -/
  | malformed
  /-- A whole number has too many digits. -/
  | overlongNumber (digits : Nat)
deriving DecidableEq, Repr

/-- The value read, if nothing is open or missing. -/
def ReaderState.result : ReaderState → Except Fault Json
  | .ended value [] => .ok value
  | .stopped digits => .error (.overlongNumber digits)
  | _ => .error .malformed

/-- The value that tokens write. -/
def ofTokens (tokens : List Token) : Except Fault Json :=
  match tokens.foldlM ReaderState.next? (.wantsValue []) with
  | some state => state.result
  | none => .error .malformed

/-- The document that a text writes. -/
def parse (text : String) : Except Fault Json :=
  match tokens? text with
  | some tokens => ofTokens tokens
  | none => .error .malformed

end Json
end ShadowLint
