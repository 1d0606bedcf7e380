/-!
# Types of declared names

Enough of a type language to tell whether two declarations have the same type.  A defined type is
known by its identity alone; all other types are trees.

The basic types and the directions of channels are closed: they are those that a dump may name, and
a dump with any other name is refused.  Types come from dumps or are predeclared, and those that are
predeclared are among them, so no other name can occur.  What is stated about all types is stated
about these, and not about types of arbitrary names.
-/

namespace ShadowLint

/-- The types without parts. -/
inductive BasicType where
  | bool | int | int8 | int16 | int32 | int64
  | uint | uint8 | uint16 | uint32 | uint64 | uintptr
  | float32 | float64 | complex64 | complex128
  | string | unsafePointer
  | untypedBool | untypedInt | untypedRune | untypedFloat | untypedComplex | untypedString
  | untypedNil
  | byte | rune
deriving DecidableEq, Repr

namespace BasicType

/-- All basic types. -/
def all : List BasicType :=
  [bool, int, int8, int16, int32, int64, uint, uint8, uint16, uint32, uint64, uintptr,
    float32, float64, complex64, complex128, string, unsafePointer, untypedBool, untypedInt,
    untypedRune, untypedFloat, untypedComplex, untypedString, untypedNil, byte, rune]

/-- The name of a basic type. -/
def name : BasicType → String
  | bool => "bool"
  | int => "int"
  | int8 => "int8"
  | int16 => "int16"
  | int32 => "int32"
  | int64 => "int64"
  | uint => "uint"
  | uint8 => "uint8"
  | uint16 => "uint16"
  | uint32 => "uint32"
  | uint64 => "uint64"
  | uintptr => "uintptr"
  | float32 => "float32"
  | float64 => "float64"
  | complex64 => "complex64"
  | complex128 => "complex128"
  | string => "string"
  | unsafePointer => "unsafe.Pointer"
  | untypedBool => "untyped bool"
  | untypedInt => "untyped int"
  | untypedRune => "untyped rune"
  | untypedFloat => "untyped float"
  | untypedComplex => "untyped complex"
  | untypedString => "untyped string"
  | untypedNil => "untyped nil"
  | byte => "byte"
  | rune => "rune"

/-- The basic type with a name. -/
def ofName? (name : String) : Option BasicType :=
  all.find? (·.name == name)

/-- The type that a second name stands for: a byte is a `uint8` and a rune is an `int32`. -/
def canonical : BasicType → BasicType
  | byte => uint8
  | rune => int32
  | type => type

end BasicType

/-- Which ends of a channel a type gives access to. -/
inductive ChannelDirection where
  /-- Both ends. -/
  | both
  /-- The sending end. -/
  | send
  /-- The receiving end. -/
  | receive
deriving DecidableEq, Repr

namespace ChannelDirection

/-- The direction with a name. -/
def ofName? (name : String) : Option ChannelDirection :=
  if name = "both" then some both
  else if name = "send" then some send
  else if name = "recv" then some receive
  else none

/-- What stands before the element type of a channel type. -/
def keyword : ChannelDirection → String
  | both => "chan "
  | send => "chan<- "
  | receive => "<-chan "

end ChannelDirection

/-- The identity of a defined type. -/
inductive TypeId where
  /-- A predeclared defined type. -/
  | predeclared (name : String)
  /-- The defined type at an index of a package's types. -/
  | declared (index : Nat)
deriving DecidableEq, Repr

mutual

/-- A type. -/
inductive Ty where
  /-- A type without parts. -/
  | basic (type : BasicType)
  /-- A defined type; its name and package are only shown. -/
  | named (id : TypeId) (name package : String)
  /-- A pointer. -/
  | pointer (element : Ty)
  /-- A slice. -/
  | slice (element : Ty)
  /-- An array with a length. -/
  | array (length : Int) (element : Ty)
  /-- A map. -/
  | map (key element : Ty)
  /-- A channel. -/
  | channel (direction : ChannelDirection) (element : Ty)
  /-- Several types in order. -/
  | tuple (types : List Ty)
  /-- A function type. -/
  | function (signature : Signature)
  /-- A structure type. -/
  | struct (fields : List StructField)
  /-- An interface type. -/
  | interface (methods : List Method)

/-- Parameters and results of a function. -/
structure Signature where
  /-- Types of the parameters. -/
  params : List Ty
  /-- Types of the results. -/
  results : List Ty
  /-- Whether the last parameter takes any number of arguments. -/
  variadic : Bool

/-- A field of a structure type. -/
structure StructField where
  /-- Name of the field. -/
  name : String
  /-- Type of the field. -/
  type : Ty
  /-- Annotation of the field. -/
  tag : String
  /-- Whether the field's own members are members of the structure. -/
  embedded : Bool

/-- A method of an interface type. -/
structure Method where
  /-- Name of the method. -/
  name : String
  /-- Its parameters and results. -/
  signature : Signature

end

namespace Ty

mutual

/-- A type as messages show it.  Fields and methods are left out. -/
def text : Ty → String
  | .basic type => type.name
  | .named _ name package => if package.isEmpty then name else package ++ "." ++ name
  | .pointer element => "*" ++ text element
  | .slice element => "[]" ++ text element
  | .array length element => "[" ++ toString length ++ "]" ++ text element
  | .map key element => "map[" ++ text key ++ "]" ++ text element
  | .channel direction element => direction.keyword ++ text element
  | .tuple types => "(" ++ ", ".intercalate (texts types) ++ ")"
  | .function signature => signatureText signature
  | .struct _ => "struct\x7b...\x7d"
  | .interface [] => "interface\x7b\x7d"
  | .interface (_ :: _) => "interface\x7b...\x7d"

/-- A function type as messages show it. -/
def signatureText : Signature → String
  | ⟨params, results, _⟩ =>
      let outcome := if results.isEmpty then "" else " (" ++ ", ".intercalate (texts results) ++ ")"
      "func(" ++ ", ".intercalate (texts params) ++ ")" ++ outcome

/-- Types as messages show them. -/
def texts : List Ty → List String
  | [] => []
  | type :: rest => text type :: texts rest

end

/-- The type of a declaration as messages show it; some declarations have none. -/
def textOf (type? : Option Ty) : String :=
  type?.elim "<nil>" text

end Ty

end ShadowLint
