import ShadowLint.Scope.Symbol

/-!
# The universe scope

The outermost scope holds the symbols that every program has without declaring them.
-/

namespace ShadowLint
namespace Universe

/-- A predeclared symbol. -/
def predeclared (name : String) (kind : SymbolKind) (type : Option Ty) : Symbol :=
  { name := name, kind := kind, type := type, owner := some .universe }

/-- The basic types that have a predeclared name. -/
def basicTypes : List BasicType :=
  [.bool, .int, .int8, .int16, .int32, .int64, .uint, .uint8, .uint16, .uint32, .uint64, .uintptr,
    .float32, .float64, .complex64, .complex128, .string, .byte, .rune]

/-- A predeclared defined type. -/
def definedType (name : String) : Symbol :=
  predeclared name .type (some (.named (.predeclared name) name ""))

/-- The names of the predeclared functions. -/
def functionNames : List String :=
  ["append", "cap", "clear", "close", "complex", "copy", "delete", "imag", "len", "make", "max",
    "min", "new", "panic", "print", "println", "real", "recover"]

/-- The predeclared symbols in order. -/
def symbols : List Symbol :=
  basicTypes.map (fun type => predeclared type.name .type (some (.basic type))) ++
    [definedType "error",
      predeclared "any" .type (some (.interface [])),
      definedType "comparable",
      predeclared "true" .const (some (.basic .untypedBool)),
      predeclared "false" .const (some (.basic .untypedBool)),
      predeclared "iota" .const (some (.basic .untypedInt)),
      predeclared "nil" .nil (some (.basic .untypedNil))] ++
    functionNames.map fun name => predeclared name .builtin none

/-- The predeclared symbol of a name. -/
def symbol? (name : String) : Option Symbol :=
  symbols.find? (·.name == name)

/-- The name table of the universe scope. -/
def table : List (String × SymbolId) :=
  symbols.map fun symbol => (symbol.name, .predeclared symbol.name)

/-- A name that stands for no predeclared type. -/
structure NotAType where
  /-- The name. -/
  name : String
deriving DecidableEq, Repr

/-- The wording of the error. -/
def NotAType.message (error : NotAType) : String :=
  Text.literal error.name ++ " is not a predeclared type"

/-- The type that a predeclared name stands for. -/
def type (name : String) : Except NotAType Ty :=
  match symbol? name with
  | some { kind := .type, type := some type, .. } => .ok type
  | _ => .error ⟨name⟩

end Universe
end ShadowLint
