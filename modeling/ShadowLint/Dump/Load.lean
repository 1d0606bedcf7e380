import ShadowLint.Dump.Package
import ShadowLint.Json.Parser

/-!
# Dumps in files

A file holds a dump when its bytes are text, the text is a document and the document is a package.
-/

namespace ShadowLint

/-- Why a file holds no document. -/
inductive ReadFault where
  /-- There is no such file. -/
  | notFound
  /-- A name on the way to the file is not that of a directory. -/
  | notDirectory
  /-- The path, or a name in it, is too long. -/
  | nameTooLong
  /-- The null character stands in the path. -/
  | nullCharacter
  /-- It is a directory. -/
  | isDirectory
  /-- Its bytes are not text. -/
  | notText
  /-- Its text is not a document. -/
  | notJson
  /-- A whole number in its text has too many digits. -/
  | overlongNumber (digits : Nat)
deriving DecidableEq, Repr

/-- The wording of a read fault. -/
def ReadFault.message : ReadFault → String
  | notFound => "no such file or directory"
  | notDirectory => "not a directory"
  | nameTooLong => "file name too long"
  | nullCharacter => "embedded null byte"
  | isDirectory => "is a directory"
  | notText => "not valid UTF-8"
  | notJson => "not valid JSON"
  | overlongNumber digits =>
      s!"Exceeds the limit ({Text.digitLimit} digits) for integer string conversion: value has " ++
        s!"{digits} digits; use sys.set_int_max_str_digits() to increase the limit"

/-- Why a file holds no package. -/
inductive LoadFault where
  /-- It holds no document. -/
  | unreadable (fault : ReadFault)
  /-- Its document is not a package dump. -/
  | notADump (fault : DumpError)

/-- The wording of a load fault. -/
def LoadFault.message : LoadFault → String
  | unreadable fault => fault.message
  | notADump fault => fault.message

namespace Dump

/-- The document in the bytes of a file. -/
def document (bytes : ByteArray) : Except ReadFault Json :=
  match String.fromUTF8? bytes with
  | none => .error .notText
  | some text =>
      match Json.parse text with
      | .error .malformed => .error .notJson
      | .error (.overlongNumber digits) => .error (.overlongNumber digits)
      | .ok document => .ok document

/-- The package in a document, if there is one. -/
def load (document : Except ReadFault Json) : Except LoadFault Package := do
  (package (← document.mapError .unreadable)).mapError .notADump

end Dump
end ShadowLint
