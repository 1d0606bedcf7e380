/-!
# Paths

A path is a list of names below a root, below two slashes or below nothing.  Empty names and dots
stand for nothing and are dropped; double dots are kept.
-/

namespace ShadowLint

/-- A path without superfluous parts. -/
structure Path where
  /-- The slashes that it begins with: none, one or two. -/
  root : String
  /-- Its names from the root on. -/
  names : List String
deriving DecidableEq, Repr

namespace Path

/-- The slashes that count at the beginning of a path: two of them are different from one, and more
are one. -/
def rootOf (text : String) : String :=
  match text.toList with
  | '/' :: '/' :: '/' :: _ => "/"
  | '/' :: '/' :: _ => "//"
  | '/' :: _ => "/"
  | _ => ""

/-- The path that a text writes. -/
def ofText (text : String) : Path :=
  ⟨rootOf text, (text.splitOn "/").filter fun name => name != "" && name != "."⟩

/-- The shortest text that writes the path. -/
def text (path : Path) : String :=
  if path.root.isEmpty && path.names.isEmpty then "."
  else path.root ++ "/".intercalate path.names

/-- The last name of the path, empty if it has none. -/
def baseName (path : Path) : String :=
  path.names.getLast?.getD ""

end Path

end ShadowLint
