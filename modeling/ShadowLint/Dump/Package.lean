import ShadowLint.Dump.ScopeTable
import ShadowLint.Dump.Tree
import ShadowLint.Syntax.Walk

/-!
# Packages

A package is everything the check needs: files, trees, scopes, symbols and the resolution of names.
It is read from a dump in one pass: types, scopes, symbols, and then file after file.
-/

namespace ShadowLint

/-- A package with all names resolved. -/
structure Package where
  /-- The path of the package. -/
  path : String
  /-- Its files. -/
  space : PositionSpace
  /-- The tree of each file. -/
  trees : List Node
  /-- Its types. -/
  types : TypeTable
  /-- Its scopes and symbols. -/
  forest : Forest
  /-- Which symbols its names stand for. -/
  resolution : Resolution

namespace Package

/-- The nodes of all trees, each before its parts. -/
def nodes (package : Package) : List Node :=
  package.trees.flatMap Node.preorder

end Package

namespace Dump

/-- Files and trees read so far. -/
structure FilesRead where
  /-- The files. -/
  space : PositionSpace
  /-- The tree of each file. -/
  trees : List Node
  /-- What the names in the trees stand for. -/
  resolution : Resolution

/-- The offsets in a line table. -/
def lineStarts (part : DumpPart) (items : List Json) : Except DumpError (List Int) :=
  match items.mapM Shape.int.read? with
  | some starts => .ok starts
  | none => .error (.badLineStarts part)

/-- The root of a file's tree. -/
def fileRoot (part : DumpPart) (root : Node) : Except DumpError Node :=
  if root.kind = .file then .ok root else .error (.rootNotFile part root.kind)

/-- Reads one file. -/
def addFile (symbolCount : Nat) (read : FilesRead) (entry : Json) : Except DumpError FilesRead := do
  let index := read.trees.length
  let part : DumpPart := .entry .files index
  match entry with
  | .object members =>
      let name ← require part members "name" .string
      let size ← require part members "size" .int
      let starts ← lineStarts part (← require part members "line_starts" .list)
      let space ← (read.space.add name size starts).mapError (.badFile part)
      let tree ← require part members "syntax" .object
      let (root, resolution) ←
        (readNode symbolCount [.item index] tree).run read.resolution
      let root ← fileRoot part root
      pure ⟨space, read.trees ++ [root], resolution⟩
  | _ => throw (.entryNotObject part)

/-- Reads a package. -/
def package (document : Json) : Except DumpError Package := do
  match document with
  | .object members =>
      let types ← items .document members "types"
      let path ← require .document members "package" .string
      let types ← typeTable types
      let forest ← forest types.types members
      let files ← require .document members "files" .list
      let read ← files.foldlM (addFile forest.symbols.size) ⟨.empty, [], .empty⟩
      pure ⟨path, read.space, read.trees, types, forest, read.resolution⟩
  | _ => throw .documentNotObject

end Dump
end ShadowLint
