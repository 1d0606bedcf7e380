import ShadowLint.Scan

/-!
# Deliberate redeclarations

Some declarations hide an outer variable on purpose: `x := x` and `var x = x` copy it, `x := x.(T)`
narrows it, and a loop declares its variables anew in every round.
-/

namespace ShadowLint

/-- What is wrong with a declaration. -/
inductive Malformation where
  /-- A target of a short declaration is not a name. -/
  | targetNotIdent
  /-- A part of a `var` declaration declares no variables. -/
  | specNotVariables
deriving DecidableEq, Repr

/-- The wording of a malformation. -/
def Malformation.message : Malformation → String
  | targetNotIdent => "invalid AST: short variable declaration of non-identifier"
  | specNotVariables => "invalid AST: var GenDecl not ValueSpec"

/-- A node that a declaration may not hold. -/
structure Malformed where
  /-- The node. -/
  node : Node
  /-- What is wrong with it. -/
  malformation : Malformation

namespace Node

/-- The node is a name that reads the given one. -/
def isNamed (node : Node) (name : String) : Bool :=
  node.ident?.any (·.name == name)

/-- The node copies a variable, or narrows it by a type assertion. -/
def reuses (node : Node) (name : String) : Bool :=
  node.isNamed name ||
    (node.kind == .typeAssertExpr && (node.child? "x").any (·.isNamed name))

end Node

namespace Redeclaration

/-- Whether every one of the pairs of a target and a value copies or narrows a variable.  A target
that is not a name is malformed, unless a pair before it settles the question. -/
def allReuse : List (Node × Node) → Except Malformed Bool
  | [] => .ok true
  | (target, value) :: rest =>
      match target.ident? with
      | none => .error ⟨target, .targetNotIdent⟩
      | some ident => if value.reuses ident.name then allReuse rest else .ok false

/-- Whether a short declaration only copies or narrows variables. -/
def isDeliberateShort (statement : Node) : Except Malformed Bool :=
  let targets := statement.nodes "lhs"
  let values := statement.nodes "rhs"
  if targets.length = values.length then allReuse (targets.zip values) else .ok false

/-- Whether a part of a `var` declaration only copies variables. -/
def isDeliberateVar (spec : Node) : Bool :=
  let names := spec.nodes "names"
  let values := spec.nodes "values"
  names.length == values.length &&
    (names.zip values).all fun (name, value) => value.isNamed (name.text "name")

/-- Whether a short declaration declares a variable of a loop. -/
def isLoopVariable (scan : Scan) (statement : Node) : Bool :=
  scan.loopInits.contains statement.place ||
    ((statement.nodes "lhs").filterMap Node.ident?).any
      fun ident => scan.rangeBinders.contains ident.position

end Redeclaration

end ShadowLint
