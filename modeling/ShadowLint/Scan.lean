import ShadowLint.Trace

/-!
# Declarations, writes and loop variables

A visitor of all trees of a package collects what the check looks at: the declarations that may hide
something, every write to a resolved variable, and the variables that loops declare.
-/

namespace ShadowLint

/-- The token of an assignment that declares its targets. -/
def defineToken : String := ":="

/-- The token of a declaration of variables. -/
def varToken : String := "var"

/-- A declaration that may hide outer variables. -/
inductive Declaration where
  /-- An assignment that declares its targets. -/
  | short (statement : Node)
  /-- A declaration of variables. -/
  | var (declaration : Node)

/-- The node of a declaration. -/
def Declaration.node : Declaration → Node
  | short statement => statement
  | var declaration => declaration

/-- A write to a variable. -/
structure Write where
  /-- The variable. -/
  symbol : SymbolId
  /-- Where its name stands. -/
  position : Int
  /-- The first position of the statement that writes. -/
  statementStart : Int
  /-- The position behind that statement. -/
  statementStop : Int
deriving DecidableEq, Repr

namespace Write

/-- The position lies in the statement that writes. -/
def Encloses (write : Write) (position : Int) : Prop :=
  write.statementStart ≤ position ∧ position < write.statementStop

instance (write : Write) (position : Int) : Decidable (write.Encloses position) :=
  inferInstanceAs (Decidable (_ ∧ _))

end Write

namespace Node

/-- The node is an assignment that declares its targets. -/
def isShortDeclaration (node : Node) : Bool :=
  node.kind == .assignStmt && node.text "tok" == defineToken

/-- The declaration that a node is, if it may hide something. -/
def declaration? (node : Node) : Option Declaration :=
  if node.isShortDeclaration then some (.short node)
  else if node.kind = .genDecl ∧ node.text "tok" = varToken then some (.var node)
  else none

/-- The name that a target is, with the symbol that it stands for. -/
def written? (resolution : Resolution) (target : Node) : Option (Ident × SymbolId) := do
  let ident ← target.ident?
  let symbol ← resolution.usedAt? ident.place
  pure (ident, symbol)

end Node

/-- Adds an item that is not there yet. -/
def appendNew {Item : Type} [DecidableEq Item] (items : List Item) (item : Item) : List Item :=
  if item ∈ items then items else items ++ [item]

/-- What the pass over all trees collects. -/
structure Scan where
  /-- The declarations in the order of the trees. -/
  declarations : List Declaration
  /-- The writes in the order of the trees. -/
  writes : List Write
  /-- The places of the declarations in heads of counted loops, without repetitions. -/
  loopInits : List Place
  /-- The positions of the names that loops over collections bind, without repetitions. -/
  rangeBinders : List Int

namespace Scan

/-- The writes to a symbol in order. -/
def writesTo (scan : Scan) (symbol : SymbolId) : List Write :=
  scan.writes.filter (·.symbol == symbol)

/-- The symbols that are written to, in the order of their first writes. -/
def writtenSymbols (scan : Scan) : List SymbolId :=
  (scan.writes.map Write.symbol).eraseDups

/-- The event that nodes were scanned. -/
def event (scan : Scan) : Event :=
  .scanned scan.declarations.length scan.writtenSymbols.length
    (scan.loopInits.length + scan.rangeBinders.length)

/-- Nothing is collected. -/
def empty : Scan := ⟨[], [], [], []⟩

/-- Adds a declaration. -/
def addDeclaration (scan : Scan) (declaration : Declaration) : Scan :=
  { scan with declarations := scan.declarations ++ [declaration] }

/-- Adds a write. -/
def addWrite (scan : Scan) (write : Write) : Scan :=
  { scan with writes := scan.writes ++ [write] }

/-- Adds the place of a declaration in the head of a counted loop. -/
def addLoopInit (scan : Scan) (place : Place) : Scan :=
  { scan with loopInits := appendNew scan.loopInits place }

/-- Adds the position of a name that a loop over a collection binds. -/
def addRangeBinder (scan : Scan) (position : Int) : Scan :=
  { scan with rangeBinders := appendNew scan.rangeBinders position }

end Scan

/-- A pass over trees that collects. -/
abbrev Scanner := StateT Scan Trace

namespace Scanner

/-- Collects the write of a statement to a target, if the target is the name of a symbol. -/
def recordWrite (resolution : Resolution) (statement target : Node) : Scanner Unit := do
  if let some (ident, symbol) := target.written? resolution then
    let statementStart ← Trace.edge statement .start
    let statementStop ← Trace.edge statement .stop
    modify (·.addWrite ⟨symbol, ident.position, statementStart, statementStop⟩)

/-- Collects what a loop over a collection binds, and tells it if it is not a name. -/
def recordBinder (binder : Node) : Scanner Unit :=
  match binder.ident? with
  | some ident => modify (·.addRangeBinder ident.position)
  | none => do Trace.tell (.binderIgnored binder.kind (← Trace.edge binder .start))

/-- An assignment may declare its targets, and it writes to them. -/
def visitAssignment (resolution : Resolution) (node : Node) (parts : Scanner Unit) :
    Scanner Unit := do
  if node.isShortDeclaration then
    modify (·.addDeclaration (.short node))
  (node.nodes "lhs").forM (recordWrite resolution node)
  parts

/-- An increment writes to its operand. -/
def visitIncrement (resolution : Resolution) (node : Node) (parts : Scanner Unit) :
    Scanner Unit := do
  (node.nodes "x").forM (recordWrite resolution node)
  parts

/-- A group of declarations may declare variables. -/
def visitDeclarations (node : Node) (parts : Scanner Unit) : Scanner Unit := do
  if node.text "tok" = varToken then
    modify (·.addDeclaration (.var node))
  parts

/-- A counted loop may have a declaration in its head. -/
def visitFor (node : Node) (parts : Scanner Unit) : Scanner Unit := do
  if let some init := node.child? "init" then
    if init.isShortDeclaration then
      modify (·.addLoopInit init.place)
  parts

/-- A loop over a collection may bind names. -/
def visitRange (node : Node) (parts : Scanner Unit) : Scanner Unit := do
  if node.text "tok" = defineToken then
    (node.nodes "key" ++ node.nodes "value").forM recordBinder
  parts

/-- Collects from five kinds of nodes and visits the parts of all nodes. -/
def visitor (resolution : Resolution) : Visitor Scanner where
  arrive _ := pure ()
  method?
    | .assignStmt => some (visitAssignment resolution)
    | .incDecStmt => some (visitIncrement resolution)
    | .genDecl => some visitDeclarations
    | .forStmt => some visitFor
    | .rangeStmt => some visitRange
    | _ => none

end Scanner

namespace Scan

/-- Scans the trees of a package one after the other. -/
def ofTrees (resolution : Resolution) (trees : List Node) : Trace Scan := do
  let (_, scan) ← (trees.forM (Scanner.visitor resolution).visit).run empty
  Trace.tell scan.event
  pure scan

end Scan

end ShadowLint
