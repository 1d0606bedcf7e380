import ShadowLint.Syntax.Kind

/-!
# The grammar of syntax nodes

For every kind of node: its fields in order, with what each may hold, and the rule that gives its
first and last position.  An edge of a node is that of the first present one among the things listed
for it, so a list that may be empty is followed by what stands next to it; where nothing is listed
after such a list, the node has no edge.
-/

namespace ShadowLint

/-- Which nodes may stand at a place. -/
inductive NodeClass where
  /-- Every kind of a role. -/
  | any (role : Role)
  /-- One kind. -/
  | only (kind : Kind)
deriving DecidableEq, Repr

/-- The class holds the nodes of a kind. -/
def NodeClass.accepts : NodeClass → Kind → Bool
  | .any role, kind => kind.role == role
  | .only kind', kind => kind == kind'

/-- What a field may hold. -/
inductive FieldType where
  /-- The position of a token. -/
  | position
  /-- The text of a token. -/
  | text
  /-- One node. -/
  | node (accepted : NodeClass)
  /-- One node or none. -/
  | optional (accepted : NodeClass)
  /-- Any number of nodes. -/
  | nodes (accepted : NodeClass)
deriving DecidableEq, Repr

/-- A field of a kind of node. -/
structure Field where
  /-- Its name. -/
  name : String
  /-- What it may hold. -/
  type : FieldType
  /-- Whether a document may leave it out. -/
  omissible : Bool := false
deriving DecidableEq, Repr

/-- The two sides of a node, each with an edge of its own. -/
inductive Side where
  /-- Where the node begins. -/
  | start
  /-- Behind the node. -/
  | stop
deriving DecidableEq, Repr

/-- One of the things that can give a node its edge. -/
inductive Anchor where
  /-- A token that begins at the position in a field, or that many characters behind it. -/
  | token (field : String) (width : Nat)
  /-- A closing token of one character; it is absent if its position is that of nothing. -/
  | closing (field : String)
  /-- The end of a token from its position and its text. -/
  | spelled (position text : String)
  /-- The node in a field. -/
  | node (field : String)
  /-- The first of the nodes in a field. -/
  | first (field : String)
  /-- The last of the nodes in a field. -/
  | last (field : String)
deriving DecidableEq, Repr

namespace Grammar

/-- Any expression. -/
def expr : NodeClass := .any .expr

/-- Any statement. -/
def stmt : NodeClass := .any .stmt

/-- A field for a token's position. -/
def position (name : String) : Field := ⟨name, .position, false⟩

/-- A field for a token's text. -/
def text (name : String) : Field := ⟨name, .text, false⟩

/-- A field for one node. -/
def node (name : String) (accepted : NodeClass) : Field := ⟨name, .node accepted, false⟩

/-- A field for one node or none. -/
def optional (name : String) (accepted : NodeClass) : Field := ⟨name, .optional accepted, false⟩

/-- A field for any number of nodes. -/
def nodes (name : String) (accepted : NodeClass) : Field := ⟨name, .nodes accepted, false⟩

/-- The same field where documents may leave it out. -/
def omissible (field : Field) : Field := { field with omissible := true }

end Grammar

namespace Kind

open Grammar in
/-- The fields of a kind in order. -/
def fields : Kind → List Field
  | ident => [text "name", position "name_pos"]
  | basicLit => [text "value", position "value_pos"]
  | badExpr => [position "from_pos", position "to_pos"]
  | parenExpr => [position "lparen", node "x" expr, position "rparen"]
  | selectorExpr => [node "x" expr, node "sel" (.only .ident)]
  | indexExpr => [node "x" expr, node "index" expr, position "rbrack"]
  | starExpr => [position "star", node "x" expr]
  | unaryExpr => [position "op_pos", text "op", node "x" expr]
  | binaryExpr => [node "x" expr, text "op", node "y" expr]
  | callExpr => [node "fun" expr, nodes "args" expr, position "rparen"]
  | typeAssertExpr => [node "x" expr, optional "type" expr, position "rparen"]
  | field => [nodes "names" (.only .ident), node "type" expr]
  | funcLit =>
      [position "func_pos", nodes "params" (.only .field), nodes "results" (.only .field),
        node "body" (.only .blockStmt)]
  | badStmt => [position "from_pos", position "to_pos"]
  | assignStmt => [nodes "lhs" expr, position "tok_pos", text "tok", nodes "rhs" expr]
  | incDecStmt => [node "x" expr, position "tok_pos", text "tok"]
  | exprStmt => [node "x" expr]
  | blockStmt => [position "lbrace", nodes "stmts" stmt, position "rbrace"]
  | ifStmt =>
      [position "if_pos", optional "init" stmt, node "cond" expr, node "body" (.only .blockStmt),
        omissible (optional "else_" stmt)]
  | forStmt =>
      [position "for_pos", optional "init" stmt, optional "cond" expr, optional "post" stmt,
        node "body" (.only .blockStmt)]
  | rangeStmt =>
      [position "for_pos", optional "key" expr, optional "value" expr, position "tok_pos",
        text "tok", node "x" expr, node "body" (.only .blockStmt)]
  | caseClause => [position "case_pos", nodes "exprs" expr, position "colon", nodes "body" stmt]
  | switchStmt =>
      [position "switch_pos", optional "init" stmt, optional "tag" expr,
        node "body" (.only .blockStmt)]
  | typeSwitchStmt =>
      [position "switch_pos", optional "init" stmt, node "assign" stmt,
        node "body" (.only .blockStmt)]
  | returnStmt => [position "return_pos", omissible (nodes "results" expr)]
  | deferStmt => [position "defer_pos", node "call" (.only .callExpr)]
  | goStmt => [position "go_pos", node "call" (.only .callExpr)]
  | declStmt => [node "decl" (.only .genDecl)]
  | valueSpec =>
      [nodes "names" (.only .ident), omissible (optional "type" expr),
        omissible (nodes "values" expr)]
  | typeSpec => [node "name" (.only .ident), node "type" expr]
  | importSpec => [node "path" (.only .basicLit), omissible (optional "name" (.only .ident))]
  | genDecl =>
      [position "tok_pos", text "tok", nodes "specs" (.any .spec), omissible (position "rparen")]
  | funcDecl =>
      [position "func_pos", node "name" (.only .ident), omissible (nodes "params" (.only .field)),
        omissible (nodes "results" (.only .field)),
        omissible (optional "body" (.only .blockStmt)), omissible (nodes "recv" (.only .field))]
  | file =>
      [position "package_pos", node "name" (.only .ident), omissible (nodes "decls" (.any .decl))]

/-- What gives a node of the kind its first position. -/
def startAnchors : Kind → List Anchor
  | ident => [.token "name_pos" 0]
  | basicLit => [.token "value_pos" 0]
  | badExpr => [.token "from_pos" 0]
  | parenExpr => [.token "lparen" 0]
  | selectorExpr => [.node "x"]
  | indexExpr => [.node "x"]
  | starExpr => [.token "star" 0]
  | unaryExpr => [.token "op_pos" 0]
  | binaryExpr => [.node "x"]
  | callExpr => [.node "fun"]
  | typeAssertExpr => [.node "x"]
  | field => [.first "names", .node "type"]
  | funcLit => [.token "func_pos" 0]
  | badStmt => [.token "from_pos" 0]
  | assignStmt => [.first "lhs"]
  | incDecStmt => [.node "x"]
  | exprStmt => [.node "x"]
  | blockStmt => [.token "lbrace" 0]
  | ifStmt => [.token "if_pos" 0]
  | forStmt => [.token "for_pos" 0]
  | rangeStmt => [.token "for_pos" 0]
  | caseClause => [.token "case_pos" 0]
  | switchStmt => [.token "switch_pos" 0]
  | typeSwitchStmt => [.token "switch_pos" 0]
  | returnStmt => [.token "return_pos" 0]
  | deferStmt => [.token "defer_pos" 0]
  | goStmt => [.token "go_pos" 0]
  | declStmt => [.node "decl"]
  | valueSpec => [.first "names"]
  | typeSpec => [.node "name"]
  | importSpec => [.node "name", .node "path"]
  | genDecl => [.token "tok_pos" 0]
  | funcDecl => [.token "func_pos" 0]
  | file => [.token "package_pos" 0]

/-- What gives a node of the kind the position behind it. -/
def stopAnchors : Kind → List Anchor
  | ident => [.spelled "name_pos" "name"]
  | basicLit => [.spelled "value_pos" "value"]
  | badExpr => [.token "to_pos" 0]
  | parenExpr => [.token "rparen" 1]
  | selectorExpr => [.node "sel"]
  | indexExpr => [.token "rbrack" 1]
  | starExpr => [.node "x"]
  | unaryExpr => [.node "x"]
  | binaryExpr => [.node "y"]
  | callExpr => [.token "rparen" 1]
  | typeAssertExpr => [.token "rparen" 1]
  | field => [.node "type"]
  | funcLit => [.node "body"]
  | badStmt => [.token "to_pos" 0]
  | assignStmt => [.last "rhs"]
  | incDecStmt => [.token "tok_pos" 2]
  | exprStmt => [.node "x"]
  | blockStmt => [.token "rbrace" 1]
  | ifStmt => [.node "else_", .node "body"]
  | forStmt => [.node "body"]
  | rangeStmt => [.node "body"]
  | caseClause => [.last "body", .token "colon" 1]
  | switchStmt => [.node "body"]
  | typeSwitchStmt => [.node "body"]
  | returnStmt => [.last "results", .token "return_pos" "return".length]
  | deferStmt => [.node "call"]
  | goStmt => [.node "call"]
  | declStmt => [.node "decl"]
  | valueSpec => [.last "values", .node "type", .last "names"]
  | typeSpec => [.node "type"]
  | importSpec => [.node "path"]
  | genDecl => [.closing "rparen", .last "specs", .spelled "tok_pos" "tok"]
  | funcDecl => [.node "body", .last "results", .node "name"]
  | file => [.last "decls", .node "name"]

/-- What gives a node of the kind its edge on a side. -/
def anchors (kind : Kind) : Side → List Anchor
  | .start => kind.startAnchors
  | .stop => kind.stopAnchors

end Kind

end ShadowLint
