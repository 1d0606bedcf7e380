/-!
# Kinds of syntax nodes

The constructs of a block-scoped language with short variable declarations, as a front-end delivers
them.
-/

namespace ShadowLint

/-- The construct that a node stands for. -/
inductive Kind where
  | ident | basicLit | badExpr | parenExpr | selectorExpr | indexExpr | starExpr | unaryExpr
  | binaryExpr | callExpr | typeAssertExpr | field | funcLit
  | badStmt | assignStmt | incDecStmt | exprStmt | blockStmt | ifStmt | forStmt | rangeStmt
  | caseClause | switchStmt | typeSwitchStmt | returnStmt | deferStmt | goStmt | declStmt
  | valueSpec | typeSpec | importSpec | genDecl | funcDecl | file
deriving DecidableEq, Repr

/-- The role of a construct. -/
inductive Role where
  | expr | stmt | spec | decl | other
deriving DecidableEq, Repr

namespace Kind

/-- All kinds. -/
def all : List Kind :=
  [ident, basicLit, badExpr, parenExpr, selectorExpr, indexExpr, starExpr, unaryExpr, binaryExpr,
    callExpr, typeAssertExpr, field, funcLit, badStmt, assignStmt, incDecStmt, exprStmt, blockStmt,
    ifStmt, forStmt, rangeStmt, caseClause, switchStmt, typeSwitchStmt, returnStmt, deferStmt,
    goStmt, declStmt, valueSpec, typeSpec, importSpec, genDecl, funcDecl, file]

/-- The name of a kind in documents and messages. -/
def name : Kind → String
  | ident => "Ident"
  | basicLit => "BasicLit"
  | badExpr => "BadExpr"
  | parenExpr => "ParenExpr"
  | selectorExpr => "SelectorExpr"
  | indexExpr => "IndexExpr"
  | starExpr => "StarExpr"
  | unaryExpr => "UnaryExpr"
  | binaryExpr => "BinaryExpr"
  | callExpr => "CallExpr"
  | typeAssertExpr => "TypeAssertExpr"
  | field => "Field"
  | funcLit => "FuncLit"
  | badStmt => "BadStmt"
  | assignStmt => "AssignStmt"
  | incDecStmt => "IncDecStmt"
  | exprStmt => "ExprStmt"
  | blockStmt => "BlockStmt"
  | ifStmt => "IfStmt"
  | forStmt => "ForStmt"
  | rangeStmt => "RangeStmt"
  | caseClause => "CaseClause"
  | switchStmt => "SwitchStmt"
  | typeSwitchStmt => "TypeSwitchStmt"
  | returnStmt => "ReturnStmt"
  | deferStmt => "DeferStmt"
  | goStmt => "GoStmt"
  | declStmt => "DeclStmt"
  | valueSpec => "ValueSpec"
  | typeSpec => "TypeSpec"
  | importSpec => "ImportSpec"
  | genDecl => "GenDecl"
  | funcDecl => "FuncDecl"
  | file => "File"

/-- The kind with a name. -/
def ofName? (name : String) : Option Kind :=
  all.find? (·.name == name)

/-- The role of a kind. -/
def role : Kind → Role
  | ident | basicLit | badExpr | parenExpr | selectorExpr | indexExpr | starExpr | unaryExpr
  | binaryExpr | callExpr | typeAssertExpr | funcLit => .expr
  | badStmt | assignStmt | incDecStmt | exprStmt | blockStmt | ifStmt | forStmt | rangeStmt
  | caseClause | switchStmt | typeSwitchStmt | returnStmt | deferStmt | goStmt | declStmt => .stmt
  | valueSpec | typeSpec | importSpec => .spec
  | genDecl | funcDecl => .decl
  | field | file => .other

end Kind

end ShadowLint
