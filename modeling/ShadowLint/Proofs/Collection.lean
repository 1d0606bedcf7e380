import Mathlib.Data.List.Forall2
import ShadowLint.Proofs.Verdict

/-!
# A scan collects everything once

What a scan collects is compared with the nodes of the trees: which of them declare, what every
statement writes to, and which names loops bind.  Nothing that stands deeper in a tree is missed,
and nothing is collected twice.
-/

namespace ShadowLint

/-- The node declares variables that may hide others. -/
def Node.IsCandidate (node : Node) : Prop :=
  (node.kind = .assignStmt ∧ node.text "tok" = ":=") ∨
    (node.kind = .genDecl ∧ node.text "tok" = "var")

instance (node : Node) : Decidable node.IsCandidate :=
  inferInstanceAs (Decidable (_ ∨ _))

/-- The target is the name of the symbol. -/
def Node.IsNameOf (resolution : Resolution) (symbol : SymbolId) (target : Node) : Prop :=
  target.ident?.bind (fun ident => resolution.usedAt? ident.place) = some symbol

instance (resolution : Resolution) (symbol : SymbolId) (target : Node) :
    Decidable (target.IsNameOf resolution symbol) :=
  inferInstanceAs (Decidable (_ = _))

/-- The targets that are names of a symbol, each with its statement: in the order of the statements,
and from left to right in a statement. -/
def writings (resolution : Resolution) (symbol : SymbolId) (statements : List Node) :
    List (Node × Node) :=
  statements.flatMap fun statement =>
    (statement.targets.filter (·.IsNameOf resolution symbol)).map fun target => (statement, target)

/-- The write tells where a target stands, and from where to where the statement of the target
goes. -/
def Write.Notes (write : Write) (writing : Node × Node) : Prop :=
  writing.2.ident?.map Ident.position = some write.position ∧
    writing.1.start? = some write.statementStart ∧ writing.1.stop? = some write.statementStop

/-- The scan holds what stands in the nodes, in their order and without repetitions. -/
structure Scan.Collects (scan : Scan) (resolution : Resolution) (nodes : List Node) : Prop where
  /-- The declarations are the nodes that declare variables. -/
  declarations : scan.declarations.map Declaration.node = nodes.filter Node.IsCandidate
  /-- Short declarations are told from declarations of variables. -/
  short_iff : ∀ declaration ∈ scan.declarations,
    declaration = .short declaration.node ↔ declaration.node.kind = .assignStmt
  /-- There is one write to a symbol for each target that is a name of it. -/
  writes : ∀ symbol,
    List.Forall₂ (fun writing write => write.Notes writing) (writings resolution symbol nodes)
      (scan.writesTo symbol)
  /-- Every write is one to the symbol for which its target stands. -/
  symbols : ∀ write ∈ scan.writes, ∃ statement ∈ nodes, ∃ target ∈ statement.targets,
    target.IsNameOf resolution write.symbol ∧ write.Notes (statement, target)
  /-- The short declarations in heads of counted loops. -/
  loopInits : ∀ place, place ∈ scan.loopInits ↔
    ∃ loop ∈ nodes, loop.kind = .forStmt ∧ ∃ init, loop.child? "init" = some init ∧
      (init.kind = .assignStmt ∧ init.text "tok" = ":=") ∧ init.place = place
  /-- No head is there twice. -/
  loopInits_nodup : scan.loopInits.Nodup
  /-- The names that loops over collections bind. -/
  rangeBinders : ∀ position, position ∈ scan.rangeBinders ↔
    ∃ loop ∈ nodes, loop.kind = .rangeStmt ∧ loop.text "tok" = ":=" ∧
      ∃ binder ∈ loop.nodes "key" ++ loop.nodes "value",
        ∃ ident, binder.ident? = some ident ∧ ident.position = position
  /-- No position is there twice. -/
  rangeBinders_nodup : scan.rangeBinders.Nodup

namespace Node

variable {resolution : Resolution} {node : Node}

theorem declaration?_map_node (node : Node) :
    node.declaration?.map Declaration.node = if node.IsCandidate then some node else none := by
  by_cases short : node.isShortDeclaration
  · have candidate : node.IsCandidate := .inl (isShortDeclaration_iff.mp short)
    rw [declaration?, if_pos short, if_pos candidate]
    rfl
  · have candidate_iff : node.IsCandidate ↔ node.kind = .genDecl ∧ node.text "tok" = varToken :=
      or_iff_right fun declares => short (isShortDeclaration_iff.mpr declares)
    rw [declaration?, if_neg short, if_congr candidate_iff rfl rfl]
    split <;> rfl

theorem declaration?_eq_short_iff {declaration : Declaration}
    (declares : node.declaration? = some declaration) :
    declaration = .short declaration.node ↔ declaration.node.kind = .assignStmt := by
  by_cases short : node.isShortDeclaration
  · rw [declaration?, if_pos short] at declares
    obtain rfl := Option.some.inj declares
    have kind_eq : node.kind = .assignStmt := (isShortDeclaration_iff.mp short).1
    exact iff_of_true rfl kind_eq
  · rw [declaration?, if_neg short] at declares
    obtain ⟨⟨kind_eq, -⟩, declares⟩ := Option.ite_none_right_eq_some.mp declares
    obtain rfl := Option.some.inj declares
    have kind_ne : node.kind ≠ .assignStmt := by simp [kind_eq]
    exact iff_of_false Declaration.noConfusion kind_ne

theorem isNameOf_iff {symbol : SymbolId} {target : Node} :
    target.IsNameOf resolution symbol ↔
      ∃ ident, target.written? resolution = some (ident, symbol) := by
  simp only [IsNameOf, Option.bind_eq_some_iff, written?_eq_some_iff]

/-- The writes to a symbol at some targets of a statement, provided that the statement has edges. -/
theorem forall₂_notes {symbol : SymbolId} {targets : List Node}
    (edges : targets.filterMap (written? resolution) ≠ [] →
      node.start? = some (node.edgeOrNowhere .start) ∧
        node.stop? = some (node.edgeOrNowhere .stop)) :
    List.Forall₂ (fun writing write => write.Notes writing)
      ((targets.filter (·.IsNameOf resolution symbol)).map fun target => (node, target))
      (((targets.filterMap (written? resolution)).map node.writeOrNowhere).filter
        (·.symbol == symbol)) := by
  induction targets with
  | nil => exact .nil
  | cons target rest ih =>
      cases written_eq : target.written? resolution with
      | none =>
          have other : ¬target.IsNameOf resolution symbol := by simp [isNameOf_iff, written_eq]
          rw [List.filterMap_cons_none written_eq] at edges ⊢
          rw [List.filter_cons_of_neg (by simpa using other)]
          exact ih edges
      | some written =>
          obtain ⟨ident, found⟩ := written
          rw [List.filterMap_cons_some written_eq] at edges ⊢
          obtain ⟨start_eq, stop_eq⟩ := edges (List.cons_ne_nil _ _)
          have later := ih fun _ => ⟨start_eq, stop_eq⟩
          by_cases same : found = symbol
          · have name : target.IsNameOf resolution symbol :=
              isNameOf_iff.mpr ⟨ident, same ▸ written_eq⟩
            have ident_eq := (written?_eq_some_iff.mp written_eq).1
            rw [List.filter_cons_of_pos (by simpa using name), List.map_cons, List.map_cons,
              List.filter_cons_of_pos (by simpa [writeOrNowhere] using same)]
            refine .cons ⟨?_, start_eq, stop_eq⟩ later
            simp [ident_eq, writeOrNowhere]
          · have other : ¬target.IsNameOf resolution symbol := by
              simp [isNameOf_iff, written_eq, same]
            rw [List.filter_cons_of_neg (by simpa using other), List.map_cons,
              List.filter_cons_of_neg (by simpa [writeOrNowhere] using same)]
            exact later

end Node

theorem forall₂_flatMap {Item Left Right : Type} {Related : Left → Right → Prop}
    {left : Item → List Left} {right : Item → List Right} {items : List Item}
    (each : ∀ item ∈ items, List.Forall₂ Related (left item) (right item)) :
    List.Forall₂ Related (items.flatMap left) (items.flatMap right) := by
  induction items with
  | nil => exact .nil
  | cons item rest ih =>
      have later := ih fun item mem => each item (List.mem_cons_of_mem _ mem)
      exact List.rel_append (each item List.mem_cons_self) later

namespace Scan

variable {resolution : Resolution} {nodes : List Node}

theorem forall₂_writesTo (complete : fault? resolution nodes = none) (symbol : SymbolId) :
    List.Forall₂ (fun writing write => write.Notes writing) (writings resolution symbol nodes)
      ((collected resolution nodes).writesTo symbol) := by
  rw [writings, writesTo, collected, ← List.flatMap_def, List.filter_flatMap]
  exact forall₂_flatMap fun statement mem =>
    Node.forall₂_notes (exists_span_of_complete complete mem)

/-- Every write that was collected is one of those to its symbol. -/
theorem exists_target_of_mem_writes (complete : fault? resolution nodes = none) {write : Write}
    (mem : write ∈ (collected resolution nodes).writes) :
    ∃ statement ∈ nodes, ∃ target ∈ statement.targets,
      target.IsNameOf resolution write.symbol ∧ write.Notes (statement, target) := by
  rw [collected, ← List.flatMap_def, List.mem_flatMap] at mem
  obtain ⟨statement, statement_mem, write_mem⟩ := mem
  obtain ⟨⟨ident, symbol⟩, written_mem, rfl⟩ := List.mem_map.mp write_mem
  have edges := exists_span_of_complete complete statement_mem (List.ne_nil_of_mem written_mem)
  obtain ⟨target, target_mem, written_eq⟩ := List.mem_filterMap.mp written_mem
  have position_eq : target.ident?.map Ident.position = some ident.position := by
    rw [(Node.written?_eq_some_iff.mp written_eq).1, Option.map_some]
  have name : target.IsNameOf resolution symbol := Node.isNameOf_iff.mpr ⟨ident, written_eq⟩
  exact ⟨statement, statement_mem, target, target_mem, name, position_eq, edges⟩

/-- A scan of trees that does not break off collects from all their nodes, whatever lies around
them. -/
theorem ofTrees_collects {trees : List Node} {scan : Scan}
    (returns : (ofTrees resolution trees).outcome.1 = .ok scan) :
    scan.Collects resolution (trees.flatMap Node.preorder) := by
  obtain ⟨complete, rfl⟩ := (settles_ofTrees resolution trees).outcome_eq_ok_iff.mp returns
  exact
    { declarations := by
        rw [collected, List.map_filterMap, ← List.filterMap_eq_filter]
        refine List.filterMap_congr fun node _ => ?_
        rw [Node.declaration?_map_node, Option.guard]
        simp
      short_iff := by
        intro declaration mem
        obtain ⟨node, -, declares⟩ := List.mem_filterMap.mp mem
        exact Node.declaration?_eq_short_iff declares
      writes := forall₂_writesTo complete
      symbols := fun _ => exists_target_of_mem_writes complete
      loopInits := fun _ => mem_loopInits_iff
      loopInits_nodup := nodup_eraseDups _
      rangeBinders := fun _ => mem_rangeBinders_iff
      rangeBinders_nodup := nodup_eraseDups _ }

end Scan

namespace Specimen

/-- The object of a block of statements. -/
def block (position : Int) (statements : List Json) : Json :=
  .object [("node", .string "BlockStmt"), ("lbrace", .int position), ("stmts", .array statements),
    ("rbrace", .int (position + 20))]

/-- In a loop whose head is `x := y`, a loop binds `z` and writes to the inner `x` three times: by
`x++`, and on both sides of the comma in `x, x = y, y`. -/
def nestedLoops : List Json :=
  [.object [("node", .string "ForStmt"), ("for_pos", .int 21),
    ("init", assignment ":=" [name "x" 25 [("def", .int 1)]] [name "y" 30 []]),
    ("cond", .null), ("post", .null),
    ("body", block 32
      [.object [("node", .string "RangeStmt"), ("for_pos", .int 33), ("key", name "z" 37 []),
        ("value", .null), ("tok_pos", .int 39), ("tok", .string ":="), ("x", name "y" 48 []),
        ("body", block 49
          [.object [("node", .string "IncDecStmt"), ("x", name "x" 51 [("use", .int 1)]),
              ("tok_pos", .int 52), ("tok", .string "++")],
            assignment "=" [name "x" 55 [("use", .int 1)], name "x" 58 [("use", .int 1)]]
              [name "y" 62 [], name "y" 65 []]])]])]]

/-- The three writes are collected from left to right, once each, with the head of the outer loop
and the name that the inner loop binds. -/
theorem collects_nestedLoops :
    ∃ scan, (Scan.ofTrees (package nestedLoops).resolution
        (package nestedLoops).trees).outcome.1 = .ok scan ∧
      scan.Collects (package nestedLoops).resolution
        ((package nestedLoops).trees.flatMap Node.preorder) ∧
      (scan.writesTo (.declared 1)).map (fun write => (write.position, write.statementStop)) =
        [(51, 54), (55, 66), (58, 66)] ∧
      scan.declarations.length = 1 ∧ scan.loopInits.length = 1 ∧ scan.rangeBinders = [37] := by
  have complete : (package nestedLoops).scanFault? = none := by decide +kernel
  have settles := Scan.settles_ofTrees (package nestedLoops).resolution (package nestedLoops).trees
  have returns := settles.outcome_eq_ok_iff.mpr ⟨complete, rfl⟩
  exact ⟨_, returns, Scan.ofTrees_collects returns, by decide +kernel, by decide +kernel,
    by decide +kernel, by decide +kernel⟩

end Specimen

end ShadowLint
