import ShadowLint.Analysis
import ShadowLint.Proofs.Syntax.Traversal
import ShadowLint.Proofs.Trace

/-!
# What one node adds to a scan

The scan breaks off at a node that needs an edge and has none; otherwise the node adds what can be
read off it, and nothing depends on what was collected before.  The parts of a node are always
visited after it, so a scan of trees handles their nodes one after the other.
-/

namespace ShadowLint

namespace Node

/-- The fault of asking for an edge of a node that has none on that side. -/
def missingEdge? (node : Node) (side : Side) : Option NoEdge :=
  if (node.edgePosition? side).isNone then some ⟨node.kind⟩ else none

/-- The fault of asking for both edges of a node. -/
def edgeFault? (node : Node) : Option NoEdge :=
  (node.missingEdge? .start).or (node.missingEdge? .stop)

/-- The position of an edge of a node, or that of nothing. -/
def edgeOrNowhere (node : Node) (side : Side) : Int :=
  (node.edgePosition? side).getD noPosition

theorem missingEdge?_eq_none_iff {node : Node} {side : Side} :
    node.missingEdge? side = none ↔ ∃ position, node.edgePosition? side = some position := by
  cases position_eq : node.edgePosition? side <;> simp [missingEdge?, position_eq]

theorem edgeFault?_eq_none_iff {node : Node} :
    node.edgeFault? = none ↔ ∀ side, ∃ position, node.edgePosition? side = some position := by
  rw [edgeFault?, Option.or_eq_none_iff, missingEdge?_eq_none_iff, missingEdge?_eq_none_iff]
  constructor
  · intro both side
    cases side with
    | start => exact both.1
    | stop => exact both.2
  · intro both
    exact ⟨both .start, both .stop⟩

end Node

namespace Trace

theorem settles_edge (node : Node) (side : Side) :
    (edge node side).Settles (node.missingEdge? side) (node.edgeOrNowhere side) := by
  cases position_eq : node.edgePosition? side with
  | none =>
      rw [edge, Node.missingEdge?, position_eq]
      exact settles_throw _ _
  | some position =>
      rw [edge, Node.missingEdge?, Node.edgeOrNowhere, position_eq]
      exact settles_pure _

end Trace

namespace Node

/-- What a statement writes to. -/
def targets (node : Node) : List Node :=
  match node.kind with
  | .assignStmt => node.nodes "lhs"
  | .incDecStmt => node.nodes "x"
  | _ => []

/-- The targets of a statement that are names of symbols, with the symbols. -/
def writtenSymbols (resolution : Resolution) (node : Node) : List (Ident × SymbolId) :=
  node.targets.filterMap (written? resolution)

/-- The declaration in the head of a counted loop. -/
def loopInit? (node : Node) : Option Node :=
  if node.kind = .forStmt then (node.child? "init").filter isShortDeclaration else none

/-- What a loop over a collection binds. -/
def rangeBinders (node : Node) : List Node :=
  if node.kind = .rangeStmt ∧ node.text "tok" = defineToken then
    node.nodes "key" ++ node.nodes "value"
  else
    []

/-- The positions of the names that a loop over a collection binds. -/
def rangeBinderPositions (node : Node) : List Int :=
  (node.rangeBinders.filterMap Node.ident?).map Ident.position

variable {resolution : Resolution} {node : Node}

theorem isShortDeclaration_iff :
    node.isShortDeclaration ↔ node.kind = .assignStmt ∧ node.text "tok" = ":=" := by
  rw [isShortDeclaration, Bool.and_eq_true, beq_iff_eq, beq_iff_eq, defineToken]

/-- A declaration is the node that it was told from. -/
theorem node_of_declaration?_eq_some {declaration : Declaration}
    (declares : node.declaration? = some declaration) : declaration.node = node := by
  unfold declaration? at declares
  split at declares
  · obtain rfl := Option.some.inj declares
    rfl
  · obtain ⟨-, same⟩ := Option.ite_none_right_eq_some.mp declares
    obtain rfl := Option.some.inj same
    rfl

theorem written?_eq_some_iff {target : Node} {ident : Ident} {symbol : SymbolId} :
    target.written? resolution = some (ident, symbol) ↔
      target.ident? = some ident ∧ resolution.usedAt? ident.place = some symbol := by
  simp only [written?, Option.bind_eq_bind, Option.bind_eq_some_iff, Option.pure_def,
    Option.some.injEq, Prod.mk.injEq]
  constructor
  · intro found
    obtain ⟨other, other_eq, used, used_eq, rfl, rfl⟩ := found
    exact ⟨other_eq, used_eq⟩
  · intro found
    exact ⟨ident, found.1, symbol, found.2, rfl, rfl⟩

theorem mem_writtenSymbols_iff {ident : Ident} {symbol : SymbolId} :
    (ident, symbol) ∈ node.writtenSymbols resolution ↔
      ∃ target ∈ node.targets, target.ident? = some ident ∧
        resolution.usedAt? ident.place = some symbol := by
  simp only [writtenSymbols, List.mem_filterMap, written?_eq_some_iff]

/-- A statement writes to the targets of an assignment, or to what it increments. -/
theorem mem_targets_iff {target : Node} :
    target ∈ node.targets ↔
      (node.kind = .assignStmt ∧ target ∈ node.nodes "lhs") ∨
        (node.kind = .incDecStmt ∧ target ∈ node.nodes "x") := by
  unfold targets
  split
  · rename_i assigns
    simp [assigns]
  · rename_i increments
    simp [increments]
  · rename_i not_assigns not_increments
    simp only [List.not_mem_nil, false_iff, not_or, not_and]
    exact ⟨fun assigns => (not_assigns assigns).elim,
      fun increments => (not_increments increments).elim⟩

/-- The write of a statement to a symbol, nowhere if it has no edges. -/
def writeOrNowhere (node : Node) (written : Ident × SymbolId) : Write :=
  ⟨written.2, written.1.position, node.edgeOrNowhere .start, node.edgeOrNowhere .stop⟩

/-- The fault of telling the ignored binders of a loop. -/
def binderFault? (node : Node) : Option NoEdge :=
  (node.rangeBinders.filter fun binder => binder.ident?.isNone).findSome? (missingEdge? · .start)

/-- The fault of noting the writes of a statement. -/
def writeFault? (resolution : Resolution) (node : Node) : Option NoEdge :=
  if node.writtenSymbols resolution = [] then none else node.edgeFault?

/-- The writes of a statement, nowhere if it has no edges. -/
def writesOrNowhere (resolution : Resolution) (node : Node) : List Write :=
  (node.writtenSymbols resolution).map node.writeOrNowhere

end Node

namespace Scanner

variable {Item Result : Type}

/-- Whatever was collected and told before, the pass breaks off at the fault if there is one, and
otherwise changes what was collected. -/
def Settles (pass : Scanner Unit) (fault? : Option NoEdge) (change : Scan → Scan) : Prop :=
  ∀ scan, Trace.Settles (pass.run scan) fault? ((), change scan)

theorem settles_pure : Settles (pure ()) none id := fun scan => Trace.settles_pure ((), scan)

theorem settles_modify (change : Scan → Scan) : Settles (modify change) none change :=
  fun scan => Trace.settles_pure ((), change scan)

theorem Settles.bind {first next : Scanner Unit} {fault? nextFault? : Option NoEdge}
    {change nextChange : Scan → Scan} (settles : first.Settles fault? change)
    (nextSettles : next.Settles nextFault? nextChange) :
    Settles (do first; next) (fault?.or nextFault?) fun scan => nextChange (change scan) := by
  intro scan
  rw [StateT.run_bind]
  exact (settles scan).bind fun _ => nextSettles (change scan)

/-- A pass may begin with a trace, which collects nothing. -/
theorem settles_lift {trace : Trace Result} {next : Result → Scanner Unit}
    {fault? nextFault? : Option NoEdge} {result : Result} {change : Scan → Scan}
    (settles : trace.Settles fault? result)
    (nextSettles : (next result).Settles nextFault? change) :
    Settles (liftM trace >>= next) (fault?.or nextFault?) change := by
  intro scan
  have run_eq : (liftM trace >>= next : Scanner Unit).run scan =
      (trace >>= fun result => (next result).run scan : Trace (Unit × Scan)) := by
    simp
  rw [run_eq]
  exact settles.bind fun _ => nextSettles scan

theorem settles_tell (event : Event) : Settles (liftM (Trace.tell event)) none id := by
  intro scan
  have run_eq : (liftM (Trace.tell event) : Scanner Unit).run scan =
      (Trace.tell event >>= fun _ => pure ((), scan) : Trace (Unit × Scan)) := by
    simp
  rw [run_eq]
  exact (Trace.settles_tell event).bind_none (Trace.settles_pure ((), scan))

theorem Settles.congr {pass : Scanner Unit} {fault? otherFault? : Option NoEdge}
    {change otherChange : Scan → Scan} (settles : pass.Settles fault? change)
    (fault_eq : fault? = otherFault?) (change_eq : ∀ scan, change scan = otherChange scan) :
    pass.Settles otherFault? otherChange := by
  obtain rfl : change = otherChange := funext change_eq
  exact fault_eq ▸ settles

/-- Items are handled one after the other, up to the first at which the handling breaks off. -/
theorem settles_forM {handle : Item → Scanner Unit} {fault? : Item → Option NoEdge}
    {change : Scan → Item → Scan}
    (each : ∀ item, (handle item).Settles (fault? item) (change · item)) (items : List Item) :
    Settles (items.forM handle) (items.findSome? fault?) (items.foldl change) := by
  induction items with
  | nil => exact settles_pure
  | cons item rest ih =>
      rw [Trace.findSome?_cons_eq_or]
      exact (each item).bind ih

/-- Items may change what was collected, one item after the other. -/
theorem settles_modifies (change : Scan → Item → Scan) (items : List Item) :
    Settles (items.forM fun item => modify (change · item)) none (items.foldl change) := by
  have each (item : Item) : Settles (modify (change · item)) none (change · item) :=
    settles_modify _
  exact (settles_forM each items).congr (by simp) fun _ => rfl

variable (resolution : Resolution) (node : Node)

/-- The write of a statement is collected if the target is the name of a symbol. -/
theorem settles_recordWrite (target : Node) :
    Settles (recordWrite resolution node target)
      ((target.written? resolution).bind fun _ => node.edgeFault?)
      fun scan =>
        ((target.written? resolution).map node.writeOrNowhere).elim scan scan.addWrite := by
  unfold recordWrite
  cases target.written? resolution with
  | none => exact settles_pure
  | some written =>
      obtain ⟨ident, symbol⟩ := written
      refine settles_lift (Trace.settles_edge node .start) ?_
      rw [← Option.or_none (o := node.missingEdge? .stop)]
      exact settles_lift (Trace.settles_edge node .stop) (settles_modify _)

/-- All writes of a statement have the edges of the statement. -/
theorem findSome?_bind_const {found? : Item → Option Result} {fault? : Option NoEdge}
    (items : List Item) :
    (items.findSome? fun item => (found? item).bind fun _ => fault?) =
      if items.filterMap found? = [] then none else fault? := by
  induction items with
  | nil => rfl
  | cons item rest ih =>
      rw [Trace.findSome?_cons_eq_or, ih, List.filterMap_cons]
      cases found? item with
      | none => rfl
      | some found => cases fault? <;> simp

theorem foldl_addWrite {write? : Item → Option Write} (items : List Item) (scan : Scan) :
    items.foldl (fun scan item => (write? item).elim scan scan.addWrite) scan =
      { scan with writes := scan.writes ++ items.filterMap write? } := by
  induction items generalizing scan with
  | nil => simp
  | cons item rest ih =>
      rw [List.foldl_cons, ih, List.filterMap_cons]
      cases write? item with
      | none => rfl
      | some write => simp [Scan.addWrite]

/-- The writes of a statement to some targets are collected in the order of the targets. -/
theorem settles_recordWrites (targets : List Node) :
    Settles (targets.forM (recordWrite resolution node))
      (if targets.filterMap (Node.written? resolution) = [] then none else node.edgeFault?)
      fun scan => { scan with writes := scan.writes ++
        (targets.filterMap (Node.written? resolution)).map node.writeOrNowhere } := by
  refine (settles_forM (settles_recordWrite resolution node) targets).congr
    (findSome?_bind_const targets) fun scan => ?_
  rw [foldl_addWrite, List.map_filterMap]

/-- A binder is collected if it is a name, and told otherwise. -/
theorem settles_recordBinder (binder : Node) :
    Settles (recordBinder binder)
      (if binder.ident?.isNone then binder.missingEdge? .start else none)
      fun scan => binder.ident?.elim scan fun ident => scan.addRangeBinder ident.position := by
  unfold recordBinder
  cases binder.ident? with
  | some ident => exact settles_modify _
  | none =>
      change Settles _ (binder.missingEdge? .start) id
      rw [← Option.or_none (o := binder.missingEdge? .start)]
      exact settles_lift (Trace.settles_edge binder .start) (settles_tell _)

theorem foldl_addRangeBinder (binders : List Node) (scan : Scan) :
    binders.foldl (fun scan binder =>
        binder.ident?.elim scan fun ident => scan.addRangeBinder ident.position) scan =
      { scan with
        rangeBinders := ((binders.filterMap Node.ident?).map Ident.position).foldl appendNew
          scan.rangeBinders } := by
  induction binders generalizing scan with
  | nil => rfl
  | cons binder rest ih =>
      rw [List.foldl_cons, ih, List.filterMap_cons]
      cases binder.ident? with
      | none => rfl
      | some ident => rfl

theorem findSome?_filter {keep : Item → Bool} {found? : Item → Option Result} (items : List Item) :
    (items.filter keep).findSome? found? =
      items.findSome? fun item => if keep item then found? item else none := by
  rw [← List.head?_filterMap, List.filterMap_filter, List.head?_filterMap]

/-- Binders that are names are collected and the others told. -/
theorem settles_recordBinders (binders : List Node) :
    Settles (binders.forM recordBinder)
      ((binders.filter fun binder => binder.ident?.isNone).findSome?
        (Node.missingEdge? · .start))
      fun scan => { scan with
        rangeBinders := ((binders.filterMap Node.ident?).map Ident.position).foldl appendNew
          scan.rangeBinders } :=
  (settles_forM settles_recordBinder binders).congr (findSome?_filter binders).symm
    (foldl_addRangeBinder binders)

/-- What the scanner does at a node before it visits the parts. -/
def record : Scanner Unit :=
  (visitor resolution).dispatch node (pure ())

/-- No method leaves out the parts of its node, and none does anything after them. -/
theorem dispatch_eq (parts : Scanner Unit) :
    (visitor resolution).dispatch node parts = (do record resolution node; parts) := by
  unfold record Visitor.dispatch visitor
  cases node.kind
  case assignStmt =>
    by_cases declares : node.isShortDeclaration <;> simp [visitAssignment, declares]
  case incDecStmt => simp [visitIncrement]
  case genDecl =>
    by_cases declares : node.text "tok" = varToken <;> simp [visitDeclarations, declares]
  case forStmt =>
    cases init_eq : node.child? "init" with
    | none => simp [visitFor, init_eq]
    | some init =>
        by_cases declares : init.isShortDeclaration <;> simp [visitFor, init_eq, declares]
  case rangeStmt =>
    by_cases binds : node.text "tok" = defineToken <;> simp [visitRange, binds]
  all_goals simp

/-- A visit handles the nodes of a tree one after the other. -/
theorem visit_eq :
    (visitor resolution).visit node = node.preorder.forM (record resolution) := by
  rw [← node.visit_eq_preorder]
  exact Visitor.visit_eq_forM (fun _ => false) (dispatch_eq resolution) node

/-- The five methods together collect what can be read off a node.  A method leaves out what the
nodes of its kind never have. -/
theorem record_eq : record resolution node = (do
    node.declaration?.toList.forM fun declaration => modify (·.addDeclaration declaration)
    node.rangeBinders.forM recordBinder
    node.targets.forM (recordWrite resolution node)
    node.loopInit?.toList.forM fun init => modify (·.addLoopInit init.place)) := by
  cases kind_eq : node.kind <;>
    simp only [record, Visitor.dispatch, visitor, Node.declaration?, Node.isShortDeclaration,
      Node.rangeBinders, Node.targets, Node.loopInit?, kind_eq]
  case assignStmt =>
    by_cases declares : node.text "tok" = defineToken <;>
      simp [visitAssignment, Node.isShortDeclaration, kind_eq, declares]
  case incDecStmt => simp [visitIncrement]
  case genDecl =>
    by_cases declares : node.text "tok" = varToken <;> simp [visitDeclarations, declares]
  case forStmt =>
    cases init_eq : node.child? "init" with
    | none => simp [visitFor, init_eq]
    | some init =>
        by_cases declares : init.isShortDeclaration <;>
          simp [visitFor, init_eq, declares, Option.filter_some]
  case rangeStmt =>
    by_cases binds : node.text "tok" = defineToken <;> simp [visitRange, binds]
  all_goals simp

end Scanner

namespace Scan

/-- What is collected after one more node, where missing edges are nowhere. -/
def after (resolution : Resolution) (scan : Scan) (node : Node) : Scan where
  declarations := scan.declarations ++ node.declaration?.toList
  writes := scan.writes ++ node.writesOrNowhere resolution
  loopInits := (node.loopInit?.toList.map Node.place).foldl appendNew scan.loopInits
  rangeBinders := node.rangeBinderPositions.foldl appendNew scan.rangeBinders

theorem foldl_addDeclaration (declarations : List Declaration) (scan : Scan) :
    declarations.foldl addDeclaration scan =
      { scan with declarations := scan.declarations ++ declarations } := by
  induction declarations generalizing scan with
  | nil => simp
  | cons declaration rest ih => simp [ih, addDeclaration]

theorem foldl_addLoopInit (inits : List Node) (scan : Scan) :
    inits.foldl (fun scan init => scan.addLoopInit init.place) scan =
      { scan with loopInits := (inits.map Node.place).foldl appendNew scan.loopInits } := by
  induction inits generalizing scan with
  | nil => rfl
  | cons init rest ih => rw [List.foldl_cons, ih, addLoopInit, List.map_cons, List.foldl_cons]

end Scan

namespace Scanner

variable (resolution : Resolution) (node : Node)

/-- A node adds what can be read off it, up to the edge that it does not have. -/
theorem settles_record :
    (record resolution node).Settles (node.binderFault?.or (node.writeFault? resolution))
      (Scan.after resolution · node) := by
  have declares := settles_modifies Scan.addDeclaration node.declaration?.toList
  have binds := settles_recordBinders node.rangeBinders
  have writes := settles_recordWrites resolution node node.targets
  have inits := settles_modifies (fun scan init => scan.addLoopInit (Node.place init))
    node.loopInit?.toList
  rw [record_eq]
  refine (declares.bind (binds.bind (writes.bind inits))).congr ?_ fun scan => ?_
  · rw [Option.none_or, Option.or_none]
    rfl
  · rw [Scan.foldl_addDeclaration, Scan.foldl_addLoopInit]
    rfl

end Scanner

end ShadowLint
