import ShadowLint.Proofs.Scanner

/-!
# What a scan collects

A scan breaks off at the first node that needs an edge and has none; otherwise it collects the same
things as a scan in which missing edges are nowhere.
-/

namespace ShadowLint

section Repetitions

variable {Item : Type} [DecidableEq Item]

theorem nodup_appendNew {items : List Item} (distinct : items.Nodup) (item : Item) :
    (appendNew items item).Nodup := by
  rw [appendNew]
  split
  · exact distinct
  · rename_i new
    have in_front : (item :: items).Nodup := List.nodup_cons.mpr ⟨new, distinct⟩
    exact (List.perm_append_singleton item items).nodup_iff.mpr in_front

variable [BEq Item] [LawfulBEq Item]

theorem appendNew_eq_eraseDups (items : List Item) (item : Item) :
    appendNew items.eraseDups item = (items ++ [item]).eraseDups := by
  rw [appendNew, List.eraseDups_append, List.removeAll]
  by_cases there : item ∈ items
  · simp [there]
  · simp [there, List.eraseDups_cons]

/-- Adding items one after the other leaves out all repetitions. -/
theorem foldl_appendNew_eq_eraseDups (items more : List Item) :
    more.foldl appendNew items.eraseDups = (items ++ more).eraseDups := by
  induction more generalizing items with
  | nil => rw [List.foldl_nil, List.append_nil]
  | cons item rest ih =>
      rw [List.foldl_cons, appendNew_eq_eraseDups, ih, List.append_assoc, List.singleton_append]

theorem nodup_eraseDups (items : List Item) : items.eraseDups.Nodup := by
  have built : items.foldl appendNew [] = items.eraseDups := foldl_appendNew_eq_eraseDups [] items
  rw [← built]
  exact List.foldlRecOn items appendNew List.nodup_nil fun _ distinct item _ =>
    nodup_appendNew distinct item

end Repetitions

namespace Scan

/-- What a scan of nodes collects that does not break off. -/
def collected (resolution : Resolution) (nodes : List Node) : Scan where
  declarations := nodes.filterMap Node.declaration?
  writes := (nodes.map (Node.writesOrNowhere resolution)).flatten
  loopInits := ((nodes.filterMap Node.loopInit?).map Node.place).eraseDups
  rangeBinders := (nodes.flatMap Node.rangeBinderPositions).eraseDups

/-- The fault at which a scan of nodes breaks off. -/
def fault? (resolution : Resolution) (nodes : List Node) : Option NoEdge :=
  nodes.findSome? fun node => node.binderFault?.or (node.writeFault? resolution)

/-- Where a scan does not break off, a statement that writes to a symbol has both edges. -/
theorem exists_span_of_complete {resolution : Resolution} {nodes : List Node} {statement : Node}
    (complete : fault? resolution nodes = none) (mem : statement ∈ nodes)
    (writes : statement.writtenSymbols resolution ≠ []) :
    statement.start? = some (statement.edgeOrNowhere .start) ∧
      statement.stop? = some (statement.edgeOrNowhere .stop) := by
  have clean := List.findSome?_eq_none_iff.mp complete statement mem
  rw [Option.or_eq_none_iff, Node.writeFault?, if_neg writes, Node.edgeFault?_eq_none_iff] at clean
  have present (side : Side) :
      statement.edgePosition? side = some (statement.edgeOrNowhere side) := by
    obtain ⟨position, position_eq⟩ := clean.2 side
    rw [Node.edgeOrNowhere, position_eq, Option.getD_some]
  exact ⟨present .start, present .stop⟩

/-- The heads of counted loops are collected if they are short declarations. -/
theorem mem_loopInits_iff {resolution : Resolution} {nodes : List Node} {place : Place} :
    place ∈ (collected resolution nodes).loopInits ↔
      ∃ loop ∈ nodes, loop.kind = .forStmt ∧ ∃ init, loop.child? "init" = some init ∧
        (init.kind = .assignStmt ∧ init.text "tok" = ":=") ∧ init.place = place := by
  rw [collected, List.mem_eraseDups, List.mem_map]
  simp only [List.mem_filterMap, Node.loopInit?, Option.ite_none_right_eq_some,
    Option.filter_eq_some_iff, Node.isShortDeclaration_iff]
  constructor
  · intro found
    obtain ⟨init, ⟨loop, mem, kind_eq, init_eq, short⟩, place_eq⟩ := found
    exact ⟨loop, mem, kind_eq, init, init_eq, short, place_eq⟩
  · intro found
    obtain ⟨loop, mem, kind_eq, init, init_eq, short, place_eq⟩ := found
    exact ⟨init, ⟨loop, mem, kind_eq, init_eq, short⟩, place_eq⟩

/-- The names are collected that loops over collections bind. -/
theorem mem_rangeBinders_iff {resolution : Resolution} {nodes : List Node} {position : Int} :
    position ∈ (collected resolution nodes).rangeBinders ↔
      ∃ loop ∈ nodes, loop.kind = .rangeStmt ∧ loop.text "tok" = ":=" ∧
        ∃ binder ∈ loop.nodes "key" ++ loop.nodes "value",
          ∃ ident, binder.ident? = some ident ∧ ident.position = position := by
  rw [collected, List.mem_eraseDups, List.mem_flatMap]
  refine exists_congr fun loop => and_congr_right fun _ => ?_
  simp only [Node.rangeBinderPositions, List.mem_map, List.mem_filterMap]
  constructor
  · intro found
    obtain ⟨ident, ⟨binder, binder_mem, ident_eq⟩, position_eq⟩ := found
    rw [Node.rangeBinders] at binder_mem
    split at binder_mem
    · rename_i binds
      exact ⟨binds.1, binds.2, binder, binder_mem, ident, ident_eq, position_eq⟩
    · cases binder_mem
  · intro found
    obtain ⟨kind_eq, token_eq, binder, binder_mem, ident, ident_eq, position_eq⟩ := found
    refine ⟨ident, ⟨binder, ?_, ident_eq⟩, position_eq⟩
    rwa [Node.rangeBinders, if_pos ⟨kind_eq, token_eq⟩]

/-- One more node adds its own things to what the nodes before it gave. -/
theorem after_collected (resolution : Resolution) (nodes : List Node) (node : Node) :
    (collected resolution nodes).after resolution node =
      collected resolution (nodes ++ [node]) := by
  have inits : node.loopInit?.toList = [node].filterMap Node.loopInit? := by
    cases found : node.loopInit? <;> simp [found]
  have declares : node.declaration?.toList = [node].filterMap Node.declaration? := by
    cases found : node.declaration? <;> simp [found]
  simp only [after, collected, foldl_appendNew_eq_eraseDups, inits, declares]
  simp

theorem foldl_after (resolution : Resolution) (nodes more : List Node) :
    more.foldl (after resolution) (collected resolution nodes) =
      collected resolution (nodes ++ more) := by
  induction more generalizing nodes with
  | nil => rw [List.foldl_nil, List.append_nil]
  | cons node rest ih =>
      rw [List.foldl_cons, after_collected, ih, List.append_assoc, List.singleton_append]

/-- The trees are scanned node by node, whatever lies around a node. -/
theorem settles_ofTrees (resolution : Resolution) (trees : List Node) :
    (ofTrees resolution trees).Settles (fault? resolution (trees.flatMap Node.preorder))
      (collected resolution (trees.flatMap Node.preorder)) := by
  have visits : trees.forM (Scanner.visitor resolution).visit =
      (trees.flatMap Node.preorder).forM (Scanner.record resolution) := by
    rw [forM_flatMap]
    exact forM_congr fun tree _ => Scanner.visit_eq resolution tree
  have gathered : (trees.flatMap Node.preorder).foldl (after resolution) empty =
      collected resolution (trees.flatMap Node.preorder) := foldl_after resolution [] _
  have scans := Scanner.settles_forM (Scanner.settles_record resolution)
    (trees.flatMap Node.preorder)
  rw [← visits] at scans
  rw [← Option.or_none (o := fault? resolution _), ← gathered]
  exact (scans empty).bind fun _ => (Trace.settles_tell _).bind_none (Trace.settles_pure _)

end Scan

namespace Package

/-- What the check needs to know about a package, where missing edges are nowhere. -/
def evidence (package : Package) : Evidence :=
  ⟨package, .collected package.resolution package.nodes, .ofResolution package.resolution⟩

/-- The fault at which gathering the evidence breaks off. -/
def scanFault? (package : Package) : Option NoEdge :=
  Scan.fault? package.resolution package.nodes

theorem settles_gather (package : Package) :
    package.gather.Settles package.scanFault? package.evidence := by
  rw [← Option.or_none (o := package.scanFault?)]
  exact (Scan.settles_ofTrees _ _).bind fun _ => Trace.settles_pure _

end Package
end ShadowLint
