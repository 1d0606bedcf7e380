import Mathlib.Data.List.Basic
import ShadowLint.Proofs.Dump.Success
import ShadowLint.Proofs.Syntax.Conformance

/-!
# Traversals agree

The stack of a walk holds the trees that are still to be read, so every round gives the next node of
the pre-order, and a visitor comes to the nodes of the pre-order that do not lie below a node whose
parts it leaves out.  The nodes themselves are told apart by their paths from the root: the
pre-order lists each path once, in lexicographic order.
-/

namespace ShadowLint

section Notes

variable {Item Note : Type}

/-- Whatever was noted before, the action adds the notes behind it. -/
def Appends (act : StateM (List Note) Unit) (notes : List Note) : Prop :=
  ∀ noted, (act.run noted).run = ((), noted ++ notes)

theorem appends_pure : Appends (pure () : StateM (List Note) Unit) [] := fun noted => by simp

theorem appends_modify (notes : List Note) : Appends (modify (· ++ notes)) notes := fun _ => rfl

theorem Appends.bind {first next : StateM (List Note) Unit} {notes later : List Note}
    (appends : Appends first notes) (nextAppends : Appends next later) :
    Appends (do first; next) (notes ++ later) := by
  intro noted
  rw [StateT.run_bind, Id.run_bind, appends noted, nextAppends, List.append_assoc]

theorem appends_forM {act : Item → StateM (List Note) Unit} {notes : Item → List Note}
    {items : List Item} (each : ∀ item ∈ items, Appends (act item) (notes item)) :
    Appends (items.forM act) (items.flatMap notes) := by
  induction items with
  | nil => exact appends_pure
  | cons item rest ih =>
      have first := each item List.mem_cons_self
      exact first.bind (ih fun item mem => each item (List.mem_cons_of_mem _ mem))

/-- What was noted when nothing was noted before. -/
theorem Appends.noted_eq {act : StateM (List Note) Unit} {notes : List Note}
    (appends : Appends act notes) : (act.run []).2 = notes :=
  congrArg Prod.snd (appends [])

end Notes

section Recorder

variable (closed : Kind → Bool)

theorem dispatch_recorder (node : Node) (parts : StateM (List Node) Unit) :
    (Visitor.recorder closed).dispatch node parts =
      (do modify (· ++ [node]); if closed node.kind then pure () else parts) := by
  by_cases leaves : closed node.kind <;> simp [Visitor.dispatch, Visitor.recorder, leaves]

/-- The recorder notes a node, and what it notes of the parts unless it leaves them out. -/
theorem appends_dispatch (node : Node) {parts : StateM (List Node) Unit} {notes : List Node}
    (appends : Appends parts notes) :
    Appends ((Visitor.recorder closed).dispatch node parts)
      (node :: if closed node.kind then [] else notes) := by
  have goesOn : Appends (if closed node.kind then pure () else parts)
      (if closed node.kind then [] else notes) := by
    by_cases leaves : closed node.kind
    · rw [if_pos leaves, if_pos leaves]
      exact appends_pure
    · rw [if_neg leaves, if_neg leaves]
      exact appends
  have both := (appends_modify [node]).bind goesOn
  rw [List.singleton_append] at both
  rw [dispatch_recorder]
  exact both

theorem appends_recorder (node : Node) :
    Appends ((Visitor.recorder closed).visit node) (node.visit closed) := by
  induction node using Node.induction with
  | step node ih =>
      have appends := appends_dispatch closed node (appends_forM ih)
      rw [Node.visit, Visitor.visit_eq, appends.noted_eq]
      exact appends

/-- A visitor comes to a node, and then to what it comes to in the parts unless it leaves them
out. -/
theorem Node.visit_eq (node : Node) :
    node.visit closed =
      node :: if closed node.kind then [] else node.children.flatMap (Node.visit closed) := by
  have parts := appends_forM fun part (_ : part ∈ node.children) => appends_recorder closed part
  rw [Node.visit, Visitor.visit_eq, (appends_dispatch closed node parts).noted_eq]

end Recorder

/-- A visitor that leaves nothing out comes to all nodes. -/
theorem Node.visit_eq_preorder (node : Node) : node.visit (fun _ => false) = node.preorder := by
  induction node using Node.induction with
  | step node ih =>
      rw [Node.visit_eq, Node.preorder_eq, if_neg Bool.false_ne_true, List.flatMap_congr ih]

section Effects

variable {Effect : Type → Type} [Monad Effect]

theorem forM_congr {Item : Type} {items : List Item} {act other : Item → Effect Unit}
    (same : ∀ item ∈ items, act item = other item) : items.forM act = items.forM other := by
  induction items with
  | nil => rfl
  | cons item rest ih =>
      have rest_eq := ih fun item mem => same item (List.mem_cons_of_mem _ mem)
      rw [List.forM_eq_forM] at rest_eq ⊢
      rw [List.forM_cons, List.forM_cons, same item List.mem_cons_self, rest_eq]

variable [LawfulMonad Effect]

theorem forM_flatMap {Item Part : Type} (parts : Item → List Part) (act : Part → Effect Unit)
    (items : List Item) :
    (items.flatMap parts).forM act = items.forM fun item => (parts item).forM act := by
  induction items with
  | nil => rfl
  | cons item rest ih =>
      simp only [List.forM_eq_forM] at ih ⊢
      rw [List.flatMap_cons, List.forM_append, ih, List.forM_cons]

/-- A visitor that acts at every node, and then visits the parts unless their node is of a closed
kind, acts at the nodes that it comes to, one after the other. -/
theorem Visitor.visit_eq_forM {visitor : Visitor Effect} (closed : Kind → Bool)
    {act : Node → Effect Unit}
    (acts : ∀ node parts, visitor.dispatch node parts =
      do act node; if closed node.kind then pure () else parts) (node : Node) :
    visitor.visit node = (node.visit closed).forM act := by
  induction node using Node.induction with
  | step node ih =>
      rw [Visitor.visit_eq, acts, Node.visit_eq]
      by_cases leaves : closed node.kind
      · simp [leaves]
      · rw [if_neg leaves, if_neg leaves, forM_congr ih, ← forM_flatMap]
        rfl

end Effects

namespace Node

section Walk

/-- What a walk has given after a number of rounds, and its stack. -/
def afterRounds : Nat → Array Node → List Node × Array Node
  | 0, stack => ([], stack)
  | rounds + 1, stack =>
      match popRoot? stack with
      | none => ([], stack)
      | some (root, rest) =>
          let (given, left) := afterRounds rounds rest
          (root :: given, left)

/-- Every round gives one node, and the stack holds the trees that give the other nodes. -/
theorem afterRounds_spec (rounds : Nat) (stack : Array Node) :
    (afterRounds rounds stack).1 = ((pending stack).flatMap preorder).take rounds ∧
      (pending (afterRounds rounds stack).2).flatMap preorder =
        ((pending stack).flatMap preorder).drop rounds := by
  induction rounds generalizing stack with
  | zero => simp [afterRounds]
  | succ rounds ih =>
      cases popped : popRoot? stack with
      | none => simp [afterRounds, popped, popRoot?_eq_none popped]
      | some root_rest =>
          obtain ⟨root, rest⟩ := root_rest
          obtain ⟨others, stack_eq, rest_eq⟩ := popRoot?_eq_some popped
          obtain ⟨given_eq, left_eq⟩ := ih rest
          have nodes_eq : (pending stack).flatMap preorder =
              root :: (pending rest).flatMap preorder := by
            simp [stack_eq, rest_eq, preorder_eq root]
          simp [afterRounds, popped, given_eq, left_eq, nodes_eq]

/-- Trees without nodes are no trees. -/
theorem flatMap_preorder_eq_nil_iff {trees : List Node} :
    trees.flatMap preorder = [] ↔ trees = [] := by
  cases trees with
  | nil => simp
  | cons tree rest => simp [preorder_eq tree]

/-- The stack of a walk is empty as soon as there have been as many rounds as the tree has nodes. -/
theorem afterRounds_eq_empty_iff (node : Node) (rounds : Nat) :
    (afterRounds rounds #[node]).2 = #[] ↔ node.preorder.length ≤ rounds := by
  have left_eq := (afterRounds_spec rounds #[node]).2
  have pending_eq : pending #[node] = [node] := rfl
  rw [pending_eq, List.flatMap_singleton] at left_eq
  rw [← List.drop_eq_nil_iff, ← left_eq, flatMap_preorder_eq_nil_iff, pending,
    List.reverse_eq_nil_iff, Array.toList_eq_nil_iff]

end Walk

section Paths

/-- The node at a path, which leads from a node to one of its parts by the index of the part. -/
def at? (node : Node) : List Nat → Option Node
  | [] => some node
  | index :: path => node.children[index]?.bind fun part => part.at? path

/-- The paths to the node and to everything below it, each before those that go on from it. -/
def paths (node : Node) : List (List Nat) :=
  [] :: node.children.attach.zipIdx.flatMap fun (part, index) => part.val.paths.map (index :: ·)
termination_by sizeOf node
decreasing_by exact sizeOf_lt_of_mem_children part.property

theorem paths_eq (node : Node) :
    node.paths =
      [] :: node.children.zipIdx.flatMap fun (part, index) => part.paths.map (index :: ·) := by
  have parts_eq : (node.children.attach.map Subtype.val).zipIdx =
      node.children.attach.zipIdx.map (Prod.map Subtype.val id) := List.zipIdx_map
  rw [List.attach_map_subtype_val] at parts_eq
  rw [paths, parts_eq, List.flatMap_map]
  rfl

theorem mem_zipIdx_children_iff {node part : Node} {index : Nat} :
    (part, index) ∈ node.children.zipIdx ↔ node.children[index]? = some part :=
  List.mem_zipIdx_iff_getElem?

theorem at?_cons {node part : Node} {index : Nat} (part_eq : node.children[index]? = some part)
    (path : List Nat) : node.at? (index :: path) = part.at? path := by
  rw [at?, part_eq, Option.bind_some]

/-- The paths of a tree are those that lead to nodes. -/
theorem mem_paths_iff {node : Node} {path : List Nat} :
    path ∈ node.paths ↔ (node.at? path).isSome := by
  induction path generalizing node with
  | nil => simp [paths_eq node, at?]
  | cons index path ih =>
      rw [paths_eq, List.mem_cons, List.mem_flatMap]
      constructor
      · intro mem
        obtain ⟨⟨part, other⟩, part_mem, path_mem⟩ := mem.resolve_left (List.cons_ne_nil _ _)
        obtain ⟨lower, lower_mem, cons_eq⟩ := List.mem_map.mp path_mem
        obtain ⟨rfl, rfl⟩ := List.cons.inj cons_eq
        rw [at?_cons (mem_zipIdx_children_iff.mp part_mem)]
        exact ih.mp lower_mem
      · intro found
        cases part_eq : node.children[index]? with
        | none => simp [at?, part_eq] at found
        | some part =>
            rw [at?_cons part_eq] at found
            have part_mem := mem_zipIdx_children_iff.mpr part_eq
            exact .inr ⟨(part, index), part_mem, List.mem_map_of_mem (ih.mpr found)⟩

/-- A path comes before those that go on from it, and these come in the order of the parts. -/
theorem paths_ascending (node : Node) : node.paths.Pairwise (· < ·) := by
  induction node using Node.induction with
  | step node ih =>
      have indices : (node.children.zipIdx.map Prod.snd).Pairwise (· < ·) := by
        rw [List.zipIdx_map_snd]
        exact List.pairwise_lt_range'
      rw [paths_eq, List.pairwise_cons, List.pairwise_flatMap]
      refine ⟨fun path mem => ?_, fun pair pair_mem => ?_, ?_⟩
      · obtain ⟨pair, -, path_mem⟩ := List.mem_flatMap.mp mem
        obtain ⟨lower, -, rfl⟩ := List.mem_map.mp path_mem
        exact List.nil_lt_cons _ _
      · have part_mem := List.mem_of_getElem? (mem_zipIdx_children_iff.mp pair_mem)
        refine List.pairwise_map.mpr ((ih pair.1 part_mem).imp fun before => ?_)
        exact List.cons_lt_cons_iff.mpr (.inr ⟨rfl, before⟩)
      · refine (List.pairwise_map.mp indices).imp fun before left left_mem right right_mem => ?_
        obtain ⟨leftLower, -, rfl⟩ := List.mem_map.mp left_mem
        obtain ⟨rightLower, -, rfl⟩ := List.mem_map.mp right_mem
        exact List.cons_lt_cons_iff.mpr (.inl before)

/-- The path leads through a node of a closed kind to something below it. -/
def IsBelowClosed (closed : Kind → Bool) (node : Node) (path : List Nat) : Prop :=
  ∃ depth < path.length, (node.at? (path.take depth)).any (closed ·.kind)

instance (closed : Kind → Bool) (node : Node) (path : List Nat) :
    Decidable (node.IsBelowClosed closed path) :=
  inferInstanceAs (Decidable (∃ depth < path.length, _))

theorem not_isBelowClosed_nil (closed : Kind → Bool) (node : Node) :
    ¬node.IsBelowClosed closed [] := by
  simp [IsBelowClosed]

/-- A path leads below a closed node if it begins at one, or if it does so behind its first step. -/
theorem isBelowClosed_cons_iff {closed : Kind → Bool} {node part : Node} {index : Nat}
    (part_eq : node.children[index]? = some part) (path : List Nat) :
    node.IsBelowClosed closed (index :: path) ↔
      closed node.kind ∨ part.IsBelowClosed closed path := by
  constructor
  · intro below
    obtain ⟨depth, depth_lt, leaves⟩ := below
    cases depth with
    | zero => exact .inl (by simpa [at?] using leaves)
    | succ depth =>
        rw [List.take_succ_cons, at?_cons part_eq] at leaves
        exact .inr ⟨depth, Nat.lt_of_succ_lt_succ depth_lt, leaves⟩
  · intro below
    rcases below with leaves | ⟨depth, depth_lt, leaves⟩
    · exact ⟨0, Nat.succ_pos _, by simpa [at?] using leaves⟩
    · refine ⟨depth + 1, Nat.succ_lt_succ depth_lt, ?_⟩
      rwa [List.take_succ_cons, at?_cons part_eq]

/-- The paths that do not lead below a node of a closed kind. -/
def openPaths (closed : Kind → Bool) (node : Node) : List (List Nat) :=
  node.paths.filter fun path => ¬node.IsBelowClosed closed path

theorem openPaths_eq (closed : Kind → Bool) (node : Node) :
    node.openPaths closed =
      [] :: if closed node.kind then []
        else node.children.zipIdx.flatMap fun (part, index) =>
          (part.openPaths closed).map (index :: ·) := by
  have root_open := not_isBelowClosed_nil closed node
  rw [openPaths, paths_eq, List.filter_cons_of_pos (by simpa using root_open)]
  congr 1
  by_cases leaves : closed node.kind
  · rw [if_pos leaves, List.filter_eq_nil_iff]
    intro path mem
    obtain ⟨pair, pair_mem, path_mem⟩ := List.mem_flatMap.mp mem
    obtain ⟨lower, -, rfl⟩ := List.mem_map.mp path_mem
    have part_eq := mem_zipIdx_children_iff.mp pair_mem
    have below := (isBelowClosed_cons_iff part_eq lower).mpr (.inl leaves)
    simpa using below
  · rw [if_neg leaves, List.filter_flatMap]
    refine List.flatMap_congr fun (part, index) part_mem => ?_
    have part_eq := mem_zipIdx_children_iff.mp part_mem
    rw [List.filter_map]
    simp [openPaths, Function.comp_def, isBelowClosed_cons_iff part_eq, leaves]

/-- A visitor comes to the nodes at the open paths, in the order of the paths. -/
theorem map_some_visit (closed : Kind → Bool) (node : Node) :
    (node.visit closed).map some = (node.openPaths closed).map node.at? := by
  induction node using Node.induction with
  | step node ih =>
      rw [visit_eq, openPaths_eq, List.map_cons, List.map_cons, at?]
      congr 1
      by_cases leaves : closed node.kind
      · rw [if_pos leaves, if_pos leaves]
        rfl
      · rw [if_neg leaves, if_neg leaves, List.map_flatMap, List.map_flatMap]
        have parts_eq : (node.children.zipIdx.map Prod.fst).flatMap
            (fun part => (part.visit closed).map some) =
              node.children.flatMap fun part => (part.visit closed).map some := by
          rw [List.zipIdx_map_fst]
        rw [← parts_eq, List.flatMap_map]
        refine List.flatMap_congr fun pair pair_mem => ?_
        have part_eq := mem_zipIdx_children_iff.mp pair_mem
        rw [ih pair.1 (List.mem_of_getElem? part_eq), List.map_map]
        exact List.map_congr_left fun path _ => (at?_cons part_eq path).symm

theorem openPaths_eq_paths (node : Node) : node.openPaths (fun _ => false) = node.paths := by
  rw [openPaths, List.filter_eq_self]
  intro path _
  simp [IsBelowClosed]

end Paths

theorem children_eq {node : Node}
    (names : node.slots.map Prod.fst = node.kind.fields.map Field.name) :
    node.children = node.kind.fields.flatMap fun field => node.nodes field.name := by
  have distinct : (node.slots.map Prod.fst).Nodup := names ▸ node.kind.fieldNames_nodup
  have by_names : node.children = (node.slots.map Prod.fst).flatMap node.nodes := by
    rw [children, List.flatMap_map]
    refine List.flatMap_congr fun entry mem => ?_
    have found : node.slot? entry.1 = some entry.2 := Dump.lookup_eq_some_of_mem distinct mem
    rw [nodes, found]
    rfl
  rw [by_names, names, List.flatMap_map]

/-- The walk by a stack, the nodes that a visitor without methods comes to, and the recursive
pre-order are the same list.  A walk gives one node in every round and ends when it has given all of
them.  The list has one node for every path, in the order of the paths, and the parts of a node come
in the order of its fields.  A visitor that leaves out the parts of nodes of some kinds comes to the
same nodes in the same order but for those below nodes of these kinds. -/
theorem traversals_agree (node : Node) :
    node.walk = node.preorder ∧
    node.visit (fun _ => false) = node.preorder ∧
    (∀ other : Node, other.preorder = other :: other.children.flatMap preorder) ∧
    (∀ other : Node, other.slots.map Prod.fst = other.kind.fields.map Field.name →
      other.children = other.kind.fields.flatMap fun field => other.nodes field.name) ∧
    (∀ rounds, (afterRounds rounds #[node]).1 = node.preorder.take rounds ∧
      ((afterRounds rounds #[node]).2 = #[] ↔ node.preorder.length ≤ rounds)) ∧
    node.preorder.map some = node.paths.map node.at? ∧
    node.paths.Pairwise (· < ·) ∧
    (∀ path, path ∈ node.paths ↔ (node.at? path).isSome) ∧
    ∀ closed : Kind → Bool, (node.visit closed).map some =
      (node.paths.filter fun path => ¬node.IsBelowClosed closed path).map node.at? := by
  have order : node.preorder.map some = node.paths.map node.at? := by
    rw [← visit_eq_preorder, map_some_visit, openPaths_eq_paths]
  refine ⟨node.walk_eq_preorder, node.visit_eq_preorder, preorder_eq, fun _ => children_eq,
    fun rounds => ⟨?_, afterRounds_eq_empty_iff node rounds⟩, order, node.paths_ascending,
    fun path => mem_paths_iff, fun closed => map_some_visit closed node⟩
  have given_eq := (afterRounds_spec rounds #[node]).1
  have pending_eq : pending #[node] = [node] := rfl
  rwa [pending_eq, List.flatMap_singleton] at given_eq

end Node

namespace Specimen

/-- A name at a place. -/
def nameAt (place : Place) (name : String) : Node :=
  ⟨place, .ident, [("name", .text name), ("name_pos", .position 0)]⟩

/-- The assignment `x = f(y)`. -/
def assignedCall : Node :=
  ⟨[], .assignStmt, [("lhs", .children [nameAt [.field "lhs"] "x"]), ("tok_pos", .position 0),
    ("tok", .text "="), ("rhs", .children [⟨[.field "rhs"], .callExpr,
      [("fun", .child (some (nameAt [.field "fun", .field "rhs"] "f"))),
        ("args", .children [nameAt [.field "args", .field "rhs"] "y"]),
        ("rparen", .position 0)]⟩])]⟩

/-- The function and its argument stand below the call: a visitor that leaves out the parts of calls
comes to the assignment, to its target and to the call. -/
theorem traversals_assignedCall :
    assignedCall.children =
      assignedCall.kind.fields.flatMap (fun field => assignedCall.nodes field.name) ∧
    assignedCall.walk.map some = [[], [0], [1], [1, 0], [1, 1]].map assignedCall.at? ∧
    (assignedCall.visit (· == .callExpr)).map some = [[], [0], [1]].map assignedCall.at? := by
  obtain ⟨walk_eq, -, -, fields_eq, -, order, -, -, visit_eq⟩ :=
    Node.traversals_agree assignedCall
  have paths_eq : assignedCall.paths = [[], [0], [1], [1, 0], [1, 1]] := by decide +kernel
  have open_eq : ([[], [0], [1], [1, 0], [1, 1]].filter fun path =>
      ¬assignedCall.IsBelowClosed (· == .callExpr) path) = [[], [0], [1]] := by
    decide +kernel
  refine ⟨fields_eq assignedCall (by decide), ?_, ?_⟩
  · rw [walk_eq, order, paths_eq]
  · rw [visit_eq, paths_eq, open_eq]

end Specimen

end ShadowLint
