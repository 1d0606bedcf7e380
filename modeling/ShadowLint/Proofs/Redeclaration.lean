import Mathlib.Data.List.Forall2
import Mathlib.Data.List.TakeWhile
import ShadowLint.Proofs.Dump.Package
import ShadowLint.Proofs.Scan

/-!
# Which redeclarations are deliberate

The checks for deliberate redeclarations run through pairs, places and positions.  Here they are
compared with what they look for in the trees: targets that are copied or narrowed one by one, heads
of counted loops, and names that a loop over a collection binds.
-/

namespace ShadowLint

namespace Node

theorem isNamed_iff {node : Node} {name : String} :
    node.isNamed name ↔ ∃ read, node.ident? = some read ∧ read.name = name := by
  cases ident_eq : node.ident? <;> simp [isNamed, ident_eq]

/-- The value copies the variable with the name of the target, or narrows it by a type assertion. -/
def Copies (target value : Node) : Prop :=
  ∃ ident, target.ident? = some ident ∧
    ((∃ read, value.ident? = some read ∧ read.name = ident.name) ∨
      (value.kind = .typeAssertExpr ∧
        ∃ operand read, value.child? "x" = some operand ∧ operand.ident? = some read ∧
          read.name = ident.name))

theorem copies_iff_reuses {target value : Node} {ident : Ident}
    (ident_eq : target.ident? = some ident) : Copies target value ↔ value.reuses ident.name := by
  have narrows : (value.child? "x").any (·.isNamed ident.name) ↔
      ∃ operand read, value.child? "x" = some operand ∧ operand.ident? = some read ∧
        read.name = ident.name := by
    cases child_eq : value.child? "x" <;> simp [isNamed_iff]
  rw [reuses, Bool.or_eq_true, Bool.and_eq_true, beq_iff_eq, isNamed_iff, narrows]
  constructor
  · rintro ⟨other, other_eq, copies⟩
    obtain rfl : other = ident := Option.some.inj (other_eq.symm.trans ident_eq)
    exact copies
  · intro copies
    exact ⟨ident, ident_eq, copies⟩

/-- The targets before the first one that is not a name. -/
def leadingNames (targets : List Node) : List Node :=
  targets.takeWhile fun target => target.ident?.isSome

/-- The first target that is not a name. -/
def firstOdd? (targets : List Node) : Option Node :=
  targets.find? fun target => target.ident?.isNone

section Targets

variable {target : Node} {ident : Ident}

theorem leadingNames_cons_of_none (ident_eq : target.ident? = none) (rest : List Node) :
    leadingNames (target :: rest) = [] := by
  simp [leadingNames, ident_eq]

theorem leadingNames_cons_of_some (ident_eq : target.ident? = some ident) (rest : List Node) :
    leadingNames (target :: rest) = target :: leadingNames rest := by
  simp [leadingNames, ident_eq]

theorem firstOdd?_cons_of_none (ident_eq : target.ident? = none) (rest : List Node) :
    firstOdd? (target :: rest) = some target := by
  simp [firstOdd?, ident_eq]

theorem firstOdd?_cons_of_some (ident_eq : target.ident? = some ident) (rest : List Node) :
    firstOdd? (target :: rest) = firstOdd? rest := by
  simp [firstOdd?, ident_eq]

end Targets

/-- The targets of a short declaration have as many values, and all of them are copies. -/
def IsCopy (statement : Node) : Prop :=
  List.Forall₂ Copies (statement.nodes "lhs") (statement.nodes "rhs")

/-- The targets of a short declaration have as many values, and those of the targets before the
first one that is not a name are copies. -/
def StartsAsCopy (statement : Node) : Prop :=
  (statement.nodes "lhs").length = (statement.nodes "rhs").length ∧
    List.Forall₂ Copies (leadingNames (statement.nodes "lhs"))
      ((statement.nodes "rhs").take (leadingNames (statement.nodes "lhs")).length)

/-- Copies up to the first target that is not a name are all values if there is no such target. -/
theorem StartsAsCopy.isCopy {statement : Node} (starts : statement.StartsAsCopy)
    (names : firstOdd? (statement.nodes "lhs") = none) : statement.IsCopy := by
  obtain ⟨sameLength, copies⟩ := starts
  have all : leadingNames (statement.nodes "lhs") = statement.nodes "lhs" := by
    apply List.takeWhile_eq_self_iff.mpr
    intro target mem
    have named := List.find?_eq_none.mp names target mem
    simpa [Option.isSome_iff_ne_none] using named
  rwa [all, sameLength, List.take_length] at copies

/-- All values of a group of variables are names of variables, the same as those that are declared
there. -/
def IsVarCopy (spec : Node) : Prop :=
  List.Forall₂ (fun name value => ∃ read, value.ident? = some read ∧ read.name = name.text "name")
    (spec.nodes "names") (spec.nodes "values")

/-- The head of a counted loop in the package. -/
def IsLoopHead (package : Package) (statement : Node) : Prop :=
  ∃ loop ∈ package.nodes, loop.kind = .forStmt ∧ loop.child? "init" = some statement

/-- Some loop over a collection in the package binds a name at the position. -/
def IsBoundAt (package : Package) (position : Int) : Prop :=
  ∃ loop ∈ package.nodes, loop.kind = .rangeStmt ∧ loop.text "tok" = ":=" ∧
    ∃ binder ∈ loop.nodes "key" ++ loop.nodes "value",
      ∃ ident, binder.ident? = some ident ∧ ident.position = position

/-- The short declaration is the head of a counted loop, or it declares a name where a loop over a
collection binds one. -/
def DeclaresLoopVariable (package : Package) (statement : Node) : Prop :=
  statement.IsLoopHead package ∨
    ∃ target ∈ statement.nodes "lhs", ∃ ident, target.ident? = some ident ∧
      IsBoundAt package ident.position

end Node

namespace Redeclaration

/-- Pairs of targets and values settle that a declaration copies if all of them are copies. -/
theorem allReuse_zip_eq_true_iff {targets values : List Node}
    (sameLength : targets.length = values.length) :
    allReuse (targets.zip values) = .ok true ↔ List.Forall₂ Node.Copies targets values := by
  induction targets generalizing values with
  | nil =>
      obtain rfl : values = [] := List.length_eq_zero_iff.mp sameLength.symm
      exact ⟨fun _ => .nil, fun _ => rfl⟩
  | cons target rest ih =>
      obtain ⟨value, others, rfl⟩ := List.exists_cons_of_length_eq_add_one sameLength.symm
      rw [List.zip_cons_cons, allReuse, List.forall₂_cons]
      cases ident_eq : target.ident? with
      | none => simp [Node.Copies, ident_eq]
      | some ident =>
          rw [Node.copies_iff_reuses ident_eq, ← ih (Nat.succ.inj sameLength)]
          by_cases reuses : value.reuses ident.name = true <;> simp [reuses]

/-- A target that is not a name is found malformed if all pairs before it are copies. -/
theorem allReuse_zip_eq_error_iff {targets values : List Node}
    (sameLength : targets.length = values.length) {fault : Malformed} :
    allReuse (targets.zip values) = .error fault ↔
      List.Forall₂ Node.Copies (Node.leadingNames targets)
          (values.take (Node.leadingNames targets).length) ∧
        ∃ odd, Node.firstOdd? targets = some odd ∧ fault = ⟨odd, .targetNotIdent⟩ := by
  induction targets generalizing values with
  | nil => simp [allReuse, Node.firstOdd?]
  | cons target rest ih =>
      obtain ⟨value, others, rfl⟩ := List.exists_cons_of_length_eq_add_one sameLength.symm
      rw [List.zip_cons_cons, allReuse]
      cases ident_eq : target.ident? with
      | none =>
          rw [Node.leadingNames_cons_of_none ident_eq, Node.firstOdd?_cons_of_none ident_eq]
          simp [eq_comm]
      | some ident =>
          rw [Node.leadingNames_cons_of_some ident_eq, Node.firstOdd?_cons_of_some ident_eq,
            List.length_cons, List.take_succ_cons, List.forall₂_cons,
            Node.copies_iff_reuses ident_eq, and_assoc, ← ih (Nat.succ.inj sameLength)]
          by_cases reuses : value.reuses ident.name = true <;> simp [reuses]

theorem isDeliberateShort_eq_true_iff {statement : Node} :
    isDeliberateShort statement = .ok true ↔ statement.IsCopy := by
  unfold isDeliberateShort Node.IsCopy
  dsimp only
  split
  · exact allReuse_zip_eq_true_iff ‹_›
  · rename_i differ
    simpa using fun copies => differ copies.length_eq

theorem isDeliberateShort_eq_error_iff {statement : Node} {fault : Malformed} :
    isDeliberateShort statement = .error fault ↔
      statement.StartsAsCopy ∧
        ∃ odd, Node.firstOdd? (statement.nodes "lhs") = some odd ∧
          fault = ⟨odd, .targetNotIdent⟩ := by
  unfold isDeliberateShort Node.StartsAsCopy
  dsimp only
  split
  · rename_i sameLength
    rw [allReuse_zip_eq_error_iff sameLength, and_iff_right sameLength]
  · rename_i differ
    simp [differ]

/-- A short declaration is looked at name by name if it neither is a copy nor starts as one. -/
theorem isDeliberateShort_eq_false_iff {statement : Node} :
    isDeliberateShort statement = .ok false ↔
      ¬statement.IsCopy ∧ ¬statement.StartsAsCopy := by
  constructor
  · intro checked
    have copy : ¬statement.IsCopy := by
      rw [← isDeliberateShort_eq_true_iff, checked]
      simp
    refine ⟨copy, fun starts => ?_⟩
    cases odd_eq : Node.firstOdd? (statement.nodes "lhs") with
    | none => exact copy (starts.isCopy odd_eq)
    | some odd =>
        cases checked.symm.trans (isDeliberateShort_eq_error_iff.mpr ⟨starts, odd, odd_eq, rfl⟩)
  · rintro ⟨copy, starts⟩
    cases deliberate : isDeliberateShort statement with
    | error fault => exact absurd (isDeliberateShort_eq_error_iff.mp deliberate).1 starts
    | ok answer =>
        cases answer with
        | false => rfl
        | true => exact absurd (isDeliberateShort_eq_true_iff.mp deliberate) copy

theorem isDeliberateVar_iff {spec : Node} : isDeliberateVar spec ↔ spec.IsVarCopy := by
  unfold isDeliberateVar Node.IsVarCopy
  dsimp only
  rw [List.forall₂_iff_zip, Bool.and_eq_true, beq_iff_eq, List.all_eq_true]
  refine and_congr_right fun _ => ?_
  constructor
  · intro all name value mem
    exact Node.isNamed_iff.mp (all (name, value) mem)
  · intro all pair mem
    exact Node.isNamed_iff.mpr (all mem)

/-- The places of heads of counted loops tell which declarations are heads of counted loops. -/
theorem mem_loopInits_iff {package : Package} (wellFormed : package.WellFormed) {statement : Node}
    (mem : statement ∈ package.nodes) (short : statement.isShortDeclaration) :
    statement.place ∈ package.evidence.scan.loopInits ↔ statement.IsLoopHead package := by
  rw [Package.evidence, Scan.mem_loopInits_iff]
  constructor
  · rintro ⟨loop, loop_mem, loop_kind, head, head_eq, -, same⟩
    have head_mem : head ∈ package.nodes :=
      Package.mem_nodes_of_mem_field loop_mem (List.mem_of_mem_head? head_eq)
    obtain rfl := wellFormed.eq_of_place_eq head_mem mem same
    exact ⟨loop, loop_mem, loop_kind, head_eq⟩
  · rintro ⟨loop, loop_mem, loop_kind, head_eq⟩
    exact ⟨loop, loop_mem, loop_kind, statement, head_eq, Node.isShortDeclaration_iff.mp short, rfl⟩

theorem mem_rangeBinders_iff {package : Package} {position : Int} :
    position ∈ package.evidence.scan.rangeBinders ↔ Node.IsBoundAt package position :=
  Scan.mem_rangeBinders_iff

/-- A declaration is found to declare a loop variable exactly if it does. -/
theorem isLoopVariable_iff {package : Package} (wellFormed : package.WellFormed) {statement : Node}
    (mem : statement ∈ package.nodes) (short : statement.isShortDeclaration) :
    isLoopVariable package.evidence.scan statement ↔
      statement.DeclaresLoopVariable package := by
  unfold isLoopVariable Node.DeclaresLoopVariable
  rw [Bool.or_eq_true, List.contains_iff_mem, mem_loopInits_iff wellFormed mem short,
    List.any_eq_true]
  simp only [List.mem_filterMap, List.contains_iff_mem, mem_rangeBinders_iff]
  refine or_congr_right ?_
  constructor
  · rintro ⟨ident, ⟨target, target_mem, ident_eq⟩, bound⟩
    exact ⟨target, target_mem, ident, ident_eq, bound⟩
  · rintro ⟨target, target_mem, ident, ident_eq, bound⟩
    exact ⟨ident, ⟨target, target_mem, ident_eq⟩, bound⟩

end Redeclaration

end ShadowLint
