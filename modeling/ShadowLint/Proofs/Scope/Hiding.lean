import ShadowLint.Proofs.Scope.Ancestry
import ShadowLint.Proofs.Scope.Lookup

/-!
# What a symbol hides

What a symbol hides stands in the table of a scope around the one that owns the symbol.  It is the
symbol itself exactly if such a scope took the symbol in too, and no nearer one has a visible symbol
of the name.
-/

namespace ShadowLint

namespace Insertion

/-- The scope at an index took the symbol in. -/
def IsTakenIn (insertions : List Insertion) (index : Nat) (id : SymbolId) : Prop :=
  ∃ insertion ∈ takenIn insertions index, insertion.symbol = id

theorem mem_takenIn {insertions : List Insertion} {index : Nat} {insertion : Insertion} :
    insertion ∈ takenIn insertions index ↔
      insertion ∈ insertions ∧ insertion.scope = index ∧ insertion.tookIn := by
  simp [takenIn]

theorem isTakenIn_of_firstOwner? {insertions : List Insertion} {id : SymbolId} {owner : ScopeId}
    (first : firstOwner? insertions id = some owner) :
    ∃ index, owner = .region index ∧ IsTakenIn insertions index id := by
  obtain ⟨insertion, found, rfl⟩ := Option.map_eq_some_iff.mp first
  obtain ⟨tookIn, same⟩ : insertion.tookIn ∧ insertion.symbol = id := by
    simpa using List.find?_some found
  have mem := List.mem_of_find?_eq_some found
  exact ⟨insertion.scope, rfl, insertion, mem_takenIn.mpr ⟨mem, rfl, tookIn⟩, same⟩

end Insertion

namespace Forest

open Insertion (IsTakenIn)

variable {forest : Forest} {insertions : List Insertion}

theorem eq_predeclared_of_lookup {id : SymbolId} {name : String}
    (declares : forest.lookup .universe name = some id) : id = .predeclared name := by
  obtain ⟨before, behind, table_eq, -⟩ := List.lookup_eq_some_iff.mp declares
  have mem : (name, id) ∈ Universe.table := by
    rw [show Universe.table = _ from table_eq]
    simp
  exact Universe.eq_predeclared_of_mem_table mem

/-- A scope has a symbol under its name if and only if it took the symbol in. -/
theorem IsWriteOnce.lookup_eq_some_iff (once : forest.IsWriteOnce insertions) {index : Nat}
    {id : SymbolId} {name : String} (named : forest.nameOf? id = some name) :
    forest.lookup (.region index) name = some id ↔ IsTakenIn insertions index id := by
  rw [lookup, Option.bind_eq_some_iff]
  constructor
  · rintro ⟨scope, scope_eq, listed⟩
    obtain ⟨before, behind, table_eq, -⟩ := List.lookup_eq_some_iff.mp listed
    have mem : (name, id) ∈ scope.table := by simp [table_eq]
    rw [once.tables index scope scope_eq] at mem
    obtain ⟨insertion, taken, entry_eq⟩ := List.mem_map.mp mem
    exact ⟨insertion, taken, congrArg Prod.snd entry_eq⟩
  · rintro ⟨insertion, taken, rfl⟩
    obtain ⟨made, rfl, -⟩ := Insertion.mem_takenIn.mp taken
    have inside := once.inside insertion made
    have scope_eq := Array.getElem?_eq_getElem inside
    refine ⟨_, scope_eq, Dump.lookup_eq_some_of_mem (once.distinct _ _ scope_eq) ?_⟩
    rw [once.tables _ _ scope_eq]
    obtain rfl : insertion.name = name :=
      Option.some.inj ((once.named insertion made).symm.trans named)
    exact List.mem_map_of_mem taken

/-- The outermost scope owns the predeclared symbols, and the other symbols are owned by a scope
that is there and took them in. -/
theorem IsWriteOnce.owner_cases (once : forest.IsWriteOnce insertions) {id : SymbolId}
    {symbol : Symbol} {owner : ScopeId} (found : forest.symbol? id = some symbol)
    (owned : symbol.owner = some owner) :
    owner = .universe ∨
      ∃ number index, id = .declared number ∧ owner = .region index ∧
        index < forest.scopes.size ∧ IsTakenIn insertions index id := by
  cases id with
  | predeclared name =>
      have universal := Universe.owner_of_symbol?_eq_some found
      exact .inl (Option.some.inj (owned.symm.trans universal))
  | declared number =>
      rw [once.owners number symbol found] at owned
      obtain ⟨index, rfl, insertion, taken, same⟩ := Insertion.isTakenIn_of_firstOwner? owned
      obtain ⟨made, scope_eq, -⟩ := Insertion.mem_takenIn.mp taken
      exact .inr ⟨number, index, rfl, rfl, scope_eq ▸ once.inside insertion made, insertion,
        taken, same⟩

end Forest

namespace ScopeHistory

open Insertion (IsTakenIn)

/-- A scope around the one that owns the symbol took it in too, and no nearer one has a symbol of
the name that is visible where the symbol is declared. -/
def IsTakenInAround (history : ScopeHistory) (id : SymbolId) : Prop :=
  ∃ symbol owner nearer index farther,
    history.forest.symbol? id = some symbol ∧ symbol.owner = some owner ∧
      history.forest.enclosing owner = nearer ++ .region index :: farther ∧
      IsTakenIn history.insertions index id ∧ symbol.VisibleAt symbol.position ∧
      ∀ other ∈ nearer, ∀ otherId otherSymbol,
        ¬history.forest.Offers symbol.name symbol.position other otherId otherSymbol

section Hidden

variable {history : ScopeHistory} {id : SymbolId}

theorem IsLinked.ne_of_mem_enclosing (linked : history.IsLinked) {inner outer : ScopeId}
    (there : inner.IsBefore history.forest.scopes.size)
    (mem : outer ∈ history.forest.enclosing inner) : outer ≠ inner := by
  rintro rfl
  exact (List.nodup_cons.mp (linked.nodup_ancestors there)).1 mem

theorem ne_owner_of_mem_enclosing (linked : history.IsLinked)
    (once : history.forest.IsWriteOnce history.insertions) {symbol : Symbol} {owner scope : ScopeId}
    (found : history.forest.symbol? id = some symbol) (owned : symbol.owner = some owner)
    (mem : scope ∈ history.forest.enclosing owner) : scope ≠ owner := by
  refine linked.ne_of_mem_enclosing ?_ mem
  rcases once.owner_cases found owned with rfl | ⟨number, index, -, rfl, inside, -⟩
  · trivial
  · exact inside

theorem exists_enclosing_of_hidden? (linked : history.IsLinked)
    (once : history.forest.IsWriteOnce history.insertions) {outer : SymbolId}
    (hidden : history.forest.hidden? id = some outer) :
    ∃ symbol owner scope, history.forest.symbol? id = some symbol ∧ symbol.owner = some owner ∧
      scope ∈ history.forest.enclosing owner ∧ scope ≠ owner ∧
      history.forest.lookup scope symbol.name = some outer := by
  obtain ⟨symbol, owner, scope, outerSymbol, found, owned, nearer, farther, split_eq, offers, -⟩ :=
    Forest.hidden?_eq_some_iff.mp hidden
  have mem : scope ∈ history.forest.enclosing owner := by simp [split_eq]
  exact ⟨symbol, owner, scope, found, owned, mem,
    ne_owner_of_mem_enclosing linked once found owned mem, offers.declares⟩

theorem hidden?_self_iff (once : history.forest.IsWriteOnce history.insertions) :
    history.forest.hidden? id = some id ↔ history.IsTakenInAround id := by
  have named {symbol : Symbol} (found : history.forest.symbol? id = some symbol) :
      history.forest.nameOf? id = some symbol.name := by
    rw [Forest.nameOf?, found, Option.map_some]
  rw [Forest.hidden?_eq_some_iff]
  constructor
  · rintro ⟨symbol, owner, scope, outer, found, owned, nearer, farther, split_eq, offers, absent⟩
    obtain rfl : outer = symbol := Option.some.inj (offers.found.symm.trans found)
    rcases once.owner_cases found owned with rfl | ⟨number, -, rfl, -⟩
    · cases nearer <;> cases split_eq
    · rcases scope with _ | index
      · cases Forest.eq_predeclared_of_lookup offers.declares
      · exact ⟨outer, owner, nearer, index, farther, found, owned, split_eq,
          (once.lookup_eq_some_iff (named found)).mp offers.declares, offers.visible, absent⟩
  · rintro ⟨symbol, owner, nearer, index, farther, found, owned, split_eq, taken, visible, absent⟩
    have declares := (once.lookup_eq_some_iff (named found)).mpr taken
    exact ⟨symbol, owner, .region index, symbol, found, owned, nearer, farther, split_eq,
      ⟨declares, found, visible⟩, absent⟩

theorem hidden?_ne_self (linked : history.IsLinked)
    (once : history.forest.IsWriteOnce history.insertions)
    (single : ∀ index other, IsTakenIn history.insertions index id →
      IsTakenIn history.insertions other id → index = other) :
    history.forest.hidden? id ≠ some id := by
  intro hidden
  obtain ⟨symbol, owner, nearer, index, farther, found, owned, split_eq, taken, -⟩ :=
    (hidden?_self_iff once).mp hidden
  have mem : ScopeId.region index ∈ history.forest.enclosing owner := by simp [split_eq]
  rcases once.owner_cases found owned with rfl | ⟨-, other, -, rfl, -, takenFirst⟩
  · cases mem
  · have same : index = other := single index other taken takenFirst
    exact ne_owner_of_mem_enclosing linked once found owned mem (same ▸ rfl)

end Hidden

/-- After any requests, what a symbol hides stands in the table of a scope around the one that owns
the symbol.  A symbol hides itself exactly if a scope around its owner took it in too, with nothing
nearer in the way; a symbol that no two scopes took in does not hide itself. -/
theorem afterRequests_hidden?_self_iff (requests : List ScopeRequest) :
    let history := afterRequests requests
    ∀ id,
      (∀ outer, history.forest.hidden? id = some outer →
        ∃ symbol owner scope, history.forest.symbol? id = some symbol ∧
          symbol.owner = some owner ∧ scope ∈ history.forest.enclosing owner ∧ scope ≠ owner ∧
          history.forest.lookup scope symbol.name = some outer) ∧
        (history.forest.hidden? id = some id ↔ history.IsTakenInAround id) ∧
        ((∀ index other, IsTakenIn history.insertions index id →
          IsTakenIn history.insertions other id → index = other) →
            history.forest.hidden? id ≠ some id) := by
  intro history id
  have linked : history.IsLinked := isLinked_afterRequests requests
  have once : history.forest.IsWriteOnce history.insertions := isWriteOnce_afterRequests requests
  exact ⟨fun _ hidden => exists_enclosing_of_hidden? linked once hidden, hidden?_self_iff once,
    hidden?_ne_self linked once⟩

end ScopeHistory

namespace Specimen

/-- The inner of two scopes takes a variable in, and then the outer one does. -/
def insertedInnerFirst : List ScopeRequest :=
  [.openScope (some .universe) 1 99 "package", .openScope (some (.region 0)) 10 50 "function",
    .create (variableAt 20), .insert 1 (.declared 0), .insert 0 (.declared 0)]

/-- The variable hides itself, because a scope around its owner took it in; the second variable of
the repeated insertion does not hide itself. -/
theorem hidden?_self_insertedInnerFirst :
    (ScopeHistory.afterRequests insertedInnerFirst).IsTakenInAround (.declared 0) ∧
      (∃ scope, scope ≠ .region 1 ∧
        (ScopeHistory.afterRequests insertedInnerFirst).forest.lookup scope "x" =
          some (.declared 0)) ∧
      (ScopeHistory.afterRequests repeatedInsertion).forest.hidden? (.declared 1) ≠
        some (.declared 1) := by
  obtain ⟨around, self_iff, -⟩ :=
    ScopeHistory.afterRequests_hidden?_self_iff insertedInnerFirst (.declared 0)
  have hidden : (ScopeHistory.afterRequests insertedInnerFirst).forest.hidden? (.declared 0) =
      some (.declared 0) := by
    decide +kernel
  obtain ⟨symbol, owner, scope, found, owned, -, differs, declares⟩ := around _ hidden
  obtain rfl : { variableAt 20 with owner := some (.region 1) } = symbol := Option.some.inj found
  obtain rfl : .region 1 = owner := Option.some.inj owned
  refine ⟨self_iff.mp hidden, ⟨scope, differs, declares⟩, ?_⟩
  refine (ScopeHistory.afterRequests_hidden?_self_iff repeatedInsertion (.declared 1)).2.2 ?_
  have insertions_eq : (ScopeHistory.afterRequests repeatedInsertion).insertions =
      [⟨0, .declared 0, "x", none⟩, ⟨0, .declared 1, "x", some (.declared 0)⟩,
        ⟨1, .declared 1, "x", none⟩] := by
    decide +kernel
  have taken (index : Nat)
      (taken : Insertion.IsTakenIn (ScopeHistory.afterRequests repeatedInsertion).insertions index
        (.declared 1)) : 1 = index := by
    obtain ⟨insertion, mem, same⟩ := taken
    obtain ⟨made, rfl, tookIn⟩ := Insertion.mem_takenIn.mp mem
    rw [insertions_eq] at made
    simp only [List.mem_cons, List.not_mem_nil, or_false] at made
    rcases made with rfl | rfl | rfl
    · cases same
    · cases tookIn
    · rfl
  exact fun index other first second => (taken index first).symm.trans (taken other second)

/-- It is not so that what a symbol hides is always another symbol. -/
theorem hidden?_ne_self_fails :
    ¬∀ (requests : List ScopeRequest) (id outer : SymbolId),
      (ScopeHistory.afterRequests requests).forest.hidden? id = some outer → outer ≠ id := by
  intro differs
  exact differs insertedInnerFirst (.declared 0) (.declared 0) (by decide +kernel) rfl

end Specimen

end ShadowLint
