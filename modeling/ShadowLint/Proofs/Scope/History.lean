import ShadowLint.Proofs.Scope.Insertion
import ShadowLint.Proofs.Scope.Tables

/-!
# Histories of scopes and symbols

Scopes are opened, symbols are created, and scopes are asked to take symbols in, in any order and as
often as one likes.  The name tables are written once: a name stays with the first symbol that was
inserted under it, and a symbol stays with the first scope that took it in.
-/

namespace ShadowLint

namespace Forest

theorem isSome_scope?_iff {forest : Forest} {id : ScopeId} :
    (forest.scope? id).isSome ↔ id.IsBefore forest.scopes.size := by
  rcases id with _ | index
  · simp [scope?, ScopeId.IsBefore]
  · simp [scope?, ScopeId.IsBefore]

end Forest

/-- Something that is asked of the scopes and symbols of a program. -/
inductive ScopeRequest where
  /-- To open a scope inside another one, or apart from all others. -/
  | openScope (parent : Option ScopeId) (start stop : Int) (comment : String)
  /-- To create a symbol. -/
  | create (symbol : Symbol)
  /-- To insert a symbol into the scope at an index. -/
  | insert (index : Nat) (id : SymbolId)

/-- A symbol that was to be inserted into a scope, with the answer. -/
structure Insertion where
  /-- The index of the scope. -/
  scope : Nat
  /-- The symbol. -/
  symbol : SymbolId
  /-- The name of the symbol. -/
  name : String
  /-- The answer: the symbol that had the name in the scope, or nothing. -/
  existing : Option SymbolId
deriving DecidableEq, Repr

namespace Insertion

/-- The scope took the symbol in. -/
def tookIn (insertion : Insertion) : Bool := insertion.existing.isNone

/-- The scope at the index was to list a symbol under the name. -/
def isOf (insertion : Insertion) (index : Nat) (name : String) : Bool :=
  insertion.scope == index && insertion.name == name

/-- The symbol under its name. -/
def entry (insertion : Insertion) : String × SymbolId := (insertion.name, insertion.symbol)

/-- The insertions that put a symbol into the table of the scope at an index. -/
def takenIn (insertions : List Insertion) (index : Nat) : List Insertion :=
  insertions.filter fun insertion => insertion.scope == index && insertion.tookIn

/-- The first symbol that was to be inserted into the scope at an index under a name. -/
def first? (insertions : List Insertion) (index : Nat) (name : String) : Option SymbolId :=
  (insertions.find? (·.isOf index name)).map symbol

/-- The scope that was the first to take a symbol in. -/
def firstOwner? (insertions : List Insertion) (id : SymbolId) : Option ScopeId :=
  (insertions.find? fun insertion => insertion.tookIn && insertion.symbol == id).map
    (.region ·.scope)

section Concat

variable (insertions : List Insertion) (last : Insertion)

theorem takenIn_concat (index : Nat) :
    takenIn (insertions ++ [last]) index =
      takenIn insertions index ++ if last.scope = index ∧ last.tookIn then [last] else [] := by
  simp [takenIn, List.filter_append, List.filter_cons]

theorem first?_concat (index : Nat) (name : String) :
    first? (insertions ++ [last]) index name = (first? insertions index name).or
      (if last.scope = index ∧ last.name = name then some last.symbol else none) := by
  rw [first?, first?, List.find?_append, Option.map_or]
  by_cases same : last.scope = index ∧ last.name = name <;> simp [isOf, same]

theorem firstOwner?_concat (id : SymbolId) :
    firstOwner? (insertions ++ [last]) id = (firstOwner? insertions id).or
      (if last.tookIn ∧ last.symbol = id then some (.region last.scope) else none) := by
  rw [firstOwner?, firstOwner?, List.find?_append, Option.map_or]
  by_cases same : last.tookIn ∧ last.symbol = id <;> simp [same]

end Concat

end Insertion

/-- The name tables and the owners are those that some insertions, one after the other, lead to if
what is written stays. -/
structure Forest.IsWriteOnce (forest : Forest) (insertions : List Insertion) : Prop where
  /-- Insertions are made into scopes that are there. -/
  inside : ∀ insertion ∈ insertions, insertion.scope < forest.scopes.size
  /-- An inserted symbol is there and still has its name. -/
  named : ∀ insertion ∈ insertions, forest.nameOf? insertion.symbol = some insertion.name
  /-- A scope lists the symbols that it took in, in this order and under their names. -/
  tables : ∀ (index : Nat) (scope : Scope), forest.scopes[index]? = some scope →
    scope.table = (Insertion.takenIn insertions index).map Insertion.entry
  /-- A scope lists no name twice. -/
  distinct : ∀ (index : Nat) (scope : Scope), forest.scopes[index]? = some scope →
    (scope.table.map Prod.fst).Nodup
  /-- A scope has under a name the first symbol that was inserted there under the name. -/
  lookups : ∀ (index : Nat) (name : String),
    forest.lookup (.region index) name = Insertion.first? insertions index name
  /-- An insertion is answered with the first symbol that was inserted there before under the
  name. -/
  answers : ∀ (place : Nat) (insertion : Insertion), insertions[place]? = some insertion →
    insertion.existing =
      Insertion.first? (insertions.take place) insertion.scope insertion.name
  /-- A symbol is owned by the first scope that took it in. -/
  owners : ∀ (number : Nat) (symbol : Symbol), forest.symbols[number]? = some symbol →
    symbol.owner = Insertion.firstOwner? insertions (.declared number)

/-- What became of a sequence of requests. -/
structure ScopeHistory where
  /-- The scopes and symbols. -/
  forest : Forest
  /-- For each scope the one that it was opened in, if it was not opened apart. -/
  parents : List (Option ScopeId)
  /-- The insertions in their order. -/
  insertions : List Insertion

namespace ScopeHistory

/-- Nothing was asked for. -/
def empty : ScopeHistory := ⟨.empty, [], []⟩

/-- Fulfils one more request.  A request that names a scope or a symbol that is not there changes
nothing. -/
def after (history : ScopeHistory) : ScopeRequest → ScopeHistory
  | .openScope parent start stop comment =>
      if parent.all fun outer => (history.forest.scope? outer).isSome then
        { history with
          forest := history.forest.openScope parent start stop comment
          parents := history.parents ++ [parent] }
      else history
  | .create symbol => { history with forest := history.forest.create symbol }
  | .insert index id =>
      match history.forest.scopes[index]?, history.forest.symbol? id with
      | some _, some symbol =>
          let (existing, forest) := history.forest.insert index id
          { history with
            forest := forest
            insertions := history.insertions ++ [⟨index, id, symbol.name, existing⟩] }
      | _, _ => history

/-- The history of some requests. -/
def afterRequests (requests : List ScopeRequest) : ScopeHistory :=
  requests.foldl after empty

/-- What a request does. -/
inductive Step (history : ScopeHistory) : ScopeRequest → ScopeHistory → Prop
  /-- A scope is opened inside one that is there, or apart from all others. -/
  | opened {parent : Option ScopeId} {start stop : Int} {comment : String}
      (there : ∀ outer ∈ parent, outer.IsBefore history.forest.scopes.size) :
      Step history (.openScope parent start stop comment)
        ⟨history.forest.openScope parent start stop comment, history.parents ++ [parent],
          history.insertions⟩
  /-- A symbol is created. -/
  | created {symbol : Symbol} :
      Step history (.create symbol)
        ⟨history.forest.create symbol, history.parents, history.insertions⟩
  /-- A scope takes a symbol in, whose name is free. -/
  | inserted {index : Nat} {id : SymbolId} {name : String}
      (inside : index < history.forest.scopes.size)
      (named : history.forest.nameOf? id = some name)
      (free : history.forest.lookup (.region index) name = none) :
      Step history (.insert index id)
        ⟨history.forest.enlist index name id, history.parents,
          history.insertions ++ [⟨index, id, name, none⟩]⟩
  /-- A scope does not take a symbol in, whose name is taken. -/
  | refused {index : Nat} {id existing : SymbolId} {name : String}
      (inside : index < history.forest.scopes.size)
      (named : history.forest.nameOf? id = some name)
      (taken : history.forest.lookup (.region index) name = some existing) :
      Step history (.insert index id)
        ⟨history.forest, history.parents,
          history.insertions ++ [⟨index, id, name, some existing⟩]⟩
  /-- Something that the request names is not there. -/
  | impossible {request : ScopeRequest} : Step history request history

theorem step_after (history : ScopeHistory) (request : ScopeRequest) :
    history.Step request (history.after request) := by
  cases request with
  | openScope parent start stop comment =>
      rw [after]
      split
      · rename_i there
        refine .opened fun outer mem => ?_
        obtain rfl : parent = some outer := mem
        exact Forest.isSome_scope?_iff.mp there
      · exact .impossible
  | create symbol => exact .created
  | insert index id =>
      rw [after]
      split
      · rename_i scope symbol scope_eq found
        have inside : index < history.forest.scopes.size :=
          (Array.getElem?_eq_some_iff.mp scope_eq).1
        have named : history.forest.nameOf? id = some symbol.name := by simp [Forest.nameOf?, found]
        cases listed : history.forest.lookup (.region index) symbol.name with
        | none =>
            rw [Forest.insert_of_free inside found listed]
            exact .inserted inside named listed
        | some existing =>
            rw [Forest.insert_of_taken found listed]
            exact .refused inside named listed
      · exact .impossible

/-- What holds of the empty history and is kept by every step holds of every history. -/
theorem afterRequests_induction {motive : ScopeHistory → Prop} (start : motive empty)
    (step : ∀ {history next : ScopeHistory} {request : ScopeRequest}, motive history →
      history.Step request next → motive next) (requests : List ScopeRequest) :
    motive (afterRequests requests) :=
  List.foldlRecOn requests after start fun history holds request _ =>
    step holds (history.step_after request)

end ScopeHistory

namespace Forest

open Insertion

theorem isWriteOnce_empty : empty.IsWriteOnce [] where
  inside := by simp
  named := by simp
  tables := by simp [empty]
  distinct := by simp [empty]
  lookups _ _ := rfl
  answers := by simp
  owners := by simp [empty]

section Steps

variable {forest : Forest} {insertions : List Insertion}

/-- Nothing was inserted into a scope that is not there. -/
theorem IsWriteOnce.takenIn_eq_nil (once : forest.IsWriteOnce insertions) :
    takenIn insertions forest.scopes.size = [] := by
  refine List.filter_eq_nil_iff.mpr fun insertion mem => ?_
  have differs : insertion.scope ≠ forest.scopes.size := Nat.ne_of_lt (once.inside insertion mem)
  simp [differs]

theorem IsWriteOnce.firstOwner?_eq_none (once : forest.IsWriteOnce insertions) :
    firstOwner? insertions (.declared forest.symbols.size) = none := by
  rw [firstOwner?, Option.map_eq_none_iff, List.find?_eq_none]
  intro insertion mem found
  have missing : forest.nameOf? (.declared forest.symbols.size) = none := by
    simp [nameOf?, symbol?]
  obtain ⟨-, same⟩ : insertion.tookIn ∧ insertion.symbol = .declared forest.symbols.size := by
    simpa using found
  have named := once.named insertion mem
  rw [same, missing] at named
  cases named

theorem IsWriteOnce.openScope (once : forest.IsWriteOnce insertions) (parent : Option ScopeId)
    (start stop : Int) (comment : String) :
    (forest.openScope parent start stop comment).IsWriteOnce insertions where
  inside insertion mem := by
    have inside := once.inside insertion mem
    simp only [Forest.openScope, Array.size_push]
    omega
  named := once.named
  tables index scope found := by
    rw [Forest.openScope, Array.getElem?_push] at found
    split at found
    · rename_i last
      obtain rfl := Option.some.inj found
      rw [last, once.takenIn_eq_nil]
      rfl
    · exact once.tables index scope found
  distinct index scope found := by
    rw [Forest.openScope, Array.getElem?_push] at found
    split at found
    · obtain rfl := Option.some.inj found
      exact .nil
    · exact once.distinct index scope found
  lookups index name := by
    rw [← once.lookups index name, lookup, lookup, scope?, scope?, Forest.openScope,
      Array.getElem?_push]
    split
    · rename_i last
      simp [last]
    · rfl
  answers := once.answers
  owners := once.owners

theorem IsWriteOnce.create (once : forest.IsWriteOnce insertions) (symbol : Symbol) :
    (forest.create symbol).IsWriteOnce insertions where
  inside := once.inside
  named insertion mem := nameOf?_create (once.named insertion mem) symbol
  tables := once.tables
  distinct := once.distinct
  lookups := once.lookups
  answers := once.answers
  owners number created found := by
    rw [Forest.create, Array.getElem?_push] at found
    split at found
    · rename_i last
      obtain rfl := Option.some.inj found
      rw [last, once.firstOwner?_eq_none]
    · exact once.owners number created found

/-- One more insertion is answered with what the scope has under the name. -/
theorem IsWriteOnce.answers_concat (once : forest.IsWriteOnce insertions) {last : Insertion}
    (answered : last.existing = forest.lookup (.region last.scope) last.name) (place : Nat)
    (insertion : Insertion) (found : (insertions ++ [last])[place]? = some insertion) :
    insertion.existing =
      first? ((insertions ++ [last]).take place) insertion.scope insertion.name := by
  rcases Dump.getElem?_concat_eq_some_iff.mp found with earlier | ⟨rfl, rfl⟩
  · have before : place < insertions.length := (List.getElem?_eq_some_iff.mp earlier).1
    rw [List.take_append_of_le_length (Nat.le_of_lt before)]
    exact once.answers place insertion earlier
  · rw [List.take_left, answered, once.lookups]

theorem IsWriteOnce.enlist (once : forest.IsWriteOnce insertions) {index : Nat} {id : SymbolId}
    {name : String} (inside : index < forest.scopes.size) (named : forest.nameOf? id = some name)
    (free : forest.lookup (.region index) name = none) :
    (forest.enlist index name id).IsWriteOnce (insertions ++ [⟨index, id, name, none⟩]) where
  inside insertion mem := by
    rw [size_scopes_enlist]
    rcases List.mem_append.mp mem with earlier | last
    · exact once.inside insertion earlier
    · obtain rfl := List.mem_singleton.mp last
      exact inside
  named insertion mem := by
    rw [nameOf?_enlist]
    rcases List.mem_append.mp mem with earlier | last
    · exact once.named insertion earlier
    · obtain rfl := List.mem_singleton.mp last
      exact named
  tables other scope found := by
    rw [getElem?_scopes_enlist, Option.map_eq_some_iff] at found
    obtain ⟨before, before_eq, rfl⟩ := found
    rw [takenIn_concat, List.map_append, ← once.tables other before before_eq]
    by_cases same : index = other <;> simp [same, entry, tookIn]
  distinct other scope found := by
    rw [getElem?_scopes_enlist, Option.map_eq_some_iff] at found
    obtain ⟨before, before_eq, rfl⟩ := found
    have distinct := once.distinct other before before_eq
    by_cases same : index = other
    · subst same
      have table_free : before.table.lookup name = none := by
        simpa only [lookup, scope?, before_eq, Option.bind_some] using free
      rw [if_pos rfl]
      exact Dump.nodup_concat_of_lookup_eq_none distinct table_free
    · simpa [same] using distinct
  lookups other asked := by
    rw [lookup_enlist inside, first?_concat, once.lookups]
  answers := once.answers_concat free.symm
  owners number symbol found := by
    rw [getElem?_symbols_enlist, Option.map_eq_some_iff] at found
    obtain ⟨before, before_eq, rfl⟩ := found
    rw [firstOwner?_concat, ← once.owners number before before_eq]
    simp [tookIn]

theorem IsWriteOnce.refuse (once : forest.IsWriteOnce insertions) {index : Nat}
    {id existing : SymbolId} {name : String} (inside : index < forest.scopes.size)
    (named : forest.nameOf? id = some name)
    (taken : forest.lookup (.region index) name = some existing) :
    forest.IsWriteOnce (insertions ++ [⟨index, id, name, some existing⟩]) where
  inside insertion mem := by
    rcases List.mem_append.mp mem with earlier | last
    · exact once.inside insertion earlier
    · obtain rfl := List.mem_singleton.mp last
      exact inside
  named insertion mem := by
    rcases List.mem_append.mp mem with earlier | last
    · exact once.named insertion earlier
    · obtain rfl := List.mem_singleton.mp last
      exact named
  tables other scope found := by
    rw [takenIn_concat, once.tables other scope found]
    simp [tookIn]
  distinct := once.distinct
  lookups other asked := by
    rw [first?_concat, ← once.lookups]
    by_cases same : index = other ∧ name = asked
    · obtain ⟨rfl, rfl⟩ := same
      rw [taken, Option.some_or]
    · simp [same]
  answers := once.answers_concat taken.symm
  owners number symbol found := by
    rw [firstOwner?_concat, once.owners number symbol found]
    simp [tookIn]

end Steps

end Forest

namespace ScopeHistory

/-- Every step keeps what is written. -/
theorem Step.isWriteOnce {history next : ScopeHistory} {request : ScopeRequest}
    (step : history.Step request next) (once : history.forest.IsWriteOnce history.insertions) :
    next.forest.IsWriteOnce next.insertions := by
  cases step with
  | opened => exact once.openScope _ _ _ _
  | created => exact once.create _
  | inserted inside named free => exact once.enlist inside named free
  | refused inside named taken => exact once.refuse inside named taken
  | impossible => exact once

theorem isWriteOnce_afterRequests (requests : List ScopeRequest) :
    (afterRequests requests).forest.IsWriteOnce (afterRequests requests).insertions :=
  afterRequests_induction (motive := fun history => history.forest.IsWriteOnce history.insertions)
    Forest.isWriteOnce_empty (fun once step => step.isWriteOnce once) requests

section Request

variable {history next : ScopeHistory} {request : ScopeRequest}

/-- No step changes the scopes around a scope that is there. -/
theorem Step.ancestors_eq (step : history.Step request next) {scope : ScopeId}
    (there : scope.IsBefore history.forest.scopes.size) :
    next.forest.ancestors scope = history.forest.ancestors scope := by
  cases step with
  | opened => exact Forest.ancestors_openScope there _ _ _ _
  | inserted => simp only [Forest.ancestors, Forest.enclosing_enlist]
  | created => rfl
  | refused => rfl
  | impossible => rfl

/-- A step changes no other scope than the one that is to take a symbol in. -/
theorem Step.scopes_eq (step : history.Step request next) {other : Nat}
    (there : other < history.forest.scopes.size) (elsewhere : ∀ id, request ≠ .insert other id) :
    next.forest.scopes[other]? = history.forest.scopes[other]? := by
  cases step with
  | opened =>
      have differs : other ≠ history.forest.scopes.size := Nat.ne_of_lt there
      rw [Forest.openScope, Array.getElem?_push, if_neg differs]
  | @inserted index id name =>
      have differs : index ≠ other := fun same => elsewhere id (same ▸ rfl)
      simp [Forest.getElem?_scopes_enlist, differs]
  | created => rfl
  | refused => rfl
  | impossible => rfl

/-- The answer to an insertion is what the scope has under the name, and if it has something, the
scopes and symbols stay as they are. -/
theorem after_insert {index : Nat} {id : SymbolId} {symbol : Symbol}
    (inside : index < history.forest.scopes.size)
    (found : history.forest.symbol? id = some symbol) :
    let answer := history.forest.lookup (.region index) symbol.name
    (history.after (.insert index id)).insertions =
        history.insertions ++ [⟨index, id, symbol.name, answer⟩] ∧
      (answer ≠ none → (history.after (.insert index id)).forest = history.forest) := by
  intro answer
  obtain ⟨answered, unchanged⟩ := Forest.insert_spec inside found
  have after_eq : history.after (.insert index id) =
      ⟨(history.forest.insert index id).2, history.parents, history.insertions ++
        [⟨index, id, symbol.name, (history.forest.insert index id).1⟩]⟩ := by
    rw [after, Array.getElem?_eq_getElem inside, found]
  rw [after_eq, answered]
  exact ⟨rfl, fun taken => unchanged (answered ▸ taken)⟩

end Request

/-- After any requests the name tables and the owners are written once: a table holds the symbols
that its scope took in, each under its name, and has under a name the first symbol that was inserted
under it; a symbol is owned by the first scope that took it in.  An insertion is answered with what
the scope has under the name, and then changes nothing.  No request changes other tables than the
one of the scope that it names, and none changes the scopes around a scope. -/
theorem afterRequests_isWriteOnce (requests : List ScopeRequest) :
    let history := afterRequests requests
    history.forest.IsWriteOnce history.insertions ∧
      (∀ (index : Nat) (scope : Scope), history.forest.scopes[index]? = some scope →
        scope.table.length = (Insertion.takenIn history.insertions index).length) ∧
      (∀ (index : Nat) (id : SymbolId) (symbol : Symbol), index < history.forest.scopes.size →
        history.forest.symbol? id = some symbol →
          let answer := history.forest.lookup (.region index) symbol.name
          let next := afterRequests (requests ++ [.insert index id])
          next.insertions = history.insertions ++ [⟨index, id, symbol.name, answer⟩] ∧
            (answer ≠ none → next.forest = history.forest)) ∧
      ∀ request,
        let next := afterRequests (requests ++ [request])
        (∀ scope : ScopeId, scope.IsBefore history.forest.scopes.size →
          next.forest.ancestors scope = history.forest.ancestors scope) ∧
        ∀ other < history.forest.scopes.size, (∀ id, request ≠ .insert other id) →
          next.forest.scopes[other]? = history.forest.scopes[other]? := by
  intro history
  have once : history.forest.IsWriteOnce history.insertions := isWriteOnce_afterRequests requests
  have next_eq (request : ScopeRequest) :
      afterRequests (requests ++ [request]) = history.after request :=
    List.foldl_concat after empty request requests
  refine ⟨once, fun index scope found => ?_, fun index id symbol inside found => ?_,
    fun request => ?_⟩
  · rw [once.tables index scope found, List.length_map]
  · rw [next_eq]
    exact after_insert inside found
  · have step := history.step_after request
    rw [next_eq]
    exact ⟨fun scope there => step.ancestors_eq there,
      fun other there elsewhere => step.scopes_eq there elsewhere⟩

end ScopeHistory

namespace Specimen

/-- A variable `x` at a position. -/
def variableAt (position : Int) : Symbol :=
  { name := "x", kind := .var, type := none, position := position }

/-- Two variables `x` and two scopes, one inside the other: the outer scope takes in the first
variable and refuses the second one, which the inner scope takes in. -/
def repeatedInsertion : List ScopeRequest :=
  [.openScope (some .universe) 1 99 "package", .openScope (some (.region 0)) 10 50 "function",
    .create (variableAt 5), .create (variableAt 20), .insert 0 (.declared 0),
    .insert 0 (.declared 1), .insert 1 (.declared 1)]

/-- The outer scope refuses the second variable once more, and nothing changes. -/
theorem isWriteOnce_repeatedInsertion :
    let history := ScopeHistory.afterRequests repeatedInsertion
    let next := ScopeHistory.afterRequests (repeatedInsertion ++ [.insert 0 (.declared 1)])
    history.forest.lookup (.region 0) "x" = some (.declared 0) ∧
      next.forest = history.forest ∧
      (∃ symbol, history.forest.symbols[1]? = some symbol ∧ symbol.owner = some (.region 1)) ∧
      next.insertions.getLast?.map Insertion.existing = some (some (.declared 0)) := by
  intro history next
  obtain ⟨once, -, answers, -⟩ := ScopeHistory.afterRequests_isWriteOnce repeatedInsertion
  have listed : history.forest.lookup (.region 0) "x" = some (.declared 0) := by
    rw [once.lookups]
    decide +kernel
  obtain ⟨symbol, symbol_eq⟩ : ∃ symbol, history.forest.symbols[1]? = some symbol := ⟨_, rfl⟩
  obtain rfl : { variableAt 20 with owner := some (.region 1) } = symbol :=
    Option.some.inj symbol_eq
  obtain ⟨insertions_eq, unchanged⟩ := answers 0 (.declared 1) _ (by decide +kernel) symbol_eq
  have taken : history.forest.lookup (.region 0) "x" ≠ none := by simp [listed]
  refine ⟨listed, unchanged taken, ⟨_, symbol_eq, rfl⟩, ?_⟩
  rw [insertions_eq, List.getLast?_concat]
  exact congrArg some listed

end Specimen

end ShadowLint
