import ShadowLint.Dump.Package

/-!
# Reading that succeeds

A reader succeeds exactly when each of its steps does, the later ones on what the earlier ones
leave behind.
-/

namespace ShadowLint
namespace Dump

variable {Fault State First Second Item : Type}

theorem bind_eq_ok_iff {first : Except Fault First} {next : First → Except Fault Second}
    {result : Second} :
    first >>= next = .ok result ↔ ∃ middle, first = .ok middle ∧ next middle = .ok result := by
  cases first <;> simp [bind, Except.bind]

theorem map_eq_ok_iff {first : Except Fault First} {change : First → Second} {result : Second} :
    change <$> first = .ok result ↔ ∃ middle, first = .ok middle ∧ change middle = result := by
  cases first <;> simp [Functor.map, Except.map]

theorem mapError_eq_ok_iff {Other : Type} {first : Except Fault First} {change : Fault → Other}
    {result : First} : first.mapError change = .ok result ↔ first = .ok result := by
  cases first with
  | error fault => exact ⟨nofun, nofun⟩
  | ok value =>
      constructor
      · intro mapped
        exact congrArg Except.ok (Except.ok.inj mapped)
      · intro same
        exact congrArg Except.ok (Except.ok.inj same)

section State

variable {before after : State}

theorem run_bind_eq_ok_iff {first : StateT State (Except Fault) First}
    {next : First → StateT State (Except Fault) Second} {result : Second} :
    (first >>= next).run before = .ok (result, after) ↔
      ∃ middle between, first.run before = .ok (middle, between) ∧
        (next middle).run between = .ok (result, after) := by
  rw [StateT.run_bind, bind_eq_ok_iff, Prod.exists]

theorem run_pure_eq_ok_iff {value result : First} :
    (pure value : StateT State (Except Fault) First).run before = .ok (result, after) ↔
      value = result ∧ before = after := by
  rw [StateT.run_pure]
  simp [pure, Except.pure]

theorem run_map_eq_ok_iff {first : StateT State (Except Fault) First} {change : First → Second}
    {result : Second} :
    (change <$> first).run before = .ok (result, after) ↔
      ∃ middle, first.run before = .ok (middle, after) ∧ change middle = result := by
  rw [map_eq_pure_bind, run_bind_eq_ok_iff]
  simp only [run_pure_eq_ok_iff]
  constructor
  · rintro ⟨middle, between, run, equal, rfl⟩
    exact ⟨middle, run, equal⟩
  · rintro ⟨middle, run, equal⟩
    exact ⟨middle, after, run, equal, rfl⟩

theorem run_lift_eq_ok_iff {first : Except Fault First} {result : First} :
    (liftM first : StateT State (Except Fault) First).run before = .ok (result, after) ↔
      first = .ok result ∧ before = after := by
  cases first <;> simp [liftM, pure, Except.pure, bind, Except.bind]

end State

/-- What every step with one of the items keeps is kept by a run of steps that succeeds. -/
theorem foldlM_induction_of_mem {step : State → Item → Except Fault State} {motive : State → Prop}
    {items : List Item}
    (kept : ∀ before, ∀ item ∈ items, ∀ after, motive before → step before item = .ok after →
      motive after)
    {start final : State} (atStart : motive start)
    (run : items.foldlM step start = .ok final) : motive final := by
  induction items generalizing start with
  | nil =>
      obtain rfl : start = final := Except.ok.inj run
      exact atStart
  | cons item rest ih =>
      rw [List.foldlM_cons, bind_eq_ok_iff] at run
      obtain ⟨middle, first, run⟩ := run
      refine ih (fun before other mem => kept before other (.tail _ mem)) ?_ run
      exact kept start item (.head _) middle atStart first

/-- What every step keeps is kept by a run of steps that succeeds. -/
theorem foldlM_induction {step : State → Item → Except Fault State} {motive : State → Prop}
    (kept : ∀ before item after, motive before → step before item = .ok after → motive after)
    {items : List Item} {start final : State} (atStart : motive start)
    (run : items.foldlM step start = .ok final) : motive final :=
  foldlM_induction_of_mem (fun before item _ => kept before item) atStart run

/-- What stands in a list with one more item. -/
theorem getElem?_concat_eq_some_iff {items : List Item} {last item : Item} {index : Nat} :
    (items ++ [last])[index]? = some item ↔
      items[index]? = some item ∨ index = items.length ∧ last = item := by
  rw [List.getElem?_append]
  split
  · rename_i earlier
    simp [Nat.ne_of_lt earlier]
  · rename_i notEarlier
    rw [List.getElem?_eq_none (Nat.le_of_not_lt notEarlier), List.getElem?_singleton]
    have index_iff : index - items.length = 0 ↔ index = items.length := by omega
    simp [index_iff]

/-- What every step keeps of the items read so far and the state is kept by a run of steps that
succeeds. -/
theorem foldlM_induction_append {step : State → Item → Except Fault State}
    {motive : List Item → State → Prop}
    (kept : ∀ read before item after, motive read before → step before item = .ok after →
      motive (read ++ [item]) after)
    (read : List Item) {items : List Item} {start final : State} (reached : motive read start)
    (run : items.foldlM step start = .ok final) : motive (read ++ items) final := by
  induction items generalizing read start with
  | nil =>
      obtain rfl : start = final := Except.ok.inj run
      rwa [List.append_nil]
  | cons item rest ih =>
      rw [List.foldlM_cons, bind_eq_ok_iff] at run
      obtain ⟨middle, first, run⟩ := run
      rw [← List.singleton_append, ← List.append_assoc]
      exact ih (read ++ [item]) (kept read start item middle reached first) run

/-- If changed steps take changed states to changed states, then so does a changed run. -/
theorem foldlM_map_eq_ok {step change : State → Item → Except Fault State}
    (changeState : State → State) (changeItem : Item → Item)
    (each : ∀ before item after, step before item = .ok after →
      change (changeState before) (changeItem item) = .ok (changeState after))
    {items : List Item} {start final : State} (run : items.foldlM step start = .ok final) :
    (items.map changeItem).foldlM change (changeState start) = .ok (changeState final) := by
  induction items generalizing start with
  | nil =>
      obtain rfl : start = final := Except.ok.inj run
      rfl
  | cons item rest ih =>
      rw [List.foldlM_cons, bind_eq_ok_iff] at run
      obtain ⟨middle, first, run⟩ := run
      rw [List.map_cons, List.foldlM_cons, bind_eq_ok_iff]
      exact ⟨changeState middle, each start item middle first, ih run⟩

/-- Entries that change under their names are found under their names. -/
theorem lookup_map {Content Other : Type} (change : String → Content → Other)
    (entries : List (String × Content)) (name : String) :
    (entries.map fun (key, content) => (key, change key content)).lookup name =
      (entries.lookup name).map (change name) := by
  induction entries with
  | nil => rfl
  | cons entry rest ih =>
      obtain ⟨key, content⟩ := entry
      simp only [List.map_cons, List.lookup_cons, ih]
      by_cases same : name = key
      · simp [same]
      · have differs : (name == key) = false := by simpa using same
        simp [differs]

theorem lookup_eq_some_of_mem {Key Content : Type} [BEq Key] [LawfulBEq Key]
    {entries : List (Key × Content)} (distinct : (entries.map Prod.fst).Nodup) {name : Key}
    {content : Content} (mem : (name, content) ∈ entries) : entries.lookup name = some content := by
  obtain ⟨before, after, rfl⟩ := List.append_of_mem mem
  refine List.lookup_eq_some_iff.mpr ⟨before, after, rfl, fun entry entry_mem => ?_⟩
  rw [List.map_append, List.nodup_append] at distinct
  have differ := distinct.2.2 entry.1 (List.mem_map_of_mem entry_mem) name (by simp)
  simpa using differ.symm

theorem require_eq_ok_iff {Content : Type} {part : DumpPart} {members : Members} {key : String}
    {shape : Shape Content} {content : Content} :
    require part members key shape = .ok content ↔
      ∃ found, members.lookup key = some found ∧ shape.read? found = some content := by
  unfold require
  cases members.lookup key with
  | none => simp
  | some found => cases read : shape.read? found <;> simp [read]

theorem optional?_eq_ok_iff {Content : Type} {part : DumpPart} {members : Members} {key : String}
    {shape : Shape Content} {content? : Option Content} :
    optional? part members key shape = .ok content? ↔
      (Json.present? members key).mapM shape.read? = some content? := by
  unfold optional? require Json.present?
  cases members.lookup key with
  | none => simp
  | some found =>
      by_cases null : found = .null
      · simp [null]
      · cases read : shape.read? found <;> simp [null, read, Except.map]

/-- One more scope is opened if its members are of their kinds. -/
theorem addScope_eq_ok_iff {before after : Forest} {entry : Json} :
    addScope before entry = .ok after ↔
      ∃ members parent start stop comment,
        let part : DumpPart := .entry .scopes before.scopes.size
        entry = .object members ∧
          Dump.parent before.scopes.size members = .ok parent ∧
          optional? part members "pos" .int = .ok start ∧
          optional? part members "end" .int = .ok stop ∧
          optional? part members "comment" .string = .ok comment ∧
          before.openScope (some parent) (start.getD noPosition) (stop.getD noPosition)
            (comment.getD "") = after := by
  unfold addScope
  constructor
  · intro added
    dsimp only at added
    split at added
    · obtain ⟨parent, parent_eq, added⟩ := bind_eq_ok_iff.mp added
      obtain ⟨start, start_eq, added⟩ := bind_eq_ok_iff.mp added
      obtain ⟨stop, stop_eq, added⟩ := bind_eq_ok_iff.mp added
      obtain ⟨comment, comment_eq, added⟩ := bind_eq_ok_iff.mp added
      exact ⟨_, parent, start, stop, comment, rfl, parent_eq, start_eq, stop_eq, comment_eq,
        Except.ok.inj added⟩
    · cases added
  · rintro ⟨members, parent, start, stop, comment, rfl, parent_eq, start_eq, stop_eq, comment_eq,
      rfl⟩
    simp only [parent_eq, start_eq, stop_eq, comment_eq, bind, Except.bind, pure, Except.pure]

/-- One more symbol is declared if its members are of their kinds and its scope, which is there,
declares no other symbol of the name. -/
theorem addSymbol_eq_ok_iff {types : Array Ty} {before after : Forest} {entry : Json} :
    addSymbol types before entry = .ok after ↔
      ∃ members kind name type position visiblePosition scope,
        let part : DumpPart := .entry .symbols before.symbols.size
        entry = .object members ∧
          symbolKind part members = .ok kind ∧
          require part members "name" .string = .ok name ∧
          symbolType types part members = .ok type ∧
          require part members "pos" .int = .ok position ∧
          optional? part members "scope_pos" .int = .ok visiblePosition ∧
          require part members "scope" .int = .ok scope ∧
          (0 ≤ scope ∧ scope < before.scopes.size) ∧
          (before.create { name, kind, type, position, visiblePosition }).insert scope.toNat
            (.declared before.symbols.size) = (none, after) := by
  unfold addSymbol
  constructor
  · intro added
    dsimp only at added
    split at added
    · obtain ⟨kind, kind_eq, added⟩ := bind_eq_ok_iff.mp added
      obtain ⟨name, name_eq, added⟩ := bind_eq_ok_iff.mp added
      obtain ⟨type, type_eq, added⟩ := bind_eq_ok_iff.mp added
      obtain ⟨position, position_eq, added⟩ := bind_eq_ok_iff.mp added
      obtain ⟨visiblePosition, visiblePosition_eq, added⟩ := bind_eq_ok_iff.mp added
      obtain ⟨scope, scope_eq, added⟩ := bind_eq_ok_iff.mp added
      split at added
      · cases added
      · rename_i known
        rw [not_or, Int.not_lt, Int.not_le] at known
        split at added
        · rename_i inserted inserted_eq
          obtain rfl : inserted = after := Except.ok.inj added
          exact ⟨_, kind, name, type, position, visiblePosition, scope, rfl, kind_eq, name_eq,
            type_eq, position_eq, visiblePosition_eq, scope_eq, known, inserted_eq⟩
        · cases added
    · cases added
  · rintro ⟨members, kind, name, type, position, visiblePosition, scope, rfl, kind_eq, name_eq,
      type_eq, position_eq, visiblePosition_eq, scope_eq, known, inserted_eq⟩
    have scope_known : ¬(scope < 0 ∨ (before.scopes.size : Int) ≤ scope) := by omega
    simp only [kind_eq, name_eq, type_eq, position_eq, visiblePosition_eq, scope_eq,
      if_neg scope_known, inserted_eq, bind, Except.bind, pure, Except.pure]

/-- Scopes and symbols are read if all scopes are and then all symbols. -/
theorem forest_eq_ok_iff {types : Array Ty} {members : Members} {result : Forest} :
    forest types members = .ok result ↔
      ∃ scopes withScopes symbols,
        items .document members "scopes" = .ok scopes ∧
          scopes.foldlM addScope .empty = .ok withScopes ∧
          items .document members "symbols" = .ok symbols ∧
          symbols.foldlM (addSymbol types) withScopes = .ok result := by
  unfold forest
  simp only [bind_eq_ok_iff]
  constructor
  · rintro ⟨scopes, scopes_eq, withScopes, withScopes_eq, symbols, symbols_eq, symbols_added⟩
    exact ⟨scopes, withScopes, symbols, scopes_eq, withScopes_eq, symbols_eq, symbols_added⟩
  · rintro ⟨scopes, withScopes, symbols, scopes_eq, withScopes_eq, symbols_eq, symbols_added⟩
    exact ⟨scopes, scopes_eq, withScopes, withScopes_eq, symbols, symbols_eq, symbols_added⟩

theorem fileRoot_eq_ok_iff {part : DumpPart} {root checked : Node} :
    fileRoot part root = .ok checked ↔ root.kind = .file ∧ root = checked := by
  unfold fileRoot
  split <;> simp_all

/-- One more file is read if its members are there, its line table fits and its tree is the tree of
a file. -/
theorem addFile_eq_ok_iff {symbolCount : Nat} {read after : FilesRead} {entry : Json} :
    addFile symbolCount read entry = .ok after ↔
      ∃ members name size lines starts space tree root resolution,
        let part : DumpPart := .entry .files read.trees.length
        entry = .object members ∧
          require part members "name" .string = .ok name ∧
          require part members "size" .int = .ok size ∧
          require part members "line_starts" .list = .ok lines ∧
          lineStarts part lines = .ok starts ∧
          read.space.add name size starts = .ok space ∧
          require part members "syntax" .object = .ok tree ∧
          (readNode symbolCount [.item read.trees.length] tree).run read.resolution =
            .ok (root, resolution) ∧
          root.kind = .file ∧
          ⟨space, read.trees ++ [root], resolution⟩ = after := by
  unfold addFile
  constructor
  · intro added
    dsimp only at added
    split at added
    · obtain ⟨name, name_eq, added⟩ := bind_eq_ok_iff.mp added
      obtain ⟨size, size_eq, added⟩ := bind_eq_ok_iff.mp added
      obtain ⟨lines, lines_eq, added⟩ := bind_eq_ok_iff.mp added
      obtain ⟨starts, starts_eq, added⟩ := bind_eq_ok_iff.mp added
      obtain ⟨space, space_eq, added⟩ := bind_eq_ok_iff.mp added
      obtain ⟨tree, tree_eq, added⟩ := bind_eq_ok_iff.mp added
      obtain ⟨⟨root, resolution⟩, root_eq, added⟩ := bind_eq_ok_iff.mp added
      obtain ⟨checked, checked_eq, added⟩ := bind_eq_ok_iff.mp added
      obtain ⟨isFile, rfl⟩ := fileRoot_eq_ok_iff.mp checked_eq
      exact ⟨_, name, size, lines, starts, space, tree, root, resolution, rfl, name_eq, size_eq,
        lines_eq, starts_eq, mapError_eq_ok_iff.mp space_eq, tree_eq, root_eq, isFile,
        Except.ok.inj added⟩
    · cases added
  · rintro ⟨members, name, size, lines, starts, space, tree, root, resolution, rfl, name_eq,
      size_eq, lines_eq, starts_eq, space_eq, tree_eq, root_eq, isFile, rfl⟩
    simp only [name_eq, size_eq, lines_eq, starts_eq, mapError_eq_ok_iff.mpr space_eq, tree_eq,
      root_eq, fileRoot_eq_ok_iff.mpr ⟨isFile, rfl⟩, bind, Except.bind, pure, Except.pure]

/-- A package is read if its parts are, one after the other. -/
theorem package_eq_ok_iff {document : Json} {result : Package} :
    package document = .ok result ↔
      ∃ members entries path types forest files read,
        document = .object members ∧
          items .document members "types" = .ok entries ∧
          require .document members "package" .string = .ok path ∧
          typeTable entries = .ok types ∧
          Dump.forest types.types members = .ok forest ∧
          require .document members "files" .list = .ok files ∧
          files.foldlM (addFile forest.symbols.size) ⟨.empty, [], .empty⟩ = .ok read ∧
          ⟨path, read.space, read.trees, types, forest, read.resolution⟩ = result := by
  unfold package
  constructor
  · intro read
    split at read
    · obtain ⟨entries, entries_eq, read⟩ := bind_eq_ok_iff.mp read
      obtain ⟨path, path_eq, read⟩ := bind_eq_ok_iff.mp read
      obtain ⟨types, types_eq, read⟩ := bind_eq_ok_iff.mp read
      obtain ⟨forest, forest_eq, read⟩ := bind_eq_ok_iff.mp read
      obtain ⟨files, files_eq, read⟩ := bind_eq_ok_iff.mp read
      obtain ⟨filesRead, filesRead_eq, read⟩ := bind_eq_ok_iff.mp read
      exact ⟨_, entries, path, types, forest, files, filesRead, rfl, entries_eq, path_eq, types_eq,
        forest_eq, files_eq, filesRead_eq, Except.ok.inj read⟩
    · cases read
  · rintro ⟨members, entries, path, types, forest, files, filesRead, rfl, entries_eq, path_eq,
      types_eq, forest_eq, files_eq, filesRead_eq, rfl⟩
    simp only [entries_eq, path_eq, types_eq, forest_eq, files_eq, filesRead_eq, bind, Except.bind,
      pure, Except.pure]

end Dump
end ShadowLint
