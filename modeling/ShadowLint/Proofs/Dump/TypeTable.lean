import Mathlib.Data.Fintype.Order
import ShadowLint.Proofs.Dump.TypeDepth
import ShadowLint.Proofs.Dump.TypeReference

/-!
# Type tables that can be read

A type table is read exactly if every entry is formed well, every reference leads to an entry, and
no type is a part of itself but through a defined type.
-/

namespace ShadowLint
namespace Dump

section Table

variable {entries : List Json}

/-- The defined type that an entry is, if it is one. -/
def definedTypeOf? (index : Nat) : Json → Option Ty
  | .object members =>
      match members.lookup "kind" with
      | some (.string "named") =>
          some (.named (.declared index) ((content? members "name" .string).getD "")
            ((presentContent? members "pkg" .string).getD ""))
      | _ => none
  | _ => none

theorem definedTypeOf?_eq_none {entry : Json} {index : Nat}
    (other : ∀ members, entry = .object members →
      members.lookup "kind" ≠ some (.string "named")) : definedTypeOf? index entry = none := by
  unfold definedTypeOf?
  split
  · split
    · exact absurd ‹_› (other _ rfl)
    · rfl
  · rfl

/-- If the entry is that of a defined type, it is formed well. -/
def IsFormedIfDefined (entry : Json) : Prop :=
  ∀ members, entry = .object members → value members "kind" = .string "named" → IsFormed members

theorem isFormedIfDefined_of_ne {entry : Json}
    (other : ∀ members, entry = .object members →
      members.lookup "kind" ≠ some (.string "named")) : IsFormedIfDefined entry :=
  fun members same kind_eq => absurd (value_eq_string_iff.mp kind_eq) (other members same)

/-- A defined type is read if its entry is formed well. -/
theorem definedType?_eq_ok_iff {entry : Json} {index : Nat} {type? : Option Ty} :
    definedType? entry index = .ok type? ↔
      IsFormedIfDefined entry ∧ definedTypeOf? index entry = type? := by
  unfold definedType?
  split
  · rename_i members
    split
    · rename_i kind_eq
      have formed_iff : IsFormedIfDefined (.object members) ↔
          (content? members "name" .string).isSome ∧ MayHold members "pkg" .string := by
        simp [IsFormedIfDefined, IsFormed, value_eq_string_iff.mpr kind_eq]
      simp only [formed_iff, definedTypeOf?, kind_eq, bind_eq_ok_iff, require_eq_ok_iff_content?,
        optional?_eq_ok_iff_mayHold]
      constructor
      · rintro ⟨name, name_eq, package?, ⟨held, rfl⟩, same⟩
        refine ⟨⟨by rw [name_eq, Option.isSome_some], held⟩, ?_⟩
        rw [name_eq, Option.getD_some]
        exact Except.ok.inj same
      · rintro ⟨⟨named, held⟩, rfl⟩
        obtain ⟨name, name_eq⟩ := Option.isSome_iff_exists.mp named
        exact ⟨name, name_eq, _, ⟨held, rfl⟩, by rw [name_eq, Option.getD_some]; rfl⟩
    · rename_i other
      have notNamed (others : Members) (same : Json.object members = .object others) :
          others.lookup "kind" ≠ some (.string "named") := by
        obtain rfl := Json.object.inj same
        exact other
      rw [Except.ok.injEq, definedTypeOf?_eq_none notNamed,
        and_iff_right (isFormedIfDefined_of_ne notNamed)]
  · rename_i other
    have notNamed (others : Members) (same : entry = .object others) :
        others.lookup "kind" ≠ some (.string "named") := (other others same).elim
    rw [Except.ok.injEq, definedTypeOf?_eq_none notNamed,
      and_iff_right (isFormedIfDefined_of_ne notNamed)]

theorem definedTypeOf?_eq_some {entry : Json} {index : Nat} {type : Ty}
    (defined : definedTypeOf? index entry = some type) :
    type.kindName = "named" ∧ ∃ members, entry = .object members ∧
      value members "kind" = .string "named" := by
  unfold definedTypeOf? at defined
  split at defined
  · rename_i members
    split at defined
    · rename_i kind_eq
      obtain rfl := Option.some.inj defined
      exact ⟨rfl, members, rfl, value_eq_string_iff.mpr kind_eq⟩
    · cases defined
  · cases defined

/-- Readers that check and then give a value succeed on a list if all checks do. -/
theorem mapM_eq_ok_iff_forall {Fault Item Result : Type} {read : Item → Except Fault Result}
    {checks : Item → Prop} {result : Item → Result} {listed : List Item}
    (each : ∀ item ∈ listed, ∀ value, read item = .ok value ↔ checks item ∧ result item = value)
    {results : List Result} :
    listed.mapM read = .ok results ↔
      (∀ item ∈ listed, checks item) ∧ listed.map result = results := by
  rw [mapM_eq_ok_iff]
  induction listed generalizing results with
  | nil => simp [eq_comm]
  | cons item rest ih =>
      obtain ⟨item_each, rest_each⟩ := List.forall_mem_cons.mp each
      simp only [List.forall₂_cons_left_iff, item_each, ih rest_each, List.forall_mem_cons,
        List.map_cons]
      constructor
      · rintro ⟨_, _, ⟨item_checks, rfl⟩, ⟨rest_check, rfl⟩, rfl⟩
        exact ⟨⟨item_checks, rest_check⟩, rfl⟩
      · rintro ⟨⟨item_checks, rest_check⟩, rfl⟩
        exact ⟨_, _, ⟨item_checks, rfl⟩, ⟨rest_check, rfl⟩, rfl⟩

/-- Readers of entries that check and then give a value succeed on a table if all checks do. -/
theorem zipIdx_mapM_eq_ok_iff {Fault Item Result : Type} (read : Item → Nat → Except Fault Result)
    (checks : Item → Prop) (result : Item → Nat → Result) {listed : List Item}
    (each : ∀ item index, listed[index]? = some item →
      ∀ value, read item index = .ok value ↔ checks item ∧ result item index = value)
    {results : List Result} :
    (listed.zipIdx.mapM fun (item, index) => read item index) = .ok results ↔
      (∀ item ∈ listed, checks item) ∧
        (listed.zipIdx.map fun (item, index) => result item index) = results := by
  have checks_iff : (∀ item ∈ listed.zipIdx, checks item.1) ↔ ∀ item ∈ listed, checks item := by
    rw [← List.forall_mem_map, List.zipIdx_map_fst]
  rw [← checks_iff]
  refine mapM_eq_ok_iff_forall fun item mem value => ?_
  exact each item.1 item.2 (List.mk_mem_zipIdx_iff_getElem?.mp mem) value

/-- The defined types of a table, by index. -/
def definedTypes (entries : List Json) : FoundTypes :=
  (entries.zipIdx.map fun (entry, index) => definedTypeOf? index entry).toArray

theorem join_definedTypes (index : Nat) :
    (definedTypes entries)[index]?.join = entries[index]?.bind (definedTypeOf? index) := by
  rw [definedTypes, List.getElem?_toArray, List.getElem?_map, List.getElem?_zipIdx]
  cases entries[index]? <;> simp

/-- The defined types of a table are resolved at once. -/
theorem holdsDefined_definedTypes (formed : ∀ entry ∈ entries, IsFormedIfDefined entry) :
    HoldsDefined entries (definedTypes entries) := by
  have defined_of_isFound {index : Nat} {type : Ty}
      (found : (definedTypes entries)[index]?.join = some type) :
      type.kindName = "named" ∧ ∃ members, entries[index]? = some (.object members) ∧
        value members "kind" = .string "named" := by
    rw [join_definedTypes, Option.bind_eq_some_iff] at found
    obtain ⟨entry, entry_eq, found⟩ := found
    obtain ⟨kindName, members, rfl, kind_eq⟩ := definedTypeOf?_eq_some found
    exact ⟨kindName, members, entry_eq, kind_eq⟩
  have notNamed_elim {index : Nat} {members : Members}
      (found : IsFound (definedTypes entries) index)
      (entry_eq : entries[index]? = some (.object members)) :
      value members "kind" = .string "named" := by
    obtain ⟨type, found⟩ := found
    obtain ⟨-, others, others_eq, kind_eq⟩ := defined_of_isFound found
    obtain rfl : others = members := by simpa [others_eq] using entry_eq
    exact kind_eq
  refine ⟨⟨by simp [definedTypes], ?_, ?_, ?_⟩, ?_⟩
  · intro index type found
    obtain ⟨kindName, members, entry_eq, kind_eq⟩ := defined_of_isFound found
    rw [kindName]
    exact ⟨members, entry_eq, kind_eq,
      formed _ (List.mem_of_getElem? entry_eq) members rfl kind_eq⟩
  · intro index members found entry_eq notNamed
    exact absurd (notNamed_elim found entry_eq) notNamed
  · intro index found
    refine Acc.intro index fun target ⟨members, entry_eq, notNamed, _⟩ => ?_
    exact absurd (notNamed_elim found entry_eq) notNamed
  · rintro index ⟨members, entry_eq, kind_eq⟩
    rw [IsFound, join_definedTypes, entry_eq, Option.bind_some, definedTypeOf?,
      value_eq_string_iff.mp kind_eq]
    exact ⟨_, rfl⟩

/-- The type that a reference leads to. -/
def typeOfReference? (types : Array Ty) : Json → Option Ty
  | .int target => types[target.toNat]?
  | _ => none

/-- What a defined type stands for, if its entry tells. -/
def underlyingOf? (types : Array Ty) : Json → Option Ty
  | .object members =>
      match members.lookup "kind" with
      | some (.string "named") =>
          (Json.present? members "underlying").bind (typeOfReference? types)
      | _ => none
  | _ => none

/-- If the entry is that of a defined type, its reference leads to an entry. -/
def IsLinkedIfDefined (entries : List Json) (entry : Json) : Prop :=
  ∀ members, entry = .object members → value members "kind" = .string "named" →
    IsLinked entries members

theorem isLinked_of_defined_iff {members : Members}
    (kind_eq : value members "kind" = .string "named") :
    IsLinked entries members ↔ ∀ reference, Json.present? members "underlying" = some reference →
      ∃ target : Nat, reference = .int target ∧ target < entries.length := by
  have references_eq : references members = (Json.present? members "underlying").toList := by
    simp only [references, kind_eq]
  constructor
  · intro linked reference present
    exact linked.inside reference (by simp [references_eq, present])
  · intro inside
    refine ⟨fun reference mem => inside reference (by simpa [references_eq] using mem), ?_⟩
    intro other
    simp [kind_eq] at other

/-- What a defined type stands for is read if its reference leads to an entry. -/
theorem underlying?_eq_ok_iff {types : Array Ty} {members : Members} {index : Nat} {type : Ty}
    {underlying : Option Ty} (size_eq : types.size = entries.length)
    (type_eq : types[index]? = some type) (kind_eq : value members "kind" = .string type.kindName) :
    underlying? types (.object members) index = .ok underlying ↔
      IsLinkedIfDefined entries (.object members) ∧
        underlyingOf? types (.object members) = underlying := by
  unfold underlying?
  split
  · rename_i others _ _ _ same named_eq
    obtain rfl := Json.object.inj same
    obtain rfl := Option.some.inj (type_eq.symm.trans named_eq)
    have linked_iff : IsLinkedIfDefined entries (.object members) ↔ IsLinked entries members := by
      simp only [IsLinkedIfDefined, Json.object.injEq, forall_eq', kind_eq, Ty.kindName,
        forall_const]
    rw [linked_iff, isLinked_of_defined_iff kind_eq]
    simp only [underlyingOf?, value_eq_string_iff.mp kind_eq, Ty.kindName]
    split
    · rename_i absent
      simp [absent]
    · rename_i reference present
      simp only [present, bind_eq_ok_iff, typeIndex_eq_ok_iff, Option.some.injEq, forall_eq',
        Option.bind_some, size_eq]
      constructor
      · rintro ⟨target, ⟨rfl, inside⟩, same⟩
        exact ⟨⟨target, rfl, inside⟩, Except.ok.inj same⟩
      · rintro ⟨⟨target, rfl, inside⟩, rfl⟩
        exact ⟨target, ⟨rfl, inside⟩, rfl⟩
  · rename_i other
    have notNamed : members.lookup "kind" ≠ some (.string "named") := by
      intro named
      cases type with
      | named id name package => exact other _ _ _ _ rfl type_eq
      | _ => simp [Ty.kindName, value_eq_string_iff, named] at kind_eq
    have linked : IsLinkedIfDefined entries (.object members) := by
      intro others same named
      obtain rfl := Json.object.inj same
      exact absurd (value_eq_string_iff.mp named) notNamed
    rw [and_iff_right linked]
    simp [underlyingOf?]

/-- Along a chain of references there are entries only. -/
theorem IsWellFormed.inside {index target : Nat} (wellFormed : IsWellFormed entries)
    (depends : DependsOn entries index target) : target < entries.length := by
  obtain ⟨members, entry_eq, -, mem, -⟩ := depends
  obtain ⟨others, same, -, linked⟩ := wellFormed.formed _ (List.mem_of_getElem? entry_eq)
  obtain rfl := Json.object.inj same
  obtain ⟨found, same, inside⟩ := linked.inside _ mem
  rwa [Int.ofNat.inj (Json.int.inj same)]

/-- In a table of finite length without circles every chain of references ends. -/
theorem IsWellFormed.accessible (wellFormed : IsWellFormed entries) (index : Nat) :
    Acc (fun target source => DependsOn entries source target) index := by
  let follows (target source : Fin entries.length) : Prop :=
    Relation.TransGen (DependsOn entries) source target
  have : IsTrans _ follows := ⟨fun _ _ _ first second => second.trans first⟩
  have : Std.Irrefl follows := ⟨fun index => wellFormed.acyclic index⟩
  have wellFounded : WellFounded follows := Finite.wellFounded_of_trans_of_irrefl follows
  have accessible (index : Fin entries.length) :
      Acc (fun target source => DependsOn entries source target) index.val := by
    induction wellFounded.apply index with
    | intro index _ ih =>
      exact Acc.intro index.val fun target depends =>
        ih ⟨target, wellFormed.inside depends⟩ (.single depends)
  exact Acc.intro index fun target depends => accessible ⟨target, wellFormed.inside depends⟩

theorem not_transGen_of_acc {index : Nat}
    (accessible : Acc (fun target source => DependsOn entries source target) index) :
    ¬Relation.TransGen (DependsOn entries) index index := by
  induction accessible with
  | intro index _ ih =>
    intro circle
    obtain ⟨next, first, rest⟩ := Relation.TransGen.head'_iff.mp circle
    exact ih next first (.tail' rest first)

/-- What is known once all types are found: where they are found, and that each is of the kind of
its entry. -/
theorem exists_types_of_run_typeAt {types : List Ty} {after : FoundTypes}
    (formed : ∀ entry ∈ entries, IsFormedIfDefined entry)
    (run : ((List.range entries.length).mapM
      (typeAt entries.toArray (List.range entries.length))).run (definedTypes entries) =
        .ok (types, after)) :
    IsResolved entries after ∧ types.length = entries.length ∧
      ∀ index < entries.length, IsFound after index ∧ ∃ type, types[index]? = some type ∧
        HasKind entries index type.kindName := by
  obtain ⟨resolved, -, leads⟩ := run_mapM_sound (IsResolved entries)
    (fun found index (type : Ty) => IsFound found index ∧ HasKind entries index type.kindName)
    Grows.refl Grows.trans (fun grows held => ⟨grows _ held.1, held.2⟩)
    (fun resolved run => resolved.of_typeAt run) (holdsDefined_definedTypes formed).1 run
  have length_eq : types.length = entries.length := by
    rw [← leads.length_eq, List.length_range]
  refine ⟨resolved, length_eq, fun index inside => ?_⟩
  obtain ⟨found, kind⟩ := leads.get (by simpa using inside) (by simpa [length_eq] using inside)
  simp only [List.get_eq_getElem, List.getElem_range] at found kind
  exact ⟨found, types[index], List.getElem?_eq_getElem _, kind⟩

/-- The table is read if the defined types are formed well, all types are found one after the
other, and what the defined types stand for is among them. -/
theorem typeTable_eq_ok_iff {table : TypeTable} :
    typeTable entries = .ok table ↔
      (∀ entry ∈ entries, IsFormedIfDefined entry ∧ IsLinkedIfDefined entries entry) ∧
        ∃ types after,
          ((List.range entries.length).mapM
            (typeAt entries.toArray (List.range entries.length))).run (definedTypes entries) =
              .ok (types, after) ∧
            table = ⟨types.toArray, (entries.map (underlyingOf? types.toArray)).toArray⟩ := by
  have defined_eq_ok_iff {defined : List (Option Ty)} :
      (entries.zipIdx.mapM fun (entry, index) => definedType? entry index) = .ok defined ↔
        (∀ entry ∈ entries, IsFormedIfDefined entry) ∧
          (entries.zipIdx.map fun (entry, index) => definedTypeOf? index entry) = defined :=
    zipIdx_mapM_eq_ok_iff definedType? IsFormedIfDefined (fun entry index =>
      definedTypeOf? index entry) fun _ _ _ _ => definedType?_eq_ok_iff
  have underlying_eq_ok_iff {types : List Ty} {after : FoundTypes} {underlying : List (Option Ty)}
      (formed : ∀ entry ∈ entries, IsFormedIfDefined entry)
      (run : ((List.range entries.length).mapM
        (typeAt entries.toArray (List.range entries.length))).run (definedTypes entries) =
          .ok (types, after)) :
      (entries.zipIdx.mapM fun (entry, index) => underlying? types.toArray entry index) =
          .ok underlying ↔
        (∀ entry ∈ entries, IsLinkedIfDefined entries entry) ∧
          entries.map (underlyingOf? types.toArray) = underlying := by
    obtain ⟨-, length_eq, kinds⟩ := exists_types_of_run_typeAt formed run
    have map_eq : entries.map (underlyingOf? types.toArray) =
        entries.zipIdx.map fun (entry, _) => underlyingOf? types.toArray entry := by
      conv_lhs => rw [← List.zipIdx_map_fst 0 entries, List.map_map]
      rfl
    rw [map_eq]
    refine zipIdx_mapM_eq_ok_iff (underlying? types.toArray) (IsLinkedIfDefined entries)
      (fun entry _ => underlyingOf? types.toArray entry) fun entry index entry_eq underlying => ?_
    obtain ⟨-, type, type_eq, members, members_eq, kind_eq⟩ :=
      kinds index (List.getElem?_eq_some_iff.mp entry_eq).1
    obtain rfl : entry = .object members := by simpa [entry_eq] using members_eq
    exact underlying?_eq_ok_iff (by simpa using length_eq) (by simpa using type_eq) kind_eq
  simp only [typeTable, bind_eq_ok_iff, defined_eq_ok_iff, forall_and]
  constructor
  · rintro ⟨_, ⟨formed, rfl⟩, ⟨types, after⟩, run, underlying, underlying_eq, same⟩
    obtain ⟨linked, rfl⟩ := (underlying_eq_ok_iff formed run).mp underlying_eq
    exact ⟨⟨formed, linked⟩, types, after, run, (Except.ok.inj same).symm⟩
  · rintro ⟨⟨formed, linked⟩, types, after, run, rfl⟩
    exact ⟨_, ⟨formed, rfl⟩, (types, after), run, _,
      (underlying_eq_ok_iff formed run).mpr ⟨linked, rfl⟩, rfl⟩

/-- What can be read is well formed. -/
theorem isWellFormed_of_typeTable_eq_ok {table : TypeTable} (read : typeTable entries = .ok table) :
    IsWellFormed entries := by
  obtain ⟨defined, types, after, run, -⟩ := typeTable_eq_ok_iff.mp read
  obtain ⟨resolved, -, found⟩ := exists_types_of_run_typeAt (fun entry mem => (defined entry mem).1)
    run
  refine ⟨fun entry mem => ?_, fun index circle => ?_⟩
  · obtain ⟨index, inside, rfl⟩ := List.getElem_of_mem mem
    obtain ⟨isFound, type, -, -⟩ := found index inside
    obtain ⟨type, type_eq⟩ := id isFound
    obtain ⟨members, entry_eq, kind_eq, formed⟩ := resolved.formed index type type_eq
    have same := (List.getElem?_eq_some_iff.mp entry_eq).2
    refine ⟨members, same, formed, ?_⟩
    by_cases named : value members "kind" = .string "named"
    · exact (defined _ mem).2 members same named
    · exact resolved.linked index members isFound entry_eq named
  · have inside : index < entries.length := by
      obtain ⟨next, ⟨members, entry_eq, -⟩, -⟩ := Relation.TransGen.head'_iff.mp circle
      exact (List.getElem?_eq_some_iff.mp entry_eq).1
    exact not_transGen_of_acc (resolved.accessible index (found index inside).1) circle

/-- What is well formed can be read. -/
theorem exists_typeTable_eq_ok (wellFormed : IsWellFormed entries) :
    ∃ table, typeTable entries = .ok table := by
  have defined (entry : Json) (mem : entry ∈ entries) :
      IsFormedIfDefined entry ∧ IsLinkedIfDefined entries entry := by
    obtain ⟨members, rfl, formed, linked⟩ := wellFormed.formed entry mem
    refine ⟨fun others same _ => ?_, fun others same _ => ?_⟩
    all_goals obtain rfl := Json.object.inj same
    · exact formed
    · exact linked
  have each (index : Nat) (mem : index ∈ List.range entries.length) (before : FoundTypes)
      (holds : HoldsDefined entries before) :
      ∃ type after, (typeAt entries.toArray (List.range entries.length) index).run before =
        .ok (type, after) ∧ HoldsDefined entries after := by
    have inside := List.mem_range.mp mem
    have isFree (other : Nat) (reaches : Relation.ReflTransGen (DependsOn entries) index other) :
        other ∈ List.range entries.length := by
      rw [List.mem_range]
      rcases Relation.ReflTransGen.cases_tail reaches with rfl | ⟨_, -, depends⟩
      · exact inside
      · exact wellFormed.inside depends
    obtain ⟨type, after, run⟩ :=
      exists_run_typeAt wellFormed holds inside isFree (wellFormed.accessible index)
    exact ⟨type, after, run, holds.of_typeAt run⟩
  obtain ⟨types, after, run⟩ := exists_run_mapM each
    (holdsDefined_definedTypes fun entry mem => (defined entry mem).1)
  exact ⟨_, typeTable_eq_ok_iff.mpr ⟨defined, types, after, run, rfl⟩⟩

/-- The types that a table gives to its entries. -/
structure IsTableOf (entries : List Json) (table : TypeTable) : Prop where
  /-- Every entry has a type, and there are no others. -/
  size : table.types.size = entries.length
  /-- The type of an entry is of its kind. -/
  types : ∀ (index : Nat) (type : Ty), table.types[index]? = some type →
    HasKind entries index type.kindName
  /-- A defined type stands for the type that its reference leads to. -/
  underlying : ∀ (index : Nat) (members : Members), entries[index]? = some (.object members) →
    value members "kind" = .string "named" →
      match Json.present? members "underlying" with
      | none => table.underlying[index]? = some none
      | some reference => ∃ (target : Nat) (type : Ty), reference = .int target ∧
          table.types[target]? = some type ∧ table.underlying[index]? = some (some type)

theorem isTableOf_of_typeTable_eq_ok {table : TypeTable} (read : typeTable entries = .ok table) :
    IsTableOf entries table := by
  have wellFormed := isWellFormed_of_typeTable_eq_ok read
  obtain ⟨defined, types, after, run, rfl⟩ := typeTable_eq_ok_iff.mp read
  obtain ⟨-, length_eq, found⟩ :=
    exists_types_of_run_typeAt (fun entry mem => (defined entry mem).1) run
  refine ⟨by simpa using length_eq, fun index type type_eq => ?_, fun index members entry_eq
    kind_eq => ?_⟩
  · rw [List.getElem?_toArray] at type_eq
    have inside := (List.getElem?_eq_some_iff.mp type_eq).1
    obtain ⟨-, found, found_eq, kind⟩ := found index (length_eq ▸ inside)
    rwa [Option.some.inj (type_eq.symm.trans found_eq)]
  · have underlying_eq : ((entries.map (underlyingOf? types.toArray)).toArray)[index]? =
        some (underlyingOf? types.toArray (.object members)) := by
      simp [entry_eq]
    rw [underlying_eq]
    have linked := (defined _ (List.mem_of_getElem? entry_eq)).2 members rfl kind_eq
    simp only [underlyingOf?, value_eq_string_iff.mp kind_eq]
    split
    · rename_i absent
      simp [absent]
    · rename_i reference present
      obtain ⟨target, rfl, inside⟩ := (isLinked_of_defined_iff kind_eq).mp linked _ present
      obtain ⟨-, type, type_eq, -⟩ := found target inside
      exact ⟨target, type, rfl, by simpa using type_eq, by
        simpa [present, typeOfReference?] using type_eq⟩

/-- A type table is read exactly if it is well formed, and then every entry has a type; if it is
not, there is a fault.  References are never followed through more entries than the table has,
whatever should happen behind them. -/
theorem typeTable_eq_ok_iff_isWellFormed (entries : List Json) :
    ((∃ table, typeTable entries = .ok table) ↔ IsWellFormed entries) ∧
      (∀ table, typeTable entries = .ok table → IsTableOf entries table) ∧
      ((∃ fault, typeTable entries = .error fault) ↔ ¬IsWellFormed entries) ∧
      ∀ (deeper : List Nat → Nat → TypeReader Ty), ∀ index < entries.length,
        typeWithin entries.toArray deeper entries.length [] index =
          typeAt entries.toArray (List.range entries.length) index := by
  have read_iff : (∃ table, typeTable entries = .ok table) ↔ IsWellFormed entries :=
    ⟨fun ⟨_, read⟩ => isWellFormed_of_typeTable_eq_ok read, exists_typeTable_eq_ok⟩
  refine ⟨read_iff, fun table read => isTableOf_of_typeTable_eq_ok read, ?_,
    fun deeper index inside => ?_⟩
  · rw [← read_iff]
    cases typeTable entries <;> simp
  · refine typeWithin_eq_typeAt_of_isUnderWay ?_ (by simpa using inside) (by simp)
    simpa using isUnderWay_nil entries.length

end Table

/-- The types of a linked list: a defined type, a structure of it, a pointer to it. -/
def linkedList : List Json :=
  [.object [("kind", .string "named"), ("name", .string "List"), ("underlying", .int 1)],
    .object [("kind", .string "struct"), ("fields", .array
      [.object [("name", .string "next"), ("type", .int 2)]])],
    .object [("kind", .string "pointer"), ("elem", .int 0)]]

/-- A pointer to itself. -/
def circle : List Json := [.object [("kind", .string "pointer"), ("elem", .int 0)]]

/-- A defined type may be a part of what it stands for; a pointer may not point to itself. -/
theorem isWellFormed_linkedList : IsWellFormed linkedList ∧ ¬IsWellFormed circle := by
  have accepted : (typeTable linkedList).isOk := by decide +kernel
  have refused : (typeTable circle).isOk = false := by decide +kernel
  constructor
  · apply (typeTable_eq_ok_iff_isWellFormed linkedList).1.mp
    cases read : typeTable linkedList with
    | ok table => exact ⟨table, rfl⟩
    | error fault => simp [read, Except.isOk, Except.toBool] at accepted
  · apply (typeTable_eq_ok_iff_isWellFormed circle).2.2.1.mp
    cases read : typeTable circle with
    | ok table => simp [read, Except.isOk, Except.toBool] at refused
    | error fault => exact ⟨fault, rfl⟩

end Dump
end ShadowLint
