import ShadowLint.Proofs.Dump.TypeTable
import ShadowLint.Types.Sharing

/-!
# What a type table tells

The types of a table are what its entries tell: a defined type is known by its index, and any other
type is put together from the types that its entry refers to.  There is only one way to give types
to the entries like this, so the order in which the entries are read does not matter.
-/

namespace ShadowLint
namespace Dump

/-- A reference means a type, where the types are given by index. -/
def Means (types : Nat → Option Ty) (reference : Json) (type : Ty) : Prop :=
  ∃ target : Nat, reference = .int target ∧ types target = some type

/-- The entry at an index tells a type: it is that of a defined type, or the type is put together
from those that its references mean. -/
def Tells (types : Nat → Option Ty) (index : Nat) (members : Members) (type : Ty) : Prop :=
  definedTypeOf? index (.object members) = some type ∨
    ∃ parts, List.Forall₂ (Means types) (references members) parts ∧
      typeOf? members parts = some type

/-- Every type is what the entry at its index tells. -/
def AreTold (entries : List Json) (types : Nat → Option Ty) : Prop :=
  ∀ index type, types index = some type →
    ∃ members, entries[index]? = some (.object members) ∧ Tells types index members type

theorem Means.mono {types others : Nat → Option Ty}
    (kept : ∀ index type, types index = some type → others index = some type) {reference : Json}
    {type : Ty} (means : Means types reference type) : Means others reference type := by
  obtain ⟨target, same, found⟩ := means
  exact ⟨target, same, kept target type found⟩

theorem Tells.mono {types others : Nat → Option Ty}
    (kept : ∀ index type, types index = some type → others index = some type) {index : Nat}
    {members : Members} {type : Ty} (tells : Tells types index members type) :
    Tells others index members type := by
  rcases tells with defined | ⟨parts, means, built⟩
  · exact .inl defined
  · exact .inr ⟨parts, means.imp fun _ _ => Means.mono kept, built⟩

section Unique

variable {entries : List Json} {types others : Nat → Option Ty}

theorem tells_iff_of_named {index : Nat} {members : Members} {type : Ty}
    (kind_eq : value members "kind" = .string "named") :
    Tells types index members type ↔ definedTypeOf? index (.object members) = some type := by
  refine ⟨?_, .inl⟩
  rintro (defined | ⟨parts, -, built⟩)
  · exact defined
  · simp [typeOf?, kind_eq] at built

theorem tells_iff_of_ne {index : Nat} {members : Members} {type : Ty}
    (other : value members "kind" ≠ .string "named") :
    Tells types index members type ↔
      ∃ parts, List.Forall₂ (Means types) (references members) parts ∧
        typeOf? members parts = some type := by
  refine ⟨?_, .inr⟩
  rintro (defined | built)
  · obtain ⟨-, found, same, kind_eq⟩ := definedTypeOf?_eq_some defined
    obtain rfl := Json.object.inj same
    exact absurd kind_eq other
  · exact built

theorem eq_of_forall₂_means {found : List Json} {parts rest : List Ty}
    (each : ∀ reference ∈ found, ∀ type other, Means types reference type →
      Means others reference other → type = other)
    (left : List.Forall₂ (Means types) found parts)
    (right : List.Forall₂ (Means others) found rest) : parts = rest := by
  induction left generalizing rest with
  | nil =>
      cases right
      rfl
  | cons first _ ih =>
      obtain _ | ⟨second, right⟩ := right
      rw [each _ (.head _) _ _ first second,
        ih (fun reference mem => each reference (.tail _ mem)) right]

/-- A defined type is known by its index. -/
theorem AreTold.eq_of_named (left : AreTold entries types) (right : AreTold entries others)
    {index : Nat} (named : HasKind entries index "named") {type other : Ty}
    (type_eq : types index = some type) (other_eq : others index = some other) : type = other := by
  obtain ⟨members, entry_eq, kind_eq⟩ := named
  have defined {found : Nat → Option Ty} (told : AreTold entries found) {type : Ty}
      (type_eq : found index = some type) :
      definedTypeOf? index (.object members) = some type := by
    obtain ⟨others, others_eq, tells⟩ := told index type type_eq
    obtain rfl : members = others := by simpa [entry_eq] using others_eq
    exact (tells_iff_of_named kind_eq).mp tells
  exact Option.some.inj ((defined left type_eq).symm.trans (defined right other_eq))

/-- Where no circle of references leads through an entry, it has one type only. -/
theorem AreTold.eq_of_acc (left : AreTold entries types) (right : AreTold entries others)
    {index : Nat} (accessible : Acc (fun target source => DependsOn entries source target) index)
    {type other : Ty} (type_eq : types index = some type) (other_eq : others index = some other) :
    type = other := by
  induction accessible generalizing type other with
  | intro index _ ih =>
    by_cases named : HasKind entries index "named"
    · exact left.eq_of_named right named type_eq other_eq
    · obtain ⟨members, entry_eq, left_tells⟩ := left index type type_eq
      obtain ⟨found, found_eq, right_tells⟩ := right index other other_eq
      obtain rfl : members = found := by simpa [entry_eq] using found_eq
      have notNamed : value members "kind" ≠ .string "named" :=
        fun kind_eq => named ⟨members, entry_eq, kind_eq⟩
      obtain ⟨parts, parts_eq, left_built⟩ := (tells_iff_of_ne notNamed).mp left_tells
      obtain ⟨rest, rest_eq, right_built⟩ := (tells_iff_of_ne notNamed).mp right_tells
      obtain rfl : parts = rest := by
        refine eq_of_forall₂_means ?_ parts_eq rest_eq
        rintro _ mem part otherPart ⟨target, rfl, part_eq⟩ ⟨_, same, otherPart_eq⟩
        obtain rfl := Int.ofNat.inj (Json.int.inj same)
        by_cases target_named : HasKind entries target "named"
        · exact left.eq_of_named right target_named part_eq otherPart_eq
        · exact ih target ⟨members, entry_eq, notNamed, mem, target_named⟩ part_eq otherPart_eq
      exact Option.some.inj (left_built.symm.trans right_built)

end Unique

section Reading

variable {entries : List Json} {before after : FoundTypes}

/-- The types found so far, by index. -/
def foundTypes (found : FoundTypes) (index : Nat) : Option Ty :=
  found[index]?.join

/-- The found types stay as they are, and nothing is found at an index that is not free. -/
structure Extends (free : List Nat) (before after : FoundTypes) : Prop where
  /-- No type is lost or replaced. -/
  kept : ∀ index type, foundTypes before index = some type → foundTypes after index = some type
  /-- What is under way stays so. -/
  pending : ∀ index, index ∉ free → foundTypes after index = foundTypes before index

theorem Extends.refl (free : List Nat) (found : FoundTypes) : Extends free found found :=
  ⟨fun _ _ found => found, fun _ _ => rfl⟩

theorem Extends.trans {free : List Nat} {between : FoundTypes} (first : Extends free before between)
    (rest : Extends free between after) : Extends free before after :=
  ⟨fun index type found => rest.kept index type (first.kept index type found),
    fun index pending => (rest.pending index pending).trans (first.pending index pending)⟩

/-- There is room for the type of every entry, and the types found so far are what their entries
tell. -/
structure IsSolved (entries : List Json) (found : FoundTypes) : Prop where
  /-- There is room for the type of every entry. -/
  size : found.size = entries.length
  /-- What is found is told. -/
  told : AreTold entries (foundTypes found)

/-- The type of an entry whose references are followed already can be added to those found. -/
theorem IsSolved.setIfInBounds {free : List Nat} {index : Nat} {members : Members}
    {parts : List Ty} {type : Ty} {between : FoundTypes} (solved : IsSolved entries between)
    (isFree : index ∈ free) (distinct : free.Nodup) (unfound : foundTypes before index = none)
    (extend : Extends (free.erase index) before between)
    (entry_eq : entries[index]? = some (.object members))
    (means : List.Forall₂ (Means (foundTypes between)) (references members) parts)
    (built : typeOf? members parts = some type) :
    IsSolved entries (between.setIfInBounds index (some type)) ∧
      Extends free before (between.setIfInBounds index (some type)) ∧
      foundTypes (between.setIfInBounds index (some type)) index = some type := by
  have inside : index < between.size := by
    rw [solved.size]
    exact (List.getElem?_eq_some_iff.mp entry_eq).1
  have found_eq (other : Nat) : foundTypes (between.setIfInBounds index (some type)) other =
      if other = index then some type else foundTypes between other :=
    join_setIfInBounds inside type other
  have between_unfound : foundTypes between index = none := by
    rw [extend.pending index (List.Nodup.not_mem_erase distinct), unfound]
  have kept (other : Nat) (found : Ty) (other_eq : foundTypes between other = some found) :
      foundTypes (between.setIfInBounds index (some type)) other = some found := by
    rw [found_eq, if_neg ?_, other_eq]
    rintro rfl
    simp [between_unfound] at other_eq
  refine ⟨⟨by rw [Array.size_setIfInBounds, solved.size], fun other found other_eq => ?_⟩,
    ⟨fun other found other_eq => kept other found (extend.kept other found other_eq),
      fun other notFree => ?_⟩, by rw [found_eq, if_pos rfl]⟩
  · rw [found_eq] at other_eq
    split at other_eq
    · subst other
      obtain rfl := Option.some.inj other_eq
      exact ⟨members, entry_eq, Tells.mono kept (.inr ⟨parts, means, built⟩)⟩
    · obtain ⟨others, others_eq, tells⟩ := solved.told other found other_eq
      exact ⟨others, others_eq, tells.mono kept⟩
  · have differs : other ≠ index := fun same => notFree (same ▸ isFree)
    rw [found_eq, if_neg differs]
    exact extend.pending other fun mem => notFree (List.mem_of_mem_erase mem)

/-- What is found by following references is what the entries tell. -/
theorem IsSolved.of_typeAt {free : List Nat} {index : Nat} {type : Ty}
    (solved : IsSolved entries before) (distinct : free.Nodup)
    (run : (typeAt entries.toArray free index).run before = .ok (type, after)) :
    IsSolved entries after ∧ Extends free before after ∧ foundTypes after index = some type := by
  refine run_typeAt_induction (motive := fun free index before type after =>
    IsSolved entries before → free.Nodup → IsSolved entries after ∧ Extends free before after ∧
      foundTypes after index = some type) ?_ ?_ run solved distinct
  · intro free index before type found solved _
    exact ⟨solved, .refl free before, found⟩
  · intro free index before type members parts between unfound isFree entry_eq _ parts_run built
      each solved distinct
    rw [List.getElem?_toArray] at entry_eq
    have followed_sound {reference : Json} {earlier : FoundTypes} {part : Ty} {later : FoundTypes}
        (earlier_solved : IsSolved entries earlier)
        (followed_run : (followed entries.toArray (.entry .types index) (free.erase index)
          reference).run earlier = .ok (part, later)) :
        IsSolved entries later ∧ Extends (free.erase index) earlier later ∧
          Means (foundTypes later) reference part := by
      obtain ⟨target, rfl, -, target_run⟩ := run_followed_eq_ok_iff.mp followed_run
      obtain ⟨later_solved, extend, found⟩ :=
        each target_run earlier_solved (distinct.erase index)
      exact ⟨later_solved, extend, target, rfl, found⟩
    obtain ⟨between_solved, extend, means⟩ := run_mapM_sound (IsSolved entries)
      (fun found => Means (foundTypes found)) (Extends.refl (free.erase index)) Extends.trans
      (fun extend => Means.mono extend.kept) followed_sound solved parts_run
    exact between_solved.setIfInBounds isFree distinct unfound extend entry_eq means built

/-- The defined types of a table are told by their entries alone. -/
theorem isSolved_definedTypes (entries : List Json) :
    IsSolved entries (definedTypes entries) where
  size := by simp [definedTypes]
  told index type found := by
    rw [foundTypes, join_definedTypes, Option.bind_eq_some_iff] at found
    obtain ⟨entry, entry_eq, defined⟩ := found
    obtain ⟨-, members, rfl, -⟩ := definedTypeOf?_eq_some defined
    exact ⟨members, entry_eq, .inl defined⟩

/-- The types of a table are those that its entries tell. -/
theorem areTold_of_typeTable_eq_ok {table : TypeTable} (read : typeTable entries = .ok table) :
    AreTold entries (table.types[·]?) := by
  obtain ⟨-, types, after, run, rfl⟩ := typeTable_eq_ok_iff.mp read
  obtain ⟨solved, -, found⟩ := run_mapM_sound (IsSolved entries)
    (fun found index type => foundTypes found index = some type)
    (Extends.refl (List.range entries.length)) Extends.trans (fun extend => extend.kept _ _)
    (fun solved run => solved.of_typeAt List.nodup_range run) (isSolved_definedTypes entries) run
  have same : (types.toArray[·]?) = foundTypes after := by
    funext index
    rw [List.getElem?_toArray]
    by_cases inside : index < types.length
    · have index_found := found.get (found.length_eq ▸ inside) inside
      rw [List.getElem?_eq_getElem inside]
      simpa using index_found.symm
    · have outside : after.size ≤ index := by
        have length_eq := found.length_eq
        rw [List.length_range] at length_eq
        rw [solved.size, length_eq]
        exact Nat.le_of_not_lt inside
      rw [List.getElem?_eq_none (Nat.le_of_not_lt inside), foundTypes,
        Array.getElem?_eq_none outside, Option.join_none]
  exact same ▸ solved.told

end Reading

/-- A table resolves to what its entries tell. -/
structure Resolves (entries : List Json) (table : TypeTable) : Prop where
  /-- There is one type for every entry. -/
  size : table.types.size = entries.length
  /-- Entries are objects. -/
  objects : ∀ entry ∈ entries, ∃ members, entry = .object members
  /-- The type of an entry that is no defined type is put together from the types that the table has
  for its references. -/
  built : ∀ (index : Nat) (members : Members), entries[index]? = some (.object members) →
    value members "kind" ≠ .string "named" →
      ∃ parts type, List.Forall₂ (Means (table.types[·]?)) (references members) parts ∧
        typeOf? members parts = some type ∧ table.types[index]? = some type
  /-- The type of any other entry is the defined type of its index. -/
  defined : ∀ (index : Nat) (members : Members), entries[index]? = some (.object members) →
    value members "kind" = .string "named" →
      ∃ name, content? members "name" .string = some name ∧
        table.types[index]? = some (.named (.declared index) name
          ((presentContent? members "pkg" .string).getD ""))
  /-- It stands for the type that the table has for its reference, and for none if there is no
  reference. -/
  underlying : ∀ (index : Nat) (members : Members), entries[index]? = some (.object members) →
    value members "kind" = .string "named" →
      (Json.present? members "underlying" = none ∧ table.underlying[index]? = some none) ∨
        ∃ reference type, Json.present? members "underlying" = some reference ∧
          Means (table.types[·]?) reference type ∧ table.underlying[index]? = some (some type)
  /-- Two defined types are never the same. -/
  apart : ∀ left right, HasKind entries left "named" → HasKind entries right "named" →
    left ≠ right → Ty.haveSameType table.types[left]? table.types[right]? = false

theorem resolves_of_typeTable_eq_ok {entries : List Json} {table : TypeTable}
    (read : typeTable entries = .ok table) : Resolves entries table := by
  have wellFormed := isWellFormed_of_typeTable_eq_ok read
  have isTable := isTableOf_of_typeTable_eq_ok read
  have tells {index : Nat} {members : Members}
      (entry_eq : entries[index]? = some (.object members)) :
      ∃ type, table.types[index]? = some type ∧ Tells (table.types[·]?) index members type := by
    have inside : index < table.types.size :=
      isTable.size ▸ (List.getElem?_eq_some_iff.mp entry_eq).1
    have type_eq := Array.getElem?_eq_getElem inside
    obtain ⟨others, others_eq, tells⟩ := areTold_of_typeTable_eq_ok read index _ type_eq
    obtain rfl : members = others := by simpa [entry_eq] using others_eq
    exact ⟨_, type_eq, tells⟩
  have defined {index : Nat} {members : Members}
      (entry_eq : entries[index]? = some (.object members))
      (kind_eq : value members "kind" = .string "named") :
      ∃ name, content? members "name" .string = some name ∧
        table.types[index]? = some (.named (.declared index) name
          ((presentContent? members "pkg" .string).getD "")) := by
    obtain ⟨type, type_eq, told⟩ := tells entry_eq
    obtain ⟨others, same, formed, -⟩ := wellFormed.formed _ (List.mem_of_getElem? entry_eq)
    obtain rfl := Json.object.inj same
    rw [tells_iff_of_named kind_eq] at told
    simp only [IsFormed, kind_eq] at formed
    obtain ⟨name, name_eq⟩ := Option.isSome_iff_exists.mp formed.1
    simp only [definedTypeOf?, value_eq_string_iff.mp kind_eq, name_eq, Option.getD_some] at told
    exact ⟨name, name_eq, type_eq.trans told.symm⟩
  refine ⟨isTable.size, fun entry mem => ?_, fun index members entry_eq other => ?_,
    fun index members => defined, fun index members entry_eq kind_eq => ?_, ?_⟩
  · obtain ⟨members, same, -⟩ := wellFormed.formed entry mem
    exact ⟨members, same⟩
  · obtain ⟨type, type_eq, told⟩ := tells entry_eq
    obtain ⟨parts, means, built⟩ := (tells_iff_of_ne other).mp told
    exact ⟨parts, type, means, built, type_eq⟩
  · have underlying := isTable.underlying index members entry_eq kind_eq
    split at underlying
    · rename_i absent
      exact .inl ⟨absent, underlying⟩
    · rename_i reference present
      obtain ⟨target, type, same, type_eq, underlying_eq⟩ := underlying
      exact .inr ⟨reference, type, present, ⟨target, same, type_eq⟩, underlying_eq⟩
  · rintro left right ⟨leftMembers, left_entry, left_kind⟩ ⟨rightMembers, right_entry, right_kind⟩
      differ
    obtain ⟨leftName, -, left_eq⟩ := defined left_entry left_kind
    obtain ⟨rightName, -, right_eq⟩ := defined right_entry right_kind
    rw [left_eq, right_eq, Ty.haveSameType_eq]
    simpa [Ty.identicalOptions, Ty.identical] using differ

end Dump
end ShadowLint
