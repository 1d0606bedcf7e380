import ShadowLint.Proofs.Dump.MemberOrder
import ShadowLint.Proofs.Dump.TypeTable

/-!
# Type tables in any order of members

A type table is read as the same types, whatever the order of the members of its entries is.
-/

namespace ShadowLint
namespace Dump

open Json (IsAlike Agree)

section Unnamed

variable {members : Members} (notString : ∀ word, value members "kind" ≠ .string word)
include notString

theorem not_isFormed_of_ne : ¬IsFormed members := by
  unfold IsFormed
  split
  case h_12 => exact id
  all_goals exact absurd ‹_› (notString _)

theorem references_of_ne : references members = [] := by
  unfold references
  split
  case h_12 => rfl
  all_goals exact absurd ‹_› (notString _)

theorem typeOf?_of_ne (types : List Ty) : typeOf? members types = none := by
  unfold typeOf?
  split
  case h_11 => rfl
  all_goals exact absurd ‹_› (notString _)

end Unnamed

section Entry

variable {members others : Members} (agree : Agree members others)
include agree

/-- The entries name the same kind, or both name none. -/
theorem kind_eq_or_ne :
    value others "kind" = value members "kind" ∨
      (∀ word, value members "kind" ≠ .string word) ∧
        ∀ word, value others "kind" ≠ .string word := by
  have alike := value_alike agree "kind"
  generalize value members "kind" = left at alike
  generalize value others "kind" = right at alike
  cases alike using IsAlike.byShape with
  | scalar => exact .inl rfl
  | array | object => exact .inr (by simp)

theorem kind_eq_string_iff (word : String) :
    value members "kind" = .string word ↔ value others "kind" = .string word := by
  rcases kind_eq_or_ne agree with same | ⟨notString, otherNotString⟩
  · rw [same]
  · exact iff_of_false (notString word) (otherNotString word)

theorem channelDirection?_eq : channelDirection? members = channelDirection? others := by
  rw [channelDirection?, channelDirection?, presentContent?_eq agree "direction" keeps_string]

omit agree in
theorem forall_objects_iff {listed found : List Members}
    (aligned : List.Forall₂ AlikeMembers listed found) {holds : Members → Prop}
    (each : ∀ object other, AlikeMembers object other → (holds object ↔ holds other)) :
    (∀ object ∈ listed, holds object) ↔ ∀ object ∈ found, holds object := by
  induction aligned with
  | nil => simp
  | cons alike _ ih => rw [List.forall_mem_cons, List.forall_mem_cons, each _ _ alike, ih]

theorem isFormed_iff : IsFormed members ↔ IsFormed others := by
  unfold IsFormed
  rcases kind_eq_or_ne agree with same | ⟨notString, otherNotString⟩
  · rw [same]
    generalize value members "kind" = kind
    split
    case h_1 => -- basic
      rw [content?_eq agree "name" keeps_string]
    case h_2 => -- named
      rw [content?_eq agree "name" keeps_string, mayHold_iff agree "pkg" keeps_string]
    case h_5 => -- array
      rw [content?_eq agree "length" keeps_int]
    case h_7 => -- chan
      rw [mayHold_iff agree "direction" keeps_string, channelDirection?_eq agree]
    case h_8 => -- tuple
      rw [mayHold_iff agree "types" keeps_list]
    case h_9 => -- signature
      rw [mayHold_iff agree "params" keeps_list, mayHold_iff agree "results" keeps_list]
    case h_10 => -- struct
      rw [mayHoldObjects_iff agree "fields", forall_objects_iff (objectsUnder_alike agree "fields")]
      intro object other alike
      rw [content?_eq alike.agree "name" keeps_string, mayHold_iff alike.agree "tag" keeps_string]
    case h_11 => -- interface
      rw [mayHoldObjects_iff agree "methods",
        forall_objects_iff (objectsUnder_alike agree "methods")]
      intro object other alike
      rw [content?_eq alike.agree "name" keeps_string]
    all_goals rfl
  · exact iff_of_false (not_isFormed_of_ne notString) (not_isFormed_of_ne otherNotString)

/-- The references of the entries are alike. -/
theorem references_alike :
    List.Forall₂ IsAlike (references members) (references others) := by
  have objectTypes (key : String) :
      List.Forall₂ IsAlike ((objectsUnder members key).map (value · "type"))
        ((objectsUnder others key).map (value · "type")) := by
    rw [List.forall₂_map_left_iff, List.forall₂_map_right_iff]
    exact (objectsUnder_alike agree key).imp fun _ _ alike => value_alike alike.agree "type"
  have single (key : String) :
      List.Forall₂ IsAlike [value members key] [value others key] :=
    .cons (value_alike agree key) .nil
  rcases kind_eq_or_ne agree with same | ⟨notString, otherNotString⟩
  · unfold references
    rw [same]
    generalize value members "kind" = kind
    split
    case h_2 => -- named
      have rel := present?_rel agree "underlying"
      generalize Json.present? members "underlying" = left at rel
      generalize Json.present? others "underlying" = right at rel
      cases rel with
      | none => exact .nil
      | some alike => exact .cons alike .nil
    case h_3 | h_4 | h_5 | h_7 => -- pointer, slice, array, chan
      exact single "elem"
    case h_6 => -- map
      exact .cons (value_alike agree "key") (single "elem")
    case h_8 => -- tuple
      exact itemsUnder_alike agree "types"
    case h_9 => -- signature
      exact List.rel_append (itemsUnder_alike agree "params") (itemsUnder_alike agree "results")
    case h_10 => -- struct
      exact objectTypes "fields"
    case h_11 => -- interface
      exact objectTypes "methods"
    all_goals exact .nil
  · rw [references_of_ne notString, references_of_ne otherNotString]
    exact .nil

omit agree in
/-- Objects that are alike, with the types that belong to them, make the same things. -/
theorem map_zip_eq {Result : Type} {listed found : List Members}
    (aligned : List.Forall₂ AlikeMembers listed found) {make : Members → Ty → Result}
    (each : ∀ object other type, AlikeMembers object other → make object type = make other type)
    (types : List Ty) :
    (listed.zip types).map (fun (object, type) => make object type) =
      (found.zip types).map fun (object, type) => make object type := by
  induction aligned generalizing types with
  | nil => rfl
  | cons alike _ ih =>
      cases types with
      | nil => rfl
      | cons type rest =>
          rw [List.zip_cons_cons, List.zip_cons_cons, List.map_cons, List.map_cons, ih]
          exact congrArg (· :: _) (each _ _ type alike)

theorem typeOf?_eq (types : List Ty) : typeOf? members types = typeOf? others types := by
  rcases kind_eq_or_ne agree with same | ⟨notString, otherNotString⟩
  · unfold typeOf?
    rw [same]
    generalize value members "kind" = kind
    split
    case h_1 => -- basic
      rw [content?_eq agree "name" keeps_string]
    case h_4 => -- array
      rw [content?_eq agree "length" keeps_int]
    case h_6 => -- chan
      rw [channelDirection?_eq agree]
    case h_8 => -- signature
      rw [(itemsUnder_alike agree "params").length_eq, flag_eq agree "variadic"]
    case h_9 => -- struct
      rw [map_zip_eq (objectsUnder_alike agree "fields") fun object other type alike => ?_]
      rw [structField, structField, content?_eq alike.agree "name" keeps_string,
        presentContent?_eq alike.agree "tag" keeps_string, flag_eq alike.agree "embedded"]
    case h_10 => -- interface
      have each (object other : Members) (type : Ty) (alike : AlikeMembers object other) :
          method? object type = method? other type := by
        cases type with
        | function => rw [method?, method?, content?_eq alike.agree "name" keeps_string]
        | _ => rfl
      have methods_eq := congrArg (List.mapM id)
        (map_zip_eq (objectsUnder_alike agree "methods") each types)
      rw [List.mapM_map, List.mapM_map] at methods_eq
      exact congrArg (Option.map Ty.interface) methods_eq
    all_goals rfl
  · rw [typeOf?_of_ne notString, typeOf?_of_ne otherNotString]

end Entry

theorem getElem?_rel {items found : List Json} (aligned : List.Forall₂ IsAlike items found)
    (index : Nat) : Option.Rel IsAlike items[index]? found[index]? := by
  induction aligned generalizing index with
  | nil => exact .none
  | cons alike _ ih =>
      cases index with
      | zero => exact .some alike
      | succ index => exact ih index

/-- An entry like an object is an object with members that are alike. -/
theorem exists_entry_of_alike {items found : List Json} (aligned : List.Forall₂ IsAlike items found)
    {index : Nat} {members : Members} (entry_eq : items[index]? = some (.object members)) :
    ∃ others, found[index]? = some (.object others) ∧ AlikeMembers members others := by
  obtain ⟨other, other_eq, alike⟩ := exists_eq_some_of_rel (getElem?_rel aligned index) entry_eq
  obtain ⟨others, rfl, -⟩ := id alike.object_inv
  exact ⟨others, other_eq, alike⟩

theorem run_mapM_of_forall₂ {Item Other : Type} {related : Item → Other → Prop}
    {step : Item → TypeReader Ty} {otherStep : Other → TypeReader Ty}
    (each : ∀ item other, related item other → ∀ before type after,
      (step item).run before = .ok (type, after) →
        (otherStep other).run before = .ok (type, after))
    {items : List Item} {found : List Other} (aligned : List.Forall₂ related items found)
    {types : List Ty} {before after : FoundTypes}
    (run : (items.mapM step).run before = .ok (types, after)) :
    (found.mapM otherStep).run before = .ok (types, after) := by
  induction aligned generalizing before types with
  | nil => exact run
  | cons alike _ ih =>
      obtain ⟨first, between, rest, first_eq, rest_eq, rfl⟩ := run_mapM_cons_eq_ok_iff.mp run
      exact run_mapM_cons_eq_ok_iff.mpr
        ⟨first, between, rest, each _ _ alike _ _ _ first_eq, ih rest_eq, rfl⟩

section Table

variable {entries others : List Json} (aligned : List.Forall₂ IsAlike entries others)
include aligned

/-- A reference is followed to the same type. -/
theorem run_typeAt_of_alike {free : List Nat} {index : Nat} {type : Ty} {before after : FoundTypes}
    (run : (typeAt entries.toArray free index).run before = .ok (type, after)) :
    (typeAt others.toArray free index).run before = .ok (type, after) := by
  refine run_typeAt_induction (motive := fun free index before type after =>
    (typeAt others.toArray free index).run before = .ok (type, after)) ?_ ?_ run
  · intro _ _ _ _ found
    exact run_typeAt_eq_ok_iff.mpr (.inl ⟨found, rfl⟩)
  · intro free index before type members types between unfound isFree entry_eq formed types_run
      built each
    rw [List.getElem?_toArray] at entry_eq
    obtain ⟨found, found_eq, alike⟩ := exists_entry_of_alike aligned entry_eq
    have followed_alike (reference other : Json) (alike : reference.IsAlike other)
        (before : FoundTypes) (type : Ty) (after : FoundTypes)
        (run : (followed entries.toArray (.entry .types index) (free.erase index) reference).run
          before = .ok (type, after)) :
        (followed others.toArray (.entry .types index) (free.erase index) other).run before =
          .ok (type, after) := by
      obtain ⟨target, rfl, inside, target_run⟩ := run_followed_eq_ok_iff.mp run
      obtain rfl := alike.eq_of_isScalar rfl
      refine run_followed_eq_ok_iff.mpr ⟨target, rfl, ?_, each target_run⟩
      simpa [aligned.length_eq] using inside
    refine run_typeAt_eq_ok_iff.mpr (.inr ⟨unfound, isFree, found, between,
      by rw [List.getElem?_toArray, found_eq], run_entryType_eq_ok_iff.mpr
        ⟨(isFormed_iff alike.agree).mp formed, types,
          run_mapM_of_forall₂ followed_alike (references_alike alike.agree) types_run, ?_⟩, rfl⟩)
    rw [← typeOf?_eq alike.agree, built]

omit aligned in
theorem definedTypeOf?_eq {entry other : Json} (alike : entry.IsAlike other) (index : Nat) :
    definedTypeOf? index entry = definedTypeOf? index other := by
  cases alike using IsAlike.byShape with
  | scalar | array => rfl
  | object members found alike =>
      have agree : Agree members found := alike.agree
      by_cases named : value members "kind" = .string "named"
      · have found_named := (kind_eq_string_iff agree "named").mp named
        simp only [definedTypeOf?, value_eq_string_iff.mp named, value_eq_string_iff.mp found_named,
          content?_eq agree "name" keeps_string, presentContent?_eq agree "pkg" keeps_string]
      · have found_notNamed := (kind_eq_string_iff agree "named").not.mp named
        rw [value_eq_string_iff] at named found_notNamed
        rw [definedTypeOf?_eq_none, definedTypeOf?_eq_none]
        · rintro _ ⟨⟩
          exact found_notNamed
        · rintro _ ⟨⟩
          exact named

omit aligned in
theorem underlyingOf?_eq {types : Array Ty} {entry other : Json} (alike : entry.IsAlike other) :
    underlyingOf? types entry = underlyingOf? types other := by
  have reference_rel (reference other : Json) (alike : reference.IsAlike other) :
      Option.Rel Eq (typeOfReference? types reference) (typeOfReference? types other) := by
    cases alike using IsAlike.byShape with
    | scalar | array | object => exact rel_eq_iff.mpr rfl
  cases alike using IsAlike.byShape with
  | scalar | array => rfl
  | object members found alike =>
      have agree : Agree members found := alike.agree
      by_cases named : value members "kind" = .string "named"
      · have found_named := (kind_eq_string_iff agree "named").mp named
        simp only [underlyingOf?, value_eq_string_iff.mp named, value_eq_string_iff.mp found_named]
        exact rel_eq_iff.mp (rel_bind (present?_rel agree "underlying") reference_rel)
      · have found_notNamed := (kind_eq_string_iff agree "named").not.mp named
        rw [value_eq_string_iff] at named found_notNamed
        simp only [underlyingOf?]

omit aligned in
theorem isFormedIfDefined_of_alike {entry other : Json} (alike : entry.IsAlike other)
    (formed : IsFormedIfDefined entry) : IsFormedIfDefined other := by
  rintro found rfl found_named
  obtain ⟨members, rfl, -⟩ := alike.symm.object_inv
  have agree : Agree members found := alike.agree
  exact (isFormed_iff agree).mp
    (formed members rfl ((kind_eq_string_iff agree "named").mpr found_named))

/-- The references of a defined type lead to entries, too. -/
theorem isLinkedIfDefined_of_alike {entry other : Json} (alike : entry.IsAlike other)
    (linked : IsLinkedIfDefined entries entry) : IsLinkedIfDefined others other := by
  rintro found rfl found_named
  have back := alike.symm
  obtain ⟨members, rfl, -⟩ := id back.object_inv
  have named := (kind_eq_string_iff back.agree "named").mp found_named
  have inside := (isLinked_of_defined_iff named).mp (linked members rfl named)
  refine (isLinked_of_defined_iff found_named).mpr fun reference present => ?_
  obtain ⟨origin, origin_eq, origin_alike⟩ :=
    exists_eq_some_of_rel (present?_rel back.agree "underlying") present
  obtain ⟨target, rfl, target_inside⟩ := inside origin origin_eq
  obtain rfl := origin_alike.symm.eq_of_isScalar rfl
  exact ⟨target, rfl, aligned.length_eq ▸ target_inside⟩

theorem definedTypes_eq : definedTypes entries = definedTypes others := by
  refine congrArg List.toArray (List.ext_getElem? fun index => ?_)
  have rel := getElem?_rel aligned index
  rw [List.getElem?_map, List.getElem?_map, List.getElem?_zipIdx, List.getElem?_zipIdx]
  generalize entries[index]? = left at rel
  generalize others[index]? = right at rel
  cases rel with
  | none => rfl
  | some alike =>
      simp only [Option.map_some, Option.some.injEq]
      exact definedTypeOf?_eq alike _

theorem map_underlyingOf?_eq (types : Array Ty) :
    entries.map (underlyingOf? types) = others.map (underlyingOf? types) := by
  rw [← List.forall₂_eq_eq_eq, List.forall₂_map_left_iff, List.forall₂_map_right_iff]
  exact aligned.imp fun _ _ alike => underlyingOf?_eq alike

/-- The same types are read. -/
theorem typeTable_of_alike {table : TypeTable} (read : typeTable entries = .ok table) :
    typeTable others = .ok table := by
  obtain ⟨defined, types, after, run, rfl⟩ := typeTable_eq_ok_iff.mp read
  refine typeTable_eq_ok_iff.mpr ⟨fun other mem => ?_, types, after, ?_, ?_⟩
  · obtain ⟨entry, entry_mem, alike⟩ := exists_of_mem_of_forall₂ aligned.flip mem
    obtain ⟨formed, linked⟩ := defined entry entry_mem
    exact ⟨isFormedIfDefined_of_alike alike formed,
      isLinkedIfDefined_of_alike aligned alike linked⟩
  · rw [← definedTypes_eq aligned, ← aligned.length_eq]
    refine run_mapM_of_forall₂ (fun index _ same before type after index_run => ?_)
      (List.forall₂_eq_eq_eq ▸ rfl) run
    exact same ▸ run_typeAt_of_alike aligned index_run
  · rw [map_underlyingOf?_eq aligned]

end Table

end Dump
end ShadowLint
