import Mathlib.Logic.Equiv.Fin.Basic
import ShadowLint.Proofs.Dump.MemberChange
import ShadowLint.Proofs.Dump.TypeSolution
import ShadowLint.Proofs.Types.Renaming

/-!
# Type tables in any order of entries

The entries of a type table may change their places as long as all references go along.  The table
is read as before, and its types are the same but for the indices of defined types.
-/

namespace ShadowLint
namespace Dump

/-- A reference to the same entry at its new index. -/
def renumberedReference (moved : Nat → Nat) : Json → Json
  | .int (.ofNat target) => .int (moved target : Nat)
  | other => other

/-- What a field or a method has under a name, with its reference changed. -/
def renumberedPart (moved : Nat → Nat) (key : String) : Json → Json :=
  if key = "type" then renumberedReference moved else id

/-- What an entry has under a name, with all references in it changed. -/
def renumberedMember (moved : Nat → Nat) (key : String) : Json → Json :=
  if key ∈ ["elem", "key", "underlying"] then renumberedReference moved
  else if key ∈ ["types", "params", "results"] then changedItems (renumberedReference moved)
  else if key ∈ ["fields", "methods"] then changedItems (changedObject (renumberedPart moved))
  else id

/-- The members of an entry with all references changed. -/
def renumberedMembers (moved : Nat → Nat) : Members → Members :=
  changedMembers (renumberedMember moved)

/-- An entry with all references changed. -/
def renumberedEntry (moved : Nat → Nat) : Json → Json :=
  changedObject (renumberedMember moved)

section Entry

variable {moved : Nat → Nat} {members : Members}

theorem renumberedReference_eq_null_iff (reference : Json) :
    renumberedReference moved reference = .null ↔ reference = .null := by
  unfold renumberedReference
  split <;> simp

theorem kind_renumberedMembers :
    value (renumberedMembers moved members) "kind" = value members "kind" :=
  value_changedMembers_of_stays rfl

theorem value_renumberedMembers {key : String}
    (refers : renumberedMember moved key = renumberedReference moved) :
    value (renumberedMembers moved members) key =
      renumberedReference moved (value members key) := by
  rw [renumberedMembers, value_changedMembers, refers]
  rw [refers]
  rfl

theorem channelDirection?_renumberedMembers :
    channelDirection? (renumberedMembers moved members) = channelDirection? members := by
  rw [channelDirection?, renumberedMembers, presentContent?_changedMembers_of_stays rfl,
    channelDirection?]

theorem isFormed_renumberedMembers :
    IsFormed (renumberedMembers moved members) ↔ IsFormed members := by
  unfold IsFormed
  rw [kind_renumberedMembers]
  generalize value members "kind" = kind
  unfold renumberedMembers
  split
  case h_1 => -- basic
    rw [content?_changedMembers_of_stays rfl]
  case h_2 => -- named
    rw [content?_changedMembers_of_stays rfl, mayHold_changedMembers_of_stays rfl]
  case h_5 => -- array
    rw [content?_changedMembers_of_stays rfl]
  case h_7 => -- chan
    rw [mayHold_changedMembers_of_stays rfl]
    exact and_congr_right fun _ => by rw [← renumberedMembers, channelDirection?_renumberedMembers]
  case h_8 => -- tuple
    rw [mayHold_changedMembers_of_items rfl]
  case h_9 => -- signature
    rw [mayHold_changedMembers_of_items rfl, mayHold_changedMembers_of_items rfl]
  case h_10 => -- struct
    rw [mayHoldObjects_changedMembers rfl, objectsUnder_changedMembers rfl, List.forall_mem_map]
    simp only [content?_changedMembers_of_stays (show renumberedPart moved "name" = id from rfl),
      mayHold_changedMembers_of_stays (show renumberedPart moved "tag" = id from rfl)]
  case h_11 => -- interface
    rw [mayHoldObjects_changedMembers rfl, objectsUnder_changedMembers rfl, List.forall_mem_map]
    simp only [content?_changedMembers_of_stays (show renumberedPart moved "name" = id from rfl)]
  all_goals rfl

/-- The references of an entry all change. -/
theorem references_renumberedMembers :
    references (renumberedMembers moved members) =
      (references members).map (renumberedReference moved) := by
  have parts (key : String)
      (objects : renumberedMember moved key =
        changedItems (changedObject (renumberedPart moved))) :
      (objectsUnder (renumberedMembers moved members) key).map (value · "type") =
        ((objectsUnder members key).map (value · "type")).map (renumberedReference moved) := by
    rw [renumberedMembers, objectsUnder_changedMembers objects, List.map_map, List.map_map]
    exact List.map_congr_left fun _ _ => value_changedMembers rfl
  unfold references
  rw [kind_renumberedMembers]
  generalize value members "kind" = kind
  split
  case h_2 => -- named
    rw [renumberedMembers, present?_changedMembers renumberedReference_eq_null_iff]
    cases Json.present? members "underlying" <;> rfl
  case h_3 | h_4 | h_5 | h_7 => -- pointer, slice, array, chan
    rw [value_renumberedMembers rfl]
    rfl
  case h_6 => -- map
    rw [value_renumberedMembers rfl, value_renumberedMembers rfl]
    rfl
  case h_8 => -- tuple
    exact itemsUnder_changedMembers rfl
  case h_9 => -- signature
    rw [List.map_append]
    exact congrArg₂ (· ++ ·) (itemsUnder_changedMembers rfl) (itemsUnder_changedMembers rfl)
  case h_10 => -- struct
    exact parts "fields" rfl
  case h_11 => -- interface
    exact parts "methods" rfl
  all_goals rfl

theorem structField_changedMembers (field : Members) (type : Ty) :
    structField (changedMembers (renumberedPart moved) field) type = structField field type := by
  simp only [structField,
    content?_changedMembers_of_stays (show renumberedPart moved "name" = id from rfl),
    presentContent?_changedMembers_of_stays (show renumberedPart moved "tag" = id from rfl),
    flag_changedMembers_of_stays (show renumberedPart moved "embedded" = id from rfl)]

theorem method?_changedMembers (method : Members) (type : Ty) :
    method? (changedMembers (renumberedPart moved) method) type = method? method type := by
  cases type with
  | function signature =>
      rw [method?, method?,
        content?_changedMembers_of_stays (show renumberedPart moved "name" = id from rfl)]
  | _ => rfl

/-- Apart from its references, an entry stays as it is. -/
theorem typeOf?_renumberedMembers (types : List Ty) :
    typeOf? (renumberedMembers moved members) types = typeOf? members types := by
  unfold typeOf?
  rw [kind_renumberedMembers]
  generalize value members "kind" = kind
  split
  case h_1 => -- basic
    rw [renumberedMembers, content?_changedMembers_of_stays rfl]
  case h_4 => -- array
    rw [renumberedMembers, content?_changedMembers_of_stays rfl]
  case h_6 => -- chan
    rw [channelDirection?_renumberedMembers]
  case h_8 => -- signature
    rw [renumberedMembers, itemsUnder_changedMembers rfl, List.length_map,
      flag_changedMembers_of_stays rfl]
  case h_9 => -- struct
    rw [renumberedMembers, objectsUnder_changedMembers rfl, List.zip_map_left, List.map_map]
    simp only [Function.comp_def, Prod.map, id, structField_changedMembers]
  case h_10 => -- interface
    rw [renumberedMembers, objectsUnder_changedMembers rfl, List.zip_map_left, List.mapM_map]
    simp only [Function.comp_def, Prod.map, id, method?_changedMembers]
  all_goals rfl

end Entry

section Renamed

variable (change : Nat → Nat) {members : Members}

theorem method?_renamed (method : Members) (type : Ty) :
    method? method (type.renamed change) =
      (method? method type).map fun found =>
        { found with signature := Ty.renamedSignature change found.signature } := by
  cases type <;> rfl

theorem mapM_method?_renamed (listed : List Members) (types : List Ty) :
    ((listed.zip (types.map (Ty.renamed change))).mapM fun (method, type) =>
        method? method type) =
      ((listed.zip types).mapM fun (method, type) => method? method type).map
        (Ty.renamedMethods change) := by
  induction listed generalizing types with
  | nil => rfl
  | cons method rest ih =>
      cases types with
      | nil => rfl
      | cons type others =>
          simp only [List.map_cons, List.zip_cons_cons, List.mapM_cons, ih, method?_renamed]
          cases method? method type with
          | none => rfl
          | some first =>
              cases first
              cases (rest.zip others).mapM fun (method, type) => method? method type <;> rfl

/-- From types with other identities the same type is put together, with other identities. -/
theorem typeOf?_renamed (types : List Ty) :
    typeOf? members (types.map (Ty.renamed change)) =
      (typeOf? members types).map (Ty.renamed change) := by
  unfold typeOf?
  split
  case h_1 => -- basic
    rw [Option.map_map]
    rfl
  case h_2 | h_3 | h_4 | h_6 => -- pointer, slice, array, chan
    rw [List.head?_map, Option.map_map, Option.map_map]
    rfl
  case h_5 => -- map
    rw [List.head?_map, List.getElem?_map]
    cases types.head? <;> cases types[1]? <;> rfl
  case h_7 => -- tuple
    rw [← Ty.renamedAll_eq]
    rfl
  case h_8 => -- signature
    simp only [List.splitAt_eq, ← List.map_take, ← List.map_drop]
    simp only [Option.map_some, Ty.renamed, Ty.renamedSignature, Ty.renamedAll_eq]
  case h_9 => -- struct
    rw [List.zip_map_right, List.map_map, Option.map_some, Ty.renamed, Ty.renamedFields_eq,
      List.map_map]
    rfl
  case h_10 => -- interface
    rw [mapM_method?_renamed, Option.map_map, Option.map_map]
    rfl
  all_goals rfl

end Renamed

/-- Each entry of a table stands in another one with all references changed, where its index has
moved. -/
def IsRenumbered (moved : Equiv.Perm Nat) (entries others : List Json) : Prop :=
  ∀ index, others[moved index]? = entries[index]?.map (renumberedEntry moved)

section Table

variable {moved : Equiv.Perm Nat} {entries others : List Json}

theorem renumberedReference_eq_int_iff (reference : Json) (target : Nat) :
    renumberedReference moved reference = .int (target : Nat) ↔
      reference = .int (moved.symm target : Nat) := by
  unfold renumberedReference
  split
  · rename_i origin
    simp only [Json.int.injEq, Int.ofNat_eq_natCast, Int.natCast_inj]
    exact (Equiv.eq_symm_apply moved).symm
  · rename_i other
    constructor
    · rintro rfl
      exact absurd rfl (other target)
    · rintro rfl
      exact absurd rfl (other (moved.symm target))

theorem getElem?_eq_some_iff_of_isRenumbered (renumbered : IsRenumbered moved entries others)
    {index : Nat} {found : Members} :
    others[index]? = some (.object found) ↔
      ∃ members, entries[moved.symm index]? = some (.object members) ∧
        renumberedMembers moved members = found := by
  have moved_back := renumbered (moved.symm index)
  rw [Equiv.apply_symm_apply] at moved_back
  rw [moved_back, Option.map_eq_some_iff]
  constructor
  · rintro ⟨entry, entry_eq, same⟩
    cases entry with
    | object members => exact ⟨members, entry_eq, Json.object.inj same⟩
    | _ => cases same
  · rintro ⟨members, entry_eq, rfl⟩
    exact ⟨_, entry_eq, rfl⟩

theorem moved_lt_iff (renumbered : IsRenumbered moved entries others) {index : Nat} :
    moved index < others.length ↔ index < entries.length := by
  have same := congrArg (fun found : Option Json => found.isSome = true) (renumbered index)
  simpa using same

theorem hasKind_moved_iff (renumbered : IsRenumbered moved entries others) {index : Nat}
    {kind : String} : HasKind others (moved index) kind ↔ HasKind entries index kind := by
  simp only [HasKind, getElem?_eq_some_iff_of_isRenumbered renumbered, Equiv.symm_apply_apply]
  constructor
  · rintro ⟨_, ⟨members, entry_eq, rfl⟩, kind_eq⟩
    exact ⟨members, entry_eq, kind_renumberedMembers ▸ kind_eq⟩
  · rintro ⟨members, entry_eq, kind_eq⟩
    exact ⟨_, ⟨members, entry_eq, rfl⟩, kind_renumberedMembers.trans kind_eq⟩

theorem mem_references_renumberedMembers_iff {members : Members} {target : Nat} :
    .int (target : Nat) ∈ references (renumberedMembers moved members) ↔
      .int (moved.symm target : Nat) ∈ references members := by
  simp only [references_renumberedMembers, List.mem_map, renumberedReference_eq_int_iff,
    exists_eq_right]

/-- The references of an entry lead to where the entries have moved that they led to before. -/
theorem isLinked_renumberedMembers (renumbered : IsRenumbered moved entries others)
    {members : Members} (linked : IsLinked entries members) :
    IsLinked others (renumberedMembers moved members) where
  inside reference mem := by
    rw [references_renumberedMembers] at mem
    obtain ⟨origin, origin_mem, rfl⟩ := List.mem_map.mp mem
    obtain ⟨target, rfl, inside⟩ := linked.inside origin origin_mem
    exact ⟨moved target, rfl, (moved_lt_iff renumbered).mpr inside⟩
  methods kind_eq target mem := by
    rw [kind_renumberedMembers] at kind_eq
    rw [mem_references_renumberedMembers_iff] at mem
    have kind := (hasKind_moved_iff renumbered).mpr (linked.methods kind_eq _ mem)
    rwa [Equiv.apply_symm_apply] at kind

/-- An entry depends on those that it depended on before. -/
theorem DependsOn.unmoved (renumbered : IsRenumbered moved entries others) {index target : Nat}
    (depends : DependsOn others index target) :
    DependsOn entries (moved.symm index) (moved.symm target) := by
  obtain ⟨_, found, notNamed, mem, target_notNamed⟩ := depends
  obtain ⟨members, entry_eq, rfl⟩ := (getElem?_eq_some_iff_of_isRenumbered renumbered).mp found
  rw [kind_renumberedMembers] at notNamed
  rw [mem_references_renumberedMembers_iff] at mem
  refine ⟨members, entry_eq, notNamed, mem, fun named => target_notNamed ?_⟩
  have moved_named := (hasKind_moved_iff renumbered).mpr named
  rwa [Equiv.apply_symm_apply] at moved_named

theorem IsWellFormed.renumbered (wellFormed : IsWellFormed entries)
    (renumbered : IsRenumbered moved entries others) : IsWellFormed others where
  formed entry mem := by
    obtain ⟨index, inside, rfl⟩ := List.getElem_of_mem mem
    have origin_eq := renumbered (moved.symm index)
    rw [Equiv.apply_symm_apply, List.getElem?_eq_getElem inside] at origin_eq
    obtain ⟨origin, origin_found, same⟩ := Option.map_eq_some_iff.mp origin_eq.symm
    obtain ⟨members, rfl, formed, linked⟩ :=
      wellFormed.formed origin (List.mem_of_getElem? origin_found)
    exact ⟨_, same.symm, isFormed_renumberedMembers.mpr formed,
      isLinked_renumberedMembers renumbered linked⟩
  acyclic index circle :=
    wellFormed.acyclic (moved.symm index)
      (circle.lift moved.symm fun _ _ depends => depends.unmoved renumbered)

/-- Types by index, where the indices have moved. -/
def movedTypes (moved : Equiv.Perm Nat) (types : Nat → Option Ty) (index : Nat) : Option Ty :=
  (types (moved.symm index)).map (Ty.renamed moved)

variable {types : Nat → Option Ty}

theorem movedTypes_moved (index : Nat) :
    movedTypes moved types (moved index) = (types index).map (Ty.renamed moved) := by
  rw [movedTypes, Equiv.symm_apply_apply]

theorem definedTypeOf?_renumbered {members : Members} {index : Nat} {type : Ty}
    (defined : definedTypeOf? index (.object members) = some type) :
    definedTypeOf? (moved index) (.object (renumberedMembers moved members)) =
      some (type.renamed moved) := by
  obtain ⟨-, others, same, kind_eq⟩ := definedTypeOf?_eq_some defined
  obtain rfl := Json.object.inj same
  have moved_kind : value (renumberedMembers moved members) "kind" = .string "named" :=
    kind_renumberedMembers.trans kind_eq
  simp only [definedTypeOf?, value_eq_string_iff.mp kind_eq, Option.some.injEq] at defined
  simp only [definedTypeOf?, value_eq_string_iff.mp moved_kind, ← defined]
  rw [renumberedMembers, content?_changedMembers_of_stays rfl,
    presentContent?_changedMembers_of_stays rfl]
  rfl

theorem Tells.renumbered {members : Members} {index : Nat} {type : Ty}
    (tells : Tells types index members type) (moved : Equiv.Perm Nat) :
    Tells (movedTypes moved types) (moved index) (renumberedMembers moved members)
      (type.renamed moved) := by
  rcases tells with defined | ⟨parts, means, built⟩
  · exact .inl (definedTypeOf?_renumbered defined)
  · refine .inr ⟨parts.map (Ty.renamed moved), ?_, ?_⟩
    · rw [references_renumberedMembers, List.forall₂_map_left_iff, List.forall₂_map_right_iff]
      refine means.imp ?_
      rintro _ part ⟨target, rfl, part_eq⟩
      exact ⟨moved target, rfl, by rw [movedTypes_moved, part_eq, Option.map_some]⟩
    · rw [typeOf?_renumberedMembers, typeOf?_renamed, built, Option.map_some]

theorem AreTold.renumbered (told : AreTold entries types)
    (renumbered : IsRenumbered moved entries others) :
    AreTold others (movedTypes moved types) := by
  intro index type type_eq
  obtain ⟨origin, origin_eq, rfl⟩ := Option.map_eq_some_iff.mp type_eq
  obtain ⟨members, entry_eq, tells⟩ := told _ origin origin_eq
  refine ⟨renumberedMembers moved members,
    (getElem?_eq_some_iff_of_isRenumbered renumbered).mpr ⟨members, entry_eq, rfl⟩, ?_⟩
  have moved_tells := tells.renumbered moved
  rwa [Equiv.apply_symm_apply] at moved_tells

/-- A table whose entries have moved is read, and the types have moved along. -/
theorem exists_typeTable_of_isRenumbered {table : TypeTable}
    (renumbered : IsRenumbered moved entries others) (read : typeTable entries = .ok table) :
    ∃ other, typeTable others = .ok other ∧
      ∀ index, other.types[moved index]? = table.types[index]?.map (Ty.renamed moved) := by
  have wellFormed := (isWellFormed_of_typeTable_eq_ok read).renumbered renumbered
  obtain ⟨other, other_read⟩ := exists_typeTable_eq_ok wellFormed
  refine ⟨other, other_read, fun index => ?_⟩
  have size_eq := (isTableOf_of_typeTable_eq_ok read).size
  have other_size := (isTableOf_of_typeTable_eq_ok other_read).size
  by_cases inside : index < entries.length
  · have moved_inside := (moved_lt_iff renumbered).mpr inside
    have type_eq := Array.getElem?_eq_getElem (size_eq ▸ inside)
    have other_eq := Array.getElem?_eq_getElem (other_size ▸ moved_inside)
    have moved_eq : movedTypes moved (table.types[·]?) (moved index) =
        some (table.types[index].renamed moved) := by
      rw [movedTypes_moved, type_eq, Option.map_some]
    have told := (areTold_of_typeTable_eq_ok read).renumbered renumbered
    have same := (areTold_of_typeTable_eq_ok other_read).eq_of_acc told
      (wellFormed.accessible (moved index)) other_eq moved_eq
    rw [other_eq, type_eq, same, Option.map_some]
  · have moved_outside := (moved_lt_iff renumbered).not.mpr inside
    rw [Array.getElem?_eq_none (by omega), Array.getElem?_eq_none (by omega), Option.map_none]

end Table

section Permuted

/-- Where indices of a table move, all other indices staying where they are. -/
def indexMoved {size : Nat} (moved : Equiv.Perm (Fin size)) : Equiv.Perm Nat :=
  moved.extendDomain Fin.equivSubtype

/-- The table with the entries in another order, each entry behind the place to which its index
moves, and with all references changed accordingly. -/
def permuted (entries : List Json) (moved : Equiv.Perm (Fin entries.length)) : List Json :=
  List.ofFn fun index => renumberedEntry (indexMoved moved) entries[moved.symm index]

variable {entries : List Json} (moved : Equiv.Perm (Fin entries.length))

theorem indexMoved_apply (index : Fin entries.length) : indexMoved moved index = moved index :=
  Equiv.Perm.extendDomain_apply_image moved Fin.equivSubtype index

theorem isRenumbered_permuted :
    IsRenumbered (indexMoved moved) entries (permuted entries moved) := by
  intro index
  by_cases inside : index < entries.length
  · have moved_eq := indexMoved_apply moved ⟨index, inside⟩
    rw [moved_eq, List.getElem?_eq_getElem inside, permuted, List.getElem?_ofFn,
      dif_pos (moved ⟨index, inside⟩).isLt]
    simp
  · have stays : indexMoved moved index = index :=
      Equiv.Perm.extendDomain_apply_not_subtype moved Fin.equivSubtype inside
    rw [stays, List.getElem?_eq_none (Nat.le_of_not_lt inside), List.getElem?_eq_none ?_,
      Option.map_none]
    simpa [permuted] using Nat.le_of_not_lt inside

/-- Whatever order the entries of a table are in, the table resolves to what they tell: with the
entries in any other order and all references changed accordingly, it is read, too, types are
identical exactly if they were so before, and messages show them as before. -/
theorem resolves_in_any_order {entries : List Json} {table : TypeTable}
    (read : typeTable entries = .ok table) :
    Resolves entries table ∧
      ∀ moved : Equiv.Perm (Fin entries.length), ∃ other,
        typeTable (permuted entries moved) = .ok other ∧
          (∀ left right : Fin entries.length,
            Ty.haveSameType other.types[(moved left).val]? other.types[(moved right).val]? =
              Ty.haveSameType table.types[left.val]? table.types[right.val]?) ∧
          ∀ index : Fin entries.length,
            Ty.textOf other.types[(moved index).val]? = Ty.textOf table.types[index.val]? := by
  refine ⟨resolves_of_typeTable_eq_ok read, fun moved => ?_⟩
  obtain ⟨other, other_read, types_eq⟩ :=
    exists_typeTable_of_isRenumbered (isRenumbered_permuted moved) read
  have moved_eq (index : Fin entries.length) : other.types[(moved index).val]? =
      table.types[index.val]?.map (Ty.renamed (indexMoved moved)) := by
    rw [← indexMoved_apply, types_eq]
  refine ⟨other, other_read, fun left right => ?_, fun index => ?_⟩
  · rw [moved_eq, moved_eq, Ty.haveSameType_renamed (indexMoved moved).injective]
  · rw [moved_eq, Ty.textOf_renamed]

/-- The types of a linked list may be listed with the pointer in front. -/
theorem resolves_linkedList :
    ∃ table other, typeTable linkedList = .ok table ∧ Resolves linkedList table ∧
      typeTable (permuted linkedList (Equiv.swap ⟨0, by decide⟩ ⟨2, by decide⟩)) = .ok other ∧
      Ty.textOf other.types[0]? = Ty.textOf table.types[2]? := by
  have accepted : (typeTable linkedList).isOk := by decide +kernel
  cases read : typeTable linkedList with
  | error fault => simp [read, Except.isOk, Except.toBool] at accepted
  | ok table =>
    obtain ⟨resolves, orders⟩ := resolves_in_any_order read
    obtain ⟨other, other_read, -, texts⟩ := orders (Equiv.swap ⟨0, by decide⟩ ⟨2, by decide⟩)
    refine ⟨table, other, rfl, resolves, other_read, ?_⟩
    simpa using texts ⟨2, by decide⟩

end Permuted

end Dump
end ShadowLint
