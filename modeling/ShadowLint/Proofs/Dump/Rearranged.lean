import Mathlib.Data.List.Forall2
import Mathlib.Data.List.Perm.Basic
import ShadowLint.Proofs.Dump.Objects
import ShadowLint.Proofs.Dump.Resolution

/-!
# The order of members

Documents that differ in nothing but the order in which the members of their objects stand.  Looking
up a name in objects that do so gives values that do so.
-/

namespace ShadowLint
namespace Json

/-- The values differ at most in the order of the members of objects, at any depth. -/
inductive Rearranged : Json → Json → Prop
  /-- The value is the same. -/
  | refl (json : Json) : Rearranged json json
  /-- The lists have as many items, and the items differ at most in that order. -/
  | array {items others : List Json} (length_eq : items.length = others.length)
      (each : ∀ (index : Nat) (item other : Json), items[index]? = some item →
        others[index]? = some other → Rearranged item other) :
      Rearranged (.array items) (.array others)
  /-- The objects have the same names in any order, and the values under a name differ at most in
  that order. -/
  | object {members others : List (String × Json)}
      (names : (members.map Prod.fst).Perm (others.map Prod.fst))
      (each : ∀ (name : String) (value other : Json), (name, value) ∈ members →
        (name, other) ∈ others → Rearranged value other) :
      Rearranged (.object members) (.object others)

namespace Rearranged

variable {left right : Json}

theorem symm (rearranged : left.Rearranged right) : right.Rearranged left := by
  induction rearranged with
  | refl json => exact .refl json
  | array length_eq _ ih =>
      exact .array length_eq.symm fun index item other item_eq other_eq =>
        ih index other item other_eq item_eq
  | object names _ ih =>
      exact .object names.symm fun name value other mem other_mem =>
        ih name other value other_mem mem

theorem hasDistinctNames (rearranged : left.Rearranged right) (distinct : left.hasDistinctNames) :
    right.hasDistinctNames := by
  induction rearranged with
  | refl json => exact distinct
  | array length_eq _ ih =>
      rw [hasDistinctNames_array_iff] at distinct ⊢
      intro other mem
      obtain ⟨index, inside, rfl⟩ := List.getElem_of_mem mem
      have item_inside := length_eq ▸ inside
      exact ih index _ _ (List.getElem?_eq_getElem item_inside) (List.getElem?_eq_getElem inside)
        (distinct _ (List.getElem_mem item_inside))
  | object names _ ih =>
      rw [hasDistinctNames_object_iff] at distinct ⊢
      refine ⟨names.nodup_iff.mp distinct.1, fun ⟨name, other⟩ mem => ?_⟩
      obtain ⟨⟨_, value⟩, value_mem, rfl⟩ :=
        List.mem_map.mp (names.mem_iff.mpr (List.mem_map_of_mem mem))
      exact ih _ value other value_mem mem (distinct.2 _ value_mem)

end Rearranged

/-- Documents in which names are distinct and that differ at most in the order of members. -/
structure IsAlike (left right : Json) : Prop where
  /-- No object has two members of one name. -/
  distinct : left.hasDistinctNames
  /-- The documents differ at most in the order of members. -/
  rearranged : left.Rearranged right

/-- Under every name the members have values that are alike, or none. -/
def Agree (members others : List (String × Json)) : Prop :=
  ∀ name, Option.Rel IsAlike (members.lookup name) (others.lookup name)

namespace IsAlike

variable {left right : Json}

theorem refl (distinct : left.hasDistinctNames) : left.IsAlike left := ⟨distinct, .refl left⟩

theorem symm (alike : left.IsAlike right) : right.IsAlike left :=
  ⟨alike.rearranged.hasDistinctNames alike.distinct, alike.rearranged.symm⟩

/-- What is like a list is a list of things that are like its items. -/
theorem array_inv {items : List Json} (alike : (Json.array items).IsAlike right) :
    ∃ others, right = .array others ∧ List.Forall₂ IsAlike items others := by
  obtain ⟨distinct, rearranged⟩ := alike
  have distinct := hasDistinctNames_array_iff.mp distinct
  cases rearranged with
  | refl => exact ⟨items, rfl, List.forall₂_same.mpr fun item mem => .refl (distinct item mem)⟩
  | array length_eq each =>
      rename_i others
      refine ⟨others, rfl, List.forall₂_iff_get.mpr
        ⟨length_eq, fun index inside other_inside => ?_⟩⟩
      exact ⟨distinct _ (List.getElem_mem inside), each index _ _
        (List.getElem?_eq_getElem inside) (List.getElem?_eq_getElem other_inside)⟩

end IsAlike

/-- A member of an object and one of another object have one name, and their values are alike. -/
def AlikeMember (member other : String × Json) : Prop :=
  member.1 = other.1 ∧ member.2.IsAlike other.2

namespace IsAlike

variable {members : List (String × Json)} {right : Json}

/-- What is like an object is an object with members that are like its members, up to their
order. -/
theorem object_inv (alike : (Json.object members).IsAlike right) :
    ∃ others, right = .object others ∧
      ∃ middle, List.Forall₂ AlikeMember members middle ∧ middle.Perm others := by
  obtain ⟨distinct, rearranged⟩ := alike
  obtain ⟨names_distinct, distinct⟩ := hasDistinctNames_object_iff.mp distinct
  cases rearranged with
  | refl =>
      exact ⟨members, rfl, members,
        List.forall₂_same.mpr fun member mem => ⟨rfl, .refl (distinct member mem)⟩, .refl _⟩
  | object names each =>
      rename_i others
      have others_distinct := names.nodup_iff.mp names_distinct
      -- The members of the other object, in the order of the first one.
      let under (name : String) : String × Json := (name, (others.lookup name).getD .null)
      have others_eq : (others.map Prod.fst).map under = others := by
        rw [List.map_map]
        refine (List.map_congr_left fun other mem => ?_).trans (List.map_id _)
        simp only [under, Function.comp_apply, id_eq,
          Dump.lookup_eq_some_of_mem others_distinct mem, Option.getD_some]
      refine ⟨others, rfl, (members.map Prod.fst).map under, ?_, others_eq ▸ names.map under⟩
      rw [List.map_map, List.forall₂_map_right_iff]
      refine List.forall₂_same.mpr fun ⟨name, value⟩ mem => ⟨rfl, distinct _ mem, ?_⟩
      obtain ⟨⟨_, other⟩, other_mem, rfl⟩ :=
        List.mem_map.mp (names.mem_iff.mp (List.mem_map_of_mem mem))
      simp only [under, Function.comp_apply, Dump.lookup_eq_some_of_mem others_distinct other_mem,
        Option.getD_some]
      exact each _ value other mem other_mem

theorem lookup_rel {others : List (String × Json)}
    (alike : List.Forall₂ AlikeMember members others) (name : String) :
    Option.Rel IsAlike (members.lookup name) (others.lookup name) := by
  induction alike with
  | nil => exact .none
  | @cons member other _ _ same _ ih =>
      obtain ⟨memberName, value⟩ := member
      obtain ⟨otherName, found⟩ := other
      obtain ⟨rfl, value_alike⟩ := same
      rw [List.lookup_cons, List.lookup_cons]
      by_cases here : name == memberName
      · rw [here]
        exact .some value_alike
      · rw [eq_false_of_ne_true here]
        exact ih

theorem lookup_perm {others : List (String × Json)} (perm : members.Perm others)
    (distinct : (members.map Prod.fst).Nodup) (name : String) :
    members.lookup name = others.lookup name := by
  have others_distinct := (perm.map Prod.fst).nodup_iff.mp distinct
  refine Option.ext fun value => ⟨fun found => ?_, fun found => ?_⟩
  · exact Dump.lookup_eq_some_of_mem others_distinct
      (perm.mem_iff.mp (Dump.mem_of_lookup_eq_some found))
  · exact Dump.lookup_eq_some_of_mem distinct
      (perm.mem_iff.mpr (Dump.mem_of_lookup_eq_some found))

/-- Objects that are alike have values that are alike under every name. -/
theorem agree {others : List (String × Json)}
    (alike : (Json.object members).IsAlike (.object others)) : Agree members others := by
  intro name
  obtain ⟨_, same, middle, aligned, perm⟩ := alike.object_inv
  obtain rfl := Json.object.inj same
  have distinct := (hasDistinctNames_object_iff.mp alike.symm.distinct).1
  rw [← lookup_perm perm ((perm.map Prod.fst).nodup_iff.mpr distinct)]
  exact lookup_rel aligned name

/-- What is like a value without parts is this value. -/
theorem eq_of_isScalar {left : Json} (alike : left.IsAlike right) (scalar : left.isScalar) :
    left = right := by
  cases alike.rearranged with
  | refl => rfl
  | array | object => cases scalar

/-- What holds of values without parts, of lists with items that are alike and of objects that are
alike holds of all values that are alike. -/
@[elab_as_elim]
theorem byShape {motive : ∀ left right : Json, left.IsAlike right → Prop}
    (scalar : ∀ json alike, json.isScalar → motive json json alike)
    (array : ∀ items others alike, List.Forall₂ IsAlike items others →
      motive (.array items) (.array others) alike)
    (object : ∀ members others alike, motive (.object members) (.object others) alike)
    {left right : Json} (alike : left.IsAlike right) : motive left right alike := by
  cases left with
  | array items =>
      obtain ⟨others, rfl, aligned⟩ := id alike.array_inv
      exact array items others alike aligned
  | object members =>
      obtain ⟨others, rfl, -⟩ := id alike.object_inv
      exact object members others alike
  | _ =>
      obtain rfl := alike.eq_of_isScalar rfl
      exact scalar _ alike rfl

end IsAlike

end Json
end ShadowLint
