import ShadowLint.Proofs.Dump.Correspondence
import ShadowLint.Proofs.Dump.MemberOrder

/-!
# Trees in any order of members

Values that differ in the order of members stand for the same tree.  Their objects describe the same
nodes and tell the same about the names among them, in another order.
-/

namespace ShadowLint
namespace Dump

open Json (IsAlike Agree AlikeMember)

section Object

variable {symbolCount : Nat} {members others : Members} {kind : Kind}

theorem lookup_eq_some_of_agree (agree : Agree members others) {key : String} {found : Json}
    (found_eq : members.lookup key = some found) :
    ∃ other, others.lookup key = some other ∧ found.IsAlike other :=
  exists_eq_some_of_rel (agree key) found_eq

theorem lookup_string_of_agree (agree : Agree members others) {key word : String}
    (found_eq : members.lookup key = some (.string word)) :
    others.lookup key = some (.string word) := by
  obtain ⟨other, other_eq, alike⟩ := lookup_eq_some_of_agree agree found_eq
  rw [other_eq, alike.eq_of_isScalar rfl]

theorem nodeClass_matches_of_alike {accepted : NodeClass} {found other : Json}
    (alike : found.IsAlike other) (matched : accepted.Matches found) : accepted.Matches other := by
  cases found with
  | object entries =>
      obtain ⟨entries', rfl, -⟩ := id alike.object_inv
      obtain ⟨kind, named, accepts⟩ := matched
      exact ⟨kind, lookup_string_of_agree alike.agree named, accepts⟩
  | _ => exact matched.elim

theorem fieldType_matches_of_alike {type : FieldType} {found other : Json}
    (alike : found.IsAlike other) (matched : type.Matches found) : type.Matches other := by
  cases type with
  | position | text =>
      cases found <;> first
        | exact matched.elim
        | exact alike.eq_of_isScalar rfl ▸ matched
  | node accepted => exact nodeClass_matches_of_alike alike matched
  | optional accepted =>
      rcases matched with rfl | matched
      · exact .inl (alike.eq_of_isScalar rfl).symm
      · exact .inr (nodeClass_matches_of_alike alike matched)
  | nodes accepted =>
      cases found with
      | array items =>
          obtain ⟨others, rfl, aligned⟩ := alike.array_inv
          intro item mem
          obtain ⟨origin, origin_mem, item_alike⟩ := exists_of_mem_of_forall₂ aligned.flip mem
          exact nodeClass_matches_of_alike item_alike (matched origin origin_mem)
      | _ => exact matched.elim

theorem refersToSymbol_of_alike {found other : Json} (alike : found.IsAlike other)
    (refers : RefersToSymbol symbolCount found) : RefersToSymbol symbolCount other := by
  cases found <;> first
    | exact refers.elim
    | exact alike.eq_of_isScalar rfl ▸ refers

theorem describesNode_of_alike (alike : AlikeMembers members others)
    (describes : DescribesNode symbolCount members kind) :
    DescribesNode symbolCount others kind := by
  have agree := alike.agree
  have back := alike.symm
  have distinct := (Json.hasDistinctNames_object_iff.mp back.distinct).1
  -- Every member of the one object has its match in the other one.
  have exists_member {member : String × Json} (mem : member ∈ others) :
      ∃ found, (member.1, found) ∈ members ∧ found.IsAlike member.2 := by
    obtain ⟨found, found_eq, found_alike⟩ :=
      lookup_eq_some_of_agree (AlikeMembers.agree back) (lookup_eq_some_of_mem distinct mem)
    exact ⟨found, mem_of_lookup_eq_some found_eq, found_alike.symm⟩
  constructor
  case named => exact lookup_string_of_agree agree describes.named
  case typed =>
    intro member mem notKind plain
    obtain ⟨found, found_mem, found_alike⟩ := exists_member mem
    obtain ⟨type, type_eq, matched⟩ := describes.typed _ found_mem notKind plain
    exact ⟨type, type_eq, fieldType_matches_of_alike found_alike matched⟩
  case complete =>
    intro field mem required
    obtain ⟨member, member_mem, same⟩ := List.mem_map.mp (describes.complete field mem required)
    have member_distinct := (Json.hasDistinctNames_object_iff.mp alike.distinct).1
    obtain ⟨other, other_eq, -⟩ :=
      lookup_eq_some_of_agree agree (lookup_eq_some_of_mem member_distinct member_mem)
    exact List.mem_map.mpr ⟨_, mem_of_lookup_eq_some other_eq, same⟩
  case resolved =>
    intro member mem resolves
    obtain ⟨found, found_mem, -⟩ := exists_member mem
    exact describes.resolved _ found_mem resolves
  case declares =>
    intro other other_eq
    obtain ⟨found, found_eq, found_alike⟩ :=
      lookup_eq_some_of_agree (AlikeMembers.agree back) other_eq
    rcases describes.declares found found_eq with rfl | refers
    · exact .inl (found_alike.symm.eq_of_isScalar rfl).symm
    · exact .inr (refersToSymbol_of_alike found_alike.symm refers)
  case uses =>
    intro other other_eq
    obtain ⟨found, found_eq, found_alike⟩ :=
      lookup_eq_some_of_agree (AlikeMembers.agree back) other_eq
    exact refersToSymbol_of_alike found_alike.symm (describes.uses found found_eq)

theorem identOf_eq {object other : Place × Members} (place_eq : object.1 = other.1)
    (agree : Agree object.2 other.2) : identOf object = identOf other := by
  rw [identOf, identOf, place_eq, content?_eq agree "name" keeps_string,
    content?_eq agree "name_pos" keeps_int]

theorem symbolOf?_eq {found other : Json} (alike : found.IsAlike other) :
    symbolOf? found = symbolOf? other := by
  cases alike using IsAlike.byShape with
  | scalar | array | object => rfl

/-- Objects at one place that are alike. -/
def AlikeObject (object other : Place × Members) : Prop :=
  object.1 = other.1 ∧ AlikeMembers object.2 other.2

theorem definitionOf?_eq {object other : Place × Members} (alike : AlikeObject object other) :
    definitionOf? object = definitionOf? other := by
  have rel := alike.2.agree definitionKey
  rw [definitionOf?, definitionOf?, identOf_eq alike.1 alike.2.agree]
  generalize object.2.lookup definitionKey = left at rel
  generalize other.2.lookup definitionKey = right at rel
  cases rel with
  | none => rfl
  | some found_alike => rw [Option.map_some, Option.map_some, symbolOf?_eq found_alike]

theorem useOf?_eq {object other : Place × Members} (alike : AlikeObject object other) :
    useOf? object = useOf? other := by
  have rel := alike.2.agree useKey
  rw [useOf?, useOf?, identOf_eq alike.1 alike.2.agree]
  generalize object.2.lookup useKey = left at rel
  generalize other.2.lookup useKey = right at rel
  cases rel with
  | none => rfl
  | some found_alike => rw [Option.bind_some, Option.bind_some, symbolOf?_eq found_alike]

end Object

section Objects

/-- The objects are alike up to their order. -/
def AlikeObjects (objects others : List (Place × Members)) : Prop :=
  ∃ middle, List.Forall₂ AlikeObject objects middle ∧ middle.Perm others

variable {objects others : List (Place × Members)}

theorem AlikeObjects.nil : AlikeObjects [] [] := ⟨[], .nil, .nil⟩

theorem AlikeObjects.append {more more' : List (Place × Members)}
    (alike : AlikeObjects objects others) (more_alike : AlikeObjects more more') :
    AlikeObjects (objects ++ more) (others ++ more') := by
  obtain ⟨middle, aligned, perm⟩ := alike
  obtain ⟨more_middle, more_aligned, more_perm⟩ := more_alike
  exact ⟨middle ++ more_middle, List.rel_append aligned more_aligned, perm.append more_perm⟩

theorem AlikeObjects.trans_perm {others' : List (Place × Members)}
    (alike : AlikeObjects objects others) (perm : others.Perm others') :
    AlikeObjects objects others' := by
  obtain ⟨middle, aligned, middle_perm⟩ := alike
  exact ⟨middle, aligned, middle_perm.trans perm⟩

/-- Parts of related items that are alike up to their order make lists that are. -/
theorem AlikeObjects.flatMap {Item Other : Type} {related : Item → Other → Prop}
    {parts : Item → List (Place × Members)} {otherParts : Other → List (Place × Members)}
    {items : List Item} {found : List Other} (aligned : List.Forall₂ related items found)
    (each : ∀ item ∈ items, ∀ other, related item other →
      AlikeObjects (parts item) (otherParts other)) :
    AlikeObjects (items.flatMap parts) (found.flatMap otherParts) := by
  induction aligned with
  | nil => exact .nil
  | cons held _ ih =>
      obtain ⟨item_each, rest_each⟩ := List.forall_mem_cons.mp each
      exact .append (item_each _ held) (ih rest_each)

/-- What objects tell is the same up to its order. -/
theorem AlikeObjects.filterMap_perm {Result : Type} {tell : Place × Members → Option Result}
    (same : ∀ object other, AlikeObject object other → tell object = tell other)
    (alike : AlikeObjects objects others) :
    (objects.filterMap tell).Perm (others.filterMap tell) := by
  obtain ⟨middle, aligned, perm⟩ := alike
  have told_eq : objects.filterMap tell = middle.filterMap tell := by
    clear perm
    induction aligned with
    | nil => rfl
    | cons held _ ih => rw [List.filterMap_cons, List.filterMap_cons, same _ _ held, ih]
  exact told_eq ▸ perm.filterMap tell

theorem AlikeObjects.allDescribe {symbolCount : Nat} (alike : AlikeObjects objects others)
    (described : AllDescribe symbolCount objects) : AllDescribe symbolCount others := by
  obtain ⟨middle, aligned, perm⟩ := alike
  intro other mem
  obtain ⟨object, object_mem, held⟩ :=
    exists_of_mem_of_forall₂ aligned.flip (perm.mem_iff.mpr mem)
  obtain ⟨kind, describes⟩ := described object object_mem
  exact ⟨kind, describesNode_of_alike held.2 describes⟩

theorem zipIdx_alike {items found : List Json} (aligned : List.Forall₂ IsAlike items found)
    (index : Nat) :
    List.Forall₂ (fun item other : Json × Nat => item.2 = other.2 ∧ item.1.IsAlike other.1)
      (items.zipIdx index) (found.zipIdx index) := by
  induction aligned generalizing index with
  | nil => exact .nil
  | cons alike _ ih => exact .cons ⟨rfl, alike⟩ (ih (index + 1))

/-- The objects in values that are alike are alike up to their order. -/
theorem objectsAt_alike {left right : Json} (alike : left.IsAlike right) (place : Place) :
    AlikeObjects (left.objectsAt place) (right.objectsAt place) := by
  induction left using Json.induction generalizing right place with
  | scalar left scalar =>
      obtain rfl := alike.eq_of_isScalar scalar
      cases left with
      | array | object => cases scalar
      | _ => exact .nil
  | array items ih =>
      obtain ⟨found, rfl, aligned⟩ := alike.array_inv
      rw [Json.objectsAt, Json.objectsAt, Json.objectsOfItems_eq, Json.objectsOfItems_eq]
      refine .flatMap (zipIdx_alike aligned 0) fun item mem other ⟨same, item_alike⟩ => ?_
      have item_mem := List.fst_mem_of_mem_zipIdx mem
      rw [← same]
      exact ih item.1 item_mem item_alike _
  | object members ih =>
      obtain ⟨found, rfl, middle, aligned, perm⟩ := id alike.object_inv
      rw [Json.objectsAt, Json.objectsAt, Json.objectsOfMembers_eq, Json.objectsOfMembers_eq]
      refine .append (.trans_perm ?_ (perm.flatMap_right _))
        ⟨[(place, found)], .cons ⟨rfl, alike⟩ .nil, .refl _⟩
      refine .flatMap aligned fun member mem other ⟨same, member_alike⟩ => ?_
      rw [← same]
      exact ih member mem member_alike _

/-- Values that are alike stand for the same. -/
theorem contentOf_eq {left right : Json} (alike : left.IsAlike right) (place : Place) :
    contentOf place left = contentOf place right := by
  induction left using Json.induction generalizing right place with
  | scalar left scalar => rw [alike.eq_of_isScalar scalar]
  | array items ih =>
      obtain ⟨found, rfl, aligned⟩ := alike.array_inv
      have item_eq (item : Json × Nat) (mem : item ∈ items.zipIdx 0) (other : Json)
          (item_alike : item.1.IsAlike other) (place : Place) :
          contentOf place item.1 = contentOf place other := by
        have item_mem := List.fst_mem_of_mem_zipIdx mem
        exact ih item.1 item_mem item_alike place
      rw [contentOf, contentOf, contentsOfItems_eq, contentsOfItems_eq]
      refine congrArg Value.list ?_
      rw [← List.forall₂_eq_eq_eq, List.forall₂_map_left_iff, List.forall₂_map_right_iff]
      refine ((List.forall₂_and_left _ _).mpr ⟨item_eq, zipIdx_alike aligned 0⟩).imp ?_
      rintro item other ⟨same_content, same, item_alike⟩
      rw [same, same_content other.1 item_alike]
  | object members ih =>
      obtain ⟨found, rfl, -⟩ := id alike.object_inv
      have agree := alike.agree
      have kind_eq : kindOf? members = kindOf? found := by
        rw [kindOf?, kindOf?, content?_eq agree kindKey keeps_string]
      rw [contentOf, contentOf, kind_eq, nodeFrom, nodeFrom]
      refine congrArg (fun slots => Value.node ⟨place, _, slots⟩)
        (List.map_congr_left fun field mem => ?_)
      have rel := agree field.name
      rw [slotFrom, slotFrom, lookup_contentsOf (fieldName_isPlain mem).1,
        lookup_contentsOf (fieldName_isPlain mem).1]
      cases found_eq : members.lookup field.name with
      | none =>
          rw [found_eq] at rel
          generalize found.lookup field.name = right at rel
          cases rel
          rfl
      | some value =>
          obtain ⟨other, other_eq, value_alike⟩ := lookup_eq_some_of_agree agree found_eq
          rw [other_eq, Option.map_some, Option.map_some,
            ih _ (mem_of_lookup_eq_some found_eq) value_alike]

end Objects

end Dump
end ShadowLint
