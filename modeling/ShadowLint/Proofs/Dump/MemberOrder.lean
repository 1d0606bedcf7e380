import ShadowLint.Proofs.Dump.Members
import ShadowLint.Proofs.Dump.Rearranged

/-!
# Members in any order

What is read from the members of an object does not depend on their order: a text or a number is the
same, and lists and objects are alike.
-/

namespace ShadowLint
namespace Dump

open Json (IsAlike Agree)

section Related

variable {First Second Third Fourth : Type} {related : First → Second → Prop}
  {next : Third → Fourth → Prop} {left : Option First} {right : Option Second}

theorem rel_bind (rel : Option.Rel related left right) {change : First → Option Third}
    {otherChange : Second → Option Fourth}
    (each : ∀ first second, related first second →
      Option.Rel next (change first) (otherChange second)) :
    Option.Rel next (left.bind change) (right.bind otherChange) := by
  cases rel with
  | none => exact .none
  | some held => exact each _ _ held

theorem rel_getD (rel : Option.Rel related left right) {first : First} {second : Second}
    (held : related first second) : related (left.getD first) (right.getD second) := by
  cases rel with
  | none => exact held
  | some held => exact held

theorem exists_eq_some_of_rel (rel : Option.Rel related left right) {first : First}
    (left_eq : left = some first) : ∃ second, right = some second ∧ related first second := by
  cases rel with
  | none => cases left_eq
  | some held => exact ⟨_, rfl, Option.some.inj left_eq ▸ held⟩

theorem rel_isSome (rel : Option.Rel related left right) : left.isSome = right.isSome := by
  cases rel <;> rfl

theorem rel_eq_iff {content other : Option First} :
    Option.Rel Eq content other ↔ content = other := by
  constructor
  · rintro (same | _)
    · rw [same]
    · rfl
  · rintro rfl
    cases content with
    | none => exact .none
    | some => exact .some rfl

end Related

/-- The objects with the members are alike. -/
def AlikeMembers (members others : Members) : Prop :=
  (Json.object members).IsAlike (.object others)

theorem AlikeMembers.agree {members others : Members} (alike : AlikeMembers members others) :
    Agree members others :=
  IsAlike.agree alike

/-- Values that are alike have contents of the kind that are related, or none. -/
def Shape.Keeps {Content : Type} (shape : Shape Content) (related : Content → Content → Prop) :
    Prop :=
  ∀ left right : Json, left.IsAlike right →
    Option.Rel related (shape.read? left) (shape.read? right)

theorem keeps_int : Shape.int.Keeps Eq := by
  intro left right alike
  cases alike using IsAlike.byShape with
  | scalar => exact rel_eq_iff.mpr rfl
  | array | object => exact .none

theorem keeps_string : Shape.string.Keeps Eq := by
  intro left right alike
  cases alike using IsAlike.byShape with
  | scalar => exact rel_eq_iff.mpr rfl
  | array | object => exact .none

theorem keeps_list : Shape.list.Keeps (List.Forall₂ IsAlike) := by
  intro left right alike
  cases alike using IsAlike.byShape with
  | scalar _ _ scalar =>
      cases left with
      | array => cases scalar
      | _ => exact .none
  | array items others _ aligned => exact .some aligned
  | object => exact .none

theorem keeps_object : Shape.object.Keeps AlikeMembers := by
  intro left right alike
  cases alike using IsAlike.byShape with
  | scalar _ _ scalar =>
      cases left with
      | object => cases scalar
      | _ => exact .none
  | array => exact .none
  | object members others alike => exact .some alike

theorem isTruthy_eq {left right : Json} (alike : left.IsAlike right) :
    left.isTruthy = right.isTruthy := by
  cases alike using IsAlike.byShape with
  | scalar => rfl
  | array items others _ aligned => cases aligned <;> rfl
  | object members others alike =>
      obtain ⟨_, same, middle, aligned, perm⟩ := alike.object_inv
      obtain rfl := Json.object.inj same
      cases aligned with
      | nil => rw [perm.nil_eq]
      | cons =>
          cases others with
          | nil => exact absurd perm.eq_nil (List.cons_ne_nil _ _)
          | cons => rfl

section Members

variable {members others : Members} (agree : Agree members others) (key : String)
include agree

theorem value_alike : (value members key).IsAlike (value others key) :=
  rel_getD (agree key) (.refl rfl)

theorem present?_rel :
    Option.Rel IsAlike (Json.present? members key) (Json.present? others key) := by
  have rel := agree key
  unfold Json.present?
  generalize members.lookup key = left at rel
  generalize others.lookup key = right at rel
  cases rel with
  | none => exact .none
  | @some found other alike =>
      by_cases null : found = .null
      · subst null
        rw [← alike.eq_of_isScalar rfl]
        exact .none
      · have other_null : other ≠ .null := by
          rintro rfl
          exact null (alike.symm.eq_of_isScalar rfl).symm
        simpa [null, other_null] using alike

theorem flag_eq : Json.flag members key = Json.flag others key := by
  have rel := agree key
  unfold Json.flag
  generalize members.lookup key = left at rel
  generalize others.lookup key = right at rel
  cases rel with
  | none => rfl
  | some alike => exact isTruthy_eq alike

variable {Content : Type} {shape : Shape Content} {related : Content → Content → Prop}

theorem content?_rel (keeps : shape.Keeps related) :
    Option.Rel related (content? members key shape) (content? others key shape) :=
  rel_bind (agree key) keeps

theorem presentContent?_rel (keeps : shape.Keeps related) :
    Option.Rel related (presentContent? members key shape) (presentContent? others key shape) :=
  rel_bind (present?_rel agree key) keeps

theorem content?_eq (keeps : shape.Keeps Eq) :
    content? members key shape = content? others key shape :=
  rel_eq_iff.mp (content?_rel agree key keeps)

theorem presentContent?_eq (keeps : shape.Keeps Eq) :
    presentContent? members key shape = presentContent? others key shape :=
  rel_eq_iff.mp (presentContent?_rel agree key keeps)

theorem mayHold_iff (keeps : shape.Keeps related) :
    MayHold members key shape ↔ MayHold others key shape := by
  have rel := present?_rel agree key
  unfold MayHold
  generalize Json.present? members key = left at rel
  generalize Json.present? others key = right at rel
  cases rel with
  | none => simp
  | some alike => simp [rel_isSome (keeps _ _ alike)]

theorem itemsUnder_alike :
    List.Forall₂ IsAlike (itemsUnder members key) (itemsUnder others key) :=
  rel_getD (presentContent?_rel agree key keeps_list) .nil

omit agree in
theorem objects_alike {items found : List Json} (aligned : List.Forall₂ IsAlike items found) :
    List.Forall₂ AlikeMembers (items.filterMap Shape.object.read?)
        (found.filterMap Shape.object.read?) ∧
      ((∀ item ∈ items, (Shape.object.read? item).isSome) ↔
        ∀ item ∈ found, (Shape.object.read? item).isSome) := by
  induction aligned with
  | nil => exact ⟨.nil, by simp⟩
  | @cons item other _ _ alike _ ih =>
      have rel := keeps_object item other alike
      rw [List.filterMap_cons, List.filterMap_cons, List.forall_mem_cons, List.forall_mem_cons,
        ih.2, rel_isSome rel]
      generalize Shape.object.read? item = left at rel
      generalize Shape.object.read? other = right at rel
      cases rel with
      | none => exact ⟨ih.1, Iff.rfl⟩
      | some held => exact ⟨.cons held ih.1, Iff.rfl⟩

theorem objectsUnder_alike :
    List.Forall₂ AlikeMembers (objectsUnder members key) (objectsUnder others key) :=
  (objects_alike (itemsUnder_alike agree key)).1

theorem mayHoldObjects_iff : MayHoldObjects members key ↔ MayHoldObjects others key := by
  rw [MayHoldObjects, MayHoldObjects, mayHold_iff agree key keeps_list,
    (objects_alike (itemsUnder_alike agree key)).2]

end Members

end Dump
end ShadowLint
