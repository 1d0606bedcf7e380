import Mathlib.Logic.Relation
import Mathlib.Order.WellFounded
import ShadowLint.Proofs.Dump.TypeEntry

/-!
# References between types

Following a reference of a type table adds types to those that are found.  What is found refers to
found types only, so no circle of references leads through it; and in a table without circles every
reference can be followed.
-/

namespace ShadowLint
namespace Dump

/-- The entry at an index is of a kind. -/
def HasKind (entries : List Json) (index : Nat) (kind : String) : Prop :=
  ∃ members, entries[index]? = some (.object members) ∧ value members "kind" = .string kind

/-- All references of an entry lead to entries, and those of an interface to function types. -/
structure IsLinked (entries : List Json) (members : Members) : Prop where
  /-- Every reference is the index of an entry. -/
  inside : ∀ reference ∈ references members,
    ∃ target : Nat, reference = .int target ∧ target < entries.length
  /-- The types of methods are function types. -/
  methods : value members "kind" = .string "interface" →
    ∀ target : Nat, .int target ∈ references members → HasKind entries target "signature"

/-- An entry that is no defined type refers to another one that is none. -/
def DependsOn (entries : List Json) (index target : Nat) : Prop :=
  ∃ members, entries[index]? = some (.object members) ∧
    value members "kind" ≠ .string "named" ∧ .int target ∈ references members ∧
      ¬HasKind entries target "named"

/-- A type table that can be read. -/
structure IsWellFormed (entries : List Json) : Prop where
  /-- Every entry is formed well and refers to entries. -/
  formed : ∀ entry ∈ entries,
    ∃ members, entry = .object members ∧ IsFormed members ∧ IsLinked entries members
  /-- Every circle of references passes through a defined type. -/
  acyclic : ∀ index, ¬Relation.TransGen (DependsOn entries) index index

/-- The type at an index is found. -/
def IsFound (found : FoundTypes) (index : Nat) : Prop :=
  ∃ type, found[index]?.join = some type

/-- No type is lost. -/
def Grows (before after : FoundTypes) : Prop :=
  ∀ index, IsFound before index → IsFound after index

/-- The found types are those of entries that are formed well and refer to found types only, so
that no circle of references leads through them. -/
structure IsResolved (entries : List Json) (found : FoundTypes) : Prop where
  /-- There is room for the type of every entry. -/
  size : found.size = entries.length
  /-- A found type is of the kind of its entry, and its entry is formed well. -/
  formed : ∀ (index : Nat) (type : Ty), found[index]?.join = some type →
    ∃ members, entries[index]? = some (.object members) ∧
      value members "kind" = .string type.kindName ∧ IsFormed members
  /-- The references of its entry lead to entries, unless it is a defined type. -/
  linked : ∀ (index : Nat) (members : Members), IsFound found index →
    entries[index]? = some (.object members) → value members "kind" ≠ .string "named" →
      IsLinked entries members
  /-- No circle leads through its entry. -/
  accessible : ∀ index, IsFound found index →
    Acc (fun target source => DependsOn entries source target) index

section Follow

variable {entries : List Json} {before after : FoundTypes}

/-- The reader that follows a reference, where `free` are the indices of which no type is under
way. -/
def followed (entries : Array Json) (part : DumpPart) (free : List Nat) (reference : Json) :
    TypeReader Ty := do
  let target ← typeIndex entries.size part reference
  typeAt entries free target

theorem typeIndex_eq_ok_iff {size : Nat} {part : DumpPart} {reference : Json} {target : Nat} :
    typeIndex size part reference = .ok target ↔ reference = .int target ∧ target < size := by
  unfold typeIndex
  split
  · rename_i index
    split
    · rename_i inside
      simp only [Except.ok.injEq, Json.int.injEq]
      omega
    · rename_i outside
      simp only [reduceCtorEq, false_iff, Json.int.injEq]
      omega
  · rename_i other
    simp only [reduceCtorEq, false_iff]
    rintro ⟨rfl, -⟩
    exact other _ rfl

theorem run_followed_eq_ok_iff {entries : Array Json} {part : DumpPart} {free : List Nat}
    {reference : Json} {type : Ty} :
    (followed entries part free reference).run before = .ok (type, after) ↔
      ∃ target : Nat, reference = .int target ∧ target < entries.size ∧
        (typeAt entries free target).run before = .ok (type, after) := by
  refine run_lift_bind_eq_ok_iff.trans (exists_congr fun target => ?_)
  rw [typeIndex_eq_ok_iff, and_assoc]

theorem run_get_bind {Result : Type} {next : FoundTypes → TypeReader Result} :
    (get >>= next).run before = (next before).run before := rfl

/-- A type is found already, or its entry is read while its own index is not free any more. -/
theorem run_typeAt_eq_ok_iff {entries : Array Json} {free : List Nat} {index : Nat} {type : Ty} :
    (typeAt entries free index).run before = .ok (type, after) ↔
      (before[index]?.join = some type ∧ before = after) ∨
        before[index]?.join = none ∧ index ∈ free ∧ ∃ members between,
          entries[index]? = some (.object members) ∧
            (entryType (.entry .types index) members
              (followed entries (.entry .types index) (free.erase index))).run before =
                .ok (type, between) ∧
            between.setIfInBounds index (some type) = after := by
  rw [typeAt, run_get_bind]
  cases before[index]?.join with
  | some found =>
      simp only [run_pure_eq_ok_iff, Option.some.injEq, reduceCtorEq, false_and, or_false]
  | none =>
      simp only [reduceCtorEq, false_and, false_or, true_and]
      by_cases isFree : index ∈ free
      · rw [dif_pos isFree]
        simp only [isFree, true_and]
        split
        · rename_i members entry_eq
          constructor
          · intro run
            obtain ⟨built, between, built_eq, run⟩ := run_bind_eq_ok_iff.mp run
            obtain ⟨rfl, rfl⟩ := run_pure_eq_ok_iff.mp run
            exact ⟨members, between, entry_eq, built_eq, rfl⟩
          · rintro ⟨others, between, same, built_eq, rfl⟩
            obtain rfl : members = others := by simpa [entry_eq] using same
            exact run_bind_eq_ok_iff.mpr ⟨type, between, built_eq, rfl⟩
        · rename_i other
          simp only [run_throw_eq_ok_iff, false_iff]
          rintro ⟨members, _, entry_eq, -⟩
          exact other members entry_eq
      · rw [dif_neg isFree]
        simp only [run_throw_eq_ok_iff, isFree, false_and]

theorem length_erase_lt {free : List Nat} {index : Nat} (isFree : index ∈ free) :
    (free.erase index).length < free.length := by
  have := List.length_pos_of_mem isFree
  rw [List.length_erase_of_mem isFree]
  omega

/-- What holds of every type that is found already, and of the type of an entry if it holds of those
that its references lead to, holds of every type that is read. -/
theorem run_typeAt_induction {entries : Array Json}
    {motive : List Nat → Nat → FoundTypes → Ty → FoundTypes → Prop}
    (known : ∀ {free index before type}, before[index]?.join = some type →
      motive free index before type before)
    (entry : ∀ {free index before type members types between}, before[index]?.join = none →
      index ∈ free → entries[index]? = some (.object members) → IsFormed members →
      ((references members).mapM
        (followed entries (.entry .types index) (free.erase index))).run before =
          .ok (types, between) →
      typeOf? members types = some type →
      (∀ {target before part after},
        (typeAt entries (free.erase index) target).run before = .ok (part, after) →
          motive (free.erase index) target before part after) →
      motive free index before type (between.setIfInBounds index (some type)))
    {free : List Nat} {index : Nat} {type : Ty}
    (run : (typeAt entries free index).run before = .ok (type, after)) :
    motive free index before type after := by
  -- A followed reference leaves one free index less.
  induction size_eq : free.length using Nat.strong_induction_on
    generalizing free index type before after with
  | _ size ih =>
    rcases run_typeAt_eq_ok_iff.mp run with ⟨found, rfl⟩ |
      ⟨unfound, isFree, members, between, entry_eq, entry_run, rfl⟩
    · exact known found
    · obtain ⟨formed, types, types_run, built⟩ := run_entryType_eq_ok_iff.mp entry_run
      have fewer : (free.erase index).length < size := size_eq ▸ length_erase_lt isFree
      exact entry unfound isFree entry_eq formed types_run built fun run => ih _ fewer run rfl

theorem Grows.refl (found : FoundTypes) : Grows found found :=
  fun _ isFound => isFound

theorem Grows.trans {between : FoundTypes} (first : Grows before between)
    (rest : Grows between after) : Grows before after :=
  fun index isFound => rest index (first index isFound)

/-- What every step of a successful run keeps is kept by the run, it goes from one state to the next
as the steps do, and what a step leads to is there in the end. -/
theorem run_mapM_sound {Item Result : Type} {step : Item → TypeReader Result}
    (Kept : FoundTypes → Prop) {Passes : FoundTypes → FoundTypes → Prop}
    (Leads : FoundTypes → Item → Result → Prop) (refl : ∀ found, Passes found found)
    (trans : ∀ {first between last}, Passes first between → Passes between last →
      Passes first last)
    (persists : ∀ {earlier later item result}, Passes earlier later → Leads earlier item result →
      Leads later item result)
    (each : ∀ {item before result after}, Kept before →
      (step item).run before = .ok (result, after) →
        Kept after ∧ Passes before after ∧ Leads after item result)
    {listed : List Item} {results : List Result} (kept : Kept before)
    (run : (listed.mapM step).run before = .ok (results, after)) :
    Kept after ∧ Passes before after ∧ List.Forall₂ (Leads after) listed results := by
  induction listed generalizing before results with
  | nil =>
      obtain ⟨rfl, rfl⟩ := run_mapM_nil_eq_ok_iff.mp run
      exact ⟨kept, refl _, .nil⟩
  | cons item rest ih =>
      obtain ⟨first, between, others, first_eq, others_eq, rfl⟩ := run_mapM_cons_eq_ok_iff.mp run
      obtain ⟨between_kept, first_passes, leads⟩ := each kept first_eq
      obtain ⟨after_kept, rest_passes, all_lead⟩ := ih between_kept others_eq
      exact ⟨after_kept, trans first_passes rest_passes,
        .cons (persists rest_passes leads) all_lead⟩

/-- If every step succeeds wherever what is known is kept, then so do all steps in a row. -/
theorem exists_run_mapM {Item Result : Type} {step : Item → TypeReader Result}
    {Kept : FoundTypes → Prop} {listed : List Item}
    (each : ∀ item ∈ listed, ∀ before, Kept before →
      ∃ result after, (step item).run before = .ok (result, after) ∧ Kept after)
    (kept : Kept before) :
    ∃ results after, (listed.mapM step).run before = .ok (results, after) := by
  induction listed generalizing before with
  | nil => exact ⟨[], before, rfl⟩
  | cons item rest ih =>
      obtain ⟨item_each, rest_each⟩ := List.forall_mem_cons.mp each
      obtain ⟨first, between, first_eq, between_kept⟩ := item_each before kept
      obtain ⟨others, after, others_eq⟩ := ih rest_each between_kept
      exact ⟨first :: others, after,
        run_mapM_cons_eq_ok_iff.mpr ⟨first, between, others, first_eq, others_eq, rfl⟩⟩

/-- A reference leads to a found type of the kind of its entry. -/
def LeadsTo (entries : List Json) (found : FoundTypes) (reference : Json) (type : Ty) : Prop :=
  ∃ target : Nat, reference = .int target ∧ target < entries.length ∧ IsFound found target ∧
    HasKind entries target type.kindName

theorem LeadsTo.mono {reference : Json} {type : Ty} (grows : Grows before after)
    (leads : LeadsTo entries before reference type) : LeadsTo entries after reference type := by
  obtain ⟨target, same, inside, found, kind⟩ := leads
  exact ⟨target, same, inside, grows target found, kind⟩

theorem join_setIfInBounds {found : FoundTypes} {index : Nat} (inside : index < found.size)
    (type : Ty) (other : Nat) :
    (found.setIfInBounds index (some type))[other]?.join =
      if other = index then some type else found[other]?.join := by
  rw [Array.getElem?_setIfInBounds]
  by_cases same : index = other
  · subst same
    simp [inside]
  · simp [same, Ne.symm same]

theorem isFound_setIfInBounds_iff {found : FoundTypes} {index : Nat} (inside : index < found.size)
    (type : Ty) {other : Nat} :
    IsFound (found.setIfInBounds index (some type)) other ↔
      other = index ∨ IsFound found other := by
  simp only [IsFound, join_setIfInBounds inside]
  by_cases same : other = index <;> simp [same]

/-- An entry is linked if its references lead to the types that its own type is put together
from. -/
theorem isLinked_of_leads {members : Members} {types : List Ty} {type : Ty}
    (leads : List.Forall₂ (LeadsTo entries before) (references members) types)
    (built : typeOf? members types = some type) : IsLinked entries members where
  inside reference mem := by
    obtain ⟨_, -, target, same, inside, -⟩ := exists_of_mem_of_forall₂ leads mem
    exact ⟨target, same, inside⟩
  methods kind_eq target mem := by
    obtain ⟨part, part_mem, other, same, -, -, kind⟩ := exists_of_mem_of_forall₂ leads mem
    obtain rfl : target = other := Int.ofNat.inj (Json.int.inj same)
    rwa [kindName_of_typeOf?_eq_some kind_eq leads.length_eq.symm built part part_mem] at kind

/-- No circle leads through an entry whose references lead to found types. -/
theorem IsResolved.accessible_of_leads {index : Nat} {members : Members} {types : List Ty}
    (resolved : IsResolved entries before) (entry_eq : entries[index]? = some (.object members))
    (leads : List.Forall₂ (LeadsTo entries before) (references members) types) :
    Acc (fun target source => DependsOn entries source target) index := by
  refine Acc.intro index fun target ⟨others, others_eq, _, mem, _⟩ => ?_
  obtain rfl : members = others := by simpa [entry_eq] using others_eq
  obtain ⟨_, -, found, same, -, isFound, -⟩ := exists_of_mem_of_forall₂ leads mem
  obtain rfl : target = found := Int.ofNat.inj (Json.int.inj same)
  exact resolved.accessible target isFound

/-- Once all references of an entry lead to found types, its own type can be added to these. -/
theorem IsResolved.setIfInBounds {index : Nat} {members : Members} {types : List Ty} {type : Ty}
    (resolved : IsResolved entries before) (entry_eq : entries[index]? = some (.object members))
    (formed : IsFormed members)
    (leads : List.Forall₂ (LeadsTo entries before) (references members) types)
    (built : typeOf? members types = some type) :
    IsResolved entries (before.setIfInBounds index (some type)) ∧
      Grows before (before.setIfInBounds index (some type)) ∧
      IsFound (before.setIfInBounds index (some type)) index := by
  have inside : index < before.size := by
    rw [resolved.size]
    exact (List.getElem?_eq_some_iff.mp entry_eq).1
  have found_iff {other : Nat} :
      IsFound (before.setIfInBounds index (some type)) other ↔
        other = index ∨ IsFound before other :=
    isFound_setIfInBounds_iff inside type
  refine ⟨⟨?_, ?_, ?_, ?_⟩, fun other found => found_iff.mpr (.inr found), found_iff.mpr (.inl rfl)⟩
  · rw [Array.size_setIfInBounds, resolved.size]
  · intro other otherType found
    rw [join_setIfInBounds inside] at found
    split at found
    · obtain rfl := Option.some.inj found
      subst other
      exact ⟨members, entry_eq, kind_eq_of_typeOf?_eq_some built, formed⟩
    · exact resolved.formed other otherType found
  · intro other otherMembers found other_eq notNamed
    rcases found_iff.mp found with rfl | found
    · obtain rfl : members = otherMembers := by simpa [entry_eq] using other_eq
      exact isLinked_of_leads leads built
    · exact resolved.linked other otherMembers found other_eq notNamed
  · intro other found
    rcases found_iff.mp found with rfl | found
    · exact resolved.accessible_of_leads entry_eq leads
    · exact resolved.accessible other found

/-- What is known of the types that single references lead to is known of those that all references
of an entry lead to. -/
theorem IsResolved.of_references {part : DumpPart} {free : List Nat} {references : List Json}
    {types : List Ty} (resolved : IsResolved entries before)
    (each : ∀ {index earlier type later}, IsResolved entries earlier →
      (typeAt entries.toArray free index).run earlier = .ok (type, later) →
        IsResolved entries later ∧ Grows earlier later ∧ IsFound later index ∧
          HasKind entries index type.kindName)
    (run : (references.mapM (followed entries.toArray part free)).run before = .ok (types, after)) :
    IsResolved entries after ∧ Grows before after ∧
      List.Forall₂ (LeadsTo entries after) references types := by
  refine run_mapM_sound (IsResolved entries) (LeadsTo entries) Grows.refl Grows.trans LeadsTo.mono
    ?_ resolved run
  intro reference earlier type later earlier_resolved followed_run
  obtain ⟨target, rfl, inside, target_run⟩ := run_followed_eq_ok_iff.mp followed_run
  obtain ⟨later_resolved, grows, found, kind⟩ := each earlier_resolved target_run
  exact ⟨later_resolved, grows, target, rfl, by simpa using inside, found, kind⟩

/-- What is found by following references is resolved, and it is of the kind of its entry. -/
theorem IsResolved.of_typeAt {free : List Nat} {index : Nat} {type : Ty}
    (resolved : IsResolved entries before)
    (run : (typeAt entries.toArray free index).run before = .ok (type, after)) :
    IsResolved entries after ∧ Grows before after ∧ IsFound after index ∧
      HasKind entries index type.kindName := by
  refine run_typeAt_induction (motive := fun _ index before type after =>
    IsResolved entries before → IsResolved entries after ∧ Grows before after ∧
      IsFound after index ∧ HasKind entries index type.kindName) ?_ ?_ run resolved
  · intro _ index before type found resolved
    obtain ⟨members, entry_eq, kind_eq, -⟩ := resolved.formed index type found
    exact ⟨resolved, .refl before, ⟨type, found⟩, members, entry_eq, kind_eq⟩
  · intro free index before type members types between _ _ entry_eq formed types_run built each
      resolved
    rw [List.getElem?_toArray] at entry_eq
    obtain ⟨between_resolved, grows, leads⟩ :=
      resolved.of_references (fun resolved run => each run resolved) types_run
    obtain ⟨after_resolved, grows_on, found⟩ :=
      between_resolved.setIfInBounds entry_eq formed leads built
    exact ⟨after_resolved, grows.trans grows_on, found, members, entry_eq,
      kind_eq_of_typeOf?_eq_some built⟩

theorem HasKind.unique {index : Nat} {kind other : String} (left : HasKind entries index kind)
    (right : HasKind entries index other) : kind = other := by
  obtain ⟨members, entry_eq, kind_eq⟩ := left
  obtain ⟨others, others_eq, other_eq⟩ := right
  obtain rfl : members = others := by simpa [entry_eq] using others_eq
  exact Json.string.inj (kind_eq.symm.trans other_eq)

/-- Types that references lead to are function types where the references are those of methods. -/
theorem kindName_of_leads {members : Members} {types : List Ty} (linked : IsLinked entries members)
    (leads : List.Forall₂ (LeadsTo entries before) (references members) types)
    (kind_eq : value members "kind" = .string "interface") :
    ∀ type ∈ types, type.kindName = "signature" := by
  intro type mem
  obtain ⟨reference, reference_mem, target, rfl, -, -, kind⟩ :=
    exists_of_mem_of_forall₂ leads.flip mem
  exact kind.unique (linked.methods kind_eq target reference_mem)

/-- The found types are resolved, and all defined types are among them. -/
def HoldsDefined (entries : List Json) (found : FoundTypes) : Prop :=
  IsResolved entries found ∧ ∀ index, HasKind entries index "named" → IsFound found index

theorem HoldsDefined.of_typeAt {free : List Nat} {index : Nat} {type : Ty}
    (holds : HoldsDefined entries before)
    (run : (typeAt entries.toArray free index).run before = .ok (type, after)) :
    HoldsDefined entries after := by
  obtain ⟨resolved, grows, -⟩ := holds.1.of_typeAt run
  exact ⟨resolved, fun other named => grows other (holds.2 other named)⟩

/-- A reference of an entry can be followed if the type at its index can be found. -/
theorem HoldsDefined.exists_run_followed {part : DumpPart} {free : List Nat} {members : Members}
    {reference : Json} (holds : HoldsDefined entries before) (linked : IsLinked entries members)
    (mem : reference ∈ references members)
    (each : ∀ target : Nat, .int target ∈ references members → target < entries.length →
      ∃ type after, (typeAt entries.toArray free target).run before = .ok (type, after)) :
    ∃ type after, (followed entries.toArray part free reference).run before = .ok (type, after) ∧
      HoldsDefined entries after := by
  obtain ⟨target, rfl, inside⟩ := linked.inside reference mem
  obtain ⟨type, after, run⟩ := each target mem inside
  exact ⟨type, after, run_followed_eq_ok_iff.mpr ⟨target, rfl, by simpa using inside, run⟩,
    holds.of_typeAt run⟩

/-- In a well formed table every reference can be followed, as long as no type is under way that
depends on the one it leads to. -/
theorem exists_run_typeAt {free : List Nat} {index : Nat} (wellFormed : IsWellFormed entries)
    (holds : HoldsDefined entries before) (inside : index < entries.length)
    (isFree : ∀ other, Relation.ReflTransGen (DependsOn entries) index other → other ∈ free)
    (accessible : Acc (fun target source => DependsOn entries source target) index) :
    ∃ type after, (typeAt entries.toArray free index).run before = .ok (type, after) := by
  induction accessible generalizing free before with
  | intro index _ ih =>
    by_cases found : IsFound before index
    · obtain ⟨type, found⟩ := found
      exact ⟨type, before, run_typeAt_eq_ok_iff.mpr (.inl ⟨found, rfl⟩)⟩
    · obtain ⟨members, entry_eq, formed, linked⟩ :=
        wellFormed.formed entries[index] (List.getElem_mem inside)
      have lookup_eq : entries[index]? = some (.object members) := by
        rw [List.getElem?_eq_getElem inside, entry_eq]
      have notNamed : value members "kind" ≠ .string "named" := fun kind_eq =>
        found (holds.2 index ⟨members, lookup_eq, kind_eq⟩)
      let part : DumpPart := .entry .types index
      have each (reference : Json) (mem : reference ∈ references members) (earlier : FoundTypes)
          (holds : HoldsDefined entries earlier) :
          ∃ type later, (followed entries.toArray part (free.erase index) reference).run earlier =
            .ok (type, later) ∧ HoldsDefined entries later := by
        refine holds.exists_run_followed linked mem fun target target_mem target_inside => ?_
        by_cases named : HasKind entries target "named"
        · obtain ⟨type, type_eq⟩ := holds.2 target named
          exact ⟨type, earlier, run_typeAt_eq_ok_iff.mpr (.inl ⟨type_eq, rfl⟩)⟩
        · have depends : DependsOn entries index target :=
            ⟨members, lookup_eq, notNamed, target_mem, named⟩
          refine ih target depends holds target_inside fun other reaches => ?_
          have differs : other ≠ index := by
            rintro rfl
            exact wellFormed.acyclic other (.head' depends reaches)
          exact (List.mem_erase_of_ne differs).mpr (isFree other (.head depends reaches))
      obtain ⟨types, between, types_run⟩ := exists_run_mapM each holds
      obtain ⟨-, -, leads⟩ := holds.1.of_references IsResolved.of_typeAt types_run
      obtain ⟨type, built⟩ := exists_typeOf?_eq_some formed notNamed leads.length_eq.symm
        (kindName_of_leads linked leads)
      have unfound : before[index]?.join = none := by
        simpa [IsFound, Option.eq_none_iff_forall_ne_some] using found
      refine ⟨type, _, run_typeAt_eq_ok_iff.mpr (.inr ⟨unfound, isFree index .refl, members,
        between, ?_, run_entryType_eq_ok_iff.mpr ⟨formed, types, types_run, built⟩, rfl⟩)⟩
      rw [List.getElem?_toArray, lookup_eq]

end Follow

end Dump
end ShadowLint
