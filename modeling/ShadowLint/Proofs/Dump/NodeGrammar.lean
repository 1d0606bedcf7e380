import ShadowLint.Proofs.Dump.Building
import ShadowLint.Proofs.Dump.Members
import ShadowLint.Proofs.Dump.Objects

/-!
# Values that stand for trees

A value of a dump is read exactly if each of its objects describes a node: it names a kind, its
other members are fields of the kind with values of their types, no field is missing that has to be
given, and only names are resolved, to symbols.  What is read then, and which names are resolved,
does not depend on the way in which it is read.
-/

namespace ShadowLint

/-- An object of the class may be the value. -/
def NodeClass.Matches (accepted : NodeClass) : Json → Prop
  | .object members =>
      ∃ kind : Kind, members.lookup "node" = some (.string kind.name) ∧ accepted.accepts kind
  | _ => False

/-- A field of the type may be given by the value. -/
def FieldType.Matches : FieldType → Json → Prop
  | .position, .int _ => True
  | .text, .string _ => True
  | .node accepted, found => accepted.Matches found
  | .optional accepted, found => found = .null ∨ accepted.Matches found
  | .nodes accepted, .array items => ∀ item ∈ items, accepted.Matches item
  | _, _ => False

namespace Dump

/-- The value refers to a symbol, in a program with so many declared symbols. -/
def RefersToSymbol (symbolCount : Nat) : Json → Prop
  | .string name => (Universe.symbol? name).isSome
  | .int index => 0 ≤ index ∧ index < symbolCount
  | _ => False

/-- The object with the members describes a node of the kind. -/
structure DescribesNode (symbolCount : Nat) (members : Members) (kind : Kind) : Prop where
  /-- The object names the kind. -/
  named : members.lookup kindKey = some (.string kind.name)
  /-- Members are fields of the kind with values of their types. -/
  typed : ∀ member ∈ members, member.1 ≠ kindKey → isResolution member.1 = false →
    ∃ type, kind.fieldType? member.1 = some type ∧ type.Matches member.2
  /-- All fields are given that have to be. -/
  complete : ∀ field ∈ kind.fields, field.omissible = false →
    field.name ∈ members.map Prod.fst
  /-- Only names are resolved. -/
  resolved : ∀ member ∈ members, isResolution member.1 → kind = .ident
  /-- A name declares a symbol or none. -/
  declares : ∀ found, members.lookup definitionKey = some found →
    found = .null ∨ RefersToSymbol symbolCount found
  /-- A name uses a symbol. -/
  uses : ∀ found, members.lookup useKey = some found → RefersToSymbol symbolCount found

/-- The symbol that a value refers to. -/
def symbolOf? : Json → Option SymbolId
  | .string name => some (.predeclared name)
  | .int index => some (.declared index.toNat)
  | _ => none

/-- The occurrence of a name that an object describes. -/
def identOf (object : Place × Members) : Ident where
  place := object.1
  name := (content? object.2 "name" .string).getD ""
  position := (content? object.2 "name_pos" .int).getD noPosition

/-- What an object tells about the symbol that its name declares. -/
def definitionOf? (object : Place × Members) : Option (Ident × Option SymbolId) :=
  (object.2.lookup definitionKey).map fun found => (identOf object, symbolOf? found)

/-- What an object tells about the symbol that its name uses. -/
def useOf? (object : Place × Members) : Option (Ident × SymbolId) :=
  (object.2.lookup useKey).bind fun found => (symbolOf? found).map (identOf object, ·)

/-- What objects tell about the names among them, behind what is known already. -/
def resolveObjects (before : Resolution) (objects : List (Place × Members)) : Resolution :=
  ⟨before.definitions ++ objects.filterMap definitionOf?, before.uses ++ objects.filterMap useOf?⟩

/-- The kind that an object names. -/
def kindOf? (members : Members) : Option Kind :=
  (content? members kindKey .string).bind Kind.ofName?

mutual

/-- What a value that stands at a place stands for. -/
def contentOf (place : Place) : Json → Value
  | .object members =>
      .node (nodeFrom place ((kindOf? members).getD .ident) (contentsOf place members))
  | .array items => .list (contentsOfItems place 0 items)
  | scalar => .scalar scalar

/-- What the members of an object stand for, without the one that names its kind. -/
def contentsOf (place : Place) : List (String × Json) → List (String × Value)
  | [] => []
  | (name, value) :: rest =>
      if name = kindKey then contentsOf place rest
      else (name, contentOf (.field name :: place) value) :: contentsOf place rest

/-- What the items of a list stand for, from an index on. -/
def contentsOfItems (place : Place) (index : Nat) : List Json → List Value
  | [] => []
  | item :: rest => contentOf (.item index :: place) item :: contentsOfItems place (index + 1) rest

end

section Contents

variable {place : Place} {members : Members} {kind : Kind}

theorem ofName?_eq_some_iff {name : String} : Kind.ofName? name = some kind ↔ kind.name = name := by
  constructor
  · intro found
    simpa using List.find?_some found
  · rintro rfl
    cases kind <;> rfl

theorem kindOf?_eq_some_iff :
    kindOf? members = some kind ↔ members.lookup kindKey = some (.string kind.name) := by
  unfold kindOf? content?
  cases members.lookup kindKey with
  | none => simp
  | some found =>
      cases found with
      | string name => simpa [Shape.string, ofName?_eq_some_iff] using eq_comm
      | _ => simp [Shape.string]

theorem nodeKind_eq_ok_iff :
    nodeKind members = .ok kind ↔ members.lookup kindKey = some (.string kind.name) := by
  have read_eq : (Shape.string.read? (value members kindKey) >>= Kind.ofName?) =
      kindOf? members := by
    unfold value kindOf? content?
    cases members.lookup kindKey <;> rfl
  rw [← kindOf?_eq_some_iff, ← read_eq]
  unfold nodeKind
  dsimp only
  cases Shape.string.read? (value members kindKey) >>= Kind.ofName? <;> simp

theorem contentsOf_eq (place : Place) (members : Members) :
    contentsOf place members = (members.filter (·.1 != kindKey)).map fun member =>
      (member.1, contentOf (.field member.1 :: place) member.2) := by
  induction members with
  | nil => rfl
  | cons member rest ih =>
      rw [contentsOf, ih, List.filter_cons]
      by_cases named : member.1 = kindKey <;> simp [named]

/-- Leaving out entries by their names leaves the others under their names. -/
theorem lookup_filter {Content : Type} (entries : List (String × Content)) (kept : String → Bool)
    {name : String} (name_kept : kept name = true) :
    (entries.filter fun entry => kept entry.1).lookup name = entries.lookup name := by
  induction entries with
  | nil => rfl
  | cons entry rest ih =>
      rw [List.filter_cons]
      by_cases same : name = entry.1
      · subst same
        rw [if_pos name_kept, List.lookup_cons, List.lookup_cons, ih]
      · have differs : (name == entry.1) = false := by simpa using same
        split
        · rw [List.lookup_cons, List.lookup_cons, differs, ih]
        · rw [List.lookup_cons, differs, ih]

theorem lookup_contentsOf {key : String} (notKind : key ≠ kindKey) :
    (contentsOf place members).lookup key =
      (members.lookup key).map (contentOf (.field key :: place)) := by
  rw [contentsOf_eq, lookup_map fun name found => contentOf (.field name :: place) found,
    lookup_filter members (· != kindKey) (by simpa using notKind)]

/-- The names of fields do not tell the kind and do not resolve a name. -/
theorem fieldName_isPlain {field : Field} (mem : field ∈ kind.fields) :
    field.name ≠ kindKey ∧ isResolution field.name = false := by
  have table : ∀ field ∈ kind.fields,
      field.name ≠ kindKey ∧ isResolution field.name = false := by
    cases kind <;> decide
  exact table field mem

theorem nodeFrom_filter (contents : List (String × Value)) :
    nodeFrom place kind (contents.filter fun content => !isResolution content.1) =
      nodeFrom place kind contents := by
  unfold nodeFrom slotFrom
  congr 1
  refine List.map_congr_left fun field mem => ?_
  rw [lookup_filter contents (fun name => !isResolution name)
    (by simp [(fieldName_isPlain mem).2])]

/-- The occurrence of a name that the object of a name describes. -/
theorem ident?_nodeFrom :
    (nodeFrom place .ident (contentsOf place members)).ident? =
      some (identOf (place, members)) := by
  have name_type : Kind.ident.fieldType? "name" = some .text := rfl
  have position_type : Kind.ident.fieldType? "name_pos" = some .position := rfl
  have name_eq : (nodeFrom place .ident (contentsOf place members)).text "name" =
      (content? members "name" .string).getD "" := by
    rw [Node.text, slot?_nodeFrom, name_type, Option.map_some, lookup_contentsOf (by decide),
      content?]
    cases members.lookup "name" with
    | none => rfl
    | some found => cases found <;> rfl
  have position_eq : (nodeFrom place .ident (contentsOf place members)).position "name_pos" =
      (content? members "name_pos" .int).getD noPosition := by
    rw [Node.position, slot?_nodeFrom, position_type, Option.map_some,
      lookup_contentsOf (by decide), content?]
    cases members.lookup "name_pos" with
    | none => rfl
    | some found => cases found <;> rfl
  rw [Node.ident?, name_eq, position_eq]
  rfl

end Contents

section Matching

variable {symbolCount : Nat} {place : Place} {json : Json}

/-- Every object describes a node. -/
def AllDescribe (symbolCount : Nat) (objects : List (Place × Members)) : Prop :=
  ∀ object ∈ objects, ∃ kind, DescribesNode symbolCount object.2 kind

theorem matches_iff_node? (described : AllDescribe symbolCount (json.objectsAt place))
    {accepted : NodeClass} :
    accepted.Matches json ↔ ((contentOf place json).node? accepted).isSome := by
  cases json with
  | object members =>
      obtain ⟨kind, describes⟩ := described (place, members) (by simp [Json.objectsAt])
      have kind_eq := kindOf?_eq_some_iff.mpr describes.named
      have kind_iff (other : Kind) :
          members.lookup "node" = some (.string other.name) ↔ kind = other := by
        rw [← kindKey, ← kindOf?_eq_some_iff, kind_eq, Option.some.injEq]
      simp [NodeClass.Matches, contentOf, Value.node?, nodeFrom, kind_eq, kind_iff]
  | _ => simp [NodeClass.Matches, contentOf, Value.node?]

theorem forall_matches_iff_mapM_node? {items : List Json} {index : Nat}
    (described : AllDescribe symbolCount (Json.objectsOfItems place index items))
    {accepted : NodeClass} :
    (∀ item ∈ items, accepted.Matches item) ↔
      ((contentsOfItems place index items).mapM (Value.node? accepted)).isSome := by
  induction items generalizing index with
  | nil => simp [contentsOfItems]
  | cons item rest ih =>
      rw [Json.objectsOfItems, AllDescribe, List.forall_mem_append] at described
      rw [contentsOfItems, List.mapM_cons, List.forall_mem_cons,
        matches_iff_node? described.1, ih described.2]
      cases (contentOf (.item index :: place) item).node? accepted with
      | none => simp
      | some node =>
          cases (contentsOfItems place (index + 1) rest).mapM (Value.node? accepted) <;> simp

/-- A value matches the type of a field if what it stands for makes a slot. -/
theorem matches_iff_slot? (described : AllDescribe symbolCount (json.objectsAt place))
    {type : FieldType} : type.Matches json ↔ (type.slot? (contentOf place json)).isSome := by
  cases type with
  | position => cases json <;> simp [FieldType.Matches, contentOf, FieldType.slot?]
  | text => cases json <;> simp [FieldType.Matches, contentOf, FieldType.slot?]
  | node accepted =>
      simp only [FieldType.Matches, FieldType.slot?, Option.isSome_map,
        matches_iff_node? described]
  | optional accepted =>
      rw [FieldType.Matches, matches_iff_node? described]
      cases json <;> simp [contentOf, FieldType.slot?, Value.node?]
  | nodes accepted =>
      cases json with
      | array items =>
          simp only [FieldType.Matches, contentOf, FieldType.slot?, Option.isSome_map]
          exact forall_matches_iff_mapM_node? described
      | _ => simp [FieldType.Matches, contentOf, FieldType.slot?]

/-- A reference is that to a symbol. -/
theorem symbolReference_eq_ok_iff {ident : Ident} {symbol : SymbolId} :
    symbolReference symbolCount ident (contentOf place json) = .ok symbol ↔
      RefersToSymbol symbolCount json ∧ symbolOf? json = some symbol := by
  cases json with
  | string name =>
      by_cases known : (Universe.symbol? name).isSome <;>
        simp [symbolReference, contentOf, RefersToSymbol, symbolOf?, known]
  | int index =>
      by_cases known : 0 ≤ index ∧ index < symbolCount
      · simp [symbolReference, contentOf, RefersToSymbol, symbolOf?, known]
      · simp [symbolReference, contentOf, RefersToSymbol, symbolOf?, known]
  | _ => simp [symbolReference, contentOf, RefersToSymbol]

theorem definitionReference_eq_ok_iff {ident : Ident} {symbol? : Option SymbolId} :
    definitionReference symbolCount ident (contentOf place json) = .ok symbol? ↔
      (json = .null ∨ RefersToSymbol symbolCount json) ∧ symbolOf? json = symbol? := by
  by_cases null : json = .null
  · subst null
    simp [definitionReference, contentOf, symbolOf?]
  · have definition_eq : definitionReference symbolCount ident (contentOf place json) =
        (symbolReference symbolCount ident (contentOf place json)).map some := by
      cases json <;> first | rfl | exact absurd rfl null
    rw [definition_eq]
    refine map_eq_ok_iff.trans ?_
    simp only [symbolReference_eq_ok_iff, null, false_or]
    constructor
    · rintro ⟨symbol, ⟨refers, same⟩, rfl⟩
      exact ⟨refers, same⟩
    · rintro ⟨refers, rfl⟩
      cases json with
      | string name => exact ⟨_, ⟨refers, rfl⟩, rfl⟩
      | int index => exact ⟨_, ⟨refers, rfl⟩, rfl⟩
      | _ => exact refers.elim

end Matching

section Reading

variable {symbolCount : Nat} {place : Place} {members : Members} {kind : Kind} {node : Node}
  {before after : Resolution}

theorem optional_definitionReference_eq_ok_iff {ident : Ident} {found? : Option Json}
    {declared : Option (Option SymbolId)} :
    (found?.map (contentOf place)).mapM (definitionReference symbolCount ident) = .ok declared ↔
      (∀ found, found? = some found → found = .null ∨ RefersToSymbol symbolCount found) ∧
        found?.map symbolOf? = declared := by
  cases found? with
  | none => simp [pure, Except.pure]
  | some found =>
      refine map_eq_ok_iff.trans ?_
      simp only [definitionReference_eq_ok_iff, Option.some.injEq, forall_eq', Option.map_some]
      constructor
      · rintro ⟨symbol?, ⟨refers, rfl⟩, rfl⟩
        exact ⟨refers, rfl⟩
      · rintro ⟨refers, rfl⟩
        exact ⟨_, ⟨refers, rfl⟩, rfl⟩

theorem optional_symbolReference_eq_ok_iff {ident : Ident} {found? : Option Json}
    {used : Option SymbolId} :
    (found?.map (contentOf place)).mapM (symbolReference symbolCount ident) = .ok used ↔
      (∀ found, found? = some found → RefersToSymbol symbolCount found) ∧
        found?.bind symbolOf? = used := by
  cases found? with
  | none => simp [pure, Except.pure]
  | some found =>
      refine map_eq_ok_iff.trans ?_
      simp only [symbolReference_eq_ok_iff, Option.some.injEq, forall_eq', Option.bind_some]
      constructor
      · rintro ⟨symbol, ⟨refers, symbol_eq⟩, rfl⟩
        exact ⟨refers, symbol_eq⟩
      · rintro ⟨refers, rfl⟩
        cases found with
        | string name => exact ⟨_, ⟨refers, rfl⟩, rfl⟩
        | int index => exact ⟨_, ⟨refers, rfl⟩, rfl⟩
        | _ => exact refers.elim

/-- A name is resolved if its members refer to symbols. -/
theorem run_resolve_eq_ok_iff :
    (resolve symbolCount (identOf (place, members))
      ((contentsOf place members).lookup definitionKey)
      ((contentsOf place members).lookup useKey)).run before = .ok ((), after) ↔
      (∀ found, members.lookup definitionKey = some found →
        found = .null ∨ RefersToSymbol symbolCount found) ∧
      (∀ found, members.lookup useKey = some found → RefersToSymbol symbolCount found) ∧
      resolveObjects before [(place, members)] = after := by
  have definitions_eq : [(place, members)].filterMap definitionOf? =
      ((members.lookup definitionKey).map symbolOf?).toList.map (identOf (place, members), ·) := by
    cases found : members.lookup definitionKey <;> simp [definitionOf?, found]
  have uses_eq : [(place, members)].filterMap useOf? =
      ((members.lookup useKey).bind symbolOf?).toList.map (identOf (place, members), ·) := by
    cases found : members.lookup useKey with
    | none => simp [useOf?, found]
    | some json => cases symbol_eq : symbolOf? json <;> simp [useOf?, found, symbol_eq]
  rw [run_resolve, lookup_contentsOf (by decide), lookup_contentsOf (by decide), resolveObjects,
    definitions_eq, uses_eq]
  simp only [bind_eq_ok_iff, optional_definitionReference_eq_ok_iff,
    optional_symbolReference_eq_ok_iff]
  constructor
  · rintro ⟨_, ⟨declares, rfl⟩, _, ⟨uses, rfl⟩, same⟩
    exact ⟨declares, uses, (Prod.mk.inj (Except.ok.inj same)).2⟩
  · rintro ⟨declares, uses, rfl⟩
    exact ⟨_, ⟨declares, rfl⟩, _, ⟨uses, rfl⟩, rfl⟩

theorem resolveObjects_append (left right : List (Place × Members)) :
    resolveObjects before (left ++ right) = resolveObjects (resolveObjects before left) right := by
  simp [resolveObjects, List.append_assoc]

/-- What an object without references tells is nothing. -/
theorem resolveObjects_of_isResolution_eq_false
    (plain : ∀ member ∈ members, isResolution member.1 = false) :
    resolveObjects before [(place, members)] = before := by
  have no_definition : members.lookup definitionKey = none := by
    rw [List.lookup_eq_none_iff]
    intro member mem
    have := plain member mem
    simp [isResolution] at this
    simpa using Ne.symm this.1
  have no_use : members.lookup useKey = none := by
    rw [List.lookup_eq_none_iff]
    intro member mem
    have := plain member mem
    simp [isResolution] at this
    simpa using Ne.symm this.2
  simp [resolveObjects, definitionOf?, useOf?, no_definition, no_use]

theorem mem_contentsOf_filter_iff {entry : String × Value} :
    entry ∈ (contentsOf place members).filter (fun content => !isResolution content.1) ↔
      ∃ member ∈ members, member.1 ≠ kindKey ∧ isResolution member.1 = false ∧
        (member.1, contentOf (.field member.1 :: place) member.2) = entry := by
  rw [contentsOf_eq, List.mem_filter, List.mem_map]
  constructor
  · rintro ⟨⟨member, mem, rfl⟩, plain⟩
    obtain ⟨mem, notKind⟩ := List.mem_filter.mp mem
    exact ⟨member, mem, by simpa using notKind, by simpa using plain, rfl⟩
  · rintro ⟨member, mem, notKind, plain, rfl⟩
    exact ⟨⟨member, List.mem_filter.mpr ⟨mem, by simpa using notKind⟩, rfl⟩, by simp [plain]⟩

/-- The contents are those of fields if the values match the types of fields. -/
theorem isFieldContent_iff
    (described : AllDescribe symbolCount (Json.objectsOfMembers place members)) :
    (∀ entry ∈ (contentsOf place members).filter (fun content => !isResolution content.1),
        IsFieldContent kind entry) ↔
      ∀ member ∈ members, member.1 ≠ kindKey → isResolution member.1 = false →
        ∃ type, kind.fieldType? member.1 = some type ∧ type.Matches member.2 := by
  have matches_iff (member : String × Json) (mem : member ∈ members) (type : FieldType) :
      type.Matches member.2 ↔
        (type.slot? (contentOf (.field member.1 :: place) member.2)).isSome := by
    have member_described : AllDescribe symbolCount
        (member.2.objectsAt (.field member.1 :: place)) := by
      intro object object_mem
      rw [Json.objectsOfMembers_eq] at described
      exact described object (List.mem_flatMap.mpr ⟨member, mem, object_mem⟩)
    exact matches_iff_slot? member_described
  constructor
  · intro typed member mem notKind plain
    obtain ⟨type, type_eq, slotted⟩ :=
      typed _ (mem_contentsOf_filter_iff.mpr ⟨member, mem, notKind, plain, rfl⟩)
    exact ⟨type, type_eq, (matches_iff member mem type).mpr slotted⟩
  · intro typed entry entry_mem
    obtain ⟨member, mem, notKind, plain, rfl⟩ := mem_contentsOf_filter_iff.mp entry_mem
    obtain ⟨type, type_eq, matched⟩ := typed member mem notKind plain
    exact ⟨type, type_eq, (matches_iff member mem type).mp matched⟩

theorem fieldName_mem_iff {field : Field} (mem : field ∈ kind.fields) :
    field.name ∈ ((contentsOf place members).filter
        fun content => !isResolution content.1).map Prod.fst ↔
      field.name ∈ members.map Prod.fst := by
  obtain ⟨notKind, plain⟩ := fieldName_isPlain mem
  constructor
  · intro given
    obtain ⟨entry, entry_mem, same⟩ := List.mem_map.mp given
    obtain ⟨member, member_mem, -, -, rfl⟩ := mem_contentsOf_filter_iff.mp entry_mem
    exact List.mem_map.mpr ⟨member, member_mem, same⟩
  · intro given
    obtain ⟨member, member_mem, same⟩ := List.mem_map.mp given
    refine List.mem_map.mpr ⟨_, mem_contentsOf_filter_iff.mpr ⟨member, member_mem, ?_, ?_, rfl⟩,
      same⟩
    · rwa [same]
    · rwa [same]

theorem any_isResolution_contentsOf :
    (contentsOf place members).any (isResolution ·.1) = members.any (isResolution ·.1) := by
  induction members with
  | nil => rfl
  | cons member rest ih =>
      obtain ⟨name, found⟩ := member
      rw [contentsOf, List.any_cons]
      split
      · rename_i isKind
        subst isKind
        exact ih
      · rw [List.any_cons, ih]

/-- A node is finished if its object describes one. -/
theorem run_finishNode_contentsOf_eq_ok_iff
    (named : members.lookup kindKey = some (.string kind.name))
    (described : AllDescribe symbolCount (Json.objectsOfMembers place members)) :
    (finishNode symbolCount place kind (contentsOf place members)).run before = .ok (node, after) ↔
      DescribesNode symbolCount members kind ∧
        nodeFrom place kind (contentsOf place members) = node ∧
        resolveObjects before [(place, members)] = after := by
  rw [run_finishNode_eq_ok_iff, buildNode_eq_ok_iff, nodeFrom_filter,
    isFieldContent_iff described, any_isResolution_contentsOf]
  constructor
  · rintro ⟨⟨typed, complete, rfl⟩, rest⟩
    replace complete (field : Field) (mem : field ∈ kind.fields)
        (required : field.omissible = false) : field.name ∈ members.map Prod.fst :=
      (fieldName_mem_iff mem).mp (complete field mem required)
    split at rest
    · obtain ⟨ident, ident_eq, run⟩ := rest
      obtain rfl : kind = .ident := (Option.ite_none_right_eq_some.mp ident_eq).1
      obtain rfl : identOf (place, members) = ident :=
        Option.some.inj (ident?_nodeFrom.symm.trans ident_eq)
      obtain ⟨declares, uses, after_eq⟩ := run_resolve_eq_ok_iff.mp run
      exact ⟨⟨named, typed, complete, fun _ _ _ => rfl, declares, uses⟩, rfl, after_eq⟩
    · rename_i silent
      have plain : ∀ member ∈ members, isResolution member.1 = false := by
        simpa using silent
      refine ⟨⟨named, typed, complete, ?_, ?_, ?_⟩, rfl,
        (resolveObjects_of_isResolution_eq_false plain).trans rest⟩
      · intro member mem resolves
        exact absurd (plain member mem) (by simp [resolves])
      · intro found found_eq
        exact absurd (plain _ (mem_of_lookup_eq_some found_eq)) (by simp [isResolution])
      · intro found found_eq
        exact absurd (plain _ (mem_of_lookup_eq_some found_eq)) (by simp [isResolution])
  · rintro ⟨describes, rfl, after_eq⟩
    refine ⟨⟨describes.typed, fun field mem required =>
      (fieldName_mem_iff mem).mpr (describes.complete field mem required), rfl⟩, ?_⟩
    split
    · rename_i resolves
      obtain ⟨member, mem, member_resolves⟩ := List.any_eq_true.mp resolves
      obtain rfl := describes.resolved member mem member_resolves
      exact ⟨_, ident?_nodeFrom,
        run_resolve_eq_ok_iff.mpr ⟨describes.declares, describes.uses, after_eq⟩⟩
    · rename_i silent
      have plain : ∀ member ∈ members, isResolution member.1 = false := by
        simpa using silent
      exact (resolveObjects_of_isResolution_eq_false plain).symm.trans after_eq

theorem resolveObjects_nil : resolveObjects before [] = before := by
  simp [resolveObjects]

/-- The member that names the kind holds no object. -/
theorem isString_of_named (distinct : (members.map Prod.fst).Nodup)
    (named : members.lookup kindKey = some (.string kind.name)) :
    ∀ member ∈ members, member.1 = kindKey → member.2 = .string kind.name := by
  rintro ⟨name, found⟩ mem rfl
  have found_eq := lookup_eq_some_of_mem distinct mem
  exact Option.some.inj (found_eq.symm.trans named)

mutual

/-- A value is read exactly if all of its objects describe nodes, and then everything is resolved
that they tell. -/
theorem run_readValue_eq_ok_iff : (json : Json) → json.hasDistinctNames → {place : Place} →
    {value : Value} → {before after : Resolution} →
    ((readValue symbolCount place json).run before = .ok (value, after) ↔
      AllDescribe symbolCount (json.objectsAt place) ∧ contentOf place json = value ∧
        resolveObjects before (json.objectsAt place) = after)
  | .object members, distinct, place, value, before, after => by
      obtain ⟨names, all_distinct⟩ := Json.hasDistinctNames_object_iff.mp distinct
      rw [readValue, run_map_eq_ok_iff, Json.objectsAt, AllDescribe, List.forall_mem_append,
        List.forall_mem_singleton, resolveObjects_append]
      constructor
      · rintro ⟨node, read, rfl⟩
        obtain ⟨kind, _, read_kind, read⟩ := run_bind_eq_ok_iff.mp read
        obtain ⟨kind_eq, rfl⟩ := run_lift_eq_ok_iff.mp read_kind
        have named := nodeKind_eq_ok_iff.mp kind_eq
        obtain ⟨contents, between, contents_eq, finished⟩ := run_bind_eq_ok_iff.mp read
        obtain ⟨described, rfl, rfl⟩ := (run_readMembers_eq_ok_iff members all_distinct
          (isString_of_named names named)).mp contents_eq
        obtain ⟨describes, rfl, after_eq⟩ :=
          (run_finishNode_contentsOf_eq_ok_iff named described).mp finished
        refine ⟨⟨described, kind, describes⟩, ?_, after_eq⟩
        rw [contentOf, kindOf?_eq_some_iff.mpr named, Option.getD_some]
      · rintro ⟨⟨described, kind, describes⟩, rfl, after_eq⟩
        have plain := isString_of_named names describes.named
        refine ⟨nodeFrom place kind (contentsOf place members), ?_, ?_⟩
        · refine run_bind_eq_ok_iff.mpr ⟨kind, before,
            run_lift_eq_ok_iff.mpr ⟨nodeKind_eq_ok_iff.mpr describes.named, rfl⟩, ?_⟩
          exact run_bind_eq_ok_iff.mpr ⟨contentsOf place members, _,
            (run_readMembers_eq_ok_iff members all_distinct plain).mpr ⟨described, rfl, rfl⟩,
            (run_finishNode_contentsOf_eq_ok_iff describes.named described).mpr
              ⟨describes, rfl, after_eq⟩⟩
        · rw [contentOf, kindOf?_eq_some_iff.mpr describes.named, Option.getD_some]
  | .array items, distinct, place, value, before, after => by
      have all_distinct := Json.hasDistinctNames_array_iff.mp distinct
      rw [readValue, run_map_eq_ok_iff, Json.objectsAt, contentOf]
      constructor
      · rintro ⟨values, read, rfl⟩
        obtain ⟨described, rfl, after_eq⟩ := (run_readItems_eq_ok_iff items all_distinct).mp read
        exact ⟨described, rfl, after_eq⟩
      · rintro ⟨described, rfl, after_eq⟩
        exact ⟨_, (run_readItems_eq_ok_iff items all_distinct).mpr ⟨described, rfl, after_eq⟩, rfl⟩
  | .null, _, place, value, before, after | .bool _, _, place, value, before, after
  | .int _, _, place, value, before, after | .float _, _, place, value, before, after
  | .string _, _, place, value, before, after => by
      rw [Json.objectsAt, resolveObjects_nil, readValue, run_pure_eq_ok_iff, contentOf]
      · simp [AllDescribe]
      all_goals nofun

/-- Members are read exactly if all of their objects describe nodes. -/
theorem run_readMembers_eq_ok_iff : (members : List (String × Json)) →
    (∀ member ∈ members, member.2.hasDistinctNames) → {word : String} →
    (∀ member ∈ members, member.1 = kindKey → member.2 = .string word) → {place : Place} →
    {contents : List (String × Value)} → {before after : Resolution} →
    ((readMembers symbolCount place members).run before = .ok (contents, after) ↔
      AllDescribe symbolCount (Json.objectsOfMembers place members) ∧
        contentsOf place members = contents ∧
        resolveObjects before (Json.objectsOfMembers place members) = after)
  | [], _, _, _, place, contents, before, after => by
      rw [readMembers, run_pure_eq_ok_iff, Json.objectsOfMembers, resolveObjects_nil, contentsOf]
      simp [AllDescribe]
  | (name, json) :: rest, distinct, word, plain, place, contents, before, after => by
      obtain ⟨json_distinct, rest_distinct⟩ := List.forall_mem_cons.mp distinct
      obtain ⟨json_plain, rest_plain⟩ := List.forall_mem_cons.mp plain
      rw [readMembers, Json.objectsOfMembers, contentsOf]
      split
      · rename_i isKind
        obtain rfl : json = .string word := json_plain isKind
        exact run_readMembers_eq_ok_iff rest rest_distinct rest_plain
      · rw [AllDescribe, List.forall_mem_append, resolveObjects_append, run_bind_eq_ok_iff]
        constructor
        · rintro ⟨first, _, first_eq, read⟩
          obtain ⟨others, _, others_eq, read⟩ := run_bind_eq_ok_iff.mp read
          obtain ⟨rfl, rfl⟩ := run_pure_eq_ok_iff.mp read
          obtain ⟨described, rfl, rfl⟩ := (run_readValue_eq_ok_iff json json_distinct).mp first_eq
          obtain ⟨rest_described, rfl, rfl⟩ :=
            (run_readMembers_eq_ok_iff rest rest_distinct rest_plain).mp others_eq
          exact ⟨⟨described, rest_described⟩, rfl, rfl⟩
        · rintro ⟨⟨described, rest_described⟩, rfl, rfl⟩
          exact ⟨_, _, (run_readValue_eq_ok_iff json json_distinct).mpr ⟨described, rfl, rfl⟩,
            run_bind_eq_ok_iff.mpr ⟨_, _,
              (run_readMembers_eq_ok_iff rest rest_distinct rest_plain).mpr
                ⟨rest_described, rfl, rfl⟩,
              run_pure_eq_ok_iff.mpr ⟨rfl, rfl⟩⟩⟩

/-- Items are read exactly if all of their objects describe nodes. -/
theorem run_readItems_eq_ok_iff : (items : List Json) →
    (∀ item ∈ items, item.hasDistinctNames) → {place : Place} → {index : Nat} →
    {values : List Value} → {before after : Resolution} →
    ((readItems symbolCount place index items).run before = .ok (values, after) ↔
      AllDescribe symbolCount (Json.objectsOfItems place index items) ∧
        contentsOfItems place index items = values ∧
        resolveObjects before (Json.objectsOfItems place index items) = after)
  | [], _, place, index, values, before, after => by
      rw [readItems, run_pure_eq_ok_iff, Json.objectsOfItems, resolveObjects_nil, contentsOfItems]
      simp [AllDescribe]
  | item :: rest, distinct, place, index, values, before, after => by
      obtain ⟨item_distinct, rest_distinct⟩ := List.forall_mem_cons.mp distinct
      rw [readItems, Json.objectsOfItems, AllDescribe, List.forall_mem_append,
        resolveObjects_append, contentsOfItems, run_bind_eq_ok_iff]
      constructor
      · rintro ⟨first, _, first_eq, read⟩
        obtain ⟨others, _, others_eq, read⟩ := run_bind_eq_ok_iff.mp read
        obtain ⟨rfl, rfl⟩ := run_pure_eq_ok_iff.mp read
        obtain ⟨described, rfl, rfl⟩ := (run_readValue_eq_ok_iff item item_distinct).mp first_eq
        obtain ⟨rest_described, rfl, rfl⟩ :=
          (run_readItems_eq_ok_iff rest rest_distinct).mp others_eq
        exact ⟨⟨described, rest_described⟩, rfl, rfl⟩
      · rintro ⟨⟨described, rest_described⟩, rfl, rfl⟩
        exact ⟨_, _, (run_readValue_eq_ok_iff item item_distinct).mpr ⟨described, rfl, rfl⟩,
          run_bind_eq_ok_iff.mpr ⟨_, _,
            (run_readItems_eq_ok_iff rest rest_distinct).mpr ⟨rest_described, rfl, rfl⟩,
            run_pure_eq_ok_iff.mpr ⟨rfl, rfl⟩⟩⟩

end

/-- A node is read as the value that its object is. -/
theorem run_readNode_eq_ok_iff (distinct : (Json.object members).hasDistinctNames) :
    (readNode symbolCount place members).run before = .ok (node, after) ↔
      AllDescribe symbolCount ((Json.object members).objectsAt place) ∧
        contentOf place (.object members) = .node node ∧
        resolveObjects before ((Json.object members).objectsAt place) = after := by
  rw [← run_readValue_eq_ok_iff (.object members) distinct, readValue, run_map_eq_ok_iff]
  constructor
  · intro read
    exact ⟨node, read, rfl⟩
  · rintro ⟨_, read, ⟨⟩⟩
    exact read

/-- A value is read exactly if each of its objects describes a node, whatever was read before; if
one does not, there is a fault. -/
theorem exists_run_readValue_iff_describes (json : Json) (distinct : json.hasDistinctNames)
    (symbolCount : Nat) (place : Place) (before : Resolution) :
    ((∃ value after, (readValue symbolCount place json).run before = .ok (value, after)) ↔
        ∀ object ∈ json.objectsAt place, ∃ kind, DescribesNode symbolCount object.2 kind) ∧
      ((∃ fault, (readValue symbolCount place json).run before = .error fault) ↔
        ¬∀ object ∈ json.objectsAt place, ∃ kind, DescribesNode symbolCount object.2 kind) := by
  have read_iff : (∃ value after, (readValue symbolCount place json).run before =
      .ok (value, after)) ↔ AllDescribe symbolCount (json.objectsAt place) := by
    simp only [run_readValue_eq_ok_iff json distinct]
    constructor
    · rintro ⟨_, _, described, -⟩
      exact described
    · intro described
      exact ⟨_, _, described, rfl, rfl⟩
  refine ⟨read_iff, ?_⟩
  rw [← AllDescribe, ← read_iff]
  cases (readValue symbolCount place json).run before with
  | error fault => simp
  | ok result => simp [Prod.exists.symm]

end Reading

/-- The call of a function that is declared, with a predeclared name in parentheses. -/
def callWithArgument (argument : List (String × Json)) : Json :=
  .object [("args", .array [.object ([("node", .string "ParenExpr"), ("lparen", .int 3),
      ("x", .object [("node", .string "Ident"), ("name", .string "nil"), ("name_pos", .int 4),
        ("use", .string "nil")]), ("rparen", .int 7)] ++ argument)]),
    ("rparen", .int 8), ("node", .string "CallExpr"),
    ("fun", .object [("use", .int 0), ("name_pos", .int 1), ("name", .string "f"),
      ("node", .string "Ident")])]

/-- Parentheses do not declare anything. -/
theorem describes_callWithArgument :
    (∀ object ∈ (callWithArgument []).objectsAt [],
        ∃ kind, DescribesNode 1 object.2 kind) ∧
      ¬∀ object ∈ (callWithArgument [("def", .null)]).objectsAt [],
        ∃ kind, DescribesNode 1 object.2 kind :=
  ⟨(exists_run_readValue_iff_describes (callWithArgument []) (by decide +kernel) 1 [] .empty).1.mp
      ⟨_, _, rfl⟩,
    (exists_run_readValue_iff_describes (callWithArgument [("def", .null)]) (by decide +kernel)
      1 [] .empty).2.mp ⟨_, rfl⟩⟩

end Dump
end ShadowLint
