import ShadowLint.Proofs.Dump.Members

/-!
# Entries of the type table

What an entry has to hold itself, which entries it refers to, and which type it is once the types
that it refers to are known.  An entry is read if it is formed well and its references are followed
one after the other, in whatever way they are followed.
-/

namespace ShadowLint

/-- The word that the type table has for the kind of a type. -/
def Ty.kindName : Ty → String
  | .basic _ => "basic"
  | .named .. => "named"
  | .pointer _ => "pointer"
  | .slice _ => "slice"
  | .array .. => "array"
  | .map .. => "map"
  | .channel .. => "chan"
  | .tuple _ => "tuple"
  | .function _ => "signature"
  | .struct _ => "struct"
  | .interface _ => "interface"

namespace Dump

/-- The direction of a channel type: both ends, unless the entry tells. -/
def channelDirection? (members : Members) : Option ChannelDirection :=
  match presentContent? members "direction" .string with
  | none => some .both
  | some name => ChannelDirection.ofName? name

/-- What an entry has to hold itself: a known kind, and the members of its kind. -/
def IsFormed (members : Members) : Prop :=
  match value members "kind" with
  | .string "basic" =>
      ((content? members "name" .string).bind BasicType.ofName?).isSome
  | .string "named" => (content? members "name" .string).isSome ∧ MayHold members "pkg" .string
  | .string "pointer" => True
  | .string "slice" => True
  | .string "array" => (content? members "length" .int).isSome
  | .string "map" => True
  | .string "chan" => MayHold members "direction" .string ∧ (channelDirection? members).isSome
  | .string "tuple" => MayHold members "types" .list
  | .string "signature" => MayHold members "params" .list ∧ MayHold members "results" .list
  | .string "struct" =>
      MayHoldObjects members "fields" ∧ ∀ field ∈ objectsUnder members "fields",
        (content? field "name" .string).isSome ∧ MayHold field "tag" .string
  | .string "interface" =>
      MayHoldObjects members "methods" ∧ ∀ method ∈ objectsUnder members "methods",
        (content? method "name" .string).isSome
  | _ => False

/-- The values in an entry that refer to other entries, null where one is missing. -/
def references (members : Members) : List Json :=
  match value members "kind" with
  | .string "basic" => []
  | .string "named" => (Json.present? members "underlying").toList
  | .string "pointer" => [value members "elem"]
  | .string "slice" => [value members "elem"]
  | .string "array" => [value members "elem"]
  | .string "map" => [value members "key", value members "elem"]
  | .string "chan" => [value members "elem"]
  | .string "tuple" => itemsUnder members "types"
  | .string "signature" => itemsUnder members "params" ++ itemsUnder members "results"
  | .string "struct" => (objectsUnder members "fields").map (value · "type")
  | .string "interface" => (objectsUnder members "methods").map (value · "type")
  | _ => []

/-- The field of a structure type that an object describes. -/
def structField (field : Members) (type : Ty) : StructField where
  name := (content? field "name" .string).getD ""
  type := type
  tag := (presentContent? field "tag" .string).getD ""
  embedded := Json.flag field "embedded"

/-- The method of an interface type that an object describes, if its type is a function type. -/
def method? (method : Members) : Ty → Option Method
  | .function signature => some ⟨(content? method "name" .string).getD "", signature⟩
  | _ => none

/-- The type of an entry that is no defined type, from the types that it refers to. -/
def typeOf? (members : Members) (types : List Ty) : Option Ty :=
  match value members "kind" with
  | .string "basic" => ((content? members "name" .string).bind BasicType.ofName?).map .basic
  | .string "pointer" => types.head?.map .pointer
  | .string "slice" => types.head?.map .slice
  | .string "array" => types.head?.map (.array ((content? members "length" .int).getD 0))
  | .string "map" => types.head?.bind fun key => types[1]?.map (.map key)
  | .string "chan" => types.head?.map (.channel ((channelDirection? members).getD .both))
  | .string "tuple" => some (.tuple types)
  | .string "signature" =>
      let (params, results) := types.splitAt (itemsUnder members "params").length
      some (.function ⟨params, results, Json.flag members "variadic"⟩)
  | .string "struct" =>
      some (.struct (((objectsUnder members "fields").zip types).map fun (field, type) =>
        structField field type))
  | .string "interface" =>
      (((objectsUnder members "methods").zip types).mapM fun (method, type) =>
        method? method type).map .interface
  | _ => none

section TypeOf

variable {members : Members} {types : List Ty}

/-- A type is of the kind of its entry. -/
theorem kind_eq_of_typeOf?_eq_some {type : Ty} (built : typeOf? members types = some type) :
    value members "kind" = .string type.kindName := by
  unfold typeOf? at built
  split at built
  case h_11 => cases built
  all_goals
    simp only [Option.map_eq_some_iff, Option.bind_eq_some_iff, Option.some.injEq] at built
    grind [Ty.kindName]

theorem kindName_of_method?_eq_some {method : Members} {type : Ty} {result : Method}
    (built : method? method type = some result) : type.kindName = "signature" := by
  cases type with
  | function signature => rfl
  | _ => cases built

theorem exists_method?_eq_some {method : Members} {type : Ty}
    (function : type.kindName = "signature") : ∃ result, method? method type = some result := by
  cases type with
  | function signature => exact ⟨_, rfl⟩
  | _ => simp [Ty.kindName] at function

/-- The methods of an interface type can be put together exactly from function types. -/
theorem exists_mapM_method?_iff {listed : List Members} (length_eq : types.length = listed.length) :
    (∃ methods, ((listed.zip types).mapM fun (method, type) => method? method type) =
        some methods) ↔ ∀ type ∈ types, type.kindName = "signature" := by
  induction listed generalizing types with
  | nil =>
      obtain rfl := List.eq_nil_of_length_eq_zero length_eq
      simp
  | cons method rest ih =>
      obtain ⟨type, others, rfl⟩ := List.exists_cons_of_length_eq_add_one length_eq
      have rest_iff := ih (Nat.succ.inj length_eq)
      simp only [List.zip_cons_cons, List.mapM_cons, Option.bind_eq_bind, Option.bind_eq_some_iff,
        Option.pure_def, Option.some.injEq, List.forall_mem_cons, ← rest_iff]
      constructor
      · rintro ⟨_, first, first_eq, others, others_eq, -⟩
        exact ⟨kindName_of_method?_eq_some first_eq, others, others_eq⟩
      · rintro ⟨function, others, others_eq⟩
        obtain ⟨first, first_eq⟩ := exists_method?_eq_some function
        exact ⟨_, first, first_eq, others, others_eq, rfl⟩

/-- The methods of an interface have function types. -/
theorem kindName_of_typeOf?_eq_some {type : Ty}
    (kind_eq : value members "kind" = .string "interface")
    (length_eq : types.length = (references members).length)
    (built : typeOf? members types = some type) : ∀ type ∈ types, type.kindName = "signature" := by
  simp only [references, kind_eq, List.length_map] at length_eq
  simp only [typeOf?, kind_eq, Option.map_eq_some_iff] at built
  obtain ⟨methods, methods_eq, -⟩ := built
  exact (exists_mapM_method?_iff length_eq).mp ⟨methods, methods_eq⟩

/-- From as many types as there are references the type of a well formed entry is put together. -/
theorem exists_typeOf?_eq_some (formed : IsFormed members)
    (other : value members "kind" ≠ .string "named")
    (length_eq : types.length = (references members).length)
    (functions : value members "kind" = .string "interface" →
      ∀ type ∈ types, type.kindName = "signature") :
    ∃ type, typeOf? members types = some type := by
  unfold IsFormed at formed
  unfold references at length_eq
  unfold typeOf?
  split at formed
  all_goals rename_i kind_eq
  all_goals simp only [kind_eq] at length_eq ⊢
  case h_1 =>
    obtain ⟨basic, basic_eq⟩ := Option.isSome_iff_exists.mp formed
    exact ⟨.basic basic, by rw [basic_eq, Option.map_some]⟩
  case h_2 => exact absurd kind_eq other
  case h_3 | h_4 | h_5 | h_7 =>
    obtain ⟨element, rfl⟩ := List.length_eq_one_iff.mp length_eq
    exact ⟨_, rfl⟩
  case h_6 =>
    obtain ⟨key, element, rfl⟩ := List.length_eq_two.mp length_eq
    exact ⟨.map key element, rfl⟩
  case h_8 | h_9 | h_10 => exact ⟨_, rfl⟩
  case h_11 =>
    rw [List.length_map] at length_eq
    obtain ⟨methods, methods_eq⟩ := (exists_mapM_method?_iff length_eq).mpr (functions kind_eq)
    exact ⟨.interface methods, by rw [methods_eq, Option.map_some]⟩
  case h_12 => exact formed.elim

end TypeOf

section Follow

variable {part : DumpPart} {members : Members} {follow : Json → TypeReader Ty}
  {before after : FoundTypes}

/-- A check that leaves the types found so far as they are comes before the rest. -/
theorem run_lift_bind_eq_ok_iff {First Result : Type} {check : Except DumpError First}
    {next : First → TypeReader Result} {result : Result} :
    ((liftM check : TypeReader First) >>= next).run before = .ok (result, after) ↔
      ∃ first, check = .ok first ∧ (next first).run before = .ok (result, after) := by
  simp only [run_bind_eq_ok_iff, run_lift_eq_ok_iff]
  constructor
  · rintro ⟨first, _, ⟨first_eq, rfl⟩, run⟩
    exact ⟨first, first_eq, run⟩
  · rintro ⟨first, first_eq, run⟩
    exact ⟨first, before, ⟨first_eq, rfl⟩, run⟩

theorem run_throw_eq_ok_iff {Result : Type} {fault : DumpError} {result : Result} :
    (throw fault : TypeReader Result).run before = .ok (result, after) ↔ False :=
  ⟨nofun, False.elim⟩

theorem run_mapM_nil_eq_ok_iff {Item Result : Type} {step : Item → TypeReader Result}
    {results : List Result} :
    ([].mapM step).run before = .ok (results, after) ↔ [] = results ∧ before = after := by
  rw [List.mapM_nil, run_pure_eq_ok_iff]

theorem run_mapM_cons_eq_ok_iff {Item Result : Type} {step : Item → TypeReader Result}
    {item : Item} {rest : List Item} {results : List Result} :
    ((item :: rest).mapM step).run before = .ok (results, after) ↔
      ∃ first between others, (step item).run before = .ok (first, between) ∧
        (rest.mapM step).run between = .ok (others, after) ∧ first :: others = results := by
  rw [List.mapM_cons]
  simp only [run_bind_eq_ok_iff, run_pure_eq_ok_iff]
  constructor
  · rintro ⟨first, between, first_eq, others, _, others_eq, same, rfl⟩
    exact ⟨first, between, others, first_eq, others_eq, same⟩
  · rintro ⟨first, between, others, first_eq, others_eq, same⟩
    exact ⟨first, between, first_eq, others, after, others_eq, same, rfl⟩

theorem run_mapM_append_eq_ok_iff {references others : List Json} {types : List Ty} :
    ((references ++ others).mapM follow).run before = .ok (types, after) ↔
      ∃ first between second, (references.mapM follow).run before = .ok (first, between) ∧
        (others.mapM follow).run between = .ok (second, after) ∧ first ++ second = types := by
  rw [List.mapM_append]
  simp only [run_bind_eq_ok_iff, run_pure_eq_ok_iff]
  constructor
  · rintro ⟨first, between, first_eq, second, _, second_eq, same, rfl⟩
    exact ⟨first, between, second, first_eq, second_eq, same⟩
  · rintro ⟨first, between, second, first_eq, second_eq, same⟩
    exact ⟨first, between, first_eq, second, after, second_eq, same, rfl⟩

theorem length_of_run_mapM {Item Result : Type} {step : Item → TypeReader Result}
    {listed : List Item} {results : List Result}
    (run : (listed.mapM step).run before = .ok (results, after)) :
    results.length = listed.length := by
  induction listed generalizing before results with
  | nil =>
      obtain ⟨rfl, -⟩ := run_mapM_nil_eq_ok_iff.mp run
      rfl
  | cons item rest ih =>
      obtain ⟨_, _, others, -, others_eq, rfl⟩ := run_mapM_cons_eq_ok_iff.mp run
      rw [List.length_cons, List.length_cons, ih others_eq]

/-- A type with one part is read by following the reference to the part. -/
theorem run_map_follow_eq_ok_iff {build : Ty → Ty} {reference : Json} {type : Ty} :
    (build <$> follow reference).run before = .ok (type, after) ↔
      ∃ types, ([reference].mapM follow).run before = .ok (types, after) ∧
        types.head?.map build = some type := by
  simp only [run_map_eq_ok_iff, run_mapM_cons_eq_ok_iff, run_mapM_nil_eq_ok_iff]
  constructor
  · rintro ⟨part, run, rfl⟩
    exact ⟨[part], ⟨part, after, [], run, ⟨rfl, rfl⟩, rfl⟩, rfl⟩
  · rintro ⟨_, ⟨part, _, _, run, ⟨rfl, rfl⟩, rfl⟩, same⟩
    exact ⟨part, run, Option.some.inj same⟩

/-- A type with two parts is read by following the references to both of them. -/
theorem run_map_follow_follow_eq_ok_iff {build : Ty → Ty → Ty} {first second : Json} {type : Ty} :
    (do
        let left ← follow first
        build left <$> follow second
      : TypeReader Ty).run before = .ok (type, after) ↔
      ∃ types, ([first, second].mapM follow).run before = .ok (types, after) ∧
        (types.head?.bind fun left => types[1]?.map (build left)) = some type := by
  simp only [run_bind_eq_ok_iff, run_map_eq_ok_iff, run_mapM_cons_eq_ok_iff,
    run_mapM_nil_eq_ok_iff]
  constructor
  · rintro ⟨left, between, left_eq, right, right_eq, rfl⟩
    exact ⟨[left, right],
      ⟨left, between, [right], left_eq, ⟨right, after, [], right_eq, ⟨rfl, rfl⟩, rfl⟩, rfl⟩, rfl⟩
  · rintro ⟨_, ⟨left, between, _, left_eq, ⟨right, _, _, right_eq, ⟨rfl, rfl⟩, rfl⟩, rfl⟩, same⟩
    exact ⟨left, between, left_eq, right, right_eq, Option.some.inj same⟩

/-- A function type is read by following the references to its parameters, then those to its
results. -/
theorem run_functionType_eq_ok_iff {variadic : Bool} {type : Ty} :
    (do
        let params ← (← items part members "params").mapM follow
        let results ← (← items part members "results").mapM follow
        pure (.function ⟨params, results, variadic⟩)
      : TypeReader Ty).run before = .ok (type, after) ↔
      (MayHold members "params" .list ∧ MayHold members "results" .list) ∧ ∃ types,
        ((itemsUnder members "params" ++ itemsUnder members "results").mapM follow).run before =
          .ok (types, after) ∧
        (let (params, results) := types.splitAt (itemsUnder members "params").length
         some (Ty.function ⟨params, results, variadic⟩)) = some type := by
  simp only [run_bind_eq_ok_iff, run_lift_eq_ok_iff, items_eq_ok_iff, run_pure_eq_ok_iff,
    run_mapM_append_eq_ok_iff, Option.some.injEq]
  constructor
  · rintro ⟨_, _, ⟨⟨params_held, rfl⟩, rfl⟩, params, between, params_eq, _, _,
      ⟨⟨results_held, rfl⟩, rfl⟩, results, _, results_eq, rfl, rfl⟩
    refine ⟨⟨params_held, results_held⟩, _, ⟨params, between, results, params_eq, results_eq, rfl⟩,
      ?_⟩
    rw [← length_of_run_mapM params_eq, List.splitAt_eq, List.take_left, List.drop_left]
  · rintro ⟨⟨params_held, results_held⟩, _, ⟨params, between, results, params_eq, results_eq, rfl⟩,
      rfl⟩
    refine ⟨_, _, ⟨⟨params_held, rfl⟩, rfl⟩, params, between, params_eq, _, _,
      ⟨⟨results_held, rfl⟩, rfl⟩, results, _, results_eq, ?_, rfl⟩
    rw [← length_of_run_mapM params_eq, List.splitAt_eq, List.take_left, List.drop_left]

/-- Parts that each follow one reference are read by following all of these references. -/
theorem run_mapM_parts_eq_ok_iff {Part : Type} {step : Members → TypeReader Part}
    {formed : Members → Prop} {build : Members → Ty → Option Part}
    (each : ∀ {item before result after}, (step item).run before = .ok (result, after) ↔
      formed item ∧ ∃ type, (follow (value item "type")).run before = .ok (type, after) ∧
        build item type = some result)
    {listed : List Members} {results : List Part} :
    (listed.mapM step).run before = .ok (results, after) ↔
      (∀ item ∈ listed, formed item) ∧ ∃ types,
        ((listed.map (value · "type")).mapM follow).run before = .ok (types, after) ∧
          ((listed.zip types).mapM fun (item, type) => build item type) = some results := by
  induction listed generalizing before results with
  | nil =>
      simp only [List.map_nil, run_mapM_nil_eq_ok_iff]
      simp [and_comm, eq_comm]
  | cons item rest ih =>
      simp only [List.map_cons, run_mapM_cons_eq_ok_iff, each, ih, List.forall_mem_cons]
      constructor
      · rintro ⟨first, between, others, ⟨item_formed, type, run, first_eq⟩,
          ⟨rest_formed, types, rest_run, others_eq⟩, rfl⟩
        refine ⟨⟨item_formed, rest_formed⟩, type :: types,
          ⟨type, between, types, run, rest_run, rfl⟩, ?_⟩
        simp [first_eq, others_eq]
      · rintro ⟨⟨item_formed, rest_formed⟩, _, ⟨type, between, types, run, rest_run, rfl⟩, built⟩
        simp only [List.zip_cons_cons, List.mapM_cons, Option.bind_eq_bind,
          Option.bind_eq_some_iff, Option.pure_def, Option.some.injEq] at built
        obtain ⟨first, first_eq, others, others_eq, rfl⟩ := built
        exact ⟨first, between, others, ⟨item_formed, type, run, first_eq⟩,
          ⟨rest_formed, types, rest_run, others_eq⟩, rfl⟩

/-- A field of a structure type is read if it is formed well and the reference to its type is
followed. -/
theorem run_structField_eq_ok_iff {field : Members} {before after : FoundTypes}
    {result : StructField} :
    (do
        let name ← require part field "name" .string
        let type ← follow (value field "type")
        let tag ← optional? part field "tag" .string
        pure ⟨name, type, tag.getD "", Json.flag field "embedded"⟩
      : TypeReader StructField).run before = .ok (result, after) ↔
      ((content? field "name" .string).isSome ∧ MayHold field "tag" .string) ∧
        ∃ type, (follow (value field "type")).run before = .ok (type, after) ∧
          some (structField field type) = some result := by
  simp only [run_bind_eq_ok_iff, run_lift_eq_ok_iff, require_eq_ok_iff_content?,
    optional?_eq_ok_iff_mayHold, run_pure_eq_ok_iff]
  constructor
  · rintro ⟨name, _, ⟨name_eq, rfl⟩, type, _, run, tag, _, ⟨⟨held, rfl⟩, rfl⟩, rfl, rfl⟩
    exact ⟨⟨by simp [name_eq], held⟩, type, run, by simp [structField, name_eq]⟩
  · rintro ⟨⟨named, held⟩, type, run, same⟩
    obtain ⟨name, name_eq⟩ := Option.isSome_iff_exists.mp named
    refine ⟨name, _, ⟨name_eq, rfl⟩, type, _, run, _, _, ⟨⟨held, rfl⟩, rfl⟩, ?_, rfl⟩
    rw [← Option.some.inj same, structField, name_eq, Option.getD_some]

/-- A method of an interface type is read if it has a name and the reference to its type is followed
to a function type. -/
theorem run_method_eq_ok_iff {method : Members} {before after : FoundTypes} {result : Method} :
    (do
        match ← follow (value method "type") with
        | .function signature =>
            let name ← require part method "name" .string
            pure ⟨name, signature⟩
        | _ => throw (.methodNotFunction part (value method "name"))
      : TypeReader Method).run before = .ok (result, after) ↔
      (content? method "name" .string).isSome ∧
        ∃ type, (follow (value method "type")).run before = .ok (type, after) ∧
          method? method type = some result := by
  rw [run_bind_eq_ok_iff]
  constructor
  · rintro ⟨type, between, run, rest⟩
    cases type with
    | function signature =>
        obtain ⟨name, name_eq, rest⟩ := run_lift_bind_eq_ok_iff.mp rest
        obtain ⟨rfl, rfl⟩ := run_pure_eq_ok_iff.mp rest
        rw [require_eq_ok_iff_content?] at name_eq
        exact ⟨by simp [name_eq], _, run, by simp [method?, name_eq]⟩
    | _ => cases rest
  · rintro ⟨named, type, run, built⟩
    obtain ⟨name, name_eq⟩ := Option.isSome_iff_exists.mp named
    cases type with
    | function signature =>
        refine ⟨_, after, run, ?_⟩
        rw [method?, name_eq] at built
        exact run_lift_bind_eq_ok_iff.mpr ⟨name, require_eq_ok_iff_content?.mpr name_eq,
          run_pure_eq_ok_iff.mpr ⟨Option.some.inj built, rfl⟩⟩
    | _ => cases built

/-- An entry that is no defined type is read if it is formed well, its references are followed, and
its type can be put together from theirs. -/
theorem run_entryType_eq_ok_iff {type : Ty} :
    (entryType part members follow).run before = .ok (type, after) ↔
      IsFormed members ∧ ∃ types,
        ((references members).mapM follow).run before = .ok (types, after) ∧
          typeOf? members types = some type := by
  unfold entryType
  split
  case h_11 => -- no kind of these
    have untyped (types : List Ty) : typeOf? members types = none := by
      unfold typeOf?
      split
      case h_11 => rfl
      all_goals contradiction
    simp only [run_throw_eq_ok_iff, untyped, reduceCtorEq, and_false, exists_false]
  all_goals
    rename_i kind_eq
    simp only [IsFormed, references, typeOf?, kind_eq]
  case h_1 => -- basic
    simp only [run_lift_bind_eq_ok_iff, require_eq_ok_iff_content?, run_mapM_nil_eq_ok_iff]
    cases content? members "name" .string with
    | none => simp
    | some name =>
        simp only [Option.some.injEq, exists_eq_left', Option.bind_some]
        cases BasicType.ofName? name with
        | none => simp only [run_throw_eq_ok_iff, Option.isSome_none, Bool.false_eq_true, false_and]
        | some basic => simp only [run_pure_eq_ok_iff]; simp [and_comm]
  case h_2 | h_3 => -- pointer, slice
    rw [run_map_follow_eq_ok_iff, true_and]
  case h_4 => -- array
    simp only [run_lift_bind_eq_ok_iff, require_eq_ok_iff_content?, run_map_follow_eq_ok_iff]
    cases content? members "length" .int with
    | none => simp
    | some length => simp only [Option.some.injEq, exists_eq_left', Option.isSome_some, true_and,
        Option.getD_some]
  case h_5 => -- map
    rw [run_map_follow_follow_eq_ok_iff, true_and]
  case h_6 => -- chan
    simp only [run_lift_bind_eq_ok_iff, optional?_eq_ok_iff_mayHold, channelDirection?, and_assoc,
      exists_and_left, exists_eq_left']
    cases presentContent? members "direction" .string with
    | none => simp only [run_map_follow_eq_ok_iff, Option.isSome_some, true_and, Option.getD_some]
    | some name =>
        dsimp only
        cases ChannelDirection.ofName? name with
        | none => simp only [run_throw_eq_ok_iff, Option.isSome_none, Bool.false_eq_true, false_and]
        | some direction =>
            simp only [run_map_follow_eq_ok_iff, Option.isSome_some, true_and, Option.getD_some]
  case h_7 => -- tuple
    simp only [run_lift_bind_eq_ok_iff, items_eq_ok_iff, run_map_eq_ok_iff, Option.some.injEq]
    constructor
    · rintro ⟨_, ⟨held, rfl⟩, types, run, rfl⟩
      exact ⟨held, types, run, rfl⟩
    · rintro ⟨held, types, run, rfl⟩
      exact ⟨_, ⟨held, rfl⟩, types, run, rfl⟩
  case h_8 => -- signature
    exact run_functionType_eq_ok_iff
  case h_9 => -- struct
    have parts (listed : List Members) (types : List Ty) :
        ((listed.zip types).mapM fun (field, type) => some (structField field type)) =
          some ((listed.zip types).map fun (field, type) => structField field type) :=
      List.mapM_pure
    simp only [run_lift_bind_eq_ok_iff, objects_eq_ok_iff, run_map_eq_ok_iff,
      run_mapM_parts_eq_ok_iff run_structField_eq_ok_iff, parts, Option.some.injEq]
    constructor
    · rintro ⟨_, ⟨held, rfl⟩, _, ⟨formed, types, run, rfl⟩, rfl⟩
      exact ⟨⟨held, formed⟩, types, run, rfl⟩
    · rintro ⟨⟨held, formed⟩, types, run, rfl⟩
      exact ⟨_, ⟨held, rfl⟩, _, ⟨formed, types, run, rfl⟩, rfl⟩
  case h_10 => -- interface
    simp only [run_lift_bind_eq_ok_iff, objects_eq_ok_iff, run_map_eq_ok_iff,
      Option.map_eq_some_iff]
    constructor
    · rintro ⟨_, ⟨held, rfl⟩, methods, run, rfl⟩
      obtain ⟨formed, types, run, built⟩ :=
        (run_mapM_parts_eq_ok_iff run_method_eq_ok_iff).mp run
      exact ⟨⟨held, formed⟩, types, run, methods, built, rfl⟩
    · rintro ⟨⟨held, formed⟩, types, run, methods, built, rfl⟩
      exact ⟨_, ⟨held, rfl⟩, methods,
        (run_mapM_parts_eq_ok_iff run_method_eq_ok_iff).mpr ⟨formed, types, run, built⟩, rfl⟩

end Follow

end Dump
end ShadowLint
