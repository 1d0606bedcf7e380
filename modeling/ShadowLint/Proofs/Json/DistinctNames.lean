import Mathlib.Data.List.Nodup
import ShadowLint.Json.Parser

/-!
# Distinct names in objects

In a document no object has two members of one name.  The reader of texts keeps this: a name that
comes again takes the place of the one before.
-/

namespace ShadowLint
namespace Json

mutual

/-- Whether no object in the document has two members of one name. -/
def hasDistinctNames : Json → Bool
  | .object members => decide (members.map Prod.fst).Nodup && membersHaveDistinctNames members
  | .array items => itemsHaveDistinctNames items
  | _ => true

/-- Whether this holds of the values of all members. -/
def membersHaveDistinctNames : List (String × Json) → Bool
  | [] => true
  | (_, value) :: rest => value.hasDistinctNames && membersHaveDistinctNames rest

/-- Whether this holds of all items. -/
def itemsHaveDistinctNames : List Json → Bool
  | [] => true
  | item :: rest => item.hasDistinctNames && itemsHaveDistinctNames rest

end

theorem membersHaveDistinctNames_iff {members : List (String × Json)} :
    membersHaveDistinctNames members ↔ ∀ member ∈ members, member.2.hasDistinctNames := by
  induction members with
  | nil => simp [membersHaveDistinctNames]
  | cons member rest ih => simp [membersHaveDistinctNames, ih]

theorem itemsHaveDistinctNames_iff {items : List Json} :
    itemsHaveDistinctNames items ↔ ∀ item ∈ items, item.hasDistinctNames := by
  induction items with
  | nil => simp [itemsHaveDistinctNames]
  | cons item rest ih => simp [itemsHaveDistinctNames, ih]

theorem hasDistinctNames_object_iff {members : List (String × Json)} :
    (Json.object members).hasDistinctNames ↔
      (members.map Prod.fst).Nodup ∧ ∀ member ∈ members, member.2.hasDistinctNames := by
  simp [hasDistinctNames, membersHaveDistinctNames_iff]

theorem hasDistinctNames_array_iff {items : List Json} :
    (Json.array items).hasDistinctNames ↔ ∀ item ∈ items, item.hasDistinctNames := by
  simp [hasDistinctNames, itemsHaveDistinctNames_iff]

theorem nodup_putMember {name : String} {value : Json} {members : List (String × Json)}
    (distinct : (members.map Prod.fst).Nodup) :
    ((putMember name value members).map Prod.fst).Nodup := by
  unfold putMember
  split
  · rw [List.map_map]
    have names_eq : members.map (Prod.fst ∘ fun member =>
        if member.1 == name then (name, value) else member) = members.map Prod.fst := by
      apply List.map_congr_left
      intro member _
      simp only [Function.comp_apply]
      split
      · rename_i same
        exact (beq_iff_eq.mp same).symm
      · rfl
    rwa [names_eq]
  · rename_i absent
    refine List.nodup_cons.mpr ⟨fun mem => ?_, distinct⟩
    obtain ⟨member, mem, same⟩ := List.mem_map.mp mem
    exact absent (List.any_eq_true.mpr ⟨member, mem, by simpa using same⟩)

theorem mem_putMember {name : String} {value : Json} {members : List (String × Json)}
    {member : String × Json} (mem : member ∈ putMember name value members) :
    member = (name, value) ∨ member ∈ members := by
  unfold putMember at mem
  split at mem
  · obtain ⟨other, other_mem, rfl⟩ := List.mem_map.mp mem
    split
    · exact .inl rfl
    · exact .inr other_mem
  · exact List.mem_cons.mp mem

/-- A member that takes the place of another or comes last leaves the names distinct. -/
theorem hasDistinctNames_putMember {name : String} {value : Json} {members : List (String × Json)}
    (members_ok : (Json.object members).hasDistinctNames) (value_ok : value.hasDistinctNames) :
    (Json.object (putMember name value members)).hasDistinctNames := by
  rw [hasDistinctNames_object_iff] at members_ok ⊢
  refine ⟨nodup_putMember members_ok.1, fun member mem => ?_⟩
  rcases mem_putMember mem with rfl | mem
  · exact value_ok
  · exact members_ok.2 member mem

/-- What is read so far of a list or an object has distinct names. -/
def Container.HasDistinctNames : Container → Prop
  | .items before => (Json.array before).hasDistinctNames
  | .members before _ => (Json.object before).hasDistinctNames

/-- Everything that is read so far has distinct names. -/
def ReaderState.HasDistinctNames : ReaderState → Prop
  | .wantsValue outer | .wantsFirstItem outer | .wantsFirstName outer =>
      ∀ container ∈ outer, container.HasDistinctNames
  | .wantsName before outer | .wantsColon before _ outer =>
      (Json.object before).hasDistinctNames ∧ ∀ container ∈ outer, container.HasDistinctNames
  | .ended value outer =>
      value.hasDistinctNames ∧ ∀ container ∈ outer, container.HasDistinctNames
  | .stopped _ => True

/-- A token that is a value has distinct names. -/
def Token.HasDistinctNames : Token → Prop
  | .scalar value => value.hasDistinctNames
  | _ => True

section Reader

variable {outer : List Container} {token : Token} {before after : ReaderState}

theorem hasDistinctNames_of_begin? (open_ok : ∀ container ∈ outer, container.HasDistinctNames)
    (token_ok : token.HasDistinctNames) (begins : ReaderState.begin? outer token = some after) :
    after.HasDistinctNames := by
  unfold ReaderState.begin? at begins
  split at begins
  · cases begins
    exact ⟨token_ok, open_ok⟩
  · cases begins
    exact open_ok
  · cases begins
    exact open_ok
  · cases begins
    trivial
  · cases begins

/-- One more token leaves what is read with distinct names. -/
theorem hasDistinctNames_of_next? (before_ok : before.HasDistinctNames)
    (token_ok : token.HasDistinctNames) (steps : before.next? token = some after) :
    after.HasDistinctNames := by
  unfold ReaderState.next? at steps
  split at steps
  · exact hasDistinctNames_of_begin? before_ok token_ok steps
  · cases steps
    exact ⟨rfl, before_ok⟩
  · have empty_ok : (Container.items []).HasDistinctNames := rfl
    exact hasDistinctNames_of_begin? (List.forall_mem_cons.mpr ⟨empty_ok, before_ok⟩) token_ok steps
  · cases steps
    exact ⟨rfl, before_ok⟩
  · cases steps
    exact ⟨rfl, before_ok⟩
  · cases steps
    exact before_ok
  · cases steps
    exact List.forall_mem_cons.mpr before_ok
  · cases steps
    obtain ⟨value_ok, open_ok⟩ := before_ok
    obtain ⟨items_ok, open_ok⟩ := List.forall_mem_cons.mp open_ok
    refine List.forall_mem_cons.mpr ⟨hasDistinctNames_array_iff.mpr ?_, open_ok⟩
    exact List.forall_mem_cons.mpr ⟨value_ok, hasDistinctNames_array_iff.mp items_ok⟩
  · cases steps
    obtain ⟨value_ok, open_ok⟩ := before_ok
    obtain ⟨items_ok, open_ok⟩ := List.forall_mem_cons.mp open_ok
    refine ⟨hasDistinctNames_array_iff.mpr fun item mem => ?_, open_ok⟩
    rcases List.mem_cons.mp (List.mem_reverse.mp mem) with rfl | mem
    · exact value_ok
    · exact hasDistinctNames_array_iff.mp items_ok item mem
  · cases steps
    obtain ⟨value_ok, open_ok⟩ := before_ok
    obtain ⟨members_ok, open_ok⟩ := List.forall_mem_cons.mp open_ok
    exact ⟨hasDistinctNames_putMember members_ok value_ok, open_ok⟩
  · cases steps
    obtain ⟨value_ok, open_ok⟩ := before_ok
    obtain ⟨members_ok, open_ok⟩ := List.forall_mem_cons.mp open_ok
    obtain ⟨distinct, all_ok⟩ :=
      hasDistinctNames_object_iff.mp (hasDistinctNames_putMember members_ok value_ok)
    refine ⟨hasDistinctNames_object_iff.mpr ⟨?_, fun member mem => ?_⟩, open_ok⟩
    · rwa [List.map_reverse, List.nodup_reverse]
    · exact all_ok member (List.mem_reverse.mp mem)
  · cases steps

theorem hasDistinctNames_of_foldlM {tokens : List Token}
    (tokens_ok : ∀ token ∈ tokens, token.HasDistinctNames) (before_ok : before.HasDistinctNames)
    (run : tokens.foldlM ReaderState.next? before = some after) : after.HasDistinctNames := by
  induction tokens generalizing before with
  | nil =>
      obtain rfl : before = after := Option.some.inj run
      exact before_ok
  | cons token rest ih =>
      rw [List.foldlM_cons, Option.bind_eq_bind, Option.bind_eq_some_iff] at run
      obtain ⟨middle, steps, run⟩ := run
      obtain ⟨token_ok, rest_ok⟩ := List.forall_mem_cons.mp tokens_ok
      exact ih rest_ok (hasDistinctNames_of_next? before_ok token_ok steps) run

end Reader

section Tokens

variable {token : Token} {taken : Nat}

theorem hasDistinctNames_of_readNumber? {negative : Bool} {text : List Char}
    (read : readNumber? negative text = some (token, taken)) : token.HasDistinctNames := by
  unfold readNumber? at read
  dsimp only at read
  split at read
  · cases read
  · split at read
    · obtain ⟨rfl, -⟩ := Prod.mk.inj (Option.some.inj read)
      split
      · trivial
      · rfl
    · obtain ⟨rfl, -⟩ := Prod.mk.inj (Option.some.inj read)
      rfl

theorem hasDistinctNames_of_readWord? {text : List Char} {value : Json}
    (read : readWord? text = some (value, taken)) : value.hasDistinctNames := by
  have all_words : ∀ word ∈ words, word.2.hasDistinctNames := by
    simp [words, hasDistinctNames]
  obtain ⟨⟨word, other⟩, mem, found⟩ := List.exists_of_findSome?_eq_some read
  obtain ⟨-, found⟩ := Option.ite_none_right_eq_some.mp found
  obtain ⟨rfl, -⟩ := Prod.mk.inj (Option.some.inj found)
  exact all_words _ mem

theorem hasDistinctNames_of_readScalar? {text : List Char}
    (read : readScalar? text = some (token, taken)) : token.HasDistinctNames := by
  unfold readScalar? at read
  split at read
  · rename_i word
    obtain ⟨rfl, -⟩ := Prod.mk.inj (Option.some.inj read)
    exact hasDistinctNames_of_readWord? word
  · split at read
    · obtain ⟨_, _, found⟩ := Option.map_eq_some_iff.mp read
      obtain ⟨rfl, -⟩ := Prod.mk.inj found
      rfl
    · obtain ⟨_, number, found⟩ := Option.map_eq_some_iff.mp read
      obtain ⟨rfl, -⟩ := Prod.mk.inj found
      exact hasDistinctNames_of_readNumber? number
    · exact hasDistinctNames_of_readNumber? read

theorem hasDistinctNames_of_readToken? {first : Char} {rest : List Char}
    (read : readToken? first rest = some (token, taken)) : token.HasDistinctNames := by
  unfold readToken? at read
  split at read
  case h_7 =>
    obtain ⟨_, scalar, found⟩ := Option.map_eq_some_iff.mp read
    obtain ⟨rfl, -⟩ := Prod.mk.inj found
    exact hasDistinctNames_of_readScalar? scalar
  all_goals
    obtain ⟨rfl, -⟩ := Prod.mk.inj (Option.some.inj read)
    trivial

theorem hasDistinctNames_of_tokensFrom? {before : Array Token} {text : List Char}
    {tokens : List Token} (before_ok : ∀ token ∈ before, token.HasDistinctNames)
    (read : tokensFrom? before text = some tokens) : ∀ token ∈ tokens, token.HasDistinctNames := by
  have push_ok {before : Array Token} (before_ok : ∀ token ∈ before, token.HasDistinctNames)
      {token : Token} (token_ok : token.HasDistinctNames) :
      ∀ other ∈ before.push token, other.HasDistinctNames := by
    intro other mem
    rcases Array.mem_push.mp mem with mem | rfl
    · exact before_ok other mem
    · exact token_ok
  induction before, text using tokensFrom?.induct with
  | case1 before =>
      rw [tokensFrom?] at read
      obtain rfl := Option.some.inj read
      exact fun token mem => before_ok token (Array.mem_toList_iff.mp mem)
  | case2 before c rest blank ih =>
      rw [tokensFrom?, if_pos blank] at read
      exact ih before_ok read
  | case3 before c rest other none =>
      rw [tokensFrom?, if_neg other, none] at read
      cases read
  | case4 before c rest other digits taken overlong =>
      rw [tokensFrom?, if_neg other, overlong] at read
      obtain rfl := Option.some.inj read
      have token_ok : (Token.overlongNumber digits).HasDistinctNames := trivial
      exact fun token mem => push_ok before_ok token_ok token (Array.mem_toList_iff.mp mem)
  | case5 before c rest other token taken short found ih =>
      have token_ok := hasDistinctNames_of_readToken? found
      rw [tokensFrom?, if_neg other, found] at read
      cases token with
      | overlongNumber digits => exact absurd rfl (short digits)
      | _ => exact ih (push_ok before_ok token_ok) read

end Tokens

/-- The document that a text writes has distinct names. -/
theorem hasDistinctNames_of_parse {text : String} {document : Json}
    (parsed : parse text = .ok document) : document.hasDistinctNames := by
  unfold parse at parsed
  split at parsed
  · rename_i tokens tokens_eq
    have tokens_ok := hasDistinctNames_of_tokensFrom? (by simp) tokens_eq
    unfold ofTokens at parsed
    split at parsed
    · rename_i state run
      have start_ok : (ReaderState.wantsValue []).HasDistinctNames := by
        simp [ReaderState.HasDistinctNames]
      have state_ok := hasDistinctNames_of_foldlM tokens_ok start_ok run
      unfold ReaderState.result at parsed
      split at parsed
      · cases parsed
        exact state_ok.1
      · cases parsed
      · cases parsed
    · cases parsed
  · cases parsed

end Json
end ShadowLint
