import Mathlib.Data.List.Induction
import Mathlib.Data.List.Sort
import ShadowLint.Proofs.Dump.Success
import ShadowLint.Proofs.UseTable

/-!
# Uses grouped by symbol

A table of uses groups the occurrences of names by the symbols that they stand for.  What it holds
for a symbol is fixed by the occurrences, so two tables of the same occurrences differ at most in
the order of their entries.  The main statement is `groups_ofOccurrences`.
-/

namespace ShadowLint
namespace UseTable

/-- The symbols that have an entry. -/
def symbols (table : UseTable) : List SymbolId :=
  table.entries.map Prod.fst

/-- A symbol gets an entry with its first use. -/
theorem map_fst_insertUse (symbol : SymbolId) (position : Int)
    (entries : List (SymbolId × List Int)) :
    (insertUse symbol position entries).map Prod.fst =
      if symbol ∈ entries.map Prod.fst then entries.map Prod.fst
      else entries.map Prod.fst ++ [symbol] := by
  induction entries with
  | nil => simp [insertUse]
  | cons entry rest ih =>
      obtain ⟨first, positions⟩ := entry
      rw [insertUse]
      by_cases here : first = symbol
      · simp [here]
      · rw [if_neg here, List.map_cons, List.map_cons, ih]
        by_cases later : symbol ∈ rest.map Prod.fst
        · rw [if_pos later, if_pos (List.mem_cons_of_mem _ later)]
        · have absent : symbol ∉ first :: rest.map Prod.fst :=
            List.not_mem_cons_of_ne_of_not_mem (Ne.symm here) later
          rw [if_neg later, if_neg absent, List.cons_append]

theorem mem_symbols_add {table : UseTable} {symbol other : SymbolId} {position : Int} :
    other ∈ (table.add symbol position).symbols ↔ other = symbol ∨ other ∈ table.symbols := by
  rw [symbols, add, map_fst_insertUse]
  split
  · rename_i present
    refine (or_iff_right_of_imp ?_).symm
    rintro rfl
    exact present
  · rw [List.mem_append, List.mem_singleton, or_comm]
    exact Iff.rfl

theorem nodup_symbols_add {table : UseTable} (distinct : table.symbols.Nodup) (symbol : SymbolId)
    (position : Int) : (table.add symbol position).symbols.Nodup := by
  rw [symbols, add, map_fst_insertUse]
  split
  · exact distinct
  · rename_i absent
    apply List.nodup_append.mpr
    refine ⟨distinct, List.nodup_singleton symbol, fun present mem added added_mem same => ?_⟩
    obtain rfl := List.mem_singleton.mp added_mem
    exact absent (same ▸ mem)

/-- The table holds each symbol of the occurrences once, with the positions of its occurrences in
ascending order, and nothing else. -/
structure IsGroupingOf (table : UseTable) (occurrences : List (Ident × Option SymbolId)) :
    Prop where
  /-- The positions of every symbol ascend. -/
  ascends : table.Ascends
  /-- The positions of a symbol are those of its occurrences. -/
  mem_usesOf_iff : ∀ symbol position, position ∈ table.usesOf symbol ↔
    ∃ ident, (ident, some symbol) ∈ occurrences ∧ ident.position = position
  /-- The symbols with an entry are those that occur. -/
  mem_symbols_iff : ∀ symbol, symbol ∈ table.symbols ↔ ∃ ident, (ident, some symbol) ∈ occurrences
  /-- No symbol has two entries. -/
  distinct : table.symbols.Nodup

theorem ofOccurrences_concat (before : List (Ident × Option SymbolId))
    (occurrence : Ident × Option SymbolId) :
    ofOccurrences (before ++ [occurrence]) = (ofOccurrences before).addOccurrence occurrence := by
  rw [ofOccurrences_eq, ofOccurrences_eq, List.foldl_append, List.foldl_cons, List.foldl_nil]

/-- A table of occurrences groups them: every occurrence adds its position to its symbol. -/
theorem isGroupingOf_ofOccurrences (occurrences : List (Ident × Option SymbolId)) :
    (ofOccurrences occurrences).IsGroupingOf occurrences := by
  refine ⟨ascends_ofOccurrences occurrences, fun _ _ => mem_usesOf_ofOccurrences, ?_, ?_⟩
  · intro symbol
    induction occurrences using List.reverseRecOn with
    | nil => simp [ofOccurrences, symbols, empty]
    | append_singleton before occurrence ih =>
        obtain ⟨ident, symbol?⟩ := occurrence
        rw [ofOccurrences_concat]
        cases symbol? with
        | none => simpa [addOccurrence] using ih
        | some used =>
            simp only [addOccurrence, Option.elim_some, mem_symbols_add, ih, List.mem_append,
              List.mem_singleton, Prod.mk.injEq, Option.some.injEq, exists_or, exists_eq_left]
            exact or_comm
  · induction occurrences using List.reverseRecOn with
    | nil => exact List.nodup_nil
    | append_singleton before occurrence ih =>
        obtain ⟨ident, symbol?⟩ := occurrence
        rw [ofOccurrences_concat]
        cases symbol? with
        | none => exact ih
        | some used => exact nodup_symbols_add ih used ident.position

section Uniqueness

variable {table other : UseTable} {occurrences permuted : List (Ident × Option SymbolId)}

/-- A symbol that does not occur has no uses. -/
theorem IsGroupingOf.usesOf_eq_nil (grouping : table.IsGroupingOf occurrences) {symbol : SymbolId}
    (unused : ∀ ident, (ident, some symbol) ∉ occurrences) : table.usesOf symbol = [] := by
  apply List.eq_nil_iff_forall_not_mem.mpr
  intro position mem
  obtain ⟨ident, ident_mem, -⟩ := (grouping.mem_usesOf_iff symbol position).mp mem
  exact unused ident ident_mem

theorem IsGroupingOf.mem_entries_iff (grouping : table.IsGroupingOf occurrences)
    {symbol : SymbolId} {positions : List Int} :
    (symbol, positions) ∈ table.entries ↔
      symbol ∈ table.symbols ∧ positions = table.usesOf symbol := by
  have distinct : (table.entries.map Prod.fst).Nodup := grouping.distinct
  have usesOf_eq {found : List Int} (mem : (symbol, found) ∈ table.entries) :
      table.usesOf symbol = found := by
    rw [usesOf, Dump.lookup_eq_some_of_mem distinct mem, Option.getD_some]
  constructor
  · intro mem
    exact ⟨List.mem_map_of_mem mem, (usesOf_eq mem).symm⟩
  · rintro ⟨symbol_mem, rfl⟩
    obtain ⟨⟨_, found⟩, mem, rfl⟩ := List.mem_map.mp symbol_mem
    rwa [usesOf_eq mem]

/-- The occurrences of a symbol fix what a table holds for it. -/
theorem IsGroupingOf.usesOf_eq (grouping : table.IsGroupingOf occurrences)
    (regrouping : other.IsGroupingOf permuted) (perm : permuted.Perm occurrences)
    (symbol : SymbolId) : other.usesOf symbol = table.usesOf symbol := by
  apply (regrouping.ascends symbol).eq_of_mem_iff (grouping.ascends symbol)
  intro position
  simp only [regrouping.mem_usesOf_iff, grouping.mem_usesOf_iff, perm.mem_iff]

/-- Two tables of the same occurrences have the same entries. -/
theorem IsGroupingOf.entries_perm (grouping : table.IsGroupingOf occurrences)
    (regrouping : other.IsGroupingOf permuted) (perm : permuted.Perm occurrences) :
    other.entries.Perm table.entries := by
  have nodup := List.Nodup.of_map Prod.fst grouping.distinct
  have nodup_other := List.Nodup.of_map Prod.fst regrouping.distinct
  apply (List.perm_ext_iff_of_nodup nodup_other nodup).mpr
  rintro ⟨symbol, positions⟩
  rw [regrouping.mem_entries_iff, grouping.mem_entries_iff, grouping.usesOf_eq regrouping perm,
    regrouping.mem_symbols_iff, grouping.mem_symbols_iff]
  simp only [perm.mem_iff]

end Uniqueness

/-- The table of occurrences groups them by their symbols, whatever their order; a symbol without
occurrences has no uses, and the uses behind a limit are the larger ones in their order. -/
theorem groups_ofOccurrences (occurrences : List (Ident × Option SymbolId)) :
    (ofOccurrences occurrences).IsGroupingOf occurrences ∧
      (∀ symbol, (∀ ident, (ident, some symbol) ∉ occurrences) →
        (ofOccurrences occurrences).usesOf symbol = []) ∧
      (∀ permuted, permuted.Perm occurrences →
        (ofOccurrences permuted).entries.Perm (ofOccurrences occurrences).entries ∧
          ∀ symbol, (ofOccurrences permuted).usesOf symbol =
            (ofOccurrences occurrences).usesOf symbol) ∧
      ∀ symbol limit, (ofOccurrences occurrences).usesAfter symbol limit =
        ((ofOccurrences occurrences).usesOf symbol).filter (limit < ·) := by
  have grouping := isGroupingOf_ofOccurrences occurrences
  refine ⟨grouping, fun symbol unused => grouping.usesOf_eq_nil unused, fun permuted perm => ?_,
    fun symbol limit =>
      entriesAfter_eq_filter limit ((grouping.ascends symbol).imp Int.le_of_lt)⟩
  have regrouping := isGroupingOf_ofOccurrences permuted
  exact ⟨grouping.entries_perm regrouping perm, grouping.usesOf_eq regrouping perm⟩

end UseTable

namespace Specimen

/-- Occurrences of two symbols with one name: two at one position, one at a position below zero, and
one that stands for nothing. -/
def interleaved : List (Ident × Option SymbolId) :=
  [(⟨[.item 0], "x", 9⟩, some (.declared 0)), (⟨[.item 1], "x", 4⟩, some (.declared 1)),
    (⟨[.item 2], "x", -3⟩, some (.declared 0)), (⟨[.item 3], "x", 5⟩, none),
    (⟨[.item 4], "x", 9⟩, some (.declared 0))]

/-- The table of the reversed occurrences has the same entries, and the uses at the limit are left
out. -/
theorem groups_interleaved :
    (UseTable.ofOccurrences interleaved.reverse).entries.Perm
        [(.declared 0, [-3, 9]), (.declared 1, [4])] ∧
      (UseTable.ofOccurrences interleaved).usesAfter (.declared 0) (-3) = [9] ∧
      (UseTable.ofOccurrences interleaved).usesOf (.declared 2) = [] := by
  obtain ⟨-, unused, anyOrder, behind⟩ := UseTable.groups_ofOccurrences interleaved
  have entries_eq : (UseTable.ofOccurrences interleaved).entries =
      [(.declared 0, [-3, 9]), (.declared 1, [4])] := by decide
  have uses_eq : (UseTable.ofOccurrences interleaved).usesOf (.declared 0) = [-3, 9] := by decide
  refine ⟨?_, ?_, ?_⟩
  · rw [← entries_eq]
    exact (anyOrder _ (List.reverse_perm interleaved)).1
  · rw [behind, uses_eq]
    rfl
  · exact unused (.declared 2) (by simp [interleaved])

end Specimen
end ShadowLint
