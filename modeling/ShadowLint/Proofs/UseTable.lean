import ShadowLint.UseTable

/-!
# What a table of uses holds

The table of some occurrences holds, for each symbol, the positions of its occurrences and no
others, and it holds them in ascending order.
-/

namespace ShadowLint
namespace UseTable

/-- The positions of every symbol ascend. -/
def Ascends (table : UseTable) : Prop :=
  ∀ symbol, (table.usesOf symbol).Pairwise (· < ·)

/-- One more occurrence is put into a table. -/
def addOccurrence (table : UseTable) (occurrence : Ident × Option SymbolId) : UseTable :=
  occurrence.2.elim table fun symbol => table.add symbol occurrence.1.position

theorem ofOccurrences_eq (occurrences : List (Ident × Option SymbolId)) :
    ofOccurrences occurrences = occurrences.foldl addOccurrence empty :=
  rfl

theorem ascends_empty : empty.Ascends := fun _ => .nil

theorem Ascends.add {table : UseTable} (ascends : table.Ascends) (symbol : SymbolId)
    (position : Int) : (table.add symbol position).Ascends := by
  intro other
  rw [usesOf_add]
  split
  · exact pairwise_insertAscending (ascends other)
  · exact ascends other

theorem Ascends.addOccurrence {table : UseTable} (ascends : table.Ascends)
    (occurrence : Ident × Option SymbolId) : (table.addOccurrence occurrence).Ascends := by
  obtain ⟨ident, symbol?⟩ := occurrence
  cases symbol? with
  | none => exact ascends
  | some symbol => exact ascends.add symbol ident.position

theorem mem_usesOf_add {table : UseTable} {symbol other : SymbolId} {position found : Int} :
    found ∈ (table.add symbol position).usesOf other ↔
      (symbol = other ∧ position = found) ∨ found ∈ table.usesOf other := by
  rw [usesOf_add]
  split
  · rename_i same
    rw [mem_insertAscending]
    simp [same, eq_comm]
  · rename_i differs
    simp [Ne.symm differs]

theorem mem_usesOf_addOccurrence {table : UseTable} {occurrence : Ident × Option SymbolId}
    {symbol : SymbolId} {position : Int} :
    position ∈ (table.addOccurrence occurrence).usesOf symbol ↔
      (occurrence.2 = some symbol ∧ occurrence.1.position = position) ∨
        position ∈ table.usesOf symbol := by
  obtain ⟨ident, symbol?⟩ := occurrence
  cases symbol? with
  | none => simp [addOccurrence]
  | some found => simp [addOccurrence, mem_usesOf_add]

/-- The positions in the table of occurrences ascend. -/
theorem ascends_ofOccurrences (occurrences : List (Ident × Option SymbolId)) :
    (ofOccurrences occurrences).Ascends := by
  rw [ofOccurrences_eq]
  refine List.foldlRecOn occurrences addOccurrence ascends_empty ?_
  intro table ascends occurrence _
  exact ascends.addOccurrence occurrence

/-- The table of occurrences holds the positions of the occurrences of a symbol. -/
theorem mem_usesOf_ofOccurrences {occurrences : List (Ident × Option SymbolId)}
    {symbol : SymbolId} {position : Int} :
    position ∈ (ofOccurrences occurrences).usesOf symbol ↔
      ∃ ident, (ident, some symbol) ∈ occurrences ∧ ident.position = position := by
  have fromTable (table : UseTable) :
      position ∈ (occurrences.foldl addOccurrence table).usesOf symbol ↔
        (∃ ident, (ident, some symbol) ∈ occurrences ∧ ident.position = position) ∨
          position ∈ table.usesOf symbol := by
    induction occurrences generalizing table with
    | nil => simp
    | cons occurrence rest ih =>
        obtain ⟨ident, symbol?⟩ := occurrence
        rw [List.foldl_cons, ih, mem_usesOf_addOccurrence, ← or_assoc]
        apply or_congr_left
        simp only [List.mem_cons, Prod.mk.injEq]
        constructor
        · rintro (⟨other, mem, position_eq⟩ | ⟨rfl, position_eq⟩)
          · exact ⟨other, .inr mem, position_eq⟩
          · exact ⟨ident, .inl ⟨rfl, rfl⟩, position_eq⟩
        · rintro ⟨other, ⟨rfl, rfl⟩ | mem, position_eq⟩
          · exact .inr ⟨rfl, position_eq⟩
          · exact .inl ⟨other, mem, position_eq⟩
  rw [ofOccurrences_eq, fromTable]
  simp [empty, usesOf]

section Resolution

variable {resolution : Resolution} {symbol : SymbolId}

theorem pairwise_usesOf_ofResolution :
    ((ofResolution resolution).usesOf symbol).Pairwise (· < ·) :=
  ascends_ofOccurrences _ symbol

/-- The table of a resolution holds the positions of the names that it resolves. -/
theorem mem_usesOf_ofResolution {position : Int} :
    position ∈ (ofResolution resolution).usesOf symbol ↔
      ∃ use, (use, symbol) ∈ resolution.uses ∧ use.position = position := by
  rw [ofResolution, mem_usesOf_ofOccurrences]
  simp

end Resolution

end UseTable
end ShadowLint
