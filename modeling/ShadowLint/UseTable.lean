import ShadowLint.Order.Bisection
import ShadowLint.Resolution

/-!
# Uses of symbols

The positions at which each symbol is used, ascending and without repetitions.
-/

namespace ShadowLint

/-- Puts a position into ascending positions, unless it is there. -/
def insertAscending (position : Int) : List Int → List Int
  | [] => [position]
  | first :: rest =>
      if position < first then position :: first :: rest
      else if position = first then first :: rest
      else first :: insertAscending position rest

theorem mem_insertAscending {position other : Int} {positions : List Int} :
    other ∈ insertAscending position positions ↔ other = position ∨ other ∈ positions := by
  induction positions with
  | nil => simp [insertAscending]
  | cons first rest ih =>
      unfold insertAscending
      split
      · simp
      · split
        · rename_i same
          simp [same]
        · simp only [List.mem_cons, ih]
          exact or_left_comm

theorem pairwise_insertAscending {position : Int} {positions : List Int}
    (ascending : positions.Pairwise (· < ·)) :
    (insertAscending position positions).Pairwise (· < ·) := by
  induction positions with
  | nil => simp [insertAscending]
  | cons first rest ih =>
      obtain ⟨first_lt, rest_ascending⟩ := List.pairwise_cons.mp ascending
      unfold insertAscending
      split
      · rename_i before
        refine List.pairwise_cons.mpr ⟨fun other mem => ?_, ascending⟩
        rcases List.mem_cons.mp mem with rfl | mem
        · exact before
        · exact Int.lt_trans before (first_lt other mem)
      · split
        · exact ascending
        · refine List.pairwise_cons.mpr ⟨fun other mem => ?_, ih rest_ascending⟩
          rcases mem_insertAscending.mp mem with rfl | mem
          · omega
          · exact first_lt other mem

/-- Where symbols are used. -/
structure UseTable where
  /-- The used symbols with the positions of their uses. -/
  entries : List (SymbolId × List Int)
deriving DecidableEq, Repr

namespace UseTable

/-- No uses. -/
def empty : UseTable := ⟨[]⟩

/-- The positions at which a symbol is used. -/
def usesOf (table : UseTable) (symbol : SymbolId) : List Int :=
  (table.entries.lookup symbol).getD []

/-- The positions behind a limit at which a symbol is used. -/
def usesAfter (table : UseTable) (symbol : SymbolId) (limit : Int) : List Int :=
  entriesAfter (table.usesOf symbol) limit

/-- Puts a use into entries. -/
def insertUse (symbol : SymbolId) (position : Int) :
    List (SymbolId × List Int) → List (SymbolId × List Int)
  | [] => [(symbol, [position])]
  | (first, positions) :: rest =>
      if first = symbol then (first, insertAscending position positions) :: rest
      else (first, positions) :: insertUse symbol position rest

/-- Adds a use of a symbol at a position. -/
def add (table : UseTable) (symbol : SymbolId) (position : Int) : UseTable :=
  ⟨insertUse symbol position table.entries⟩

/-- A use is added to the uses of its symbol and to no others. -/
theorem usesOf_add (table : UseTable) (symbol other : SymbolId) (position : Int) :
    (table.add symbol position).usesOf other =
      if other = symbol then insertAscending position (table.usesOf other)
      else table.usesOf other := by
  unfold add usesOf
  induction table.entries with
  | nil =>
      by_cases same : other = symbol
      · simp [insertUse, same, insertAscending]
      · have differs : (other == symbol) = false := by simpa using same
        simp [insertUse, List.lookup_cons, same, differs]
  | cons entry rest ih =>
      obtain ⟨first, positions⟩ := entry
      unfold insertUse
      by_cases found : first = symbol
      · by_cases same : other = symbol
        · simp [found, same]
        · have differs : (other == symbol) = false := by simpa using same
          simp [found, List.lookup_cons, same, differs]
      · by_cases here : other = first
        · simp [here, found]
        · have differs : (other == first) = false := by simpa using here
          simpa [List.lookup_cons, differs, found] using ih

/-- The table of occurrences of names; those that stand for no symbol are left out. -/
def ofOccurrences (occurrences : List (Ident × Option SymbolId)) : UseTable :=
  occurrences.foldl
    (fun table (ident, symbol?) => symbol?.elim table fun symbol => table.add symbol ident.position)
    empty

/-- The table of the names that a resolution resolves as uses. -/
def ofResolution (resolution : Resolution) : UseTable :=
  ofOccurrences (resolution.uses.map fun (ident, symbol) => (ident, some symbol))

end UseTable

end ShadowLint
