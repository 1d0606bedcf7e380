import ShadowLint.Proofs.Dump.Package
import ShadowLint.Proofs.Scan
import ShadowLint.Proofs.Scope.Lookup
import ShadowLint.Proofs.Suppression
import ShadowLint.Proofs.UseTable

/-!
# When a declared name is reported

The verdict on a name is worked out from tables that are collected before.  Here it is compared with
what it means for the trees and the resolution of a package: a name is reported exactly when it
hides a declared symbol of the same type, some write to it is never read, and the hidden symbol is
used on a later line.
-/

namespace ShadowLint

namespace Verdict

theorem diagnostic?_eq_some_iff {space : PositionSpace} {ident : Ident} {verdict : Verdict}
    {diagnostic : Diagnostic} :
    verdict.diagnostic? space ident = some diagnostic ↔
      ∃ inner outer, verdict = .shadows inner outer ∧
        diagnostic = .shadow space ident inner outer := by
  cases verdict <;> simp [diagnostic?, eq_comm]

end Verdict

namespace Evidence

variable {evidence : Evidence}

theorem declared?_eq_some_iff {ident : Ident} {id : SymbolId} {symbol : Symbol} :
    evidence.declared? ident = some (id, symbol) ↔
      evidence.package.resolution.declaredAt? ident.place = some id ∧
        evidence.package.forest.symbol? id = some symbol := by
  simp only [declared?, Option.bind_eq_bind, Option.bind_eq_some_iff, Option.pure_def,
    Option.some.injEq, Prod.mk.injEq]
  constructor
  · rintro ⟨other, declares, symbol', symbol_eq, rfl, rfl⟩
    exact ⟨declares, symbol_eq⟩
  · rintro ⟨declares, symbol_eq⟩
    exact ⟨id, declares, symbol, symbol_eq, rfl, rfl⟩

theorem hidden?_eq_some_iff {inner id : SymbolId} {symbol : Symbol} :
    evidence.hidden? inner = some (id, symbol) ↔
      evidence.package.forest.hidden? inner = some id ∧
        evidence.package.forest.symbol? id = some symbol := by
  simp only [hidden?, Option.bind_eq_bind, Option.bind_eq_some_iff, Option.pure_def,
    Option.some.injEq, Prod.mk.injEq]
  constructor
  · rintro ⟨other, hides, symbol', symbol_eq, rfl, rfl⟩
    exact ⟨hides, symbol_eq⟩
  · rintro ⟨hides, symbol_eq⟩
    exact ⟨id, hides, symbol, symbol_eq, rfl, rfl⟩

/-- A name is found to hide a symbol when no reason against it applies. -/
theorem verdict_eq_shadows_iff {ident : Ident} {inner outer : Symbol} :
    evidence.verdict ident = .shadows inner outer ↔
      ident.name ≠ blankName ∧ ∃ innerId outerId,
        evidence.declared? ident = some (innerId, inner) ∧
        evidence.hidden? innerId = some (outerId, outer) ∧
        outer.owner ≠ some .universe ∧
        Ty.haveSameType inner.type outer.type ∧
        evidence.isConsumed innerId ident.position = false ∧
        evidence.isUsedLater outerId ident.position := by
  unfold verdict
  constructor
  · intro shadows
    split at shadows
    · cases shadows
    rename_i named
    split at shadows
    · cases shadows
    rename_i innerId innerSymbol declares
    split at shadows
    · cases shadows
    rename_i outerId outerSymbol hides
    split at shadows
    · cases shadows
    rename_i declared
    split at shadows
    · cases shadows
    rename_i sameType
    split at shadows
    · cases shadows
    rename_i unread
    split at shadows
    · cases shadows
    rename_i usedLater
    obtain ⟨rfl, rfl⟩ := Verdict.shadows.inj shadows
    exact ⟨named, innerId, outerId, declares, hides, declared, by simpa using sameType,
      by simpa using unread, by simpa using usedLater⟩
  · rintro ⟨named, innerId, outerId, declares, hides, declared, sameType, unread, usedLater⟩
    simp [named, declares, hides, declared, sameType, unread, usedLater]

end Evidence

namespace Package

/-- The statement assigns to the name, or increments it. -/
structure WritesTo (package : Package) (statement : Node) (ident : Ident) (symbol : SymbolId) :
    Prop where
  /-- The statement stands in one of the trees. -/
  mem : statement ∈ package.nodes
  /-- The name is a target of the statement. -/
  isTarget : ∃ target, target.ident? = some ident ∧
    ((statement.kind = .assignStmt ∧ target ∈ statement.nodes "lhs") ∨
      (statement.kind = .incDecStmt ∧ target ∈ statement.nodes "x"))
  /-- The name uses the symbol. -/
  uses : package.resolution.usedAt? ident.place = some symbol

/-- Some write to the symbol behind a position is never read: all uses of the symbol behind the
written name lie in the statement that writes. -/
def HasUnreadWrite (package : Package) (symbol : SymbolId) (position : Int) : Prop :=
  ∃ statement ident start stop, package.WritesTo statement ident symbol ∧
    statement.start? = some start ∧ statement.stop? = some stop ∧ position < ident.position ∧
    ∀ use, (use, symbol) ∈ package.resolution.uses → ident.position < use.position →
      start ≤ use.position ∧ use.position < stop

/-- The symbol is used behind a position and on another line. -/
def IsUsedLater (package : Package) (symbol : SymbolId) (position : Int) : Prop :=
  ∃ use, (use, symbol) ∈ package.resolution.uses ∧ position < use.position ∧
    (package.space.location use.position).line ≠ (package.space.location position).line

/-- The name declares a symbol that hides another one, and nothing speaks for it being meant. -/
structure IsSuspicious (package : Package) (ident : Ident) (innerId : SymbolId) (inner : Symbol)
    (outerId : SymbolId) (outer : Symbol) : Prop where
  /-- The name is not the name of nothing. -/
  named : ident.name ≠ "_"
  /-- It declares the inner symbol. -/
  declares : package.resolution.declaredAt? ident.place = some innerId
  /-- The inner symbol has these properties. -/
  inner_eq : package.forest.symbol? innerId = some inner
  /-- The inner symbol hides the outer one. -/
  hides : package.forest.HidesDeclared inner outerId outer
  /-- Both have the same type. -/
  sameType : Ty.identicalOptions inner.type outer.type
  /-- Some write to the inner symbol is never read. -/
  unread : package.HasUnreadWrite innerId ident.position
  /-- The outer symbol is used on a later line. -/
  usedLater : package.IsUsedLater outerId ident.position

end Package

namespace Package

variable {package : Package}

/-- A scan that does not break off collects exactly the writes to names of symbols. -/
theorem mem_writesTo_iff (complete : package.scanFault? = none) {symbol : SymbolId}
    {write : Write} :
    write ∈ package.evidence.scan.writesTo symbol ↔
      write.symbol = symbol ∧ ∃ statement ident, package.WritesTo statement ident symbol ∧
        ident.position = write.position ∧
        statement.start? = some write.statementStart ∧
        statement.stop? = some write.statementStop := by
  rw [Scan.writesTo, List.mem_filter, beq_iff_eq, and_comm]
  refine and_congr_right fun symbol_eq => ?_
  rw [evidence, Scan.collected, ← List.flatMap_def, List.mem_flatMap]
  constructor
  · rintro ⟨statement, mem, write_mem⟩
    obtain ⟨⟨ident, written⟩, written_mem, rfl⟩ := List.mem_map.mp write_mem
    obtain rfl : written = symbol := symbol_eq
    have span := Scan.exists_span_of_complete complete mem (List.ne_nil_of_mem written_mem)
    obtain ⟨target, target_mem, ident_eq, uses⟩ := Node.mem_writtenSymbols_iff.mp written_mem
    exact ⟨statement, ident, ⟨mem, ⟨target, ident_eq, Node.mem_targets_iff.mp target_mem⟩, uses⟩,
      rfl, span⟩
  · rintro ⟨statement, ident, ⟨mem, ⟨target, ident_eq, isTarget⟩, uses⟩, position_eq, starts,
      stops⟩
    have written_mem : (ident, symbol) ∈ statement.writtenSymbols package.resolution :=
      Node.mem_writtenSymbols_iff.mpr
        ⟨target, Node.mem_targets_iff.mpr isTarget, ident_eq, uses⟩
    have span := Scan.exists_span_of_complete complete mem (List.ne_nil_of_mem written_mem)
    refine ⟨statement, mem, List.mem_map.mpr ⟨(ident, symbol), written_mem, ?_⟩⟩
    obtain ⟨writtenSymbol, position, start, stop⟩ := write
    simp_all [Node.writeOrNowhere]

theorem pairwise_usesOf_evidence (symbol : SymbolId) :
    (package.evidence.usage.usesOf symbol).Pairwise (· < ·) :=
  UseTable.pairwise_usesOf_ofResolution

theorem mem_usesOf_evidence_iff {symbol : SymbolId} {position : Int} :
    position ∈ package.evidence.usage.usesOf symbol ↔
      ∃ use, (use, symbol) ∈ package.resolution.uses ∧ use.position = position :=
  UseTable.mem_usesOf_ofResolution

theorem isConsumed_eq_false_iff (complete : package.scanFault? = none) {symbol : SymbolId}
    {position : Int} :
    package.evidence.isConsumed symbol position = false ↔
      package.HasUnreadWrite symbol position := by
  unfold Evidence.isConsumed
  rw [Suppression.allRead_eq_false_iff]
  have ascending := (package.pairwise_usesOf_evidence symbol).imp Int.le_of_lt
  constructor
  · rintro ⟨write, mem, unread⟩
    obtain ⟨-, statement, ident, writes, position_eq, start_eq, stop_eq⟩ :=
      (mem_writesTo_iff complete).mp mem
    obtain ⟨behind, enclosed⟩ := (Suppression.isUnread_iff ascending).mp unread
    refine ⟨statement, ident, _, _, writes, start_eq, stop_eq, position_eq ▸ behind, ?_⟩
    intro use use_mem use_behind
    exact enclosed use.position (mem_usesOf_evidence_iff.mpr ⟨use, use_mem, rfl⟩)
      (position_eq ▸ use_behind)
  · rintro ⟨statement, ident, start, stop, writes, start_eq, stop_eq, behind, enclosed⟩
    refine ⟨⟨symbol, ident.position, start, stop⟩, ?_, ?_⟩
    · exact (mem_writesTo_iff complete).mpr
        ⟨rfl, statement, ident, writes, rfl, start_eq, stop_eq⟩
    · refine (Suppression.isUnread_iff ascending).mpr ⟨behind, fun position mem use_behind => ?_⟩
      obtain ⟨use, use_mem, rfl⟩ := mem_usesOf_evidence_iff.mp mem
      exact enclosed use use_mem use_behind

theorem isUsedLater_iff {symbol : SymbolId} {position : Int} :
    package.evidence.isUsedLater symbol position ↔ package.IsUsedLater symbol position := by
  unfold Evidence.isUsedLater
  rw [Suppression.isUsedLater_iff ((package.pairwise_usesOf_evidence symbol).imp Int.le_of_lt)]
  constructor
  · rintro ⟨found, mem, behind, other_line⟩
    obtain ⟨use, use_mem, rfl⟩ := mem_usesOf_evidence_iff.mp mem
    exact ⟨use, use_mem, behind, other_line⟩
  · rintro ⟨use, use_mem, behind, other_line⟩
    exact ⟨use.position, mem_usesOf_evidence_iff.mpr ⟨use, use_mem, rfl⟩, behind,
      other_line⟩

/-- A name is found to hide a symbol exactly if it is suspicious. -/
theorem verdict_eq_shadows_iff (wellFormed : package.WellFormed)
    (complete : package.scanFault? = none) {ident : Ident} {inner outer : Symbol} :
    package.evidence.verdict ident = .shadows inner outer ↔
      ∃ innerId outerId, package.IsSuspicious ident innerId inner outerId outer := by
  rw [Evidence.verdict_eq_shadows_iff]
  simp only [Evidence.declared?_eq_some_iff, Evidence.hidden?_eq_some_iff, Ty.haveSameType_eq,
    isConsumed_eq_false_iff complete, isUsedLater_iff]
  constructor
  · rintro ⟨named, innerId, outerId, ⟨declares, inner_eq⟩, ⟨hides, outer_eq⟩, declared, sameType,
      unread, usedLater⟩
    exact ⟨innerId, outerId, named, declares, inner_eq,
      (wellFormed.owned.hidesDeclared_iff inner_eq).mpr ⟨hides, outer_eq, declared⟩, sameType,
      unread, usedLater⟩
  · rintro ⟨innerId, outerId, named, declares, inner_eq, hides, sameType, unread, usedLater⟩
    obtain ⟨hides, outer_eq, declared⟩ := (wellFormed.owned.hidesDeclared_iff inner_eq).mp hides
    exact ⟨named, innerId, outerId, ⟨declares, inner_eq⟩, ⟨hides, outer_eq⟩, declared, sameType,
      unread, usedLater⟩

/-- Where a package was read and gathering the evidence did not break off, a name is reported
exactly if it is suspicious. -/
theorem diagnostic?_eq_some_iff_isSuspicious {document : Json} {package : Package}
    {evidence : Evidence} (read : Dump.package document = .ok package)
    (gathered : package.gather.outcome.1 = .ok evidence) (ident : Ident) (diagnostic : Diagnostic) :
    (evidence.verdict ident).diagnostic? package.space ident = some diagnostic ↔
      ∃ innerId inner outerId outer, package.IsSuspicious ident innerId inner outerId outer ∧
        diagnostic = .shadow package.space ident inner outer := by
  obtain ⟨complete, rfl⟩ := package.settles_gather.outcome_eq_ok_iff.mp gathered
  have wellFormed := Dump.wellFormed_of_package read
  rw [Verdict.diagnostic?_eq_some_iff]
  simp only [verdict_eq_shadows_iff wellFormed complete]
  constructor
  · rintro ⟨inner, outer, ⟨innerId, outerId, suspicious⟩, rfl⟩
    exact ⟨innerId, inner, outerId, outer, suspicious, rfl⟩
  · rintro ⟨innerId, inner, outerId, outer, suspicious, rfl⟩
    exact ⟨inner, outer, ⟨innerId, outerId, suspicious⟩, rfl⟩

end Package

namespace Specimen

/-- The object of a name, with the members that resolve it. -/
def name (text : String) (position : Int) (resolution : List (String × Json)) : Json :=
  .object ([("node", .string "Ident"), ("name", .string text), ("name_pos", .int position)] ++
    resolution)

/-- The object of an assignment. -/
def assignment (token : String) (targets values : List Json) : Json :=
  .object [("node", .string "AssignStmt"), ("lhs", .array targets), ("tok_pos", .int 0),
    ("tok", .string token), ("rhs", .array values)]

/-- The object of a symbol with the name `x` and without a type. -/
def symbol (position scope : Int) : Json :=
  .object [("name", .string "x"), ("pos", .int position), ("scope", .int scope)]

/-- A dump of one file of ten lines, with ten characters each.  It holds one function with the given
statements, and its symbols 0 and 1 are two variables `x` of nested scopes. -/
def document (statements : List Json) : Json :=
  .object [("package", .string "p"),
    ("scopes", .array [.object [], .object [("parent", .int 0)]]),
    ("symbols", .array [symbol 11 0, symbol 21 1]),
    ("files", .array [.object [("name", .string "p.go"), ("size", .int 100),
      ("line_starts", .array ((List.range 10).map fun line => .int (10 * line))),
      ("syntax", .object [("node", .string "File"), ("package_pos", .int 1),
        ("name", name "p" 9 []),
        ("decls", .array [.object [("node", .string "FuncDecl"), ("func_pos", .int 2),
          ("name", name "f" 7 []),
          ("body", .object [("node", .string "BlockStmt"), ("lbrace", .int 9),
            ("stmts", .array statements), ("rbrace", .int 99)])]])])]])]

/-- The package in a specimen. -/
def package (statements : List Json) : Package :=
  match Dump.package (document statements) with
  | .ok package => package
  | .error _ => ⟨"", .empty, [], ⟨#[], #[]⟩, .empty, .empty⟩

/-- Line by line: `x := x` declares an inner `x`, `x = y` writes to it, and `y = x` reads the outer
one. -/
def unreadWrite : List Json :=
  [assignment ":=" [name "x" 21 [("def", .int 1)]] [name "y" 26 []],
    assignment "=" [name "x" 31 [("use", .int 1)]] [name "y" 35 []],
    assignment "=" [name "y" 41 []] [name "x" 45 [("use", .int 0)]]]

/-- The first target of the first statement in a specimen. -/
def firstTarget (text : String) (position : Int) : Ident :=
  ⟨[.item 0, .field "lhs", .item 0, .field "stmts", .field "body", .item 0, .field "decls",
    .item 0], text, position⟩

/-- The inner `x` is reported, and therefore suspicious. -/
theorem isSuspicious_firstTarget :
    ∃ innerId inner outerId outer,
      (package unreadWrite).IsSuspicious (firstTarget "x" 21) innerId inner outerId outer := by
  have read : Dump.package (document unreadWrite) = .ok (package unreadWrite) := rfl
  have complete : (package unreadWrite).scanFault? = none := by decide +kernel
  have gathered : (package unreadWrite).gather.outcome.1 = .ok (package unreadWrite).evidence := by
    rw [(package unreadWrite).settles_gather.outcome_eq, complete, Option.elim_none]
  have reported : (((package unreadWrite).evidence.verdict (firstTarget "x" 21)).diagnostic?
      (package unreadWrite).space (firstTarget "x" 21)).isSome := by
    decide +kernel
  obtain ⟨diagnostic, reported⟩ := Option.isSome_iff_exists.mp reported
  obtain ⟨innerId, inner, outerId, outer, suspicious, -⟩ :=
    (Package.diagnostic?_eq_some_iff_isSuspicious read gathered _ diagnostic).mp reported
  exact ⟨innerId, inner, outerId, outer, suspicious⟩

end Specimen
end ShadowLint
