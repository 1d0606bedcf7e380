import ShadowLint.Proofs.LaterUse

/-!
# What more uses and fewer writes change

The rules of thumb react in one direction.  More uses of a variable, fewer writes to it and a later
declaration can only make its writes count as read, and more uses of an outer variable can only make
it count as used later.  So a name stays reported where less speaks for its symbol being in use and
more for the hidden one.
-/

namespace ShadowLint
namespace Suppression

section Uses

variable {uses more : List Int} (uses_ascending : uses.Pairwise (· ≤ ·))
  (more_ascending : more.Pairwise (· ≤ ·)) (uses_subset : uses ⊆ more)
include uses_ascending more_ascending uses_subset

/-- A write that no use reads is not read by fewer uses, and an earlier declaration does not change
that. -/
theorem isUnread_of_subset {declaration later : Int} (le : declaration ≤ later) {write : Write}
    (unread : isUnread later more write) : isUnread declaration uses write := by
  obtain ⟨behind, enclosed⟩ := (isUnread_iff more_ascending).mp unread
  apply (isUnread_iff uses_ascending).mpr
  refine ⟨by omega, fun use mem use_behind => ?_⟩
  exact enclosed use (uses_subset mem) use_behind

/-- Fewer writes behind a later declaration are read by more uses. -/
theorem allRead_of_subset {declaration later : Int} (le : declaration ≤ later)
    {fewer writes : List Write} (writes_subset : fewer ⊆ writes)
    (read : allRead writes declaration uses) : allRead fewer later more := by
  by_contra notRead
  obtain ⟨write, mem, unread⟩ := allRead_eq_false_iff.mp (eq_false_of_ne_true notRead)
  have stillUnread := isUnread_of_subset uses_ascending more_ascending uses_subset le unread
  have someUnread : allRead writes declaration uses = false :=
    allRead_eq_false_iff.mpr ⟨write, writes_subset mem, stillUnread⟩
  exact Bool.false_ne_true (someUnread.symm.trans read)

theorem isUsedLater_of_subset {declaration : Int} {lineOf : Int → Nat}
    (usedLater : isUsedLater uses declaration lineOf) : isUsedLater more declaration lineOf := by
  obtain ⟨use, mem, behind, other_line⟩ := (isUsedLater_iff uses_ascending).mp usedLater
  apply (isUsedLater_iff more_ascending).mpr
  exact ⟨use, uses_subset mem, behind, other_line⟩

end Uses

end Suppression

namespace Evidence

/-- The second evidence speaks at least as much as the first one for reporting that the inner symbol
hides the outer one: it has no further use of the inner symbol, it lacks no write to it and no use
of the outer symbol, and the rest is the same. -/
structure IncreasesTo (inner outer : SymbolId) (before after : Evidence) : Prop where
  /-- The files are the same. -/
  space : after.package.space = before.package.space
  /-- The scopes and symbols are the same. -/
  forest : after.package.forest = before.package.forest
  /-- The same names declare the same symbols. -/
  definitions : after.package.resolution.definitions = before.package.resolution.definitions
  /-- No use of the inner symbol is added. -/
  innerUses : after.usage.usesOf inner ⊆ before.usage.usesOf inner
  /-- No write to the inner symbol is lost. -/
  innerWrites : before.scan.writesTo inner ⊆ after.scan.writesTo inner
  /-- No use of the outer symbol is lost. -/
  outerUses : before.usage.usesOf outer ⊆ after.usage.usesOf outer

end Evidence

namespace Package

section Increase

variable {before after : Package} {inner outer : SymbolId}
  (increases : before.evidence.IncreasesTo inner outer after.evidence) (position : Int)
include increases

theorem isConsumed_of_increasesTo (consumed : after.evidence.isConsumed inner position) :
    before.evidence.isConsumed inner position := by
  have after_ascending := (after.pairwise_usesOf_evidence inner).imp Int.le_of_lt
  have before_ascending := (before.pairwise_usesOf_evidence inner).imp Int.le_of_lt
  exact Suppression.allRead_of_subset after_ascending before_ascending increases.innerUses
    (Int.le_refl position) increases.innerWrites consumed

theorem isUsedLater_of_increasesTo (usedLater : before.evidence.isUsedLater outer position) :
    after.evidence.isUsedLater outer position := by
  have before_ascending := (before.pairwise_usesOf_evidence outer).imp Int.le_of_lt
  have after_ascending := (after.pairwise_usesOf_evidence outer).imp Int.le_of_lt
  have lines_eq : after.evidence.lineOf = before.evidence.lineOf := by
    funext other
    rw [Evidence.lineOf, Evidence.lineOf, increases.space]
  rw [Evidence.isUsedLater, lines_eq]
  exact Suppression.isUsedLater_of_subset before_ascending after_ascending increases.outerUses
    usedLater

end Increase

/-- A name that is found to hide a symbol is found to do so where more speaks for it. -/
theorem verdict_eq_shadows_of_increasesTo {before after : Package} {innerId outerId : SymbolId}
    {ident : Ident} (declares : before.resolution.declaredAt? ident.place = some innerId)
    (hides : before.forest.hidden? innerId = some outerId)
    (increases : before.evidence.IncreasesTo innerId outerId after.evidence)
    {inner outer : Symbol} (shadows : before.evidence.verdict ident = .shadows inner outer) :
    after.evidence.verdict ident = .shadows inner outer := by
  obtain ⟨named, otherInner, otherOuter, declared_eq, hidden_eq, declared, sameType, unread,
    usedLater⟩ := Evidence.verdict_eq_shadows_iff.mp shadows
  have declared_inv := Evidence.declared?_eq_some_iff.mp declared_eq
  have hidden_inv := Evidence.hidden?_eq_some_iff.mp hidden_eq
  obtain rfl : innerId = otherInner := Option.some.inj (declares.symm.trans declared_inv.1)
  obtain rfl : outerId = otherOuter := Option.some.inj (hides.symm.trans hidden_inv.1)
  apply Evidence.verdict_eq_shadows_iff.mpr
  refine ⟨named, innerId, outerId, ?_, ?_, declared, sameType, ?_, ?_⟩
  · rw [Evidence.declared?_eq_some_iff, Resolution.declaredAt?, increases.definitions,
      increases.forest]
    exact declared_inv
  · rw [Evidence.hidden?_eq_some_iff, increases.forest]
    exact hidden_inv
  · by_contra consumed
    have consumed_before := isConsumed_of_increasesTo increases ident.position
      (eq_true_of_ne_false consumed)
    exact Bool.false_ne_true (unread.symm.trans consumed_before)
  · exact isUsedLater_of_increasesTo increases ident.position usedLater

end Package

/-- More uses, fewer writes and a later declaration leave all writes read, and more uses leave an
outer variable used later.  In scanned packages, a name that is reported is reported with the same
diagnostic where more speaks for it: reads of the inner symbol that are added and writes to it that
are removed can only remove the report, and uses of the outer symbol that are added can only create
it. -/
theorem Suppression.reacts_monotonically {uses more : List Int}
    (uses_ascending : uses.Pairwise (· ≤ ·)) (more_ascending : more.Pairwise (· ≤ ·))
    (uses_subset : uses ⊆ more) {fewer writes : List Write} (writes_subset : fewer ⊆ writes)
    {declaration later : Int} (le : declaration ≤ later) (lineOf : Int → Nat) :
    (allRead writes declaration uses → allRead writes declaration more) ∧
      (allRead writes declaration uses → allRead writes later uses) ∧
      (allRead writes declaration uses → allRead fewer declaration uses) ∧
      (isUsedLater uses declaration lineOf → isUsedLater more declaration lineOf) ∧
      ∀ {before after : Package} {evidence changed : Evidence},
        before.gather.outcome.1 = .ok evidence → after.gather.outcome.1 = .ok changed →
        ∀ {ident : Ident} {inner outer : SymbolId},
          before.resolution.declaredAt? ident.place = some inner →
          before.forest.hidden? inner = some outer →
          evidence.IncreasesTo inner outer changed →
          ∀ diagnostic, (evidence.verdict ident).diagnostic? before.space ident = some diagnostic →
            (changed.verdict ident).diagnostic? after.space ident = some diagnostic := by
  refine ⟨fun read => ?_, fun read => ?_, fun read => ?_, fun usedLater => ?_, ?_⟩
  · exact allRead_of_subset uses_ascending more_ascending uses_subset (Int.le_refl declaration)
      (List.Subset.refl writes) read
  · exact allRead_of_subset uses_ascending uses_ascending (List.Subset.refl uses) le
      (List.Subset.refl writes) read
  · exact allRead_of_subset uses_ascending uses_ascending (List.Subset.refl uses)
      (Int.le_refl declaration) writes_subset read
  · exact isUsedLater_of_subset uses_ascending more_ascending uses_subset usedLater
  · intro before after evidence changed gathered regathered ident inner outer declares hides
      increases diagnostic reported
    obtain ⟨-, rfl⟩ := before.settles_gather.outcome_eq_ok_iff.mp gathered
    obtain ⟨-, rfl⟩ := after.settles_gather.outcome_eq_ok_iff.mp regathered
    obtain ⟨innerSymbol, outerSymbol, shadows, rfl⟩ := Verdict.diagnostic?_eq_some_iff.mp reported
    apply Verdict.diagnostic?_eq_some_iff.mpr
    refine ⟨innerSymbol, outerSymbol, ?_, ?_⟩
    · exact Package.verdict_eq_shadows_of_increasesTo declares hides increases shadows
    · have space_eq : after.space = before.space := increases.space
      rw [space_eq]

namespace Specimen

/-- The write of `x = y` at a position to the inner `x`. -/
def innerWrite (position : Int) : Write := ⟨.declared 1, position, position, position + 5⟩

/-- Line by line: `x := y` declares an inner `x`, `y = x` reads it, `x = x` reads it and writes to
it, and `y = x` reads the outer one. -/
def readOnce : List Json :=
  [assignment ":=" [name "x" 21 [("def", .int 1)]] [name "y" 26 []],
    assignment "=" [name "y" 31 []] [name "x" 35 [("use", .int 1)]],
    assignment "=" [name "x" 41 [("use", .int 1)]] [name "x" 45 [("use", .int 1)]]] ++
  outerRead 55

/-- The same with `y, x = y` in place of the first read, a write, and with `x = y` in place of the
second one; the outer `x` is read once more. -/
def readTwice : List Json :=
  [assignment ":=" [name "x" 21 [("def", .int 1)]] [name "y" 26 []],
    assignment "=" [name "y" 31 [], name "x" 35 [("use", .int 1)]] [name "y" 39 []],
    assignment "=" [name "x" 41 [("use", .int 1)]] [name "y" 45 []]] ++
  outerRead 55 ++ outerRead 65

/-- Two writes that are read stay so with a use between them, for a declaration between them, and
for the second one alone.  The inner `x` stays reported with the same diagnostic if it is read less
and written more, and the outer one is read once more. -/
theorem reported_readTwice :
    (Suppression.allRead [innerWrite 31, innerWrite 41] 21 [38, 51] ∧
      Suppression.allRead [innerWrite 31, innerWrite 41] 35 [51] ∧
      Suppression.allRead [innerWrite 41] 21 [51] ∧
      Suppression.isUsedLater [38, 51] 21 (package readOnce).evidence.lineOf) ∧
    ∃ diagnostic,
      ((package readOnce).evidence.verdict (firstTarget "x" 21)).diagnostic?
          (package readOnce).space (firstTarget "x" 21) = some diagnostic ∧
        ((package readTwice).evidence.verdict (firstTarget "x" 21)).diagnostic?
          (package readTwice).space (firstTarget "x" 21) = some diagnostic := by
  have gathered (statements : List Json) (complete : (package statements).scanFault? = none) :
      (package statements).gather.outcome.1 = .ok (package statements).evidence := by
    rw [(package statements).settles_gather.outcome_eq, complete, Option.elim_none]
  have increases : (package readOnce).evidence.IncreasesTo (.declared 1) (.declared 0)
      (package readTwice).evidence :=
    ⟨rfl, rfl, rfl, by decide +kernel, by decide +kernel, by decide +kernel⟩
  have declares : (package readOnce).resolution.declaredAt? (firstTarget "x" 21).place =
      some (.declared 1) := by decide +kernel
  have hides : (package readOnce).forest.hidden? (.declared 1) = some (.declared 0) := by
    decide +kernel
  have reported : (((package readOnce).evidence.verdict (firstTarget "x" 21)).diagnostic?
      (package readOnce).space (firstTarget "x" 21)).isSome := by decide +kernel
  obtain ⟨diagnostic, reported⟩ := Option.isSome_iff_exists.mp reported
  have allRead : Suppression.allRead [innerWrite 31, innerWrite 41] 21 [51] := by decide +kernel
  obtain ⟨moreUses, laterDeclaration, fewerWrites, usedLater, stays⟩ :=
    @Suppression.reacts_monotonically [51] [38, 51] (by decide) (by decide) (by decide)
      [innerWrite 41] [innerWrite 31, innerWrite 41] (by decide) 21 35 (by decide)
      (package readOnce).evidence.lineOf
  refine ⟨⟨moreUses allRead, laterDeclaration allRead, fewerWrites allRead,
    usedLater (by decide +kernel)⟩, diagnostic, reported, ?_⟩
  exact stays (gathered readOnce (by decide +kernel)) (gathered readTwice (by decide +kernel))
    declares hides increases diagnostic reported

end Specimen
end ShadowLint
