import ShadowLint.Proofs.Scan

/-!
# Findings as first reports

Findings grow report by report, and a report at a position that is taken is dropped.  So they are
the first reports at each position.
-/

namespace ShadowLint
namespace Findings

theorem covers_empty (position : Int) : empty.covers position = false := rfl

theorem covers_iff {findings : Findings} {position : Int} :
    findings.covers position ↔
      ∃ diagnostic ∈ findings.diagnostics, diagnostic.start = position := by
  simp [covers]

theorem mem_add {findings : Findings} {report diagnostic : Diagnostic}
    (mem : diagnostic ∈ (findings.add report).diagnostics) :
    diagnostic ∈ findings.diagnostics ∨ diagnostic = report := by
  unfold add at mem
  split at mem
  · exact .inl mem
  · simpa using mem

/-- The findings behind several reports. -/
def addAll (findings : Findings) (reports : List Diagnostic) : Findings :=
  reports.foldl add findings

@[simp]
theorem addAll_nil (findings : Findings) : findings.addAll [] = findings := rfl

@[simp]
theorem addAll_cons (findings : Findings) (report : Diagnostic) (rest : List Diagnostic) :
    findings.addAll (report :: rest) = (findings.add report).addAll rest := rfl

theorem addAll_append (findings : Findings) (before after : List Diagnostic) :
    findings.addAll (before ++ after) = (findings.addAll before).addAll after :=
  List.foldl_append

/-- Items that add their reports one after the other add all their reports. -/
theorem foldl_addAll {Item : Type} (reports : Item → List Diagnostic) (items : List Item)
    (findings : Findings) :
    items.foldl (fun before item => before.addAll (reports item)) findings =
      findings.addAll (items.flatMap reports) := by
  induction items generalizing findings with
  | nil => rfl
  | cons item rest ih => rw [List.foldl_cons, ih, List.flatMap_cons, addAll_append]

/-- The positions behind several reports are the old ones and those of the reports. -/
theorem covers_addAll (findings : Findings) (reports : List Diagnostic) (position : Int) :
    (findings.addAll reports).covers position =
      (findings.covers position || reports.any (·.start == position)) := by
  induction reports generalizing findings with
  | nil => simp
  | cons report rest ih => rw [addAll_cons, ih, covers_add, List.any_cons, Bool.or_assoc]

theorem pairwise_addAll {findings : Findings}
    (distinct : findings.diagnostics.Pairwise (·.start ≠ ·.start)) (reports : List Diagnostic) :
    (findings.addAll reports).diagnostics.Pairwise (·.start ≠ ·.start) := by
  induction reports generalizing findings with
  | nil => exact distinct
  | cons report rest ih => exact ih (pairwise_add distinct report)

/-- Findings are the old ones and reports. -/
theorem mem_addAll {findings : Findings} {reports : List Diagnostic} {diagnostic : Diagnostic}
    (mem : diagnostic ∈ (findings.addAll reports).diagnostics) :
    diagnostic ∈ findings.diagnostics ∨ diagnostic ∈ reports := by
  induction reports generalizing findings with
  | nil => exact .inl mem
  | cons report rest ih =>
      rcases ih mem with added | later
      · rcases mem_add added with old | rfl
        · exact .inl old
        · exact .inr List.mem_cons_self
      · exact .inr (List.mem_cons_of_mem _ later)

/-- Several reports add the first ones at each position that is not taken. -/
theorem diagnostics_addAll (findings : Findings) (reports : List Diagnostic) :
    (findings.addAll reports).diagnostics =
      findings.diagnostics ++
        (reports.filter fun report => !findings.covers report.start).eraseDupsBy
          (·.start == ·.start) := by
  -- A report that is kept takes its position from the rest, so the findings have to vary.
  induction reports generalizing findings with
  | nil => simp
  | cons report rest ih =>
      rw [addAll_cons, ih]
      by_cases covered : findings.covers report.start = true
      · have kept : findings.add report = findings := if_pos covered
        rw [kept, List.filter_cons_of_neg (by simp [covered])]
      · have grown : (findings.add report).diagnostics = findings.diagnostics ++ [report] := by
          rw [add, if_neg covered]
        rw [List.filter_cons_of_pos (by simpa using covered), List.eraseDupsBy_cons, grown,
          List.append_assoc, List.singleton_append, List.filter_filter]
        congr 3
        refine List.filter_congr fun other _ => ?_
        rw [covers_add, Bool.not_or, Bool.and_comm]
        by_cases same : other.start = report.start
        · simp [same]
        · simp [same, Ne.symm same]

/-- From the beginning, findings are the first reports at each position. -/
theorem diagnostics_addAll_empty (reports : List Diagnostic) :
    (empty.addAll reports).diagnostics = reports.eraseDupsBy (·.start == ·.start) := by
  have uncovered (report : Diagnostic) : (!empty.covers report.start) = true := by
    rw [covers_empty, Bool.not_false]
  rw [diagnostics_addAll, List.filter_eq_self.mpr fun report _ => uncovered report]
  rfl

/-- Reports at different positions are all kept. -/
theorem diagnostics_addAll_of_pairwise {reports : List Diagnostic}
    (distinct : reports.Pairwise (·.start ≠ ·.start)) :
    (empty.addAll reports).diagnostics = reports := by
  rw [diagnostics_addAll_empty]
  induction reports with
  | nil => rfl
  | cons report rest ih =>
      obtain ⟨differ, rest_distinct⟩ := List.pairwise_cons.mp distinct
      have kept : rest.filter (fun other => (other.start == report.start) = false) = rest := by
        refine List.filter_eq_self.mpr fun other mem => ?_
        simpa using (differ other mem).symm
      rw [List.eraseDupsBy_cons, kept, ih rest_distinct]

theorem settles_report (space : PositionSpace) (findings : Findings) (diagnostic : Diagnostic) :
    (findings.report space diagnostic).Settles none (findings.add diagnostic) := by
  unfold report
  split
  · exact (Trace.settles_tell _).bind_none (Trace.settles_pure _)
  · exact Trace.settles_pure _

end Findings
end ShadowLint
