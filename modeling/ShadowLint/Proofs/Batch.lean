import ShadowLint.CommandLine.Run
import ShadowLint.Proofs.Completion

/-!
# Several dumps at once

A file that holds no package does not stop the analysis of others, and every package has the report
that it has alone.  What does stop it is a package whose analysis breaks off, or a file with a fault
that ends the analysis.
-/

namespace ShadowLint

namespace BatchResult

/-- The fault at which the analysis of what stands at a path breaks off. -/
def pathFault? (read : Path → Except ReadFault Json) (path : Path) : Option NoEdge :=
  match Dump.load (read path) with
  | .error _ => none
  | .ok package => package.fault?

/-- The report on what stands at a path, if it is a package. -/
def pathReport? (read : Path → Except ReadFault Json) (path : Path) : Option Report :=
  match Dump.load (read path) with
  | .error _ => none
  | .ok package => some package.finalReport

/-- The outcome for some paths where no analysis breaks off. -/
def collected (read : Path → Except ReadFault Json) (paths : List Path) : BatchResult where
  results := paths.filterMap (pathReport? read)
  failures := paths.filter fun path => (pathReport? read path).isNone

/-- The outcome with one more path. -/
def after (read : Path → Except ReadFault Json) (batch : BatchResult) (path : Path) : BatchResult :=
  match pathReport? read path with
  | none => { batch with failures := batch.failures ++ [path] }
  | some report => { batch with results := batch.results ++ [report] }

variable (read : Path → Except ReadFault Json) (config : Config)

theorem settles_add (batch : BatchResult) (path : Path) :
    (add read config batch path).Settles (pathFault? read path) (after read batch path) := by
  unfold add pathFault? after pathReport?
  cases Dump.load (read path) with
  | error fault => exact (Trace.settles_tell _).bind_none (Trace.settles_pure _)
  | ok package =>
      refine (Trace.settles_tell _).bind_none ?_
      dsimp only
      rw [← Option.or_none (o := package.fault?)]
      exact (package.settles_analyze config).bind fun _ => Trace.settles_pure _

theorem foldl_after (paths : List Path) (start : BatchResult) :
    paths.foldl (after read) start =
      ⟨start.results ++ (collected read paths).results,
        start.failures ++ (collected read paths).failures⟩ := by
  induction paths generalizing start with
  | nil => simp [collected]
  | cons path rest ih =>
      rw [List.foldl_cons, ih]
      cases report_eq : pathReport? read path with
      | none => simp [after, collected, report_eq]
      | some report => simp [after, collected, report_eq]

/-- Paths are analysed up to the first package whose analysis breaks off. -/
theorem settles_ofPaths (paths : List Path) :
    (ofPaths read config paths).Settles (paths.findSome? (pathFault? read))
      (collected read paths) := by
  have settles := Trace.settles_foldlM (settles_add read config) paths ⟨[], []⟩
  rw [foldl_after] at settles
  exact settles

theorem isNone_pathReport? (path : Path) :
    (pathReport? read path).isNone = !(Dump.load (read path)).isOk := by
  unfold pathReport?
  cases Dump.load (read path) <;> rfl

/-- Where no analysis breaks off, every package has the report that it has alone. -/
theorem forall₂_results {paths : List Path}
    (complete : ∀ path ∈ paths, pathFault? read path = none) :
    List.Forall₂
      (fun path report => ∃ package, Dump.load (read path) = .ok package ∧
        (package.analyze config).outcome.1 = .ok report)
      (paths.filter fun path => (Dump.load (read path)).isOk) (collected read paths).results := by
  induction paths with
  | nil => exact .nil
  | cons path rest ih =>
      obtain ⟨faultless, rest_faultless⟩ := List.forall_mem_cons.mp complete
      replace ih := ih rest_faultless
      unfold collected at ih ⊢
      dsimp only at ih ⊢
      unfold pathFault? at faultless
      cases load_eq : Dump.load (read path) with
      | error fault =>
          have unreported : pathReport? read path = none := by simp [pathReport?, load_eq]
          rw [List.filter_cons_of_neg (by simp [load_eq, Except.isOk, Except.toBool]),
            List.filterMap_cons_none unreported]
          exact ih
      | ok package =>
          have reported : pathReport? read path = some package.finalReport := by
            simp [pathReport?, load_eq]
          rw [load_eq] at faultless
          rw [List.filter_cons_of_pos (by simp [load_eq, Except.isOk, Except.toBool]),
            List.filterMap_cons_some reported]
          have alone := (package.settles_analyze config).outcome_eq_ok_iff.mpr ⟨faultless, rfl⟩
          exact .cons ⟨package, load_eq, alone⟩ ih

end BatchResult

theorem getElem?_length_takeWhile_bind {Item Result : Type} (found? : Item → Option Result)
    (items : List Item) :
    (items[(items.takeWhile fun item => (found? item).isNone).length]?).bind found? =
      items.findSome? found? := by
  induction items with
  | nil => rfl
  | cons item rest ih =>
      cases found : found? item with
      | none => simpa [found] using ih
      | some result => simp [found]

section AnalyzeAll

variable (status : Path → PathStatus) (config : Config) (paths : List Path)

/-- The document at a path, if there is one. -/
def documentAt (path : Path) : Except ReadFault Json :=
  (status path).document

/-- The paths before the first fault that ends the analysis. -/
def readablePaths : List Path :=
  paths.takeWhile fun path => (status path).fatal?.isNone

/-- The analysis of several dumps has an outcome for all of them, unless the analysis of one breaks
off or a fault ends it. -/
theorem analyzeAll_fst :
    (analyzeAll status config paths).1 =
      ((readablePaths status paths).findSome? (BatchResult.pathFault? (documentAt status))).elim
        ((paths.findSome? fun path => (status path).fatal?).elim
          (.ok (.collected (documentAt status) (readablePaths status paths)))
          fun fault => .error (.fatal fault))
        fun fault => .error (.noEdge fault) := by
  have settles := (BatchResult.settles_ofPaths (documentAt status) config
    (readablePaths status paths)).outcome_eq
  have fatal := getElem?_length_takeWhile_bind (fun path => (status path).fatal?) paths
  unfold analyzeAll
  dsimp only
  rw [fatal]
  split
  · rename_i fault events outcome_eq
    have broken := settles.symm.trans (congrArg Prod.fst outcome_eq)
    cases fault_eq : (readablePaths status paths).findSome?
        (BatchResult.pathFault? (documentAt status)) with
    | none => simp [fault_eq] at broken
    | some found =>
        obtain rfl : found = fault := by simpa [fault_eq] using broken
        rfl
  · rename_i batch events outcome_eq
    have complete := settles.symm.trans (congrArg Prod.fst outcome_eq)
    cases fault_eq : (readablePaths status paths).findSome?
        (BatchResult.pathFault? (documentAt status)) with
    | some found => simp [fault_eq] at complete
    | none =>
        obtain rfl : BatchResult.collected (documentAt status) (readablePaths status paths) =
            batch := by
          simpa [fault_eq] using complete
        cases paths.findSome? fun path => (status path).fatal? <;> rfl

/-- The package at a path does not make its analysis break off. -/
theorem pathFault?_eq_none_iff {path : Path} :
    BatchResult.pathFault? (documentAt status) path = none ↔
      ∀ package, Dump.load (documentAt status path) = .ok package → ¬package.LacksEdge := by
  unfold BatchResult.pathFault?
  cases load_eq : Dump.load (documentAt status path) with
  | error fault => simp
  | ok package =>
      obtain ⟨document, -, read⟩ := Dump.bind_eq_ok_iff.mp load_eq
      have wellFormed := Dump.wellFormed_of_package (Dump.mapError_eq_ok_iff.mp read)
      simp [Package.fault?_eq_none_iff wellFormed]

variable {paths}

theorem readablePaths_eq_self (fatal : paths.findSome? (fun path => (status path).fatal?) = none) :
    readablePaths status paths = paths := by
  apply List.takeWhile_eq_self_iff.mpr
  intro path mem
  rw [List.findSome?_eq_none_iff.mp fatal path mem, Option.isNone_none]

/-- Several dumps are analysed to the end where nothing ends the analysis and no analysis breaks
off. -/
theorem analyzeAll_eq_ok_iff {batch : BatchResult} :
    (analyzeAll status config paths).1 = .ok batch ↔
      paths.findSome? (fun path => (status path).fatal?) = none ∧
        paths.findSome? (BatchResult.pathFault? (documentAt status)) = none ∧
        BatchResult.collected (documentAt status) paths = batch := by
  rw [analyzeAll_fst]
  cases fatal : paths.findSome? fun path => (status path).fatal? with
  | some fault =>
      cases (readablePaths status paths).findSome?
        (BatchResult.pathFault? (documentAt status)) <;> simp
  | none =>
      rw [readablePaths_eq_self status fatal]
      cases paths.findSome? (BatchResult.pathFault? (documentAt status)) <;> simp

variable (paths)

/-- Several dumps are analysed to the end exactly if no file ends the analysis and no package lacks
an edge that is needed.  Then the failures are the paths of the files without packages, and every
other path has the report that its package has alone.  Otherwise the outcome is such a fault. -/
theorem analyzeAll_spec :
    ((∃ batch, (analyzeAll status config paths).1 = .ok batch) ↔
      ∀ path ∈ paths, (status path).fatal? = none ∧
        ∀ package, Dump.load (documentAt status path) = .ok package → ¬package.LacksEdge) ∧
    (∀ batch, (analyzeAll status config paths).1 = .ok batch →
      batch.failures = paths.filter (fun path => !(Dump.load (documentAt status path)).isOk) ∧
      List.Forall₂
        (fun path report => ∃ package, Dump.load (documentAt status path) = .ok package ∧
          (package.analyze config).outcome.1 = .ok report)
        (paths.filter fun path => (Dump.load (documentAt status path)).isOk) batch.results) ∧
    (∀ crash, (analyzeAll status config paths).1 = .error crash →
      (∃ fault, crash = .noEdge fault) ∨
        ∃ path ∈ paths, ∃ fault, (status path).fatal? = some fault ∧ crash = .fatal fault) := by
  refine ⟨?_, fun batch analyzed => ?_, fun crash crashed => ?_⟩
  · simp only [analyzeAll_eq_ok_iff, exists_and_left, exists_eq', and_true,
      List.findSome?_eq_none_iff, pathFault?_eq_none_iff]
    constructor
    · rintro ⟨fatal, complete⟩ path mem
      exact ⟨fatal path mem, complete path mem⟩
    · intro all
      exact ⟨fun path mem => (all path mem).1, fun path mem => (all path mem).2⟩
  · obtain ⟨-, complete, rfl⟩ := (analyzeAll_eq_ok_iff status config).mp analyzed
    refine ⟨?_, BatchResult.forall₂_results _ config (List.findSome?_eq_none_iff.mp complete)⟩
    simp only [BatchResult.collected, BatchResult.isNone_pathReport?]
  · rw [analyzeAll_fst] at crashed
    cases fault_eq : (readablePaths status paths).findSome?
        (BatchResult.pathFault? (documentAt status)) with
    | some fault =>
        rw [fault_eq] at crashed
        exact .inl ⟨fault, (Except.error.inj crashed).symm⟩
    | none =>
        rw [fault_eq] at crashed
        cases fatal : paths.findSome? fun path => (status path).fatal? with
        | none => simp [fatal] at crashed
        | some fault =>
            obtain ⟨path, mem, fatal_eq⟩ := List.exists_of_findSome?_eq_some fatal
            rw [fatal] at crashed
            exact .inr ⟨path, mem, fault, fatal_eq, (Except.error.inj crashed).symm⟩

end AnalyzeAll

namespace Specimen

/-- At one path stands a short declaration without targets and values, and at all others an unread
write. -/
def besideEmptyDeclaration (path : Path) : PathStatus :=
  .file (.ok (document (if path.names = ["empty"] then emptyDeclaration else unreadWrite)))

/-- The short declaration without targets and values stops the analysis of the other dump. -/
theorem analyzeAll_besideEmptyDeclaration :
    ¬∃ batch, (analyzeAll besideEmptyDeclaration ⟨false⟩ [⟨"", ["empty"]⟩, ⟨"", ["other"]⟩]).1 =
      .ok batch := by
  have read : Dump.package (document emptyDeclaration) = .ok (package emptyDeclaration) := rfl
  have fault : (package emptyDeclaration).fault? = some ⟨.assignStmt⟩ := by decide +kernel
  have load : Dump.load (documentAt besideEmptyDeclaration ⟨"", ["empty"]⟩) =
      .ok (package emptyDeclaration) := rfl
  rw [(analyzeAll_spec besideEmptyDeclaration ⟨false⟩ [⟨"", ["empty"]⟩, ⟨"", ["other"]⟩]).1]
  intro all
  have complete := (all ⟨"", ["empty"]⟩ (by simp)).2 _ load
  rw [← Package.fault?_eq_none_iff (Dump.wellFormed_of_package read), fault] at complete
  cases complete

end Specimen
end ShadowLint
