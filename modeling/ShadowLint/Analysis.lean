import ShadowLint.Examination

/-!
# The analysis of packages

All declarations of a package are examined in the order of its trees, and their reports make up the
findings.  Several dumps are analysed one after the other; a file that holds no package is noted and
does not stop the others.
-/

namespace ShadowLint

/-- Settings of an analysis. -/
structure Config where
  /-- Strict reports are asked for.  The liveness rules are the same either way. -/
  strict : Bool
deriving DecidableEq, Repr

/-- The findings in one package. -/
structure Report where
  /-- The path of the package. -/
  path : String
  /-- Its files. -/
  space : PositionSpace
  /-- What was found. -/
  diagnostics : List Diagnostic

/-- The number of hidden declarations that were found. -/
def Report.shadowCount (result : Report) : Nat :=
  result.diagnostics.countP (·.category == .shadow)

namespace Package

/-- The event that a package was read. -/
def loadedEvent (package : Package) : Event :=
  .loaded package.path package.trees.length package.forest.scopes.size package.forest.symbols.size
    package.resolution.definitions.length package.resolution.uses.length

/-- Collects what the check needs to know about a package. -/
def gather (package : Package) : Trace Evidence := do
  let scan ← Scan.ofTrees package.resolution package.trees
  pure ⟨package, scan, .ofResolution package.resolution⟩

/-- Analyses a package. -/
def analyze (package : Package) (config : Config) : Trace Report := do
  if config.strict then
    Trace.tell (.strictRequested package.path)
  let evidence ← package.gather
  let findings ← evidence.scan.declarations.foldlM
    (fun findings declaration =>
      findings.addExamination package.space (.ofDeclaration evidence declaration))
    Findings.empty
  Trace.tell (.checked package.path findings.diagnostics.length)
  pure ⟨package.path, package.space, findings.diagnostics⟩

end Package

/-- The outcome of analysing several dumps. -/
structure BatchResult where
  /-- The results for the files that hold packages. -/
  results : List Report
  /-- The paths of the other files. -/
  failures : List Path

namespace BatchResult

/-- Analyses the dump at one more path, where `read` gives the documents in files. -/
def add (read : Path → Except ReadFault Json) (config : Config) (batch : BatchResult)
    (path : Path) : Trace BatchResult := do
  match Dump.load (read path) with
  | .error fault =>
      Trace.tell (.skipped path.text fault)
      pure { batch with failures := batch.failures ++ [path] }
  | .ok package =>
      Trace.tell package.loadedEvent
      let result ← package.analyze config
      pure { batch with results := batch.results ++ [result] }

/-- Analyses the dumps at some paths. -/
def ofPaths (read : Path → Except ReadFault Json) (config : Config) (paths : List Path) :
    Trace BatchResult :=
  paths.foldlM (add read config) ⟨[], []⟩

end BatchResult

end ShadowLint
