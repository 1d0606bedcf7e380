import ShadowLint.Main
import ShadowLint.Proofs.Batch
import ShadowLint.Proofs.Collection
import ShadowLint.Proofs.Displacement.Analysis
import ShadowLint.Proofs.Dump.Renumbering
import ShadowLint.Proofs.Enclosure
import ShadowLint.Proofs.Message
import ShadowLint.Proofs.Monotony
import ShadowLint.Proofs.OddTargets
import ShadowLint.Proofs.Rearrangement
import ShadowLint.Proofs.Scope.Hiding
import ShadowLint.Proofs.Scope.Integrity
import ShadowLint.Proofs.Scope.Nearest
import ShadowLint.Proofs.Source.Coordinates
import ShadowLint.Proofs.Syntax.TextOrder
import ShadowLint.Proofs.Transcript
import ShadowLint.Proofs.Types.Canonical
import ShadowLint.Proofs.UseGrouping
