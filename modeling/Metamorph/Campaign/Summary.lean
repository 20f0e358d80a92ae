import Metamorph.Bundle.Basic
import Metamorph.Report.Outcome
import Metamorph.Json.Basic

/-! # Summaries

The counts of a campaign: bundles, circuits, outcomes by label, and findings. An outcome is a
finding only for a circuit that should have the value of its seed. -/

namespace Metamorph

/-- What became of a circuit of a bundle. -/
structure Result where
  circuit : Circuit
  outcome : Outcome
  deriving DecidableEq, Repr

/-- Whether a result tells of a possible fault of the target. A perturbed circuit is meant to
disagree. -/
def Result.isFinding (result : Result) : Bool :=
  result.outcome.isFinding && !result.circuit.perturbed

/-- Counts under labels, in increasing order of the labels. -/
abbrev Tally := List (String × Nat)

/-- Count one more under a label. -/
def Tally.add (label : String) : Tally → Tally
  | [] => [(label, 1)]
  | (other, count) :: rest =>
    if label = other then (other, count + 1) :: rest
    else if label < other then (label, 1) :: (other, count) :: rest
    else (other, count) :: Tally.add label rest

/-- The counts of a campaign. -/
structure Summary where
  bundles : Nat := 0
  circuits : Nat := 0
  outcomes : Tally := []
  findings : Nat := 0
  deriving DecidableEq, Repr

namespace Summary

/-- Count a bundle. -/
def addBundle (summary : Summary) (bundle : Bundle) : Summary :=
  { summary with bundles := summary.bundles + 1, circuits := summary.circuits + bundle.size }

/-- Count a result. -/
def addResult (summary : Summary) (result : Result) : Summary :=
  { summary with
    outcomes := summary.outcomes.add result.outcome.label
    findings := if result.isFinding then summary.findings + 1 else summary.findings }

/-- The JSON form of the counts. -/
def toJson (summary : Summary) : Json :=
  .object [("bundles", .nat summary.bundles), ("circuits", .nat summary.circuits),
    ("outcomes", .object (summary.outcomes.map fun (label, count) => (label, .nat count))),
    ("findings", .nat summary.findings)]

end Summary

end Metamorph
