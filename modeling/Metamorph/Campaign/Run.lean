import Metamorph.Campaign.Record
import Metamorph.Checkout.Git
import Metamorph.Execution.Executor

/-! # Running a campaign

The checkout is installed first. Then every round is drawn, written to its folder, built and
run circuit by circuit, and its results are counted and recorded. A command that cannot be
started gives no result and stops nothing; any other error ends the campaign. -/

namespace Metamorph.Campaign

/-- Install the checkout if settings say where it lies and where it comes from. -/
def prepareCheckout (campaign : Campaign) : Work Unit :=
  match campaign.settings.checkoutFolder, campaign.settings.remoteUrl with
  | some path, some remoteUrl => do
    let request : InstallRequest := {
      path, remoteUrl
      target := campaign.target
      revision := campaign.settings.revision
      faultInjection := campaign.settings.faultInjection }
    let _ ← Git.install "git" request .builtin
    return ()
  | _, _ => return ()

/-- What stops the work on the files of a campaign stops the campaign. -/
def onOutput {α : Type} (work : Work α) : Work α :=
  ExceptT.mk do
    match ← work.run with
    | .error (.io why) => return .error (.output why)
    | result => return result

/-- Write files into a folder. -/
def writeFiles (folder : String) : List (String × List UInt8) → Work Unit
  | [] => return ()
  | (name, bytes) :: rest => do
    onOutput (Work.write (inside folder name) bytes)
    writeFiles folder rest

/-- Write the folder of a round. -/
def writeRound (campaign : Campaign) (round : Round) : Work Unit := do
  let folder := campaign.roundFolder round.number
  onOutput (Work.createFolders folder)
  let guest ← ExceptT.mk (pure (Guest.emitBundle {} round.bundle))
  writeFiles folder (campaign.roundFiles round guest)

/-- The variables that tell a guest what to run. -/
def environment (campaign : Campaign) (round : Round) (circuit : Circuit) :
    List (String × String) :=
  [("ZKFUZZ_CIRCUIT", circuit.name)]
    ++ (round.injection.toList.map fun injection => ("ZKFUZZ_INJECT", injection.name))
    ++ (if campaign.settings.traceCollection then [("ZKFUZZ_TRACE", "1")] else [])

/-- The value of work, or nothing if it fails. -/
def attempt {α : Type} (work : Work α) : Work (Option α) :=
  ExceptT.mk do
    match ← work.run with
    | .ok a => return .ok (some a)
    | .error _ => return .ok none

/-- Run circuits one after the other. One whose run cannot be started is left out. -/
def runCircuits (campaign : Campaign) (executor : Executor) (round : Round) :
    List Circuit → Work (List Result)
  | [] => return []
  | circuit :: rest => do
    let observed ← attempt (executor.runOnce (campaign.environment round circuit))
    let results ← runCircuits campaign executor round rest
    match observed with
    | some observation =>
      return ⟨circuit, observation.outcome round.bundle.expected⟩ :: results
    | none => return results

/-- Build and run a bundle. If the build does not come to its end the outcome is the same for
all circuits, and if it cannot be started there is none. -/
def execute (campaign : Campaign) (executor : Executor) (round : Round) : Work (List Result) := do
  match ← attempt executor.build with
  | none => return []
  | some none => runCircuits campaign executor round round.bundle.circuits
  | some (some observation) =>
    let outcome := observation.outcome round.bundle.expected
    return round.bundle.circuits.map fun circuit => ⟨circuit, outcome⟩

/-- Record a result unless it is a success. -/
def record (campaign : Campaign) (round : Round) (result : Result) : Work Unit :=
  if result.outcome = .passed then return ()
  else do
    let time ← Work.ask .now
    onOutput (Work.append (inside campaign.folder "findings.jsonl")
      (Text.utf8 (campaign.findingLine round result time)))

/-- Count and record results in order. -/
def recordAll (campaign : Campaign) (round : Round) :
    List Result → Summary → Work Summary
  | [], summary => return summary
  | result :: rest, summary => do
    campaign.record round result
    recordAll campaign round rest (summary.addResult result)

/-- Write, execute and record a round. -/
def playRound (campaign : Campaign) (round : Round) (summary : Summary) : Work Summary := do
  campaign.writeRound round
  let summary := summary.addBundle round.bundle
  match Executor.ofSettings? campaign.settings (campaign.roundFolder round.number) with
  | none => return summary
  | some executor => do
    let results ← campaign.execute executor round
    campaign.recordAll round results summary

variable {ρ : Type} [RandomSource ρ]

/-- Draw and play rounds, as many as are left. -/
def playRounds (campaign : Campaign) (shape : Shape) :
    (left number : Nat) → ρ → Summary → Work Summary
  | 0, _, _, summary => return summary
  | left + 1, number, source, summary =>
    match (campaign.drawRound shape number : Draw ρ Round) source with
    | (.error e, _) => throw e
    | (.ok round, source) => do
      let summary ← campaign.playRound round summary
      playRounds campaign shape left (number + 1) source summary

/-- Run a campaign with a random source. -/
def run (campaign : Campaign) (source : ρ) : Work Summary := do
  onOutput (Work.createFolders campaign.folder)
  campaign.prepareCheckout
  let shape ← ExceptT.mk (pure campaign.shape)
  campaign.playRounds shape campaign.bundles 0 source {}

end Metamorph.Campaign
