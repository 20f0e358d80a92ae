import Metamorph.Campaign.Schedule
import Metamorph.Sandbox.Machine

/-! # The command line

Settings are read from a file and a campaign is run for each of their targets. The campaigns
work in a sandbox, and the folders that they leave there are then written to the disk. -/

namespace Metamorph.Main

/-- The settings file, with its text if it can be read: an argument names it, or else the
environment. -/
def settingsFile (arguments : List String) : IO (Option (String × Option String)) := do
  match arguments.head?.or (← IO.getEnv "ZKFUZZ_CONFIG") with
  | none => return none
  | some path =>
    try return some (path, some (← IO.FS.readFile path))
    catch _ => return some (path, none)

/-- A name that no other campaign has. -/
def freshId : IO String := do
  let bytes ← IO.getRandomBytes 16
  return String.ofList (bytes.toList.flatMap fun byte =>
    [Nat.digitChar (byte.toNat / 16), Nat.digitChar (byte.toNat % 16)])

/-- Write what a campaign has left in the sandbox to the disk. -/
def writeFolder (folder : String) (sandbox : Sandbox) : IO Unit := do
  IO.FS.createDirAll folder
  for (name, bytes) in sandbox.filesBelow folder do
    let path := inside folder name
    IO.FS.createDirAll (folderOf path)
    IO.FS.writeBinFile path ⟨bytes.toArray⟩

/-- Run a campaign and report its summary. An error ends this campaign only. -/
def runCampaign (scheduled : Scheduled) : IO Unit := do
  let time := toString (← IO.monoMsNow)
  let (summary, sandbox) := Sandbox.carryOut scheduled.run { time }
  writeFolder scheduled.campaign.folder sandbox
  let target := scheduled.campaign.target.name
  match summary with
  | .ok summary => IO.println (target ++ " " ++ summary.toJson.compact)
  | .error why => IO.eprintln (target ++ " " ++ why.message)

end Metamorph.Main

open Metamorph in
/-- Run the campaigns of a settings file. -/
def main (arguments : List String) : IO UInt32 := do
  match CampaignSettings.load (← Main.settingsFile arguments) with
  | .error why =>
    IO.eprintln why.message
    return 1
  | .ok settings =>
    let id ← Main.freshId
    for scheduled in settings.schedule id do
      Main.runCampaign scheduled
    return 0
