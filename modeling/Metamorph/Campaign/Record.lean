import Metamorph.Bundle.Binary
import Metamorph.Bundle.Json
import Metamorph.Campaign.Round
import Metamorph.Guest.Module
import Metamorph.Json.Printer
import Metamorph.Text.Utf8

/-! # Records

What a campaign leaves behind: a folder with four files for every round, and one line for
every result that is no success. -/

namespace Metamorph

/-- The folder name of a round: its number with at least four digits. -/
def roundName (number : Nat) : String :=
  let digits := Nat.toDigits 10 number
  "bundle_" ++ String.ofList (List.replicate (4 - digits.length) '0' ++ digits)

namespace Campaign

/-- The folder of a round. -/
def roundFolder (campaign : Campaign) (number : Nat) : String :=
  inside campaign.folder (roundName number)

/-- The JSON form of an injection that may be missing. -/
def injectionJson : Option Injection → Json :=
  .optional fun injection => .text injection.name

/-- What whoever makes a project around a bundle has to know. -/
def manifest (campaign : Campaign) (round : Round) : Json :=
  .object [("campaign", .text campaign.id), ("target", .text campaign.target.name),
    ("revision", .text campaign.settings.revision),
    ("toolchain", .optional .text campaign.settings.toolchain),
    ("flags", campaign.settings.flags.toJson), ("injection", injectionJson round.injection),
    ("expected", .nat round.bundle.expected.toNat),
    ("circuits", .list .text round.bundle.names)]

/-- The files of a round by name, where the guest module is given. -/
def roundFiles (campaign : Campaign) (round : Round) (guest : String) :
    List (String × List UInt8) :=
  [("bundle.json", Text.utf8 round.bundle.toText), ("bundle.bin", round.bundle.toBytes),
    ("guest.rs", Text.utf8 guest), ("project.json", Text.utf8 (campaign.manifest round).pretty)]

/-- The line that tells of a result. -/
def findingLine (campaign : Campaign) (round : Round) (result : Result) (time : String) : String :=
  let finding : Json := .object [("campaign", .text campaign.id),
    ("target", .text campaign.target.name), ("bundle", .nat round.number),
    ("circuit", .text result.circuit.name), ("rewrites", .list .text result.circuit.rewrites),
    ("perturbed", .bool result.circuit.perturbed), ("injection", injectionJson round.injection),
    ("outcome", result.outcome.toJson),
    ("fingerprints", .list .text result.outcome.fingerprints), ("recorded_at", .text time)]
  finding.compact ++ "\n"

end Campaign

end Metamorph
