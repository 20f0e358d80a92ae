import Metamorph.Campaign.Run
import Metamorph.Campaign.Settings
import Metamorph.Random.ChaCha

/-! # Schedules

Settings ask for one campaign for each of their targets. Each campaign has a random source of
its own, so that what it draws does not depend on the other ones. -/

namespace Metamorph

/-- A campaign that is still to be run. -/
structure Scheduled where
  campaign : Campaign
  /-- Where the random source of the campaign comes from. -/
  seed : UInt64

namespace Scheduled

/-- Run a campaign with its random source. -/
def run (scheduled : Scheduled) : Work Summary :=
  scheduled.campaign.run (ChaCha.ofSeed scheduled.seed)

end Scheduled

namespace CampaignSettings

/-- The campaign for a target of the settings, which is missing if there is no such target. -/
def campaign? (settings : CampaignSettings) (id : String) (target : TargetSettings) :
    Option Campaign := do
  return {
    id
    target := ← Target.vocabulary.find? target.name
    settings := target
    generation := settings.generation
    bundles := settings.bundlesPerTarget
    outputFolder := settings.outputFolder }

/-- The campaigns for the targets of the settings, in their order. The seeds follow on each
other. -/
def schedule (settings : CampaignSettings) (id : String) : List Scheduled :=
  settings.targets.zipIdx.filterMap fun (target, index) => do
    return ⟨← settings.campaign? id target, (settings.seed + index).toUInt64⟩

end CampaignSettings

end Metamorph
