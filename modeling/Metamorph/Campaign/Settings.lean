import Metamorph.Generate.Settings
import Metamorph.Json.Reader
import Metamorph.Target.Basic

/-! # Settings of campaigns

A settings file names the targets to work against and how to generate bundles for them.
Settings that no bundle could be generated with are refused. -/

namespace Metamorph

/-- The settings of campaigns. -/
structure CampaignSettings where
  /-- Where the random sources of all targets come from. -/
  seed : Nat := 0xC0FFEE
  bundlesPerTarget : Nat := 1
  outputFolder : String := "./out"
  generation : GenerationSettings := {}
  targets : List TargetSettings := [{}]

/-- Why settings are refused. -/
inductive SettingsRefusal where
  /-- The file cannot be read. -/
  | unreadable (path : String)
  /-- The file does not hold settings. -/
  | malformed (path : String)
  | noTargets
  | unknownTarget (name : String)
  | bounds (generation : GenerationSettings)

/-- The text of a refusal of settings. -/
def SettingsRefusal.message : SettingsRefusal → String
  | .unreadable path => "reading config " ++ path
  | .malformed path => "parsing config " ++ path
  | .noTargets => "no targets configured"
  | .unknownTarget name => s!"unknown target '{name}'"
  | .bounds generation => "invalid generation bounds: " ++ generation.display

namespace CampaignSettings

/-- The fields of the settings in JSON. -/
def fieldNames : List String :=
  ["seed", "bundles_per_target", "output_dir", "generation", "targets"]

/-- The JSON form of the settings. -/
def toJson (settings : CampaignSettings) : Json :=
  .object [("seed", .nat settings.seed), ("bundles_per_target", .nat settings.bundlesPerTarget),
    ("output_dir", .text settings.outputFolder), ("generation", settings.generation.toJson),
    ("targets", .list TargetSettings.toJson settings.targets)]

/-- Read the settings; a missing field has its default. -/
def ofJson? (value : Json) : Option CampaignSettings := do
  let fallback : CampaignSettings := {}
  match ← value.defaultedRecord? fieldNames with
  | [seed, bundlesPerTarget, outputFolder, generation, targets] =>
    return {
      seed := ← Json.defaulted? fallback.seed Json.count? seed
      bundlesPerTarget := ← Json.defaulted? fallback.bundlesPerTarget Json.count? bundlesPerTarget
      outputFolder := ← Json.defaulted? fallback.outputFolder Json.string? outputFolder
      generation := ← Json.defaulted? fallback.generation GenerationSettings.ofJson? generation
      targets := ← Json.defaulted? fallback.targets (Json.list? TargetSettings.ofJson?) targets }
  | _ => none

/-- Whether bundles can be generated within the bounds. -/
def hasValidBounds (generation : GenerationSettings) : Bool :=
  generation.values.min ≤ generation.values.max && generation.rewrites.min ≤ generation.rewrites.max
    && generation.batchSize.min ≤ generation.batchSize.max && generation.batchSize.min ≠ 0

/-- Refuse settings that no bundle could be generated with. -/
def validate (settings : CampaignSettings) : Except SettingsRefusal Unit := do
  if settings.targets.isEmpty then throw .noTargets
  match settings.targets.find? fun target => (Target.vocabulary.find? target.name).isNone with
  | some target => throw (.unknownTarget target.name)
  | none => pure ()
  if !hasValidBounds settings.generation then throw (.bounds settings.generation)

/-- Read the settings in a file, whose text is missing if it cannot be read. -/
def ofFile (path : String) (text : Option String) : Except SettingsRefusal CampaignSettings :=
  match text with
  | none => .error (.unreadable path)
  | some text =>
    match (Json.parseShallow? text).bind ofJson? with
    | none => .error (.malformed path)
    | some settings => .ok settings

/-- Valid settings from a file, or the default ones if no file is named. -/
def load (file : Option (String × Option String)) : Except SettingsRefusal CampaignSettings := do
  let settings ←
    match file with
    | none => pure {}
    | some (path, text) => ofFile path text
  settings.validate
  return settings

end CampaignSettings

end Metamorph
