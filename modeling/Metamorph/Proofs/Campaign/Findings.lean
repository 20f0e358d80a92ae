import Metamorph.Campaign.Record
import Metamorph.Proofs.Binary.Exactness
import Metamorph.Proofs.Campaign.Requests
import Metamorph.Proofs.Json.Compact
import Metamorph.Proofs.Machine.Disk
import Metamorph.Proofs.Report.Json

/-! # The log of findings

The log holds one line for every finding, in the order in which they were recorded. Every line is one
JSON record, from which all that was recorded is read again. Nothing changes the log but a record that
is added, so that it is read back whatever else is going on. -/

namespace Metamorph

/-- What a line of the log says. -/
structure Finding where
  campaign : String
  target : String
  bundle : Nat
  circuit : String
  rewrites : List String
  perturbed : Bool
  injection : Option String
  outcome : Outcome
  fingerprints : List String
  recordedAt : String
  deriving DecidableEq, Repr

namespace Finding

/-- The fields of a finding in JSON. -/
def fieldNames : List String :=
  ["campaign", "target", "bundle", "circuit", "rewrites", "perturbed", "injection", "outcome",
    "fingerprints", "recorded_at"]

/-- Read a finding. -/
def ofJson? (value : Json) : Option Finding := do
  match ← value.record? fieldNames with
  | [campaign, target, bundle, circuit, rewrites, perturbed, injection, outcome, fingerprints,
      recordedAt] =>
    return {
      campaign := ← Json.required? Json.string? campaign
      target := ← Json.required? Json.string? target
      bundle := ← Json.required? Json.count? bundle
      circuit := ← Json.required? Json.string? circuit
      rewrites := ← Json.required? (Json.list? Json.string?) rewrites
      perturbed := ← Json.required? Json.bool? perturbed
      injection := ← Json.required? (Json.optional? Json.string?) injection
      outcome := ← Json.required? Outcome.ofJson? outcome
      fingerprints := ← Json.required? (Json.list? Json.string?) fingerprints
      recordedAt := ← Json.required? Json.string? recordedAt }
  | _ => none

/-- Read a line. -/
def ofLine? (line : List Char) : Option Finding :=
  (Json.parse? (String.ofList line)).bind ofJson?

/-- The JSON form of a finding. -/
def toJson (finding : Finding) : Json :=
  .object [("campaign", .text finding.campaign), ("target", .text finding.target),
    ("bundle", .nat finding.bundle), ("circuit", .text finding.circuit),
    ("rewrites", .list .text finding.rewrites), ("perturbed", .bool finding.perturbed),
    ("injection", .optional .text finding.injection), ("outcome", finding.outcome.toJson),
    ("fingerprints", .list .text finding.fingerprints), ("recorded_at", .text finding.recordedAt)]

variable {finding : Finding}

theorem ofJson?_toJson (counted : finding.bundle < 2 ^ 64) :
    ofJson? finding.toJson = some finding := by
  have bundle : (Json.nat finding.bundle).count? = some finding.bundle := by
    simpa [Json.nat, Json.count?, Json.natBelow?, UInt64.size] using counted
  have injection :=
    Json.optional?_optional Json.string?_text (by simp) finding.injection
  rw [toJson, ofJson?, Json.record?_object (by rfl) (by decide)]
  simp [Json.required?, Json.string?_text, Json.bool?, bundle, injection,
    Outcome.ofJson?_toJson, Json.list?_list Json.string?_text]

theorem exact_toJson (counted : finding.bundle < 2 ^ 64) : finding.toJson.Exact := by
  have texts := Json.exact_list Json.exact_text
  refine ⟨trivial, trivial, ⟨?_, ?_⟩, trivial, texts _, trivial, Json.exact_optional Json.exact_text _,
    finding.outcome.exact_toJson, texts _, trivial, trivial⟩
  · omega
  · exact_mod_cast counted

/-- A finding is read from its line. -/
theorem ofLine?_compact (counted : finding.bundle < 2 ^ 64) :
    ofLine? finding.toJson.compact.toList = some finding := by
  rw [ofLine?, String.ofList_toList, Json.parse?_compact (exact_toJson counted),
    Option.bind_some, ofJson?_toJson counted]

end Finding

namespace Campaign

/-- The finding that is recorded for a result. -/
def finding (campaign : Campaign) (round : Round) (result : Result) (time : String) : Finding where
  campaign := campaign.id
  target := campaign.target.name
  bundle := round.number
  circuit := result.circuit.name
  rewrites := result.circuit.rewrites
  perturbed := result.circuit.perturbed
  injection := round.injection.map Injection.name
  outcome := result.outcome
  fingerprints := result.outcome.fingerprints
  recordedAt := time

theorem injectionJson_eq (injection : Option Injection) :
    injectionJson injection = .optional .text (injection.map Injection.name) := by
  cases injection <;> rfl

theorem findingLine_eq (campaign : Campaign) (round : Round) (result : Result) (time : String) :
    campaign.findingLine round result time =
      (campaign.finding round result time).toJson.compact ++ "\n" := by
  rw [findingLine, injectionJson_eq]
  rfl

end Campaign

end Metamorph

/-! ## The log on disk -/

namespace Metamorph

open Machine (Action)

theorem Text.utf8_append (first rest : String) : utf8 (first ++ rest) = utf8 first ++ utf8 rest := by
  simp [utf8]

namespace Campaign

variable {campaign : Campaign} {disk before after : Disk} {findings : List Finding}
  {exchange : Exchange Machine.interface}

/-- What happens to the files, where commands leave the records of a campaign alone. -/
abbrev Step (campaign : Campaign) : Disk → Exchange Machine.interface → Disk → Prop :=
  Disk.Change campaign.IsRecord

/-- The bytes of the log; a log that is missing is empty. -/
def log (campaign : Campaign) (disk : Disk) : List UInt8 :=
  (disk campaign.findingsPath).getD []

/-- The log holds some findings. -/
def Logs (campaign : Campaign) (disk : Disk) (findings : List Finding) : Prop :=
  campaign.log disk = Text.utf8 (Text.ofLines (findings.map (·.toJson.compact)))

/-- What the log holds is what is read from it. -/
theorem Logs.read (logs : campaign.Logs disk findings)
    (counted : ∀ finding ∈ findings, finding.bundle < 2 ^ 64) :
    ∃ text, Text.ofUtf8? (campaign.log disk) = some text ∧
      (Text.lines text.toList).map Finding.ofLine? = findings.map some := by
  refine ⟨_, Text.ofUtf8?_eq_some.mpr logs, ?_⟩
  rw [Text.lines_ofLines, List.map_map, List.map_map]
  · refine List.map_congr_left fun finding member => ?_
    rw [Function.comp_apply, Function.comp_apply, Finding.ofLine?_compact (counted finding member)]
  · intro text member
    obtain ⟨finding, recorded, rfl⟩ := List.mem_map.mp member
    exact Json.isLine_compact (Finding.exact_toJson (counted finding recorded))

theorem logs_nil (missing : disk campaign.findingsPath = none) : campaign.Logs disk [] := by
  rw [Logs, log, missing]
  rfl

theorem Logs.of_eq (logs : campaign.Logs before findings)
    (same : after campaign.findingsPath = before campaign.findingsPath) :
    campaign.Logs after findings := by
  rwa [Logs, log, same]

/-- A finding that is added is the last one. -/
theorem Logs.append (logs : campaign.Logs before findings) {round : Round} {result : Result}
    {time : String} (change : campaign.Step before
      ⟨.append campaign.findingsPath (Text.utf8 (campaign.findingLine round result time)), .ok ()⟩
      after) : campaign.Logs after (findings ++ [campaign.finding round result time]) := by
  have grown : campaign.log after =
      campaign.log before ++ Text.utf8 (campaign.findingLine round result time) := by
    rw [log, show after = _ from change, Function.update_self]
    rfl
  rw [Logs, grown, logs, findingLine_eq, ← Text.utf8_append, List.map_append, List.map_singleton,
    Text.ofLines_append, Text.ofLines_singleton]

end Campaign

end Metamorph
