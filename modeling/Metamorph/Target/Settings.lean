import Metamorph.Json.Record
import Metamorph.Text.Basic

/-! # Settings of a target

What a target is asked to do, and for how long. -/

namespace Metamorph

/-! ## Timeouts

A timeout is a number of seconds or a text such as `h1m30s5`: hours, minutes and seconds in
this order, each of which may be missing, but not all of them. -/

/-- Read a field of a duration: the letter of its unit and at least one digit. Without the
field nothing is read. -/
def readDurationField (unit : Char) (input : List Char) : Option (List Char) × List Char :=
  match input with
  | [] => (none, [])
  | c :: rest =>
    let digits := rest.takeWhile Char.isDigit
    if c = unit && !digits.isEmpty then (some digits, rest.dropWhile Char.isDigit)
    else (none, input)

/-- A count, if it fits in 64 bits. -/
def fitting? (count : Nat) : Option Nat :=
  if count < UInt64.size then some count else none

/-- Add to a number of seconds what a field says in a unit of so many seconds. The count of the
field, its seconds and the sum must each fit in 64 bits. -/
def addDurationField? (total : Nat) : Option (List Char) × Nat → Option Nat
  | (none, _) => some total
  | (some digits, unit) => do
    let count ← fitting? (Text.digitsValue digits)
    let seconds ← fitting? (count * unit)
    fitting? (total + seconds)

/-- The seconds that a duration text denotes, if it is one and they fit in 64 bits. -/
def parseDuration? (text : String) : Option Nat :=
  let (hours, rest) := readDurationField 'h' text.toList
  let (minutes, rest) := readDurationField 'm' rest
  let (seconds, rest) := readDurationField 's' rest
  if rest.isEmpty && (hours.isSome || minutes.isSome || seconds.isSome) then
    [(hours, 3600), (minutes, 60), (seconds, 1)].foldlM addDurationField? 0
  else none

/-- A timeout as settings give it. -/
inductive Timeout where
  | seconds (count : Nat)
  | text (value : String)
  deriving DecidableEq, Repr

namespace Timeout

/-- The seconds of a timeout; a text that is no duration stands for the default. -/
def resolve (fallback : Nat) : Timeout → Nat
  | .seconds count => count
  | .text value => (parseDuration? value).getD fallback

/-- The JSON form of a timeout. -/
def toJson : Timeout → Json
  | .seconds count => .nat count
  | .text value => .text value

/-- Read a timeout. -/
def ofJson? (value : Json) : Option Timeout :=
  match value.count? with
  | some count => some (.seconds count)
  | none => value.string?.map .text

end Timeout

/-! ## What is asked of a target

What is known about one target of a campaign: what to inject, which checkout to work on, and
the commands that build and run guests. -/

/-- The seconds that a build may take unless settings say otherwise. -/
def defaultBuildTimeout : Nat := 600

/-- The seconds that a run may take unless settings say otherwise. -/
def defaultRunTimeout : Nat := 300

/-- The switches that a guest project is made with. -/
structure ProjectFlags where
  faultInjection : Bool
  traceCollection : Bool
  deriving DecidableEq, Repr

/-- The JSON form of the switches. -/
def ProjectFlags.toJson (flags : ProjectFlags) : Json :=
  .object [("fault_injection", .bool flags.faultInjection),
    ("trace_collection", .bool flags.traceCollection)]

/-- The settings of a target. -/
structure TargetSettings where
  name : String := "risc0"
  /-- The injections to select among, by name. -/
  enabledInjections : List String := []
  /-- The instructions to steer toward, by name. -/
  preferredInstructions : List String := []
  /-- The commit, branch or tag to check out. -/
  revision : String := "main"
  /-- Where to clone from. -/
  remoteUrl : Option String := none
  /-- Where the checkout lies. -/
  checkoutFolder : Option String := none
  toolchain : Option String := none
  faultInjection : Bool := false
  traceCollection : Bool := false
  buildTimeout : Timeout := .seconds defaultBuildTimeout
  runTimeout : Timeout := .seconds defaultRunTimeout
  /-- The command that builds a guest project; an empty one builds nothing. -/
  buildCommand : List String := []
  /-- The command that runs a guest; without one nothing is executed. -/
  runCommand : List String := []
  deriving DecidableEq, Repr

namespace TargetSettings

/-- The switches among the settings. -/
def flags (settings : TargetSettings) : ProjectFlags :=
  ⟨settings.faultInjection, settings.traceCollection⟩

/-- The seconds that a build may take. -/
def buildSeconds (settings : TargetSettings) : Nat :=
  settings.buildTimeout.resolve defaultBuildTimeout

/-- The seconds that a run may take. -/
def runSeconds (settings : TargetSettings) : Nat :=
  settings.runTimeout.resolve defaultRunTimeout

/-- Whether guests are run at all. -/
def executes (settings : TargetSettings) : Bool :=
  !settings.runCommand.isEmpty

/-- The fields of the settings in JSON. -/
def fieldNames : List String :=
  ["name", "enabled_injections", "preferred_instructions", "revision", "remote_url",
    "checkout_dir", "toolchain", "fault_injection", "trace_collection", "build_timeout",
    "run_timeout", "build_command", "run_command"]

/-- The JSON form of the settings. -/
def toJson (settings : TargetSettings) : Json :=
  .object [("name", .text settings.name),
    ("enabled_injections", .list .text settings.enabledInjections),
    ("preferred_instructions", .list .text settings.preferredInstructions),
    ("revision", .text settings.revision),
    ("remote_url", .optional .text settings.remoteUrl),
    ("checkout_dir", .optional .text settings.checkoutFolder),
    ("toolchain", .optional .text settings.toolchain),
    ("fault_injection", .bool settings.faultInjection),
    ("trace_collection", .bool settings.traceCollection),
    ("build_timeout", settings.buildTimeout.toJson), ("run_timeout", settings.runTimeout.toJson),
    ("build_command", .list .text settings.buildCommand),
    ("run_command", .list .text settings.runCommand)]

/-- Read the settings; a missing field has its default. -/
def ofJson? (value : Json) : Option TargetSettings := do
  let fallback : TargetSettings := {}
  let strings := Json.list? Json.string?
  let optionalString := Json.optional? Json.string?
  match ← value.defaultedRecord? fieldNames with
  | [name, enabledInjections, preferredInstructions, revision, remoteUrl, checkoutFolder, toolchain,
      faultInjection, traceCollection, buildTimeout, runTimeout, buildCommand, runCommand] =>
    return {
      name := ← Json.defaulted? fallback.name Json.string? name
      enabledInjections := ← Json.defaulted? fallback.enabledInjections strings enabledInjections
      preferredInstructions := ← Json.defaulted? fallback.preferredInstructions strings
        preferredInstructions
      revision := ← Json.defaulted? fallback.revision Json.string? revision
      remoteUrl := ← Json.defaulted? fallback.remoteUrl optionalString remoteUrl
      checkoutFolder := ← Json.defaulted? fallback.checkoutFolder optionalString checkoutFolder
      toolchain := ← Json.defaulted? fallback.toolchain optionalString toolchain
      faultInjection := ← Json.defaulted? fallback.faultInjection Json.bool? faultInjection
      traceCollection := ← Json.defaulted? fallback.traceCollection Json.bool? traceCollection
      buildTimeout := ← Json.defaulted? fallback.buildTimeout Timeout.ofJson? buildTimeout
      runTimeout := ← Json.defaulted? fallback.runTimeout Timeout.ofJson? runTimeout
      buildCommand := ← Json.defaulted? fallback.buildCommand strings buildCommand
      runCommand := ← Json.defaulted? fallback.runCommand strings runCommand }
  | _ => none

end TargetSettings

end Metamorph
