import Metamorph.Proofs.Campaign.Paths
import Metamorph.Proofs.Machine.Asks

/-! # What a campaign asks for

To prepare the checkout, commands are run and hooks are written, which are no records; to execute
a round, commands are run and nothing else. -/

namespace Metamorph

open Procedure (Asks)

namespace Machine

/-- A request to run a command. -/
def IsCommand : Action → Prop
  | .launch _ => True
  | .launchWithin _ _ => True
  | _ => False

end Machine

namespace Campaign

/-- A request that leaves the records of a campaign alone, unless it is a command that does not. -/
def Spares (campaign : Campaign) : Machine.Action → Prop
  | .write path _ => ¬ campaign.IsRecord path
  | .append path _ => ¬ campaign.IsRecord path
  | _ => True

theorem spares_of_isCommand {campaign : Campaign} {action : Machine.Action}
    (command : Machine.IsCommand action) : campaign.Spares action := by
  cases action with
  | launch => trivial
  | launchWithin => trivial
  | _ => cases command

end Campaign

/-! ## Preparing the checkout -/

namespace Git

variable {program : String} {folder : Option String}

theorem asks_run {arguments : List String} :
    (run program folder arguments).run.Asks Machine.IsCommand := by
  refine .run_bind (Work.asks_ask trivial) fun reply => ?_
  cases reply with
  | error why => exact .throw
  | ok ending => dsimp only; split <;> constructor

theorem asks_runAll {lines : List (List String)} :
    (runAll program folder lines).run.Asks Machine.IsCommand := by
  induction lines with
  | nil => exact .pure
  | cons arguments lines ih => exact .run_bind asks_run fun _ => ih

theorem asks_checkRevision {allowed : Machine.Action → Prop} {revision : String} :
    (liftM (checkRevision revision) : Work Unit).run.Asks allowed := by
  cases checkRevision revision <;> constructor

theorem asks_clone {path remoteUrl revision : String} :
    (clone program path remoteUrl revision).run.Asks Machine.IsCommand :=
  .run_bind asks_checkRevision fun _ => .run_bind asks_run fun _ => asks_run

theorem asks_reset {path revision : String} :
    (reset program path revision).run.Asks Machine.IsCommand :=
  .run_bind asks_checkRevision fun _ => asks_runAll

end Git

namespace InstallRequest

/-- A request that installing may make: no file is written but those of registered hooks. -/
def Permits (request : InstallRequest) (registry : Registry) : Checkout.Action → Prop
  | .write path _ => ∃ entry ∈ registry.entries, path = inside request.path entry.2.path
  | _ => True

variable {request : InstallRequest} {registry : Registry}

theorem asks_orFail {allowed : Checkout.Action → Prop} {reply : Except Error Unit} :
    (Checkout.orFail reply).run.Asks allowed :=
  .known

theorem asks_switch : request.switch.run.Asks (request.Permits registry) := by
  refine .run_bind (.lift_perform trivial) fun present => ?_
  split
  · exact .run_bind (.lift_perform trivial) fun _ => .run_bind asks_orFail fun _ => .pure
  · exact .run_bind (.lift_perform trivial) fun _ => .run_bind asks_orFail fun _ => .pure

theorem asks_writeHooks {hooks : HookModule}
    (registered : ∃ entry ∈ registry.entries, entry.2 = hooks) :
    (request.writeHooks hooks).run.Asks (request.Permits registry) := by
  obtain ⟨entry, member, rfl⟩ := registered
  refine .run_bind (.lift_perform trivial) fun _ => .run_bind asks_orFail fun _ => ?_
  exact .run_bind (.lift_perform ⟨entry, member, rfl⟩) fun _ => .run_bind asks_orFail fun _ => .pure

/-- Hooks that are called for are registered. -/
theorem hooks_registered {hooks : HookModule}
    (found : request.hooks registry = .ok (some hooks)) :
    ∃ entry ∈ registry.entries, entry.2 = hooks := by
  unfold InstallRequest.hooks Registry.lookup Registry.find? at found
  split at found
  · cases entry : registry.entries.find? fun entry =>
        entry.1 = (request.target, request.revision) with
    | none => simp [entry, Except.map] at found
    | some known =>
      simp only [entry, Option.map_some, Except.map, Except.ok.injEq, Option.some.injEq] at found
      exact ⟨known, List.mem_of_find?_eq_some entry, found⟩
  · cases found

theorem asks_install : (request.install registry).run.Asks (request.Permits registry) := by
  refine .decided_bind fun hooks found => .run_bind asks_switch fun cloned => ?_
  cases hooks with
  | none => exact .pure
  | some hooks => exact .run_bind (asks_writeHooks (hooks_registered found)) fun _ => .pure

end InstallRequest

/-- All hooks that are known go into files of one name. -/
theorem Registry.builtin_paths :
    ∀ entry ∈ Registry.builtin.entries, "zkfuzz.rs".toList <:+ entry.2.path.toList := by
  decide +kernel

namespace Campaign

variable {campaign : Campaign}

/-- The path of hooks is not that of a record. -/
theorem spares_hooks {entry : (Target × String) × HookModule} {folder : String}
    (known : entry ∈ Registry.builtin.entries) :
    ¬ campaign.IsRecord (inside folder entry.2.path) := by
  obtain ⟨root, same⟩ := exists_inside_eq folder
  have ends : "zkfuzz.rs".toList <:+ (inside folder entry.2.path).toList := by
    rw [same, String.toList_append]
    exact (Registry.builtin_paths entry known).trans (List.suffix_append ..)
  exact campaign.not_isRecord ends (by decide)

theorem asks_prepareCheckout : campaign.prepareCheckout.run.Asks campaign.Spares := by
  unfold prepareCheckout
  split
  · refine .run_bind (Asks.carryOut InstallRequest.asks_install fun action permitted => ?_)
      fun _ => .pure
    cases action with
    | isRepository path => exact .ask trivial fun _ => .done _
    | clone path remoteUrl revision => exact Git.asks_clone.mono fun _ => spares_of_isCommand
    | reset path revision => exact Git.asks_reset.mono fun _ => spares_of_isCommand
    | createFolders path => exact Work.asks_createFolders trivial
    | write path bytes =>
      obtain ⟨entry, known, rfl⟩ := permitted
      exact Work.asks_write (spares_hooks known)
  · exact .pure

/-! ## Writing a round -/

variable {round : Round} {allowed : Machine.Action → Prop}

theorem asks_writeFiles {folder : String} {files : List (String × List UInt8)}
    (each : ∀ name bytes, allowed (.write (inside folder name) bytes)) :
    (writeFiles folder files).run.Asks allowed := by
  induction files with
  | nil => exact .pure
  | cons file files ih => exact .run_bind (asks_onOutput (Work.asks_write (each ..))) fun _ => ih

theorem asks_writeRound (folder : allowed (.createFolders (campaign.roundFolder round.number)))
    (each : ∀ name bytes, allowed (.write (campaign.filePath round.number name) bytes)) :
    (campaign.writeRound round).run.Asks allowed := by
  refine .run_bind (asks_onOutput (Work.asks_createFolders folder)) fun _ => ?_
  cases Guest.emitBundle {} round.bundle with
  | ok guest => exact asks_writeFiles each
  | error e => exact .throw

/-! ## Executing a round -/

theorem asks_commandLine {line : CommandLine} {environment : List (String × String)} :
    (line.run environment).run.Asks Machine.IsCommand := by
  unfold CommandLine.run
  split
  · exact .throw
  · exact .run_bind (Work.asks_ask trivial) fun _ => .run_bind Work.asks_orFail fun _ => .pure

variable {executor : Executor}

theorem asks_build : executor.build.run.Asks Machine.IsCommand := by
  unfold Executor.build
  split
  · exact .pure
  · refine .run_bind asks_commandLine fun output => ?_
    split
    · exact .pure
    · split <;> exact .pure

theorem asks_runOnce {environment : List (String × String)} :
    (executor.runOnce environment).run.Asks Machine.IsCommand := by
  refine .run_bind asks_commandLine fun output => ?_
  split <;> exact .pure

theorem asks_runCircuits {circuits : List Circuit} :
    (campaign.runCircuits executor round circuits).run.Asks Machine.IsCommand := by
  induction circuits with
  | nil => exact .pure
  | cons circuit circuits ih =>
    refine .run_bind (asks_attempt asks_runOnce) fun observed => .run_bind ih fun results => ?_
    split <;> exact .pure

theorem asks_execute : (campaign.execute executor round).run.Asks Machine.IsCommand := by
  refine .run_bind (asks_attempt asks_build) fun built => ?_
  split
  · exact .pure
  · exact asks_runCircuits
  · exact .pure

end Campaign

end Metamorph
