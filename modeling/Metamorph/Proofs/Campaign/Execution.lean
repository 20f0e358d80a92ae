import Metamorph.Proofs.Machine.Work

/-! # Executing a round

A build that fails or takes too long decides the outcome of all circuits of a bundle, and one that
cannot be started leaves all of them out. Otherwise each circuit has one run, in the order of the
bundle, and the outcome of its own run; one that cannot be started is left out. -/

namespace Metamorph

open Machine (History)

/-- The command of a line with some more variables. -/
def CommandLine.command (line : CommandLine) (environment : List (String × String)) : Command where
  program := line.words.headD ""
  arguments := line.words.tail
  folder := line.folder
  environment := line.environment ++ environment

/-- The exchange in which a line is run. -/
def CommandLine.exchange (line : CommandLine) (environment : List (String × String))
    (reply : Except Refusal (Option Ending)) : Exchange Machine.interface :=
  ⟨.launchWithin line.timeout (line.command environment), reply⟩

namespace Observation

/-- What is seen of a build that was started: nothing if the project is ready. -/
def ofBuild? : Option Ending → Option Observation
  | none => some .buildTimedOut
  | some ending =>
    if ending.output.success then none
    else some (.buildFailed (ending.output.stdout ++ ending.output.stderr))

/-- What is seen of a run that was started. -/
def ofRun : Option Ending → Observation
  | none => .runTimedOut
  | some ending => .exited ending.output.success ending.output.stdout ending.output.stderr

end Observation

namespace Campaign

variable {campaign : Campaign} {executor : Executor} {round : Round} {history : History}

/-- Circuits are run one after the other. -/
inductive Ran (campaign : Campaign) (executor : Executor) (round : Round) :
    History → List Circuit → List Result → Prop where
  | nil : Ran campaign executor round [] [] []
  | observed {history circuits results} (circuit : Circuit) (ending : Option Ending)
      (rest : Ran campaign executor round history circuits results) :
      Ran campaign executor round
        (executor.run.exchange (campaign.environment round circuit) (.ok ending) :: history)
        (circuit :: circuits)
        (⟨circuit, (Observation.ofRun ending).outcome round.bundle.expected⟩ :: results)
  | unstartable {history circuits results} (circuit : Circuit) (why : Refusal)
      (rest : Ran campaign executor round history circuits results) :
      Ran campaign executor round
        (executor.run.exchange (campaign.environment round circuit) (.error why) :: history)
        (circuit :: circuits) results

/-- A bundle is built, if there is a command to do so, and its circuits are run. -/
inductive Executes (campaign : Campaign) (executor : Executor) (round : Round) :
    History → List Result → Prop where
  | ready {history results} (unbuilt : executor.build? = none)
      (ran : Ran campaign executor round history round.bundle.circuits results) :
      Executes campaign executor round history results
  | built {history results} {line : CommandLine} (build : executor.build? = some line)
      {ending : Option Ending} (fine : Observation.ofBuild? ending = none)
      (ran : Ran campaign executor round history round.bundle.circuits results) :
      Executes campaign executor round (line.exchange [] (.ok ending) :: history) results
  | stopped {line : CommandLine} (build : executor.build? = some line) {ending : Option Ending}
      {observation : Observation} (seen : Observation.ofBuild? ending = some observation) :
      Executes campaign executor round [line.exchange [] (.ok ending)]
        (round.bundle.circuits.map fun circuit =>
          ⟨circuit, observation.outcome round.bundle.expected⟩)
  | unstartable {line : CommandLine} (build : executor.build? = some line) (why : Refusal) :
      Executes campaign executor round [line.exchange [] (.error why)] []

/-- Results come in the order of the circuits, none twice. -/
theorem Ran.sublist {circuits : List Circuit} {results : List Result}
    (ran : campaign.Ran executor round history circuits results) :
    (results.map (·.circuit)).Sublist circuits := by
  induction ran with
  | nil => exact .slnil
  | observed circuit ending rest ih => exact ih.cons_cons circuit
  | unstartable circuit why rest ih => exact ih.cons circuit

theorem Executes.sublist {results : List Result}
    (executes : campaign.Executes executor round history results) :
    (results.map (·.circuit)).Sublist round.bundle.circuits := by
  cases executes with
  | ready unbuilt ran => exact ran.sublist
  | built build fine ran => exact ran.sublist
  | stopped build seen => simp [Function.comp_def]
  | unstartable build why => exact List.nil_sublist _

/-! ## Runs -/

variable {line : CommandLine} {environment : List (String × String)}

theorem runs_commandLine (filled : line.words ≠ []) {result : Except Error (Option Output)} :
    (line.run environment).Runs history result ↔
      ∃ reply, history = [line.exchange environment reply] ∧
        result = (reply.mapError .io).map (Option.map Ending.output) := by
  obtain ⟨words, folder, preset, timeout⟩ := line
  obtain ⟨program, arguments, rfl⟩ := List.exists_cons_of_ne_nil filled
  let line : CommandLine := ⟨program :: arguments, folder, preset, timeout⟩
  have asked : line.run environment = (do
      let ending ← Work.orFail (← Work.ask (.launchWithin timeout (line.command environment)))
      return ending.map Ending.output) := rfl
  rw [asked, Work.runs_ask_bind]
  constructor
  · rintro ⟨reply, back, rfl, run⟩
    cases reply <;>
      obtain ⟨rfl, rfl⟩ := Procedure.runs_done.mp run <;>
      exact ⟨_, rfl, rfl⟩
  · rintro ⟨reply, rfl, rfl⟩
    refine ⟨reply, [], rfl, ?_⟩
    cases reply <;> exact .done _

/-- What goes on with the output of a line goes on with how its command ended. -/
theorem runs_commandLine_bind {α : Type} {next : Option Output → Work α}
    {result : Except Error α} (filled : line.words ≠ [])
    (run : (line.run environment >>= next).Runs history result) :
    (∃ why, history = [line.exchange environment (.error why)] ∧ result = .error (.io why)) ∨
      ∃ ending back, history = line.exchange environment (.ok ending) :: back ∧
        (next (ending.map Ending.output)).Runs back result := by
  obtain ⟨e, failed, rfl⟩ | ⟨front, output, back, rfl, came, later⟩ := Work.runs_bind.mp run
  · obtain ⟨reply, rfl, same⟩ := (runs_commandLine filled).mp failed
    cases reply with
    | ok ending => cases same
    | error why =>
      obtain rfl := Except.error.inj same
      exact .inl ⟨why, rfl, rfl⟩
  · obtain ⟨reply, rfl, same⟩ := (runs_commandLine filled).mp came
    cases reply with
    | ok ending =>
      obtain rfl := Except.ok.inj same
      exact .inr ⟨ending, back, rfl, later⟩
    | error why => cases same

/-- A build is one exchange, or none. -/
theorem runs_build (filled : ∀ line, executor.build? = some line → line.words ≠ [])
    {result : Except Error (Option Observation)} (run : executor.build.Runs history result) :
    (executor.build? = none ∧ history = [] ∧ result = .ok none) ∨
      ∃ line, executor.build? = some line ∧ ∃ reply, history = [line.exchange [] reply] ∧
        result = (reply.mapError .io).map Observation.ofBuild? := by
  unfold Executor.build at run
  cases build : executor.build? with
  | none =>
    rw [build] at run
    obtain ⟨rfl, rfl⟩ := Work.runs_pure.mp run
    exact .inl ⟨rfl, rfl, rfl⟩
  | some line =>
    rw [build] at run
    refine .inr ⟨line, rfl, ?_⟩
    obtain ⟨why, rfl, rfl⟩ | ⟨ending, back, rfl, later⟩ :=
      runs_commandLine_bind (filled line build) run
    · exact ⟨.error why, rfl, rfl⟩
    · refine ⟨.ok ending, ?_⟩
      cases ending with
      | none =>
        obtain ⟨rfl, rfl⟩ := Work.runs_pure.mp later
        exact ⟨rfl, rfl⟩
      | some ending =>
        simp only [Option.map_some] at later
        split at later <;> obtain ⟨rfl, rfl⟩ := Work.runs_pure.mp later <;>
          simp [Except.mapError, Except.map, Observation.ofBuild?, *]

theorem runs_runOnce (filled : executor.run.words ≠ []) {result : Except Error Observation}
    (run : (executor.runOnce environment).Runs history result) :
    ∃ reply, history = [executor.run.exchange environment reply] ∧
      result = (reply.mapError .io).map Observation.ofRun := by
  obtain ⟨why, rfl, rfl⟩ | ⟨ending, back, rfl, later⟩ := runs_commandLine_bind filled run
  · exact ⟨.error why, rfl, rfl⟩
  · refine ⟨.ok ending, ?_⟩
    cases ending <;> obtain ⟨rfl, rfl⟩ := Work.runs_pure.mp later <;> exact ⟨rfl, rfl⟩

theorem runs_runCircuits (filled : executor.run.words ≠ []) {circuits : List Circuit}
    {result : Except Error (List Result)}
    (run : (campaign.runCircuits executor round circuits).Runs history result) :
    ∃ results, result = .ok results ∧ campaign.Ran executor round history circuits results := by
  induction circuits generalizing history result with
  | nil =>
    obtain ⟨rfl, rfl⟩ := Work.runs_pure.mp run
    exact ⟨[], rfl, .nil⟩
  | cons circuit circuits ih =>
    obtain ⟨e, failed, rfl⟩ | ⟨front, observed, back, rfl, first, later⟩ := Work.runs_bind.mp run
    · obtain ⟨inner, -, same⟩ := runs_attempt.mp failed
      cases same
    obtain ⟨inner, ran, same⟩ := runs_attempt.mp first
    obtain rfl := Except.ok.inj same
    obtain ⟨reply, rfl, rfl⟩ := runs_runOnce filled ran
    -- the other circuits are run before it is looked at what this run came to
    obtain ⟨e, failed, rfl⟩ | ⟨middle, results, last, rfl, others, ends⟩ :=
      Work.runs_bind.mp later
    · obtain ⟨results, same, -⟩ := ih failed
      cases same
    obtain ⟨_, same, rest⟩ := ih others
    obtain rfl := Except.ok.inj same
    cases reply with
    | ok ending =>
      obtain ⟨rfl, rfl⟩ := Work.runs_pure.mp ends
      rw [List.append_nil]
      exact ⟨_, rfl, .observed circuit ending rest⟩
    | error why =>
      obtain ⟨rfl, rfl⟩ := Work.runs_pure.mp ends
      rw [List.append_nil]
      exact ⟨_, rfl, .unstartable circuit why rest⟩

/-- Execution never fails, and its results are those that it should have. -/
theorem runs_execute (filled : executor.run.words ≠ [])
    (builds : ∀ line, executor.build? = some line → line.words ≠ [])
    {result : Except Error (List Result)}
    (run : (campaign.execute executor round).Runs history result) :
    ∃ results, result = .ok results ∧ campaign.Executes executor round history results := by
  obtain ⟨e, failed, rfl⟩ | ⟨front, built, back, rfl, first, later⟩ := Work.runs_bind.mp run
  · obtain ⟨inner, -, same⟩ := runs_attempt.mp failed
    cases same
  obtain ⟨inner, ran, same⟩ := runs_attempt.mp first
  obtain rfl := Except.ok.inj same
  -- there is no build, it cannot be started, it leaves the project ready, or it decides everything
  obtain ⟨unbuilt, rfl, rfl⟩ | ⟨line, build, reply, rfl, rfl⟩ := runs_build builds ran
  · obtain ⟨results, rfl, ran⟩ := runs_runCircuits filled later
    exact ⟨results, rfl, .ready unbuilt ran⟩
  · cases reply with
    | error why =>
      obtain ⟨rfl, rfl⟩ := Work.runs_pure.mp later
      exact ⟨[], rfl, .unstartable build why⟩
    | ok ending =>
      cases seen : Observation.ofBuild? ending with
      | none =>
        simp only [Except.mapError, Except.map, Except.toOption, seen] at later
        obtain ⟨results, rfl, ran⟩ := runs_runCircuits filled later
        exact ⟨results, rfl, .built build seen ran⟩
      | some observation =>
        simp only [Except.mapError, Except.map, Except.toOption, seen] at later
        obtain ⟨rfl, rfl⟩ := Work.runs_pure.mp later
        exact ⟨_, rfl, .stopped build seen⟩

/-- The commands of an executor that settings describe are not empty. -/
theorem filled_of_ofSettings? {settings : TargetSettings} {folder : String}
    (described : Executor.ofSettings? settings folder = some executor) :
    executor.run.words ≠ [] ∧ ∀ line, executor.build? = some line → line.words ≠ [] := by
  unfold Executor.ofSettings? at described
  split at described
  · rename_i executes
    obtain rfl := Option.some.inj described
    refine ⟨by simpa [TargetSettings.executes] using executes, fun line build => ?_⟩
    dsimp only at build
    split at build
    · cases build
    · rename_i filled
      obtain rfl := Option.some.inj build
      simpa using filled
  · cases described

end Campaign

end Metamorph
