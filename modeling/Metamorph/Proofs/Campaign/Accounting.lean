import Metamorph.Proofs.Campaign.Bundles
import Metamorph.Proofs.Campaign.Execution
import Metamorph.Proofs.Campaign.Findings
import Metamorph.Proofs.Campaign.Placement
import Metamorph.Proofs.Campaign.Tally

/-! # The accounts of a campaign

A run that comes to a summary has played all its rounds. Each of them was written, executed and
recorded, and what its execution came to is all that the summary counts and that the log tells of:
no result is lost, counted twice or told of under the name of another. A campaign has a folder of
its own, named by an identifier that is new, so its log is missing when the run begins. -/

namespace Metamorph

open Machine (History)

/-- The panics that were read off a crash. -/
def Outcome.panics : Outcome → List Panic
  | .crashed panics _ => panics
  | _ => []

/-- There is one fingerprint for every panic. -/
theorem Outcome.fingerprints_eq (outcome : Outcome) :
    outcome.fingerprints = outcome.panics.map Panic.fingerprint := by
  cases outcome <;> rfl

namespace Campaign

/-! ## Plays -/

/-- What is asked for to record results: for each that is no success the time, and that a line be
added to the log. -/
inductive Records (campaign : Campaign) (round : Round) : List Result → History → Prop where
  | nil : Records campaign round [] []
  | passed {result results history} (passed : result.outcome = .passed)
      (rest : Records campaign round results history) :
      Records campaign round (result :: results) history
  | failed {result results history} (failed : result.outcome ≠ .passed) (time : String)
      (rest : Records campaign round results history) :
      Records campaign round (result :: results)
        (⟨.now, time⟩ ::
          ⟨.append campaign.findingsPath (Text.utf8 (campaign.findingLine round result time)),
            .ok ()⟩ :: history)

/-- A round is executed, if there is a command to run its circuits. -/
inductive Executed (campaign : Campaign) (round : Round) : History → List Result → Prop where
  | idle (missing : Executor.ofSettings? campaign.settings (campaign.roundFolder round.number) =
      none) : Executed campaign round [] []
  | run {executor : Executor} {history : History} {results : List Result}
      (described : Executor.ofSettings? campaign.settings (campaign.roundFolder round.number) =
        some executor)
      (run : (campaign.execute executor round).Runs history (.ok results))
      (executes : campaign.Executes executor round history results) :
      Executed campaign round history results

/-- A round as it was played: what its execution came to, and what was asked for to write it, to
execute it and to record its results. -/
structure Play where
  round : Round
  results : List Result
  writing : History
  running : History
  recording : History

namespace Play

/-- All that was asked for in a play. -/
def history (play : Play) : History :=
  play.writing ++ play.running ++ play.recording

/-- The results with their round. -/
def entries (play : Play) : List (Round × Result) :=
  play.results.map fun result => (play.round, result)

/-- The counts of a summary after a play. -/
def count (summary : Summary) (play : Play) : Summary :=
  play.results.foldl Summary.addResult (summary.addBundle play.round.bundle)

end Play

/-- A play that can occur in a campaign. -/
structure Plays (campaign : Campaign) (play : Play) : Prop where
  writing : (campaign.writeRound play.round).Runs play.writing (.ok ())
  running : campaign.Executed play.round play.running play.results
  recording : campaign.Records play.round play.results play.recording

variable {ρ : Type} [RandomSource ρ] {campaign : Campaign} {round : Round} {source : ρ}
  {history : History} {results : List Result} {summary final : Summary}

/-- Of one bundle there is at most one result for each circuit, in the order of the bundle. -/
theorem Executed.sublist (executed : campaign.Executed round history results) :
    (results.map (·.circuit)).Sublist round.bundle.circuits := by
  cases executed with
  | idle missing => exact List.nil_sublist _
  | run described run executes => exact executes.sublist

theorem Executed.names_nodup (executed : campaign.Executed round history results)
    (distinct : round.bundle.names.Nodup) : (results.map (·.circuit.name)).Nodup := by
  have names := executed.sublist.map Circuit.name
  rw [List.map_map] at names
  exact distinct.sublist names

/-! ## From runs to plays -/

theorem runs_recordAll (run : (campaign.recordAll round results summary).Runs history (.ok final)) :
    campaign.Records round results history ∧ final = results.foldl Summary.addResult summary := by
  induction results generalizing summary history with
  | nil =>
    obtain ⟨rfl, same⟩ := Work.runs_pure.mp run
    exact ⟨.nil, Except.ok.inj same⟩
  | cons result results ih =>
    obtain ⟨front, _, back, rfl, first, later⟩ := Work.runs_bind_ok.mp run
    obtain ⟨rest, same⟩ := ih later
    refine ⟨?_, same⟩
    unfold record at first
    split at first
    · rename_i passed
      obtain ⟨rfl, -⟩ := Work.runs_pure.mp first
      exact .passed passed rest
    · rename_i failed
      obtain ⟨time, added, rfl, adding⟩ := Work.runs_ask_bind.mp first
      obtain ⟨reply, rfl, done⟩ := Work.runs_append.mp (runs_onOutput_ok.mp adding)
      -- a refused addition would have ended the run
      cases reply with
      | ok u => exact .failed failed time rest
      | error why => cases done

theorem runs_playRound (run : (campaign.playRound round summary).Runs history (.ok final)) :
    ∃ play : Play, play.round = round ∧ campaign.Plays play ∧ history = play.history ∧
      final = play.count summary := by
  obtain ⟨writing, _, back, rfl, written, later⟩ := Work.runs_bind_ok.mp run
  split at later
  · -- without a command to run circuits the round is only written
    rename_i missing
    obtain ⟨rfl, same⟩ := Work.runs_pure.mp later
    obtain rfl := Except.ok.inj same
    exact ⟨⟨round, [], writing, [], []⟩, rfl, ⟨written, .idle missing, .nil⟩,
      by simp [Play.history], rfl⟩
  · rename_i executor described
    obtain ⟨running, results, recording, rfl, executed, recorded⟩ := Work.runs_bind_ok.mp later
    obtain ⟨filled, builds⟩ := filled_of_ofSettings? described
    obtain ⟨_, same, executes⟩ := runs_execute filled builds executed
    obtain rfl := Except.ok.inj same
    obtain ⟨records, rfl⟩ := runs_recordAll recorded
    exact ⟨⟨round, results, writing, running, recording⟩, rfl,
      ⟨written, .run described executed executes, records⟩, by simp [Play.history], rfl⟩

theorem runs_playRounds {shape : Shape} {left number : Nat}
    (run : (campaign.playRounds shape left number source summary).Runs history (.ok final)) :
    ∃ plays : List Play, plays.map Play.round = campaign.drawRounds shape left number source ∧
      plays.length = left ∧ (∀ play ∈ plays, campaign.Plays play) ∧
      history = plays.flatMap Play.history ∧ final = plays.foldl Play.count summary := by
  induction left generalizing number source summary history with
  | zero =>
    obtain ⟨rfl, same⟩ := Work.runs_pure.mp run
    exact ⟨[], rfl, rfl, fun _ member => (nomatch member), rfl, Except.ok.inj same⟩
  | succ left ih =>
    rw [playRounds] at run
    rw [drawRounds]
    generalize (campaign.drawRound shape number : Draw ρ Round) source = drawn at run
    obtain ⟨e | round, source⟩ := drawn
    · cases (Work.runs_throw.mp run).2
    · obtain ⟨front, middle, back, rfl, first, later⟩ := Work.runs_bind_ok.mp run
      obtain ⟨play, rfl, occurs, rfl, rfl⟩ := runs_playRound first
      obtain ⟨plays, rounds, rfl, all, rfl, rfl⟩ := ih later
      refine ⟨play :: plays, ?_, rfl, List.forall_mem_cons.mpr ⟨occurs, all⟩, rfl, rfl⟩
      rw [List.map_cons, rounds]

/-- A run that comes to a summary is made of its preparation and of its plays. -/
theorem runs_run (run : (campaign.run source).Runs history (.ok summary)) :
    ∃ (setup : History) (plays : List Play), history = setup ++ plays.flatMap Play.history ∧
      (∀ exchange ∈ setup, campaign.Spares exchange.action) ∧
      plays.map Play.round = campaign.rounds source ∧ plays.length = campaign.bundles ∧
      (∀ play ∈ plays, campaign.Plays play) ∧ summary = plays.foldl Play.count {} := by
  obtain ⟨front, _, back, rfl, made, later⟩ := Work.runs_bind_ok.mp run
  obtain ⟨middle, _, back, rfl, prepared, later⟩ := Work.runs_bind_ok.mp later
  obtain ⟨known, shape, last, rfl, shaped, played⟩ := Work.runs_bind_ok.mp later
  obtain ⟨rfl, same⟩ := Work.runs_mk_pure.mp shaped
  obtain ⟨plays, rounds, counted, occur, rfl, rfl⟩ := runs_playRounds played
  refine ⟨front ++ middle, plays, by simp, ?_, ?_, counted, occur, rfl⟩
  · have folder : (onOutput (Work.createFolders campaign.folder)).run.Asks campaign.Spares :=
      asks_onOutput (Work.asks_createFolders trivial)
    exact List.forall_mem_append.mpr
      ⟨folder.of_passes made.passes, asks_prepareCheckout.of_passes prepared.passes⟩
  · rw [Campaign.rounds, ← same, rounds]

/-! ## Counts -/

theorem counts_plays {played : List Bundle} {counted : List Result}
    (counts : summary.Counts played counted) (plays : List Play) :
    (plays.foldl Play.count summary).Counts (played ++ plays.map (·.round.bundle))
      (counted ++ plays.flatMap Play.results) := by
  induction plays generalizing summary played counted with
  | nil => simpa using counts
  | cons play plays ih =>
    have rest := ih ((counts.addBundle play.round.bundle).addResults play.results)
    simpa [Play.count] using rest

/-! ## The log -/

/-- What a line of the log has to say about a result of a round. -/
structure Tells (campaign : Campaign) (entry : Round × Result) (finding : Finding) : Prop where
  target : finding.target = campaign.target.name
  bundle : finding.bundle = entry.1.number
  circuit : finding.circuit = entry.2.circuit.name
  rewrites : finding.rewrites = entry.2.circuit.rewrites
  perturbed : finding.perturbed = entry.2.circuit.perturbed
  injection : finding.injection = entry.1.injection.map Injection.name
  outcome : finding.outcome = entry.2.outcome
  fingerprints : finding.fingerprints = entry.2.outcome.panics.map Panic.fingerprint
  campaign : finding.campaign = campaign.id

theorem tells_finding (campaign : Campaign) (round : Round) (result : Result) (time : String) :
    campaign.Tells (round, result) (campaign.finding round result time) :=
  ⟨rfl, rfl, rfl, rfl, rfl, rfl, rfl, result.outcome.fingerprints_eq, rfl⟩

/-- The entries that the log tells of. -/
def failures (entries : List (Round × Result)) : List (Round × Result) :=
  entries.filter fun entry => entry.2.outcome ≠ .passed

theorem failures_append (first rest : List (Round × Result)) :
    failures (first ++ rest) = failures first ++ failures rest :=
  List.filter_append ..

variable {before after : Disk} {findings : List Finding} {play : Play} {plays : List Play}

/-- A request that is not about the log. -/
def SparesLog (campaign : Campaign) : Machine.Action → Prop
  | .write path _ => path ≠ campaign.findingsPath
  | .append path _ => path ≠ campaign.findingsPath
  | _ => True

theorem sparesLog_of_spares {action : Machine.Action} (spares : campaign.Spares action) :
    campaign.SparesLog action := by
  cases action with
  | write path bytes =>
    rintro rfl
    exact spares (.inl rfl)
  | append path bytes =>
    rintro rfl
    exact spares (.inl rfl)
  | _ => trivial

theorem Logs.spared (logs : campaign.Logs before findings)
    (leads : Leads campaign.Step before history after)
    (spared : ∀ exchange ∈ history, campaign.SparesLog exchange.action) :
    campaign.Logs after findings := by
  refine logs.of_eq (Disk.eq_of_leads leads (.inl rfl) fun exchange member other bytes asked => ?_)
  have spares := spared exchange member
  obtain written | appended := asked
  · rwa [written] at spares
  · rwa [appended] at spares

theorem Executed.sparesLog (executed : campaign.Executed round history results) :
    ∀ exchange ∈ history, campaign.SparesLog exchange.action := by
  cases executed with
  | idle missing => exact fun _ member => nomatch member
  | run described run executes =>
    intro exchange member
    exact sparesLog_of_spares (spares_of_isCommand (asks_execute.of_passes run.passes exchange member))

theorem Plays.sparesLog (plays : campaign.Plays play) :
    ∀ exchange ∈ play.writing, campaign.SparesLog exchange.action :=
  (asks_writeRound trivial fun name _ => campaign.filePath_ne_findingsPath play.round.number name)
    |>.of_passes plays.writing.passes

/-- Recording adds findings of the failures. -/
theorem Records.logs (records : campaign.Records round results history)
    (logs : campaign.Logs before findings) (leads : Leads campaign.Step before history after) :
    ∃ more, campaign.Logs after (findings ++ more) ∧
      List.Forall₂ campaign.Tells (failures (results.map fun result => (round, result))) more := by
  induction records generalizing before findings with
  | nil =>
    obtain rfl := leads_nil.mp leads
    exact ⟨[], by rwa [List.append_nil], .nil⟩
  | passed passed rest ih =>
    obtain ⟨more, logs, tells⟩ := ih logs leads
    refine ⟨more, logs, ?_⟩
    rwa [List.map_cons, failures, List.filter_cons_of_neg (by simpa using passed)]
  | @failed result results history failed time rest ih =>
    obtain ⟨between, clock, onward⟩ := leads_cons.mp leads
    obtain ⟨next, added, onward⟩ := leads_cons.mp onward
    obtain rfl : between = before := clock
    obtain ⟨more, logs, tells⟩ := ih (logs.append added) onward
    refine ⟨campaign.finding round result time :: more, by simpa using logs, ?_⟩
    rw [List.map_cons, failures, List.filter_cons_of_pos (by simpa using failed)]
    exact .cons (campaign.tells_finding round result time) tells

theorem Plays.logs (occurs : campaign.Plays play) (logs : campaign.Logs before findings)
    (leads : Leads campaign.Step before play.history after) :
    ∃ more, campaign.Logs after (findings ++ more) ∧
      List.Forall₂ campaign.Tells (failures play.entries) more := by
  obtain ⟨executed, first, recording⟩ := leads_append.mp leads
  obtain ⟨written, writing, running⟩ := leads_append.mp first
  have logs := (logs.spared writing occurs.sparesLog).spared running occurs.running.sparesLog
  exact occurs.recording.logs logs recording

/-- Plays add findings of all their failures, in order. -/
theorem logs_plays (occur : ∀ play ∈ plays, campaign.Plays play)
    (logs : campaign.Logs before findings)
    (leads : Leads campaign.Step before (plays.flatMap Play.history) after) :
    ∃ more, campaign.Logs after (findings ++ more) ∧
      List.Forall₂ campaign.Tells (failures (plays.flatMap Play.entries)) more := by
  induction plays generalizing before findings with
  | nil =>
    obtain rfl := leads_nil.mp leads
    exact ⟨[], by rwa [List.append_nil], .nil⟩
  | cons play plays ih =>
    obtain ⟨first, others⟩ := List.forall_mem_cons.mp occur
    obtain ⟨between, leads, rest⟩ := leads_append.mp leads
    obtain ⟨own, logs, tells⟩ := first.logs logs leads
    obtain ⟨more, logs, tellsMore⟩ := ih others logs rest
    refine ⟨own ++ more, by rwa [← List.append_assoc], ?_⟩
    rw [List.flatMap_cons, failures_append]
    exact List.rel_append tells tellsMore

theorem bundle_lt_of_tells {entries : List (Round × Result)} {bound : Nat}
    (tells : List.Forall₂ campaign.Tells entries findings)
    (below : ∀ entry ∈ entries, entry.1.number < bound) :
    ∀ finding ∈ findings, finding.bundle < bound := by
  induction tells with
  | nil => exact fun _ member => (nomatch member)
  | cons first rest ih =>
    obtain ⟨now, later⟩ := List.forall_mem_cons.mp below
    exact List.forall_mem_cons.mpr ⟨first.bundle ▸ now, ih later⟩

/-! ## Accounts -/

/-- Whatever the commands do, a run that began with an empty log and comes to a summary has played
all its rounds. The summary counts the bundles and the results, each circuit of a bundle at most
once and in the order of the bundle, and every line of the log tells of one failure among the
results, in their order. -/
theorem run_accounts (few : campaign.bundles ≤ 2 ^ 64)
    (run : (campaign.run source).Runs history (.ok summary))
    (leads : Leads campaign.Step before history after)
    (missing : before campaign.findingsPath = none) :
    ∃ (setup : History) (plays : List Play), history = setup ++ plays.flatMap Play.history ∧
      (∀ exchange ∈ setup, campaign.Spares exchange.action) ∧
      plays.map Play.round = campaign.rounds source ∧
      (∀ play ∈ plays, campaign.Plays play ∧
        (play.results.map (·.circuit)).Sublist play.round.bundle.circuits ∧
        (play.results.map (·.circuit.name)).Nodup) ∧
      summary.bundles = campaign.bundles ∧
      summary.Counts (plays.map (·.round.bundle)) (plays.flatMap Play.results) ∧
      ∃ (text : String) (findings : List Finding), Text.ofUtf8? (campaign.log after) = some text ∧
        (Text.lines text.toList).map Finding.ofLine? = findings.map some ∧
        List.Forall₂ campaign.Tells (failures (plays.flatMap Play.entries)) findings := by
  obtain ⟨setup, plays, rfl, spared, rounds, counted, occur, rfl⟩ := runs_run run
  have drawn : ∀ play ∈ plays, play.round ∈ campaign.rounds source := fun play member =>
    rounds ▸ List.mem_map_of_mem member
  have counts := counts_plays Summary.counts_nil plays
  rw [List.nil_append, List.nil_append] at counts
  refine ⟨setup, plays, rfl, spared, rounds, fun play member => ?_, ?_, counts, ?_⟩
  · have executed := (occur play member).running
    exact ⟨occur play member, executed.sublist,
      executed.names_nodup (names_nodup_of_mem (drawn play member))⟩
  · rw [counts.bundles, List.length_map, counted]
  · obtain ⟨between, prepared, played⟩ := leads_append.mp leads
    have empty := (logs_nil missing).spared prepared fun exchange member =>
      sparesLog_of_spares (spared exchange member)
    obtain ⟨findings, logs, tells⟩ := logs_plays occur empty played
    rw [List.nil_append] at logs
    have numbered : ∀ entry ∈ failures (plays.flatMap Play.entries),
        entry.1.number < campaign.bundles := by
      intro entry member
      obtain ⟨play, own, among⟩ := List.mem_flatMap.mp (List.mem_of_mem_filter member)
      obtain ⟨result, -, rfl⟩ := List.mem_map.mp among
      exact number_lt (drawn play own)
    obtain ⟨text, decoded, read⟩ := logs.read fun finding member =>
      (bundle_lt_of_tells tells numbered finding member).trans_le few
    exact ⟨text, findings, decoded, read, tells⟩

/-- The seed takes too long, and its variants break down. -/
def mixedGuests (command : Command) : Except Refusal (Option Ending) :=
  if command.environment.contains ("ZKFUZZ_CIRCUIT", "seed") then .ok none
  else .ok (some ⟨.exited 101, [], Text.utf8 "thread 'main' panicked at guest.rs:1:2:\noops\n"⟩)

theorem run_accounts_mixed : ∃ summary : Summary,
    summary.outcomes = [("crashed", 1), ("run_timeout", 1)] ∧ summary.findings = 2 ∧
      ∃ plays : List Play, (plays.flatMap Play.results).length = 2 ∧
        summary.Counts (plays.map (·.round.bundle)) (plays.flatMap Play.results) := by
  let campaign := sample { runCommand := ["guest"] }
  let work := campaign.run (ChaCha.ofSeed 7)
  have tallied : (work.resultOn (Machine.roomy mixedGuests)).toOption.map
      (fun summary => (summary.outcomes, summary.findings)) =
        some ([("crashed", 1), ("run_timeout", 1)], 2) := by
    decide +kernel
  have run := Work.runs_on (Machine.roomy mixedGuests) work
  cases outcome : work.resultOn (Machine.roomy mixedGuests) with
  | error e =>
    rw [outcome] at tallied
    cases tallied
  | ok summary =>
    rw [outcome] at tallied run
    obtain ⟨outcomes, findings⟩ := Prod.mk.inj (Option.some.inj tallied)
    obtain ⟨-, plays, -, -, -, -, -, counts, -⟩ := run_accounts (by decide) run
      (Disk.leads_play (fun _ => none) _) rfl
    refine ⟨summary, outcomes, findings, plays, ?_, counts⟩
    rw [← counts.total, outcomes]
    rfl

end Campaign

end Metamorph
