import Metamorph.Proofs.Campaign.Bundles
import Metamorph.Proofs.Campaign.Execution
import Metamorph.Proofs.Campaign.Replay

/-! # What is on the disk at any moment

A run begins with an empty log. From there every request keeps the log within what can be
replayed: a round adds the findings of its own bundle, whose files it has written before, and no
request goes back to the files of a round before it. So it does not matter where a run breaks off,
and whether it was stopped or failed. -/

namespace Metamorph

open Machine (Action History)

namespace Campaign

variable {ρ : Type} [RandomSource ρ] {campaign : Campaign} {round : Round} {source : ρ}
  {history : History} {before after : Disk}

/-! ## From round to round -/

/-- A round adds findings of its own only. -/
theorem playRound_safe {summary : Summary} (fits : round.bundle.Fits) :
    Work.Safe campaign.Step (campaign.Kept (round.number + 1)) (campaign.Kept round.number)
      (campaign.playRound round summary) fun _ => campaign.Kept (round.number + 1) := by
  have later (disk : Disk) (kept : campaign.Kept round.number disk) :
      campaign.Kept (round.number + 1) disk := kept.mono (Nat.le_succ _)
  have written : Work.Safe campaign.Step (campaign.Kept (round.number + 1))
      (campaign.Kept round.number) (campaign.writeRound round) fun _ => campaign.Written round :=
    writeRound_safe.mono (fun _ kept => kept) later fun _ disk given => ⟨later disk given.1, given.2⟩
  refine written.bind fun _ => ?_
  split
  · exact .pure (fun _ written => written.1) fun _ written => written.1
  · rename_i executor described
    obtain ⟨filled, builds⟩ := filled_of_ofSettings? described
    -- what is recorded are results of this bundle, which is on the disk by now
    have own {history : History} {results : List Result}
        (run : (campaign.execute executor round).Runs history (.ok results)) :
        ∀ result ∈ results, result.circuit ∈ round.bundle.circuits := by
      obtain ⟨_, same, executes⟩ := runs_execute filled builds run
      obtain rfl := Except.ok.inj same
      exact fun result member => executes.sublist.subset (List.mem_map_of_mem member)
    have executed := execute_safe.and_runs fun _ results (run : Work.Runs _ _ (.ok results)) =>
      own run
    refine (executed.widen fun _ written => written.1).bind fun results => .of_and fun members => ?_
    exact (recordAll_safe fits members).mono (fun _ written => written)
      (fun _ written => written.1) fun _ _ written => written.1

/-- As many rounds add findings of theirs. -/
theorem playRounds_safe {shape : Shape} {left number : Nat} {summary : Summary}
    (fits : ∀ round ∈ campaign.drawRounds shape left number source, round.bundle.Fits) :
    Work.Safe campaign.Step (campaign.Kept (number + left)) (campaign.Kept number)
      (campaign.playRounds shape left number source summary)
      fun _ => campaign.Kept (number + left) := by
  induction left generalizing number source summary with
  | zero => exact .pure (fun _ kept => kept) fun _ kept => kept
  | succ left ih =>
    rw [drawRounds] at fits
    rw [playRounds]
    cases drawn : (campaign.drawRound shape number : Draw ρ Round) source with
    | mk outcome rest =>
      cases outcome with
      | error e => exact .throw fun _ kept => kept.mono (Nat.le_add_right ..)
      | ok round =>
        simp only [drawn, List.forall_mem_cons] at fits
        -- a round comes after all whose findings are in the log, so its folder is new
        obtain rfl := number_drawRound drawn
        have played : Work.Safe campaign.Step (campaign.Kept (round.number + (left + 1)))
            (campaign.Kept round.number) (campaign.playRound round summary)
            fun _ => campaign.Kept (round.number + 1) :=
          (playRound_safe fits.1).widen fun _ kept => kept.mono (by omega)
        refine played.bind fun summary => ?_
        have others := @ih rest (round.number + 1) summary fits.2
        rwa [show round.number + 1 + left = round.number + (left + 1) by omega] at others

/-- From an empty log on, the log holds nothing but what can be replayed. -/
theorem run_safe (fits : ∀ round ∈ campaign.rounds source, round.bundle.Fits) :
    Work.Safe campaign.Step (campaign.Kept campaign.bundles) (campaign.Kept 0)
      (campaign.run source) fun _ => campaign.Kept campaign.bundles := by
  have later (disk : Disk) (kept : campaign.Kept 0 disk) : campaign.Kept campaign.bundles disk :=
    kept.mono (Nat.zero_le _)
  have calm {α : Type} {work : Work α} (asks : work.run.Asks campaign.Spares) :
      Work.Safe campaign.Step (campaign.Kept campaign.bundles) (campaign.Kept 0) work
        fun _ => campaign.Kept 0 :=
    (Work.Safe.of_asks asks fun _ _ _ spares kept change => kept.spared spares change).widen later
  refine (calm (asks_onOutput (Work.asks_createFolders trivial))).bind fun _ => ?_
  refine (calm asks_prepareCheckout).bind fun _ => ?_
  rw [rounds] at fits
  cases known : campaign.shape with
  | error e => exact .throw later
  | ok shape =>
    rw [known] at fits
    have played : Work.Safe campaign.Step (campaign.Kept (0 + campaign.bundles)) (campaign.Kept 0)
        (campaign.playRounds shape campaign.bundles 0 source {})
        fun _ => campaign.Kept (0 + campaign.bundles) := playRounds_safe fits
    rwa [Nat.zero_add] at played

/-! ## Additions to the log -/

/-- A request that adds to the log, or to something that is no record, or adds nothing. -/
def AddsToLog (campaign : Campaign) : Action → Prop
  | .append path _ => path = campaign.findingsPath ∨ ¬ campaign.IsRecord path
  | _ => True

theorem addsToLog_of_spares {action : Action} (spares : campaign.Spares action) :
    campaign.AddsToLog action := by
  cases action with
  | append path bytes => exact .inr spares
  | _ => trivial

theorem asks_recordAll {results : List Result} {summary : Summary} :
    (campaign.recordAll round results summary).run.Asks campaign.AddsToLog := by
  induction results generalizing summary with
  | nil => exact .pure
  | cons result results ih =>
    refine .run_bind ?_ fun _ => ih
    unfold record
    split
    · exact .pure
    · exact .run_bind (Work.asks_ask trivial) fun time =>
        asks_onOutput (Work.asks_append (.inl rfl))

theorem asks_playRound {summary : Summary} :
    (campaign.playRound round summary).run.Asks campaign.AddsToLog := by
  refine .run_bind (asks_writeRound trivial fun _ _ => trivial) fun _ => ?_
  split
  · exact .pure
  · refine .run_bind (asks_execute.mono fun _ command => ?_) fun _ => asks_recordAll
    exact addsToLog_of_spares (spares_of_isCommand command)

theorem asks_playRounds {shape : Shape} {left number : Nat} {summary : Summary} :
    (campaign.playRounds shape left number source summary).run.Asks campaign.AddsToLog := by
  induction left generalizing number source summary with
  | zero => exact .pure
  | succ left ih =>
    rw [playRounds]
    generalize (campaign.drawRound shape number : Draw ρ Round) source = drawn
    obtain ⟨e | round, source⟩ := drawn
    · exact .throw
    · exact .run_bind asks_playRound fun _ => ih

/-- Of all records only the log is ever added to. -/
theorem asks_run : (campaign.run source).run.Asks campaign.AddsToLog := by
  refine .run_bind (asks_onOutput (Work.asks_createFolders trivial)) fun _ => ?_
  refine .run_bind (asks_prepareCheckout.mono fun _ => addsToLog_of_spares) fun _ => ?_
  cases campaign.shape with
  | ok shape => exact asks_playRounds
  | error e => exact .throw

/-! ## Replaying -/

/-- Wherever a run breaks off that began with an empty log, every line of the log is a finding that
can be replayed with what is on the disk. Files of rounds are written in the order of the rounds,
none is written twice or added to, and no two rounds have one folder. -/
theorem findings_replayable [LawfulRandomSource ρ] (counted : campaign.generation.Counted)
    (few : campaign.bundles ≤ 2 ^ 64) (passes : (campaign.run source).Passes history)
    (leads : Leads campaign.Step before history after)
    (missing : before campaign.findingsPath = none) :
    (∃ (text : String) (findings : List Finding), Text.ofUtf8? (campaign.log after) = some text ∧
      (Text.lines text.toList).map Finding.ofLine? = findings.map some ∧
      ∀ finding ∈ findings,
        finding.bundle < campaign.bundles ∧ campaign.Replayable after finding) ∧
    (history.map (·.action)).Pairwise campaign.InOrder ∧
    (∀ number, ∀ name ∈ fileNames, ∀ bytes,
      .append (campaign.filePath number name) bytes ∉ history.map (·.action)) ∧
    Function.Injective campaign.roundFolder := by
  refine ⟨?_, ?_, ?_, campaign.roundFolder_injective⟩
  · have empty : campaign.Kept 0 before := ⟨[], logs_nil missing, fun _ member => nomatch member⟩
    have fits (round : Round) (member : round ∈ campaign.rounds source) : round.bundle.Fits :=
      fits_of_mem counted member
    have safe := run_safe fits
    obtain ⟨findings, logs, sound⟩ := (safe empty leads).1 passes
    have numbered : ∀ finding ∈ findings, finding.bundle < 2 ^ 64 := fun finding member =>
      (sound finding member).1.trans_le few
    obtain ⟨text, decoded, read⟩ := logs.read numbered
    exact ⟨text, findings, decoded, read, sound⟩
  · exact (passes_follows passes).inOrder (campaign.rounds_increasing source)
  · intro number name named bytes member
    obtain ⟨exchange, asked, same⟩ := List.mem_map.mp member
    have adds := asks_run.of_passes passes exchange asked
    rw [same] at adds
    obtain log | other := adds
    · exact campaign.filePath_ne_findingsPath number name log
    · exact other (isRecord_filePath named)

/-- A campaign whose guests take too long. -/
def sampleStuck : Campaign :=
  sample { runCommand := ["guest"] }

/-- The files after a run of it. -/
def stuckDisk : Disk :=
  Disk.play (fun _ => none) (sampleStuck.historyWith fun _ => .ok none)

theorem findings_replayable_stuck : sampleStuck.log stuckDisk ≠ [] ∧
    ∃ (text : String) (findings : List Finding), Text.ofUtf8? (sampleStuck.log stuckDisk) = some text ∧
      (Text.lines text.toList).map Finding.ofLine? = findings.map some ∧
      ∀ finding ∈ findings, finding.bundle < 1 ∧ sampleStuck.Replayable stuckDisk finding := by
  have counted : sampleStuck.generation.Counted := ⟨by decide, by decide, by decide⟩
  exact ⟨by decide +kernel, (findings_replayable counted (by decide) (passes_historyWith _ _)
    (Disk.leads_play _ _) rfl).1⟩

end Campaign

end Metamorph
