import Metamorph.Proofs.Bundle.Json
import Metamorph.Proofs.Campaign.Findings
import Metamorph.Proofs.Campaign.Placement

/-! # Findings can be replayed

Whenever a run breaks off, the folder of every round that the log of findings tells of holds all
files of the round. What keeps this true is that a round is written before it is executed, that
only its own results are recorded then, and that no file of an earlier round is touched again. -/

namespace Metamorph

open Machine (Action History)

namespace Campaign

variable {campaign : Campaign} {disk before after : Disk} {round : Round} {finding : Finding}

/-- The files of a round are complete. -/
def Holds (campaign : Campaign) (disk : Disk) (round : Round) : Prop :=
  ∃ guest, Guest.emitBundle {} round.bundle = .ok guest ∧
    ∀ file ∈ campaign.roundFiles round guest,
      disk (campaign.filePath round.number file.1) = some file.2

/-- The folder that a finding names has a bundle in all its forms, with a circuit as the finding
tells of it, and a manifest of the bundle with the injection of the finding. -/
structure ReplayableFrom (campaign : Campaign) (disk : Disk) (finding : Finding)
    (bundle : Bundle) : Prop where
  bytes : ∃ bytes, disk (campaign.filePath finding.bundle "bundle.bin") = some bytes ∧
    Bundle.ofBytes bytes = .ok bundle
  circuit : ∃ circuit ∈ bundle.circuits, circuit.name = finding.circuit ∧
    circuit.rewrites = finding.rewrites ∧ circuit.perturbed = finding.perturbed
  text : disk (campaign.filePath finding.bundle "bundle.json") = some (Text.utf8 bundle.toText)
  guest : ∃ guest, Guest.emitBundle {} bundle = .ok guest ∧
    disk (campaign.filePath finding.bundle "guest.rs") = some (Text.utf8 guest)
  project : ∃ text fields,
    disk (campaign.filePath finding.bundle "project.json") = some (Text.utf8 text) ∧
      Json.parse? text = some (.object fields) ∧
      Json.field? fields "expected" = some (some (.nat bundle.expected.toNat)) ∧
      Json.field? fields "circuits" = some (some (.list .text bundle.names)) ∧
      Json.field? fields "injection" = some (some (.optional .text finding.injection))

/-- A finding has what it takes to see it again. -/
def Replayable (campaign : Campaign) (disk : Disk) (finding : Finding) : Prop :=
  ∃ bundle, campaign.ReplayableFrom disk finding bundle

/-- Only the four files in the folder of a finding count. -/
theorem Replayable.of_eq (replayable : campaign.Replayable before finding)
    (same : ∀ name ∈ fileNames, after (campaign.filePath finding.bundle name) =
      before (campaign.filePath finding.bundle name)) : campaign.Replayable after finding := by
  obtain ⟨bundle, bytes, circuit, text, guest, project⟩ := replayable
  simp only [← same _ (show "bundle.bin" ∈ fileNames by decide),
    ← same _ (show "bundle.json" ∈ fileNames by decide),
    ← same _ (show "guest.rs" ∈ fileNames by decide),
    ← same _ (show "project.json" ∈ fileNames by decide)] at bytes text guest project
  exact ⟨bundle, bytes, circuit, text, guest, project⟩

theorem exact_manifest : (campaign.manifest round).Exact := by
  refine ⟨trivial, trivial, trivial, Json.exact_optional Json.exact_text _,
    ⟨trivial, trivial, trivial⟩, Json.exact_optional (fun _ => Json.exact_text _) _,
    Json.exact_nat _, Json.exact_list Json.exact_text _, trivial⟩

/-- The results of a round whose files are complete can be replayed. -/
theorem Holds.replayable (holds : campaign.Holds disk round) (fits : round.bundle.Fits)
    {result : Result} (member : result.circuit ∈ round.bundle.circuits) (time : String) :
    campaign.Replayable disk (campaign.finding round result time) := by
  obtain ⟨guest, emitted, files⟩ := holds
  simp only [roundFiles, List.forall_mem_cons, List.not_mem_nil, false_imp_iff, implies_true,
    and_true] at files
  obtain ⟨text, bytes, code, project⟩ := files
  have decoded : Bundle.ofBytes round.bundle.toBytes = .ok round.bundle := by
    have read := Codec.bundle_exact.decode_encode fits []
    rw [List.append_nil] at read
    exact Bundle.ofBytes_eq_ok.mpr ⟨List.ne_nil_of_mem member, [], read⟩
  refine ⟨round.bundle, ⟨_, bytes, decoded⟩, ⟨_, member, rfl, rfl, rfl⟩, text,
    ⟨guest, emitted, code⟩, _, _, project, Json.parse?_pretty exact_manifest, ?_, ?_, ?_⟩
  · exact Json.field?_of_mem (by simp) (by simp)
  · exact Json.field?_of_mem (by simp) (by simp)
  · exact Json.field?_of_mem (by simp) (by simp [injectionJson_eq, Campaign.finding])

/-! ## What a step keeps -/

variable {count number : Nat} {exchange : Exchange Machine.interface}

/-- All findings in the log are of rounds before some number, and can be replayed. -/
def Kept (campaign : Campaign) (count : Nat) (disk : Disk) : Prop :=
  ∃ findings, campaign.Logs disk findings ∧
    ∀ finding ∈ findings, finding.bundle < count ∧ campaign.Replayable disk finding

theorem Kept.mono {more : Nat} (kept : campaign.Kept count disk) (le : count ≤ more) :
    campaign.Kept more disk := by
  obtain ⟨findings, logs, sound⟩ := kept
  exact ⟨findings, logs, fun finding member =>
    ⟨(sound finding member).1.trans_le le, (sound finding member).2⟩⟩

theorem Kept.of_eq (kept : campaign.Kept count before)
    (log : after campaign.findingsPath = before campaign.findingsPath)
    (files : ∀ number < count, ∀ name ∈ fileNames,
      after (campaign.filePath number name) = before (campaign.filePath number name)) :
    campaign.Kept count after := by
  obtain ⟨findings, logs, sound⟩ := kept
  refine ⟨findings, logs.of_eq log, fun finding member => ?_⟩
  obtain ⟨early, replayable⟩ := sound finding member
  exact ⟨early, replayable.of_eq (files _ early)⟩

theorem Holds.of_eq (holds : campaign.Holds before round)
    (files : ∀ name ∈ fileNames, after (campaign.filePath round.number name) =
      before (campaign.filePath round.number name)) : campaign.Holds after round := by
  obtain ⟨guest, emitted, complete⟩ := holds
  refine ⟨guest, emitted, fun file member => ?_⟩
  have named : file.1 ∈ fileNames := by
    have listed := List.mem_map_of_mem (f := Prod.fst) member
    simpa [roundFiles, fileNames] using listed
  rw [files file.1 named, complete file member]

theorem isRecord_findingsPath : campaign.IsRecord campaign.findingsPath :=
  .inl rfl

theorem isRecord_filePath {name : String} (named : name ∈ fileNames) :
    campaign.IsRecord (campaign.filePath number name) :=
  .inr ⟨number, name, named, rfl⟩

/-- A request that spares the records changes none. -/
theorem unchanged_of_spares (spares : campaign.Spares exchange.action)
    (change : campaign.Step before exchange after) {path : String}
    (isRecord : campaign.IsRecord path) : after path = before path := by
  refine change.unchanged isRecord fun other bytes asked same => ?_
  obtain written | appended := asked
  · rw [written] at spares
    exact spares (same ▸ isRecord)
  · rw [appended] at spares
    exact spares (same ▸ isRecord)

theorem Kept.spared (kept : campaign.Kept count before)
    (spares : campaign.Spares exchange.action) (change : campaign.Step before exchange after) :
    campaign.Kept count after :=
  kept.of_eq (unchanged_of_spares spares change isRecord_findingsPath) fun _ _ _ named =>
    unchanged_of_spares spares change (isRecord_filePath named)

theorem Holds.spared (holds : campaign.Holds before round)
    (spares : campaign.Spares exchange.action) (change : campaign.Step before exchange after) :
    campaign.Holds after round :=
  holds.of_eq fun _ named => unchanged_of_spares spares change (isRecord_filePath named)

/-- Writing a file of a round changes no other record. -/
theorem unchanged_of_write {name : String} {bytes : List UInt8} {reply : Except Refusal Unit}
    (change : campaign.Step before ⟨.write (campaign.filePath number name) bytes, reply⟩ after)
    {path : String} (isRecord : campaign.IsRecord path)
    (differs : path ≠ campaign.filePath number name) : after path = before path := by
  refine change.unchanged isRecord fun other _ asked same => ?_
  obtain written | appended := asked
  · obtain ⟨rfl, -⟩ := Action.write.inj written
    exact differs same.symm
  · cases appended

theorem Kept.written {name : String} {bytes : List UInt8} {reply : Except Refusal Unit}
    (kept : campaign.Kept number before)
    (change : campaign.Step before ⟨.write (campaign.filePath number name) bytes, reply⟩ after) :
    campaign.Kept number after := by
  refine kept.of_eq ?_ fun earlier early other named => ?_
  · exact unchanged_of_write change isRecord_findingsPath
      (campaign.filePath_ne_findingsPath number name).symm
  · refine unchanged_of_write change (isRecord_filePath named) fun same => ?_
    exact early.ne (campaign.filePath_injective same).1

/-! ## Writing a round -/

/-- Some files of a round are on the disk. -/
def HoldsFiles (campaign : Campaign) (number : Nat) (files : List (String × List UInt8))
    (disk : Disk) : Prop :=
  ∀ file ∈ files, disk (campaign.filePath number file.1) = some file.2

theorem write_safe {file : String × List UInt8} {done : List (String × List UInt8)}
    (fresh : ∀ other ∈ done, other.1 ≠ file.1) :
    Work.Safe campaign.Step (campaign.Kept number)
      (fun disk => campaign.Kept number disk ∧ campaign.HoldsFiles number done disk)
      (Work.write (campaign.filePath number file.1) file.2)
      fun _ disk => campaign.Kept number disk ∧
        campaign.HoldsFiles number (done ++ [file]) disk := by
  refine .write (fun _ given => given.1) fun before reply after given change => ?_
  have kept := given.1.written change
  refine ⟨kept, fun _ ok => ⟨kept, ?_⟩⟩
  subst ok
  have grown : after = Function.update before (campaign.filePath number file.1) (some file.2) :=
    change
  refine List.forall_mem_append.mpr ⟨fun other member => ?_, ?_⟩
  · have differs : campaign.filePath number other.1 ≠ campaign.filePath number file.1 := fun same =>
      fresh other member (campaign.filePath_injective same).2
    rw [grown, Function.update_of_ne differs, given.2 other member]
  · rw [grown]
    simp

theorem writeFiles_safe {files done : List (String × List UInt8)}
    (distinct : ((done ++ files).map Prod.fst).Nodup) :
    Work.Safe campaign.Step (campaign.Kept number)
      (fun disk => campaign.Kept number disk ∧ campaign.HoldsFiles number done disk)
      (writeFiles (campaign.roundFolder number) files)
      fun _ disk => campaign.Kept number disk ∧
        campaign.HoldsFiles number (done ++ files) disk := by
  induction files generalizing done with
  | nil =>
    rw [List.append_nil]
    exact .pure (fun _ given => given.1) fun _ given => given
  | cons file files ih =>
    have fresh : ∀ other ∈ done, other.1 ≠ file.1 := by
      rw [List.map_append, List.nodup_append] at distinct
      exact fun other member => distinct.2.2 other.1 (List.mem_map_of_mem member) file.1
        (List.mem_map_of_mem List.mem_cons_self)
    rw [List.append_cons] at distinct ⊢
    exact (write_safe fresh).onOutput.bind fun _ => ih distinct

theorem writeRound_safe :
    Work.Safe campaign.Step (campaign.Kept round.number) (campaign.Kept round.number)
      (campaign.writeRound round)
      fun _ disk => campaign.Kept round.number disk ∧ campaign.Holds disk round := by
  have folder : Work.Safe campaign.Step (campaign.Kept round.number) (campaign.Kept round.number)
      (onOutput (Work.createFolders (campaign.roundFolder round.number)))
      fun _ => campaign.Kept round.number :=
    .of_asks (asks_onOutput (Work.asks_createFolders trivial)) fun _ _ _ spares kept change =>
      kept.spared spares change
  refine folder.bind fun _ => ?_
  cases emitted : Guest.emitBundle {} round.bundle with
  | error e => exact .throw fun _ given => given
  | ok guest =>
    have distinct : (([] ++ campaign.roundFiles round guest).map Prod.fst).Nodup := by
      simp [roundFiles]
    refine Work.Safe.mono (writeFiles_safe distinct) (fun disk kept => ⟨kept, ?_⟩)
      (fun _ given => given) fun _ disk given => ⟨given.1, guest, emitted, given.2⟩
    exact fun _ member => absurd member List.not_mem_nil

/-! ## Executing and recording -/

/-- A round is written, and all findings up to this round can be replayed. -/
def Written (campaign : Campaign) (round : Round) (disk : Disk) : Prop :=
  campaign.Kept (round.number + 1) disk ∧ campaign.Holds disk round

theorem execute_safe {executor : Executor} :
    Work.Safe campaign.Step (campaign.Written round) (campaign.Written round)
      (campaign.execute executor round) fun _ => campaign.Written round :=
  .of_asks asks_execute fun _ _ _ command written change =>
    ⟨written.1.spared (spares_of_isCommand command) change,
      written.2.spared (spares_of_isCommand command) change⟩

/-- Adding to the log changes no other record. -/
theorem unchanged_of_append {bytes : List UInt8} {reply : Except Refusal Unit}
    (change : campaign.Step before ⟨.append campaign.findingsPath bytes, reply⟩ after)
    {name : String} (named : name ∈ fileNames) :
    after (campaign.filePath number name) = before (campaign.filePath number name) := by
  refine change.unchanged (isRecord_filePath named) fun other _ asked same => ?_
  obtain written | appended := asked
  · cases written
  · obtain ⟨rfl, -⟩ := Action.append.inj appended
    exact campaign.filePath_ne_findingsPath number name same.symm

theorem record_safe {result : Result} (fits : round.bundle.Fits)
    (member : result.circuit ∈ round.bundle.circuits) :
    Work.Safe campaign.Step (campaign.Written round) (campaign.Written round)
      (campaign.record round result) fun _ => campaign.Written round := by
  unfold record
  split
  · exact .pure (fun _ given => given) fun _ given => given
  · have clock : Work.Safe campaign.Step (campaign.Written round) (campaign.Written round)
        (Work.ask .now) fun _ => campaign.Written round :=
      .of_asks (Work.asks_ask trivial) fun _ _ _ spares written change =>
        ⟨written.1.spared spares change, written.2.spared spares change⟩
    refine clock.bind fun time => .onOutput ?_
    refine .append (fun _ given => given) fun before reply after ⟨kept, holds⟩ change => ?_
    have same : ∀ number, ∀ name ∈ fileNames, after (campaign.filePath number name) =
        before (campaign.filePath number name) := fun number name named =>
      unchanged_of_append change named
    have holds := holds.of_eq (same _)
    obtain ⟨findings, logs, sound⟩ := kept
    have sound : ∀ finding ∈ findings,
        finding.bundle < round.number + 1 ∧ campaign.Replayable after finding :=
      fun finding recorded => ⟨(sound finding recorded).1,
        (sound finding recorded).2.of_eq (same _)⟩
    -- a refused addition leaves the log as it was
    have written : campaign.Written round after := by
      cases reply with
      | error why =>
        exact ⟨⟨findings, logs.of_eq (by rw [show after = before from change]), sound⟩, holds⟩
      | ok u =>
        refine ⟨⟨_, logs.append change, List.forall_mem_append.mpr ⟨sound, ?_⟩⟩, holds⟩
        rw [List.forall_mem_singleton]
        exact ⟨Nat.lt_succ_self _, holds.replayable fits member time⟩
    exact ⟨written, fun _ _ => written⟩

theorem recordAll_safe {results : List Result} {summary : Summary} (fits : round.bundle.Fits)
    (members : ∀ result ∈ results, result.circuit ∈ round.bundle.circuits) :
    Work.Safe campaign.Step (campaign.Written round) (campaign.Written round)
      (campaign.recordAll round results summary) fun _ => campaign.Written round := by
  induction results generalizing summary with
  | nil => exact .pure (fun _ given => given) fun _ given => given
  | cons result results ih =>
    obtain ⟨first, others⟩ := List.forall_mem_cons.mp members
    exact (record_safe fits first).bind fun _ => ih others

end Campaign

end Metamorph
