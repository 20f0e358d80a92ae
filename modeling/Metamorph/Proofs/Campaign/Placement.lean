import Metamorph.Proofs.Campaign.Requests
import Metamorph.Proofs.Campaign.Rounds
import Metamorph.Random.ChaCha

/-! # What a campaign puts in place

Once the checkout is prepared, all folders that a campaign makes and all files that it writes
belong to its rounds, one after the other, and there is nothing else in them than what was drawn. A
run that breaks off, for whatever reason, has put a beginning of this in place. -/

namespace Metamorph

open Machine (Action History)

/-! ## Placements -/

namespace Machine

/-- Whether a file or a folder is put in place. -/
def Action.places : Action → Bool
  | .createFolders _ => true
  | .write _ _ => true
  | _ => false

/-- What is put in place in the course of a history, in order. -/
def placed (history : History) : List Action :=
  (history.map (·.action)).filter Action.places

theorem placed_append (front back : History) :
    placed (front ++ back) = placed front ++ placed back := by
  simp [placed]

end Machine

open Machine (placed placed_append)

namespace Work

variable {α β : Type} {work : Work α} {part rest : List Action}

/-- Work puts a part of something in place, or breaks off. -/
structure Places (work : Work α) (part : List Action) : Prop where
  passes : ∀ history, work.Passes history → placed history <+: part
  runs : ∀ history a, work.Runs history (.ok a) → placed history = part

namespace Places

theorem pure {a : α} : (pure a : Work α).Places [] := by
  refine ⟨fun history passes => ?_, fun history b run => ?_⟩
  · rw [passes_pure.mp passes]
    exact List.prefix_rfl
  · rw [(runs_pure.mp run).1]
    rfl

theorem throw {e : Error} : (throw e : Work α).Places part := by
  refine ⟨fun history passes => ?_, fun history b run => ?_⟩
  · rw [passes_throw.mp passes]
    exact List.nil_prefix
  · cases (runs_throw.mp run).2

theorem bind {next : α → Work β} (first : work.Places part) (later : ∀ a, (next a).Places rest) :
    (work >>= next).Places (part ++ rest) := by
  refine ⟨fun history passes => ?_, fun history b run => ?_⟩
  · obtain passes | ⟨front, a, back, rfl, run, passes⟩ := passes_bind.mp passes
    · exact (first.passes history passes).trans (List.prefix_append ..)
    · rw [placed_append, first.runs front a run, List.prefix_append_right_inj]
      exact (later a).passes back passes
  · obtain ⟨front, a, back, rfl, run, last⟩ := runs_bind_ok.mp run
    rw [placed_append, first.runs front a run, (later a).runs back b last]

/-- Work that puts nothing in place does so wherever it breaks off. -/
theorem of_asks (asks : work.run.Asks fun action => Action.places action = false) : work.Places [] := by
  have none {history : History} (passes : work.Passes history) : placed history = [] := by
    rw [placed, List.filter_eq_nil_iff]
    intro action member
    obtain ⟨exchange, inside, rfl⟩ := List.mem_map.mp member
    simp [asks.of_passes passes exchange inside]
  refine ⟨fun history passes => ?_, fun history b run => none run.passes⟩
  rw [none passes]

theorem createFolders {path : String} : (createFolders path).Places [.createFolders path] := by
  refine ⟨fun history passes => ?_, fun history b run => ?_⟩
  · obtain rfl | ⟨reply, rfl⟩ := passes_createFolders.mp passes
    · exact List.nil_prefix
    · exact List.prefix_rfl
  · obtain ⟨reply, rfl, -⟩ := runs_createFolders.mp run
    rfl

theorem write {path : String} {bytes : List UInt8} :
    (write path bytes).Places [.write path bytes] := by
  refine ⟨fun history passes => ?_, fun history b run => ?_⟩
  · obtain rfl | ⟨reply, rfl⟩ := passes_write.mp passes
    · exact List.nil_prefix
    · exact List.prefix_rfl
  · obtain ⟨reply, rfl, -⟩ := runs_write.mp run
    rfl

theorem onOutput (places : work.Places part) : (Campaign.onOutput work).Places part :=
  ⟨fun history passes => places.passes history (Campaign.passes_onOutput.mp passes),
    fun history a run => places.runs history a (Campaign.runs_onOutput_ok.mp run)⟩

end Places

end Work

namespace Campaign

variable {ρ : Type} [RandomSource ρ] {campaign other : Campaign} {round : Round}
  {rounds : List Round} {source : ρ} {history otherHistory : History}

/-- What is put in place for a round: its folder, and the files in it if there is a guest. -/
def placements (campaign : Campaign) (round : Round) : List Action :=
  .createFolders (campaign.roundFolder round.number) ::
    match Guest.emitBundle {} round.bundle with
    | .ok guest => (campaign.roundFiles round guest).map fun file =>
        .write (campaign.filePath round.number file.1) file.2
    | .error _ => []

theorem writeFiles_places {folder : String} {files : List (String × List UInt8)} :
    (writeFiles folder files).Places
      (files.map fun file => .write (inside folder file.1) file.2) := by
  induction files with
  | nil => exact .pure
  | cons file files ih => exact Work.Places.write.onOutput.bind fun _ => ih

theorem writeRound_places : (campaign.writeRound round).Places (campaign.placements round) := by
  refine Work.Places.createFolders.onOutput.bind fun _ => ?_
  cases Guest.emitBundle {} round.bundle with
  | ok guest => exact writeFiles_places
  | error e => exact .throw

theorem record_places {result : Result} : (campaign.record round result).Places [] := by
  refine .of_asks ?_
  unfold record
  split
  · exact .pure
  · exact .run_bind (Work.asks_ask rfl) fun time => asks_onOutput (Work.asks_append rfl)

theorem recordAll_places {results : List Result} {summary : Summary} :
    (campaign.recordAll round results summary).Places [] := by
  induction results generalizing summary with
  | nil => exact .pure
  | cons result results ih => exact record_places.bind fun _ => ih

theorem playRound_places {summary : Summary} :
    (campaign.playRound round summary).Places (campaign.placements round) := by
  rw [← List.append_nil (campaign.placements round)]
  refine writeRound_places.bind fun _ => ?_
  split
  · exact .pure
  · rename_i executor _
    have commands : (campaign.execute executor round).Places [] :=
      .of_asks (asks_execute.mono fun action command => by
        cases action <;> first | rfl | cases command)
    exact commands.bind fun _ => recordAll_places

theorem playRounds_places {shape : Shape} {left number : Nat} {summary : Summary} :
    (campaign.playRounds shape left number source summary).Places
      ((campaign.drawRounds shape left number source).flatMap campaign.placements) := by
  induction left generalizing number source summary with
  | zero => exact .pure
  | succ left ih =>
    rw [playRounds, drawRounds]
    generalize (campaign.drawRound shape number : Draw ρ Round) source = drawn
    obtain ⟨e | round, source⟩ := drawn
    · exact .throw
    · exact playRound_places.bind fun _ => ih

/-- After a time in which no record is touched, what a history puts in place is a beginning of
what belongs to some rounds. -/
def Follows (campaign : Campaign) (rounds : List Round) (history : History) : Prop :=
  ∃ setup rest, history = setup ++ rest ∧
    (∀ exchange ∈ setup, campaign.Spares exchange.action) ∧
      placed rest <+: rounds.flatMap campaign.placements

/-- Wherever a run breaks off, it has followed the rounds that are drawn from its source. -/
theorem passes_follows (passes : (campaign.run source).Passes history) :
    campaign.Follows (campaign.rounds source) history := by
  have folder : (onOutput (Work.createFolders campaign.folder)).run.Asks campaign.Spares :=
    asks_onOutput (Work.asks_createFolders trivial)
  have played : (do
      let shape ← ExceptT.mk (pure campaign.shape)
      campaign.playRounds shape campaign.bundles 0 source {} : Work Summary).Places
        ((campaign.rounds source).flatMap campaign.placements) := by
    rw [rounds]
    cases campaign.shape with
    | ok shape => exact playRounds_places
    | error e => exact .throw
  -- the run may break off at the first folder, while it prepares the checkout, or in a round
  obtain passes | ⟨front, _, back, rfl, made, passes⟩ := Work.passes_bind.mp passes
  · exact ⟨history, [], (List.append_nil _).symm, folder.of_passes passes, List.nil_prefix⟩
  · have spared := folder.of_passes made.passes
    obtain passes | ⟨middle, _, back, rfl, prepared, passes⟩ := Work.passes_bind.mp passes
    · refine ⟨front ++ back, [], (List.append_nil _).symm, ?_, List.nil_prefix⟩
      exact List.forall_mem_append.mpr ⟨spared, asks_prepareCheckout.of_passes passes⟩
    · refine ⟨front ++ middle, back, (List.append_assoc ..).symm, ?_, played.passes back passes⟩
      exact List.forall_mem_append.mpr ⟨spared, asks_prepareCheckout.of_passes prepared.passes⟩

/-! ## Files of rounds -/

theorem mem_placements {path : String} {bytes : List UInt8} :
    .write path bytes ∈ campaign.placements round ↔
      ∃ guest, Guest.emitBundle {} round.bundle = .ok guest ∧
        ∃ name, (name, bytes) ∈ campaign.roundFiles round guest ∧
          path = campaign.filePath round.number name := by
  unfold placements
  cases Guest.emitBundle {} round.bundle with
  | ok guest =>
    simp only [List.mem_cons, reduceCtorEq, List.mem_map, Action.write.injEq, false_or,
      Except.ok.injEq, exists_eq_left', Prod.exists]
    constructor
    · rintro ⟨name, _, member, rfl, rfl⟩
      exact ⟨name, member, rfl⟩
    · rintro ⟨name, member, rfl⟩
      exact ⟨name, bytes, member, rfl, rfl⟩
  | error e => simp

/-- What is written into the folder of a round belongs to a round with its number. -/
theorem Follows.written (follows : campaign.Follows rounds history) {number : Nat} {name : String}
    {bytes : List UInt8} (named : name ∈ fileNames)
    (written : .write (campaign.filePath number name) bytes ∈ history.map (·.action)) :
    ∃ round ∈ rounds, round.number = number ∧
      ∃ guest, Guest.emitBundle {} round.bundle = .ok guest ∧
        (name, bytes) ∈ campaign.roundFiles round guest := by
  obtain ⟨setup, rest, rfl, spared, part⟩ := follows
  obtain ⟨exchange, member, action⟩ := List.mem_map.mp written
  obtain early | late := List.mem_append.mp member
  · have spares := spared exchange early
    rw [action] at spares
    exact absurd (.inr ⟨number, name, named, rfl⟩) spares
  · have inPlace : .write (campaign.filePath number name) bytes ∈ placed rest :=
      List.mem_filter.mpr ⟨action ▸ List.mem_map_of_mem late, rfl⟩
    obtain ⟨round, played, inside⟩ := List.mem_flatMap.mp (part.subset inPlace)
    obtain ⟨guest, emitted, other, file, same⟩ := mem_placements.mp inside
    obtain ⟨rfl, rfl⟩ := campaign.filePath_injective same
    exact ⟨round, played, rfl, guest, emitted, file⟩

/-- Of two requests that write files of rounds, the later one is for a later round, or for another
file of the same round. -/
def InOrder (campaign : Campaign) (earlier later : Action) : Prop :=
  ∀ number other, ∀ name ∈ fileNames, ∀ otherName ∈ fileNames, ∀ bytes otherBytes,
    earlier = .write (campaign.filePath number name) bytes →
    later = .write (campaign.filePath other otherName) otherBytes →
      number < other ∨ number = other ∧ name ≠ otherName

theorem inOrder_placements : (campaign.placements round).Pairwise campaign.InOrder := by
  unfold placements
  refine List.pairwise_cons.mpr ⟨fun _ _ _ _ _ _ _ _ _ _ folder => (nomatch folder), ?_⟩
  cases Guest.emitBundle {} round.bundle with
  | ok guest =>
    have distinct : ((campaign.roundFiles round guest).map Prod.fst).Nodup := by
      simp [roundFiles]
    rw [List.pairwise_map]
    refine (List.pairwise_map.mp distinct).imp fun {file later} differ => ?_
    intro number other name _ otherName _ bytes otherBytes first second
    obtain ⟨rfl, rfl⟩ := campaign.filePath_injective (Action.write.inj first).1
    obtain ⟨rfl, rfl⟩ := campaign.filePath_injective (Action.write.inj second).1
    exact .inr ⟨rfl, differ⟩
  | error e => exact .nil

theorem inOrder_rounds
    (numbered : rounds.Pairwise fun round later => round.number < later.number) :
    (rounds.flatMap campaign.placements).Pairwise campaign.InOrder := by
  refine List.pairwise_flatMap.mpr ⟨fun round _ => inOrder_placements, ?_⟩
  refine numbered.imp fun {round later} less => ?_
  rintro _ member _ also number other name _ otherName _ bytes otherBytes rfl rfl
  obtain ⟨-, -, _, -, first⟩ := mem_placements.mp member
  obtain ⟨-, -, _, -, second⟩ := mem_placements.mp also
  obtain ⟨rfl, -⟩ := campaign.filePath_injective first
  obtain ⟨rfl, -⟩ := campaign.filePath_injective second
  exact .inl less

/-- The files of rounds are written in the order of the rounds, and none a second time. -/
theorem Follows.inOrder (follows : campaign.Follows rounds history)
    (numbered : rounds.Pairwise fun round later => round.number < later.number) :
    (history.map (·.action)).Pairwise campaign.InOrder := by
  obtain ⟨setup, rest, rfl, spared, part⟩ := follows
  have never {action : Action} (early : action ∈ setup.map (·.action)) {number : Nat}
      {name : String} (named : name ∈ fileNames) {bytes : List UInt8} :
      action ≠ .write (campaign.filePath number name) bytes := by
    rintro rfl
    obtain ⟨exchange, member, same⟩ := List.mem_map.mp early
    have spares := spared exchange member
    rw [same] at spares
    exact spares (.inr ⟨number, name, named, rfl⟩)
  rw [List.map_append]
  refine List.pairwise_append.mpr ⟨?_, ?_, ?_⟩
  · refine List.Pairwise.imp_of_mem ?_ (List.pairwise_of_forall fun _ _ => trivial)
    intro earlier later early _ _ number _ name named _ _ bytes _ same
    exact absurd same (never early named)
  · have ordered := (inOrder_rounds numbered).sublist part.sublist
    rw [placed, List.pairwise_filter] at ordered
    refine ordered.imp fun {earlier later} ordered => ?_
    intro number other name named otherName otherNamed bytes otherBytes first second
    exact ordered (by rw [first]; rfl) (by rw [second]; rfl) number other name named otherName
      otherNamed bytes otherBytes first second
  · intro earlier early later _ number _ name named _ _ bytes _ same
    exact absurd same (never early named)

/-! ## Two campaigns -/

/-- Two campaigns that are alike in what they draw from follow the same rounds, with the same
bundles and injections, wherever they lie and whatever their commands do. The files of a round that
both of them come to are made from one bundle and one injection. -/
theorem run_generates_alike (alike : campaign.Alike other)
    (passes : (campaign.run source).Passes history)
    (otherPasses : (other.run source).Passes otherHistory) :
    campaign.rounds source = other.rounds source ∧
      campaign.Follows (campaign.rounds source) history ∧
      other.Follows (campaign.rounds source) otherHistory ∧
      ∀ number, ∀ name ∈ fileNames, ∀ bytes otherBytes,
        .write (campaign.filePath number name) bytes ∈ history.map (·.action) →
        .write (other.filePath number name) otherBytes ∈ otherHistory.map (·.action) →
          (name ≠ "project.json" → bytes = otherBytes) ∧
          ∃ round ∈ campaign.rounds source, round.number = number ∧
            ∃ guest, Guest.emitBundle {} round.bundle = .ok guest ∧
              (name, bytes) ∈ campaign.roundFiles round guest ∧
              (name, otherBytes) ∈ other.roundFiles round guest := by
  have same := alike.rounds_eq source
  have follows := passes_follows passes
  have otherFollows := passes_follows otherPasses
  rw [← same] at otherFollows
  refine ⟨same, follows, otherFollows, ?_⟩
  intro number name named bytes otherBytes written otherWritten
  obtain ⟨round, played, rfl, guest, emitted, file⟩ := follows.written named written
  obtain ⟨again, alsoPlayed, number, _, alsoEmitted, otherFile⟩ :=
    otherFollows.written named otherWritten
  -- one number is one round, so both runs made their files from the same bundle
  obtain rfl := number_inj alsoPlayed played number
  obtain rfl := Except.ok.inj (emitted.symm.trans alsoEmitted)
  refine ⟨fun drawn => ?_, again, played, rfl, guest, emitted, file, otherFile⟩
  simp only [roundFiles, List.mem_cons, Prod.mk.injEq, List.not_mem_nil, or_false] at file otherFile
  obtain ⟨rfl, rfl⟩ | ⟨rfl, rfl⟩ | ⟨rfl, rfl⟩ | ⟨rfl, -⟩ := file
  · exact Eq.symm (by simpa using otherFile)
  · exact Eq.symm (by simpa using otherFile)
  · exact Eq.symm (by simpa using otherFile)
  · exact absurd rfl drawn

/-- A campaign of one small round. -/
def sample (settings : TargetSettings) : Campaign :=
  { id := "first", target := .risc0, settings, bundles := 1, outputFolder := "out"
    generation := { batchSize := ⟨2, 2⟩, shape := { maxDepth := 1 } } }

/-- Whether a file is written at some time. -/
def writesFile (history : History) (path : String) : Bool :=
  (history.map (·.action)).any fun action =>
    match action with
    | .write other _ => other == path
    | _ => false

theorem exists_written (history : History) (path : String)
    (found : writesFile history path = true) :
    ∃ bytes, .write path bytes ∈ history.map (·.action) := by
  obtain ⟨action, member, same⟩ := List.any_eq_true.mp found
  cases action with
  | write other bytes =>
    obtain rfl : other = path := eq_of_beq same
    exact ⟨bytes, member⟩
  | _ => cases same

/-- The same campaign in another place, with guests that take too long. -/
def sampleElsewhere : Campaign :=
  { sample { runCommand := ["guest"], traceCollection := true, revision := "dev" } with
    outputFolder := "there" }

/-- The history of a run from a fixed seed, with commands that end in some way. -/
def historyWith (campaign : Campaign) (run : Command → Except Refusal (Option Ending)) : History :=
  (campaign.run (ChaCha.ofSeed 7)).historyOn (Machine.roomy run)

theorem passes_historyWith (campaign : Campaign)
    (run : Command → Except Refusal (Option Ending)) :
    (campaign.run (ChaCha.ofSeed 7)).Passes (campaign.historyWith run) :=
  (Work.runs_on _ _).passes

theorem run_generates_alike_executing : ∃ bytes,
    .write ((sample {}).filePath 0 "bundle.bin") bytes ∈
      ((sample {}).historyWith fun _ => .error .notFound).map (·.action) ∧
    .write (sampleElsewhere.filePath 0 "bundle.bin") bytes ∈
      (sampleElsewhere.historyWith fun _ => .ok none).map (·.action) := by
  obtain ⟨bytes, written⟩ := exists_written ((sample {}).historyWith fun _ => .error .notFound)
    ((sample {}).filePath 0 "bundle.bin") (by decide +kernel)
  obtain ⟨otherBytes, otherWritten⟩ := exists_written (sampleElsewhere.historyWith fun _ => .ok none)
    (sampleElsewhere.filePath 0 "bundle.bin") (by decide +kernel)
  have alike : (sample {}).Alike sampleElsewhere := ⟨rfl, rfl, rfl, rfl, rfl, rfl⟩
  obtain ⟨-, -, -, agree⟩ :=
    run_generates_alike alike (passes_historyWith _ _) (passes_historyWith _ _)
  obtain ⟨same, -⟩ := agree 0 "bundle.bin" (by decide) bytes otherBytes written otherWritten
  exact ⟨bytes, written, same (by decide) ▸ otherWritten⟩

end Campaign

end Metamorph
