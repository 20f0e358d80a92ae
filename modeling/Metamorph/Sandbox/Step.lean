import Metamorph.Sandbox.Process

/-! # Steps and schedules

What a process does in one step, and whose turn is next. -/

namespace Metamorph.Sandbox

/-! ## Steps

A program runs in steps. A step works on the world and on what the program has of its own, until
it is done, has to wait, or starts another program; the rest of it goes on in the world as the
others have left it. So programs run beside each other in turns. -/

/-- A running program in its world. -/
structure Run where
  world : World
  process : Process
  /-- The exit code of the last statement. -/
  status : Nat := 0
  flow : Flow := .going

namespace Run

/-- Let a signal have its effect on the program. -/
def receive (run : Run) (signal : Nat) : Run :=
  match run.process.reaction signal, run.flow with
  | .notes, _ =>
    if run.process.noted.contains signal then run
    else { run with process.noted := run.process.noted ++ [signal] }
  | .dies, .killed _ => run
  | .dies, _ => { run with flow := .killed signal }
  | _, _ => run

/-- Let the program get the signals that are for it. -/
def deliver (run : Run) : Run :=
  let (mine, others) := run.world.signals.partition fun entry => entry.1 = run.process.id
  if mine.isEmpty then run
  else mine.foldl (fun run entry => run.receive entry.2) { run with world.signals := others }

/-- How the program has ended. -/
def ending (run : Run) : Status :=
  match run.flow with
  | .killed signal => .killed signal
  | _ => .exited run.status

end Run

/-- What a program waits for. The first of these things lets it go on, or a signal. -/
structure Wait where
  /-- A time that the clock shows. -/
  time : Option Nat := none
  /-- Something to read through an opening, or its end. -/
  input : Option Nat := none
  /-- Room to write through an opening, or nobody who reads. -/
  room : Option Nat := none
  /-- Nobody who reads what is written through an opening. -/
  deserted : Option Nat := none
  /-- Somebody at the other end of a pipe: the pipe, whether he writes, and how often there was
  one already. -/
  partner : Option (Nat × Bool × Nat) := none
  /-- The end of some programs. -/
  ends : List Nat := []
  /-- Whether signals that are only noted have to wait as well. -/
  patient : Bool := false
  deriving Repr

/-- What a program will do. -/
inductive Task where
  | ended (run : Run)
  | paused (wait : Wait) (run : Run) (next : World → Task)
  /-- Another program begins after some time. -/
  | split (delay : Nat) (child : Run) (body : Run → Task) (run : Run) (next : World → Task)

/-- How far a step has come. -/
inductive Progress (α : Type) where
  | done (value : α) (run : Run)
  | paused (wait : Wait) (run : Run) (next : World → Progress α)
  | split (delay : Nat) (child : Run) (body : Run → Task) (run : Run) (next : World → Progress α)

namespace Progress

variable {α β : Type}

/-- Go on behind a step. -/
def andThen (progress : Progress α) (next : α → Run → Progress β) : Progress β :=
  match progress with
  | .done value run => next value run
  | .paused wait run rest => .paused wait run fun world => (rest world).andThen next
  | .split delay child body run rest =>
    .split delay child body run fun world => (rest world).andThen next

/-- All that a program does. -/
def toTask : Progress Unit → Task
  | .done _ run => .ended run
  | .paused wait run rest => .paused wait run fun world => (rest world).toTask
  | .split delay child body run rest =>
    .split delay child body run fun world => (rest world).toTask

end Progress

/-- A step of a run. -/
def Step (α : Type) : Type := Run → Progress α

namespace Step

variable {α β : Type}

/-- Go on with what a value decides. -/
@[inline]
def bind (step : Step α) (next : α → Step β) : Step β := fun run =>
  match step run with
  | .done value run => next value run
  | progress => progress.andThen next

instance : Monad Step where
  pure value := fun run => .done value run
  bind := bind

instance : MonadStateOf Run Step where
  get := fun run => .done run run
  set run := fun _ => .done () run
  modifyGet change := fun run =>
    let (value, run) := change run
    .done value run

/-- Nothing is left of a step that is done. -/
theorem bind_pure (value : α) (next : α → Step β) : bind (pure value) next = next value :=
  rfl

/-- The running program. -/
def process : Step Process := do
  return (← get).process

/-- Change the running program. -/
def modifyProcess (change : Process → Process) : Step Unit :=
  modify fun run => { run with process := change run.process }

/-- The files. -/
def files : Step Files := do
  return (← get).world.files

/-- Change the files. -/
def setFiles (files : Files) : Step Unit :=
  modify fun run => { run with world.files := { files with time := run.world.now } }

/-- Change the files. -/
def modifyFiles (change : Files → Files) : Step Unit :=
  modify fun run =>
    { run with world.files := change { run.world.files with time := run.world.now } }

/-- Change the files, if that is possible. -/
def tryFiles (change : Files → Except Refusal Files) : Step (Except Refusal Unit) := do
  let run ← get
  match change { run.world.files with time := run.world.now } with
  | .ok files => do
    setFiles files
    return .ok ()
  | .error why => return .error why

/-- Set the exit code. -/
def setStatus (code : Nat) : Step Unit :=
  modify fun run => { run with status := code }

/-- The run leaves the script or is cut off. -/
def setFlow (flow : Flow) : Step Unit :=
  modify fun run => { run with flow := flow }

/-- Whether the run goes on. -/
def isGoing : Step Bool := do
  return (← get).flow = .going

/-- Whether the program has been killed. -/
def isKilled : Step Bool := do
  match (← get).flow with
  | .killed _ => return true
  | _ => return false

/-- Wait. Who was killed waits for nothing. -/
def await (wait : Wait) : Step Unit := fun run =>
  match run.flow with
  | .killed _ => .done () run
  | _ => .paused wait run fun world => .done () (Run.deliver { run with world := world })

/-- Let time pass. -/
def sleep (microseconds : Nat) : Step Unit := do
  await { time := some ((← get).world.clock + microseconds) }

/-- Wait without end: only a signal lets the program go on. -/
def sleepForever : Step Unit :=
  await {}

/-- Work for some time, in which others may have their turn. Who has worked for longer than allowed
gets a signal. -/
def work (microseconds : Nat) : Step Unit := fun run =>
  let clock := run.world.clock + microseconds
  let worked := run.process.worked + microseconds
  let run := { run with world.clock := clock, process.worked := worked }
  let run :=
    match run.process.workLimit with
    | some (limit, signal) => if limit ≤ worked then run.receive signal else run
    | none => run
  if run.world.horizon.any (· ≤ clock) then await { time := some clock } run
  else .done () run

/-- Work without end. -/
def workForever : Step Unit := do
  let process ← process
  match process.workLimit with
  | some (limit, signal) => do
    sleep (limit - process.worked)
    modify (·.receive signal)
    sleepForever
  | none => sleepForever

/-- Start another program, which begins as a copy of this one, and give its number. -/
def start (delay : Nat) (change : Process → Process) (body : Step Unit) : Step Nat := fun run =>
  let id := run.world.nextId
  let world := { run.world with nextId := id + 1 }
  let process := { run.process with id, parent := run.process.id, noted := [], jobs := [] }
  let child := { run with world, process := change process, flow := .going }
  .split delay child (fun run => (body run).toTask) { run with world } fun world =>
    .done id (Run.deliver { run with world := world })

/-- How a program that was started here has ended, if it has. What is told once is forgotten. -/
def takeEnd? (id : Nat) : Step (Option Status) :=
  modifyGet fun run =>
    match run.world.ended.find? fun ended => ended.id = id with
    | some ended =>
      (some ended.status,
        { run with world.ended := run.world.ended.filter fun ended => ended.id ≠ id })
    | none => (none, run)

/-- Wait for the end of a program that was started here. One that is killed meanwhile waits no
longer. -/
def awaitEnd (id : Nat) : Step Status := do
  await { ends := [id], patient := true }
  return (← takeEnd? id).getD (.exited 0)

/-- Send a signal to a program, and say whether there is one. -/
def signal (id signal : Nat) : Step Bool := do
  let run ← get
  if id = run.process.id then
    if signal ≠ 0 then set (run.receive signal)
    return true
  else
    let lives := run.world.others.any fun other => other.id = id
    if lives && signal ≠ 0 && !run.world.signals.contains (id, signal) then
      modify fun run =>
        { run with world := { run.world with signals := run.world.signals ++ [(id, signal)] }.nudge }
    return lives || run.world.ended.any fun ended => ended.id = id

/-- Send a signal to a group of programs but oneself, and say whether there is any. -/
def signalGroup (group signal : Nat) : Step Bool := do
  let members := (← get).world.others.filter fun other => other.group = group
  members.forM fun other => do
    let _ ← Step.signal other.id signal
  return !members.isEmpty

end Step

/-! ## Taking turns

Of the programs that wait, one that can go on has the next turn. When nobody can, the clock moves
on to the first time that somebody waits for. -/

/-- A program that waits. -/
structure Sleeper where
  process : Process
  wait : Wait
  /-- Whether it was told to stop. -/
  isStopped : Bool := false
  next : World → Task

/-- Programs in their world, in the order in which they fell asleep. -/
structure Schedule where
  world : World
  sleepers : List Sleeper

namespace Wait

/-- Whether what is waited for has come, in a world with all that programs keep open. -/
def isOver (wait : Wait) (world : World) (openings : List Nat) : Bool :=
  let onPipe (number : Option Nat) (holds : Nat → Bool) : Bool :=
    number.any fun number =>
      match (world.opening number).target with
      | .pipe pipe => holds pipe
      | _ => true
  wait.time.any (· ≤ world.clock)
    || onPipe wait.input (fun pipe =>
      (world.pipe pipe).size ≠ 0 || !world.isWritten openings pipe)
    || onPipe wait.room (fun pipe =>
      (world.pipe pipe).room ≠ 0 || !world.isRead openings pipe)
    || onPipe wait.deserted (fun pipe => !world.isRead openings pipe)
    || wait.partner.any (fun (pipe, isWriter, before) =>
      let count := if isWriter then (world.pipe pipe).writers else (world.pipe pipe).readers
      before < count
        || (if isWriter then world.isWritten openings pipe else world.isRead openings pipe))
    || wait.ends.any fun id => world.ended.any fun ended => ended.id = id

end Wait

namespace Sleeper

/-- Whether a signal that is for a program lets it go on. -/
def isWoken (sleeper : Sleeper) (world : World) : Bool :=
  world.signals.any fun (id, signal) =>
    id = sleeper.process.id && match sleeper.process.reaction signal with
      | .dies => true
      | .notes => !sleeper.wait.patient
      | _ => false

/-- When a program could go on, if it can by now. -/
def readySince? (sleeper : Sleeper) (world : World) (openings : List Nat) : Option Nat :=
  if sleeper.isWoken world then some 0
  else if sleeper.isStopped then none
  else if sleeper.wait.time.any (· ≤ world.clock) then sleeper.wait.time
  else if sleeper.wait.isOver world openings then some world.clock
  else none

/-- What a program shows to the others. -/
def neighbour (sleeper : Sleeper) : Neighbour :=
  { id := sleeper.process.id, group := sleeper.process.group
    openings := sleeper.process.openings }

end Sleeper

namespace Schedule

/-- All that programs keep open. -/
def openings (schedule : Schedule) : List Nat :=
  schedule.sleepers.flatMap fun sleeper => sleeper.process.openings

/-- Let programs stop and go on that are told to. -/
def heed (schedule : Schedule) : Schedule :=
  let isFor (sleeper : Sleeper) (wanted : Nat → Bool) : Bool :=
    schedule.world.signals.any fun (id, signal) => id = sleeper.process.id && wanted signal
  if schedule.world.signals.isEmpty then schedule
  else
    { world :=
        { schedule.world with
          signals := schedule.world.signals.filter fun (id, signal) =>
            schedule.sleepers.any fun sleeper =>
              sleeper.process.id = id
                && [.dies, .notes].contains (sleeper.process.reaction signal) }
      sleepers := schedule.sleepers.map fun sleeper =>
        if isFor sleeper (· = 18) then { sleeper with isStopped := false }
        else if isFor sleeper fun signal => sleeper.process.reaction signal = .stops then
          { sleeper with isStopped := true }
        else sleeper }

/-- The place of the program that has the next turn, if one can go on. -/
def nextPlace? (schedule : Schedule) : Option Nat :=
  let openings := schedule.openings
  let ready := schedule.sleepers.zipIdx.filterMap fun (sleeper, place) =>
    (sleeper.readySince? schedule.world openings).map fun time => (time, place)
  (ready.foldl (fun best? entry =>
    match best? with
    | some best => if entry.1 < best.1 then some entry else best?
    | none => some entry) none).map (·.2)

/-- The first time that somebody waits for. -/
def nextTime? (schedule : Schedule) : Option Nat :=
  (schedule.sleepers.filterMap fun sleeper =>
    if sleeper.isStopped then none else sleeper.wait.time).min?

/-- Until when the program may work that has its turn: the others are those that sleep. -/
def horizon (schedule : Schedule) : Option Nat :=
  let next := if schedule.nextPlace?.isSome then some (schedule.world.clock + World.slice)
    else schedule.nextTime?
  match next, schedule.world.limit with
  | some a, some b => some (min a b)
  | a, b => a.or b

/-- The world as a program finds it that has its turn. -/
def worldNow (schedule : Schedule) : World :=
  { schedule.world with
    others := schedule.sleepers.map Sleeper.neighbour
    horizon := schedule.horizon }

/-- Give a program its turn that has left the list of those who sleep, and let it fall asleep
again, or end. The fuel bounds how many programs it starts. -/
def turn (schedule : Schedule) : Nat → Task → Schedule
  | 0, _ => schedule
  | fuel + 1, task =>
    match task with
    | .ended run =>
      let ended : Ended := ⟨run.process.id, run.process.parent, run.ending⟩
      { schedule with world := { run.world with ended := run.world.ended ++ [ended] } }
    | .paused wait run next =>
      { world := run.world
        sleepers := schedule.sleepers ++ [{ process := run.process, wait, next }] }
    | .split delay child body run next =>
      let sleeper : Sleeper :=
        { process := child.process
          wait := { time := some (run.world.clock + delay) }
          next := fun world => body (Run.deliver { child with world := world }) }
      let schedule : Schedule :=
        { world := run.world, sleepers := schedule.sleepers ++ [sleeper] }
      schedule.turn fuel (next schedule.worldNow)

/-- How many programs one may start in a turn. -/
def mostStarts : Nat := 100000

/-- Let programs run until nobody is left who has to end: they are told by a test. The result says
whether that was in time. The fuel bounds the turns. -/
def run (isDone : Schedule → Bool) : Nat → Schedule → Schedule × Bool
  | 0, schedule => (schedule, false)
  | fuel + 1, schedule =>
    if isDone schedule then (schedule, true)
    else if schedule.world.limit.any (· ≤ schedule.world.clock) then (schedule, false)
    else
      let schedule := schedule.heed
      match schedule.nextPlace? with
      | some place =>
        match schedule.sleepers[place]? with
        | some sleeper =>
          let rest : Schedule :=
            { schedule with sleepers := schedule.sleepers.eraseIdx place }
          run isDone fuel (rest.turn mostStarts (sleeper.next rest.worldNow))
        | none => (schedule, false)
      | none =>
        match schedule.nextTime? with
        | some time =>
          if schedule.world.limit.any (· ≤ time) then (schedule, false)
          else run isDone fuel { schedule with world.clock := time }
        | none => (schedule, false)

end Schedule

end Metamorph.Sandbox
