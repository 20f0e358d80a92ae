import Metamorph.Machine.Basic
import Metamorph.Sandbox.Files
import Metamorph.Text.Utf8

/-! # The world of running programs

What running programs share: files, pipes, what they have opened, a clock that moves while
somebody works or waits, and what they get to know of each other. -/

namespace Metamorph.Sandbox

/-- When the first clock of a sandbox starts, in microseconds since the beginning of 1970. -/
def startOfTime : Int := 1700000000000000

/-- A pipe with what was written to it and not read yet: a text in front, and the parts behind it,
the last one first. -/
structure Pipe where
  front : List Char := []
  back : List (List Char) := []
  size : Nat := 0
  /-- How often it was opened for reading and for writing. -/
  readers : Nat := 0
  writers : Nat := 0
  /-- Whether somebody outside reads it, who takes everything at once. -/
  isOutlet : Bool := false
  deriving Repr

namespace Pipe

/-- How much a pipe holds. -/
def capacity : Nat := 65536

/-- A pipe that holds a text. -/
def ofText (text : List Char) : Pipe :=
  { front := text, size := text.length }

/-- All that waits in a pipe. -/
def text (pipe : Pipe) : List Char :=
  if pipe.back.isEmpty then pipe.front else pipe.front ++ pipe.back.reverse.flatten

/-- A pipe with all that waits in it in front. -/
def gathered (pipe : Pipe) : Pipe :=
  if pipe.back.isEmpty then pipe else { pipe with front := pipe.text, back := [] }

/-- How much more a pipe can hold. -/
def room (pipe : Pipe) : Nat :=
  capacity - pipe.size

/-- Write to a pipe. -/
def write (pipe : Pipe) (text : List Char) : Pipe :=
  { pipe with back := text :: pipe.back, size := pipe.size + text.length }

/-- Take some characters off a pipe. -/
def take (pipe : Pipe) (count : Nat) : Pipe :=
  let pipe := pipe.gathered
  { pipe with front := pipe.front.drop count, size := pipe.size - count }

end Pipe

/-- What was opened. -/
inductive Target where
  | node (number : Nat)
  | pipe (number : Nat)
  | folder (trail : Trail)
  | device (device : Device)
  deriving DecidableEq, Repr

/-- Something that was opened, which several streams may lead to. -/
structure Opening where
  target : Target
  /-- How far it was read or written. -/
  place : Nat := 0
  /-- Whether everything is written at the end. -/
  atEnd : Bool := false
  reads : Bool := true
  writes : Bool := true
  deriving Repr

/-- What a running program shows to the others: the group that it belongs to, and what it keeps
open. -/
structure Neighbour where
  id : Nat
  group : Nat
  openings : List Nat
  deriving Repr

/-- A program that has come to its end, of which the one that started it has not heard yet. -/
structure Ended where
  id : Nat
  parent : Nat
  status : Status
  deriving Repr

/-- What running programs share. -/
structure World where
  files : Files := {}
  openings : Array Opening := #[]
  pipes : Array Pipe := #[]
  /-- When the clock starts. -/
  start : Int := startOfTime
  /-- The microseconds since then. -/
  clock : Nat := 0
  /-- When everything is cut off. -/
  limit : Option Nat := none
  /-- When the program that runs has to let others run. -/
  horizon : Option Nat := none
  /-- The number of the next program. -/
  nextId : Nat := 4243
  /-- The other programs. -/
  others : List Neighbour := []
  ended : List Ended := []
  /-- The signals that programs are to get, the oldest one first. -/
  signals : List (Nat × Nat) := []

namespace World

/-- The time that the clock shows, in microseconds since the beginning of 1970. -/
def now (world : World) : Int :=
  world.start + world.clock

/-- The same in seconds. -/
def seconds (world : World) : Int :=
  world.now / 1000000

/-- Open something, and give its number. -/
def openNew (world : World) (opening : Opening) : Nat × World :=
  (world.openings.size, { world with openings := world.openings.push opening })

/-- The opening with a number. -/
def opening (world : World) (number : Nat) : Opening :=
  world.openings.getD number { target := .device .nothing }

/-- Make a new pipe, and give its number. -/
def newPipe (world : World) (pipe : Pipe) : Nat × World :=
  (world.pipes.size, { world with pipes := world.pipes.push pipe })

/-- The pipe with a number. -/
def pipe (world : World) (number : Nat) : Pipe :=
  world.pipes.getD number {}

/-- Change a pipe. -/
def modifyPipe (world : World) (number : Nat) (change : Pipe → Pipe) : World :=
  { world with pipes := world.pipes.modify number change }

/-- How far ahead somebody may work when another one could go on. -/
def slice : Nat := 200

/-- Let others run soon. -/
def nudge (world : World) : World :=
  let soon := world.clock + slice
  { world with horizon := some ((world.horizon.map fun time => min time soon).getD soon) }

/-- Whether one of some openings writes to a pipe. -/
def isWritten (world : World) (openings : List Nat) (pipe : Nat) : Bool :=
  openings.any fun number =>
    let opening := world.opening number
    opening.writes && opening.target = .pipe pipe

/-- Whether one of some openings, or somebody outside, reads a pipe. -/
def isRead (world : World) (openings : List Nat) (pipe : Nat) : Bool :=
  (world.pipe pipe).isOutlet || openings.any fun number =>
    let opening := world.opening number
    opening.reads && opening.target = .pipe pipe

/-- Put bytes into a file from a place on. What lies between its end and the place is filled
with zeros. -/
def overwrite (before : List UInt8) (place : Nat) (bytes : List UInt8) : List UInt8 :=
  before.take place ++ List.replicate (place - before.length) 0 ++ bytes
    ++ before.drop (place + bytes.length)

/-- The bytes of a node. -/
def bytesOf (world : World) (node : Nat) : List UInt8 :=
  match world.files.nodes[node]? with
  | some ⟨.file bytes _, _⟩ => bytes
  | _ => []

/-- Where the next text is written through an opening of a node. -/
def writingPlace (world : World) (opening : Opening) (node : Nat) : Nat :=
  if opening.atEnd then (world.bytesOf node).length else opening.place

/-- Write bytes to a node from a place on. -/
def writeNode (world : World) (node place : Nat) (bytes : List UInt8) : World :=
  match world.files.nodes[node]? with
  | some ⟨.file before mode, _⟩ =>
    let after := if place = before.length then before ++ bytes else overwrite before place bytes
    let files := { world.files with time := world.now }
    { world with files := files.setNode node (.file after mode) }
  | _ => world

/-- Note how far an opening was read or written. -/
def setPlace (world : World) (number place : Nat) : World :=
  { world with openings := world.openings.modify number ({ · with place := place }) }

/-- What can be read through an opening at once, at most so many characters. -/
def available (world : World) (number most : Nat) : List Char :=
  let opening := world.opening number
  match opening.target with
  | .node node => Text.ofOctets (((world.bytesOf node).drop opening.place).take most)
  | .pipe pipe =>
    let pipe := world.pipe pipe
    if pipe.size ≤ most then pipe.text else pipe.text.take most
  | .device .nothing => []
  | .device _ => List.replicate most (Char.ofNat 0)
  | .folder _ => []

/-- Take away what was read through an opening. -/
def take (world : World) (number count : Nat) : World :=
  let opening := world.opening number
  match opening.target with
  | .node _ => world.setPlace number (opening.place + count)
  | .pipe pipe => (world.modifyPipe pipe fun pipe => pipe.take count).nudge
  | _ => world

/-- Change the files at the time that the clock shows. -/
def withFiles (world : World) (change : Files → Files) : World :=
  { world with files := change { world.files with time := world.now } }

end World

end Metamorph.Sandbox
