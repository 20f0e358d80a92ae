import Metamorph.Sandbox.Tool.Basic

/-! # Copying block by block

A copy of a part of one file into another one, in blocks of given sizes, with the characters
converted on the way, and an account of the blocks at the end. -/

namespace Metamorph.Sandbox

/-- How a copy is made. -/
structure CopyPlan where
  input : Option String := none
  output : Option String := none
  inputBlock : Nat := 512
  outputBlock : Nat := 512
  /-- The size of all blocks, which are written as they are read. -/
  block : Option Nat := none
  /-- How long lines are that become blocks, or blocks that become lines. -/
  lineBlock : Nat := 0
  /-- How much is copied, in blocks or in bytes. -/
  count : Option (Nat × Bool) := none
  skip : Nat × Bool := (0, false)
  seek : Nat × Bool := (0, false)
  conversions : List String := []
  inputFlags : List String := []
  outputFlags : List String := []
  status : String := "default"

/-- What is wrong with how a copy is asked for, and whether help is pointed to. -/
structure CopyFault where
  text : String
  pointsToHelp : Bool := true

namespace CopyPlan

/-- Whether a conversion is asked for. -/
def has (plan : CopyPlan) (conversion : String) : Bool :=
  plan.conversions.contains conversion

/-- The units of sizes. -/
def units : List (String × Nat) :=
  [("", 1), ("c", 1), ("w", 2), ("b", 512), ("kB", 1000), ("k", 1024), ("K", 1024), ("KiB", 1024),
    ("MB", 1000000), ("M", 1048576), ("MiB", 1048576), ("GB", 1000000000), ("G", 1073741824),
    ("GiB", 1073741824)]

/-- One factor of a size: what it is, and whether it counts bytes. -/
def factor? (text : String) : Option (Nat × Bool) :=
  let digits := text.toList.takeWhile Char.isDigit
  let unit := String.ofList (text.toList.drop digits.length)
  if digits.isEmpty then none
  else
    match units.lookup unit with
    | some size => some (Text.digitsValue digits * size, false)
    | none =>
      if unit.endsWith "B" then
        (units.lookup (unit.dropEnd 1).toString).map fun size => (Text.digitsValue digits * size, true)
      else none

/-- A size: a product of factors. -/
def size? (text : String) : Option (Nat × Bool) :=
  (text.splitOn "x").foldl (fun product? part => do
    let (product, inBytes) ← product?
    let (size, more) ← factor? part
    return (product * size, inBytes || more)) (some (1, false))

/-- The conversions that there are. -/
def conversionNames : List String :=
  ["ascii", "ebcdic", "ibm", "block", "unblock", "lcase", "ucase", "sparse", "swab", "sync", "excl",
    "nocreat", "notrunc", "noerror", "fdatasync", "fsync"]

/-- The flags that files are opened with. -/
def flagNames : List String :=
  ["append", "binary", "cio", "direct", "directory", "dsync", "noatime", "nocache", "noctty",
    "nofollow", "nolinks", "nonblock", "sync", "text", "fullblock", "count_bytes", "skip_bytes",
    "seek_bytes"]

/-- The words of a list of which all must be known. -/
def wordsOf (what : String) (known : List String) (text : String) : Except CopyFault (List String) :=
  (text.splitOn ",").mapM fun word =>
    if known.contains word then .ok word else .error ⟨"invalid " ++ what ++ ": " ++ cited word, true⟩

/-- A plan as another operand changes it. -/
def read (plan : CopyPlan) (operand : String) : Except CopyFault CopyPlan := do
  let name := String.ofList (operand.toList.takeWhile (· ≠ '='))
  let value := (operand.drop (name.length + 1)).toString
  let size (least : Nat) : Except CopyFault (Nat × Bool) :=
    match size? value with
    | some (n, inBytes) =>
      if n < least then .error ⟨"invalid number: " ++ cited value, false⟩ else .ok (n, inBytes)
    | none => .error ⟨"invalid number: " ++ cited value, false⟩
  if !operand.contains '=' then throw ⟨"unrecognized operand " ++ cited operand, true⟩
  else
    match name with
    | "if" => return { plan with input := some value }
    | "of" => return { plan with output := some value }
    | "bs" => do return { plan with block := some (← size 1).1 }
    | "ibs" => do return { plan with inputBlock := (← size 1).1 }
    | "obs" => do return { plan with outputBlock := (← size 1).1 }
    | "cbs" => do return { plan with lineBlock := (← size 1).1 }
    | "count" => do return { plan with count := some (← size 0) }
    | "skip" => do return { plan with skip := ← size 0 }
    | "iseek" => do return { plan with skip := ← size 0 }
    | "seek" => do return { plan with seek := ← size 0 }
    | "oseek" => do return { plan with seek := ← size 0 }
    | "conv" => do
      return { plan with
        conversions := plan.conversions ++ (← wordsOf "conversion" conversionNames value) }
    | "iflag" => do
      return { plan with inputFlags := plan.inputFlags ++ (← wordsOf "input flag" flagNames value) }
    | "oflag" => do
      return { plan with
        outputFlags := plan.outputFlags ++ (← wordsOf "output flag" flagNames value) }
    | "status" =>
      if ["none", "noxfer", "progress"].contains value then return { plan with status := value }
      else throw ⟨"invalid status level: " ++ cited value, true⟩
    | _ => throw ⟨"unrecognized operand " ++ cited operand, true⟩

/-- Refuse conversions that exclude each other. -/
def check (plan : CopyPlan) : Except CopyFault CopyPlan :=
  match [("lcase", "ucase"), ("block", "unblock"), ("excl", "nocreat")].find? fun (one, other) =>
      plan.has one && plan.has other with
  | some (one, other) => .error ⟨"cannot combine " ++ one ++ " and " ++ other, false⟩
  | none =>
    match plan.block with
    | some size => .ok { plan with inputBlock := size, outputBlock := size }
    | none => .ok plan

/-- Whether blocks are written just as they are read. -/
def isDirect (plan : CopyPlan) : Bool :=
  plan.block.isSome && !(["block", "unblock", "lcase", "ucase", "swab"].any plan.has)

/-- The bytes that are left out of the input, or of the output. -/
def bytesOf (flag : String) (flags : List String) (block : Nat) (amount : Nat × Bool) : Nat :=
  if amount.2 || flags.contains flag then amount.1 else amount.1 * block

end CopyPlan

/-- How far a copy has come. -/
structure BlockState where
  wholeIn : Nat := 0
  partIn : Nat := 0
  wholeOut : Nat := 0
  partOut : Nat := 0
  truncated : Nat := 0
  copied : Nat := 0
  /-- What is not written yet. -/
  waiting : List Char := []
  /-- How far the line has come that is made a block, or the block that is made a line. -/
  column : Nat := 0
  /-- The blanks that end a line unless more follows. -/
  blanks : Nat := 0
  /-- A byte that waits for the one it is exchanged with. -/
  odd : Option Char := none
  code : Nat := 0
  stops : Bool := false

namespace BlockState

/-- Exchange each two bytes. -/
def swapped (odd : Option Char) (text : List Char) : List Char × Option Char :=
  match odd, text with
  | odd, [] => ([], odd)
  | some a, b :: rest =>
    let (more, odd) := swapped none rest
    (b :: a :: more, odd)
  | none, [a] => ([], some a)
  | none, a :: b :: rest =>
    let (more, odd) := swapped none rest
    (b :: a :: more, odd)

/-- Make blocks of lines. -/
def blocked (size : Nat) : BlockState → List Char → BlockState
  | state, [] => state
  | state, c :: rest =>
    if c = '\n' then
      let filled := List.replicate (size - state.column) ' '
      blocked size { state with waiting := state.waiting ++ filled, column := 0 } rest
    else if state.column = size then
      blocked size
        { state with truncated := state.truncated + 1, column := state.column + 1 } rest
    else if size < state.column then blocked size state rest
    else
      blocked size { state with waiting := state.waiting ++ [c], column := state.column + 1 } rest

/-- Make lines of blocks. -/
def unblocked (size : Nat) : BlockState → List Char → BlockState
  | state, [] => state
  | state, c :: rest =>
    let state :=
      if size ≤ state.column then
        { state with waiting := state.waiting ++ ['\n'], column := 0, blanks := 0 }
      else state
    let state := { state with column := state.column + 1 }
    if c = ' ' then unblocked size { state with blanks := state.blanks + 1 } rest
    else
      unblocked size
        { state with
          waiting := state.waiting ++ List.replicate state.blanks ' ' ++ [c], blanks := 0 } rest

/-- A size in units that are powers of a base. -/
def shortSize (base : Nat) (names : List String) (size : Nat) : Option String :=
  let level := (List.range names.length).findRev? fun i => Nat.pow base (i + 1) ≤ size
  level.map fun i =>
    let unit := Nat.pow base (i + 1)
    let tenths := (2 * size * 10 + unit) / (2 * unit)
    let text := if tenths < 100 then toString (tenths / 10) ++ "." ++ toString (tenths % 10)
      else toString ((2 * size + unit) / (2 * unit))
    text ++ " " ++ names.getD i ""

/-- How many bytes were copied. -/
def amount (state : BlockState) : String :=
  let unit := if state.copied = 1 then "byte" else "bytes"
  let count := toString state.copied ++ " " ++ unit
  match shortSize 1000 ["kB", "MB", "GB"] state.copied,
      shortSize 1024 ["KiB", "MiB", "GiB"] state.copied with
  | some decimal, some binary => count ++ " (" ++ decimal ++ ", " ++ binary ++ ") copied"
  | some decimal, none => count ++ " (" ++ decimal ++ ") copied"
  | none, _ => count ++ " copied"

end BlockState

namespace Tool

/-- Tell how much was copied. -/
def tellCopied (plan : CopyPlan) (state : BlockState) : Step Unit := do
  if plan.status ≠ "none" then
    Step.complain (toString state.wholeIn ++ "+" ++ toString state.partIn ++ " records in")
    Step.complain (toString state.wholeOut ++ "+" ++ toString state.partOut ++ " records out")
    if state.truncated ≠ 0 then
      Step.complain (toString state.truncated
        ++ if state.truncated = 1 then " truncated record" else " truncated records")
    if plan.status ≠ "noxfer" then
      Step.complain (state.amount ++ ", 2.5e-05 s, " ++ (if state.copied = 0 then "0.0 kB/s" else "400 kB/s"))

/-- Write a block of a copy. -/
def putBlock (plan : CopyPlan) (stream size : Nat) (block : List Char) (state : BlockState) :
    Step BlockState := do
  match ← Step.tryWrite stream block with
  | some why => do
    if !(← Step.isKilled) then
      complain "dd" ("error writing " ++ quoted (plan.output.getD "standard output") ++ ": "
        ++ why.reason)
    return { state with stops := true, code := 1 }
  | none =>
    return {
      state with
      wholeOut := state.wholeOut + if block.length = size then 1 else 0
      partOut := state.partOut + if block.length = size then 0 else 1
      copied := state.copied + block.length }

/-- Write the whole blocks that wait. The fuel bounds their number. -/
def putBlocks (plan : CopyPlan) (stream : Nat) : Nat → BlockState → Step BlockState
  | 0, state => return state
  | fuel + 1, state => do
    if state.stops || state.waiting.length < plan.outputBlock then return state
    else
      let block := state.waiting.take plan.outputBlock
      let state ← putBlock plan stream plan.outputBlock block
        { state with waiting := state.waiting.drop plan.outputBlock }
      putBlocks plan stream fuel state

/-- Take up what was read. -/
def takeBlock (plan : CopyPlan) (stream : Nat) (text : List Char) (state : BlockState) :
    Step BlockState := do
  if plan.isDirect then putBlock plan stream plan.inputBlock text state
  else
    let text :=
      if plan.has "lcase" then text.map Char.toLower
      else if plan.has "ucase" then text.map Char.toUpper else text
    let (text, odd) := if plan.has "swab" then BlockState.swapped state.odd text else (text, none)
    let state := { state with odd }
    let state :=
      if plan.has "block" && plan.lineBlock ≠ 0 then state.blocked plan.lineBlock text
      else if plan.has "unblock" && plan.lineBlock ≠ 0 then state.unblocked plan.lineBlock text
      else { state with waiting := state.waiting ++ text }
    putBlocks plan stream (state.waiting.length + 1) state

/-- Read a block, as much as can be had at once, or all of it. The fuel bounds how often
something is read. -/
def readBlock (isWhole : Bool) (stream : Nat) :
    Nat → Nat → List Char → Step (Except Refusal (List Char))
  | 0, _, taken => return .ok taken
  | fuel + 1, size, taken => do
    match ← Step.read stream size with
    | .error why => return .error why
    | .ok [] => return .ok taken
    | .ok text =>
      if isWhole && text.length < size then
        readBlock isWhole stream fuel (size - text.length) (taken ++ text)
      else return .ok (taken ++ text)

/-- Copy blocks, so many as are wanted. The fuel bounds their number. -/
def copyBlocks (plan : CopyPlan) (source target : Nat) : Nat → Option Nat → BlockState → Step BlockState
  | 0, _, state => do
    Step.workForever
    return state
  | fuel + 1, left, state => do
    let (blocks, bytes) :=
      match plan.count with
      | none => (true, plan.inputBlock)
      | some (count, inBytes) =>
        if inBytes || plan.inputFlags.contains "count_bytes" then
          (decide (left ≠ some 0), min plan.inputBlock (left.getD 0))
        else (decide (state.wholeIn + state.partIn < count), plan.inputBlock)
    if !blocks || state.stops || (← Step.isKilled) then return state
    else
      match ← readBlock (plan.inputFlags.contains "fullblock") source (bytes + 1) bytes [] with
      | .error why => do
        complain "dd" ("error reading " ++ quoted (plan.input.getD "standard input") ++ ": "
          ++ why.reason)
        return { state with code := 1 }
      | .ok [] => return state
      | .ok text => do
        Step.work 10
        let isWhole := text.length = plan.inputBlock
        let state :=
          { state with
            wholeIn := state.wholeIn + if isWhole then 1 else 0
            partIn := state.partIn + if isWhole then 0 else 1 }
        let filling := if plan.has "block" || plan.has "unblock" then ' ' else Char.ofNat 0
        let filled :=
          if plan.has "sync" then text ++ List.replicate (plan.inputBlock - text.length) filling
          else text
        let state ← takeBlock plan target filled state
        copyBlocks plan source target fuel (left.map (· - text.length)) state

/-- Write what is left at the end of a copy. -/
def finishCopy (plan : CopyPlan) (target : Nat) (state : BlockState) : Step BlockState := do
  let state := { state with waiting := state.waiting ++ state.odd.toList }
  let state :=
    if plan.has "block" && 0 < state.column then
      { state with
        waiting := state.waiting ++ List.replicate (plan.lineBlock - state.column) ' ' }
    else if plan.has "unblock" && 0 < state.column then
      { state with waiting := state.waiting ++ ['\n'] }
    else state
  let state ← putBlocks plan target (state.waiting.length + 1) state
  if state.waiting.isEmpty || state.stops then return state
  else putBlock plan target plan.outputBlock state.waiting { state with waiting := [] }

/-- Leave out the beginning of a stream, and say whether there was so much. -/
def skipInput (stream : Nat) (count : Nat) : Step Bool := do
  match ← Step.openingOf? stream with
  | none => return true
  | some number => do
    let world := (← get).world
    let opening := world.opening number
    match opening.target with
    | .node node => do
      Step.moveTo stream (opening.place + count)
      return opening.place + count ≤ (world.bytesOf node).length
    | .pipe _ => do
      match ← readBlock true stream (count + 1) count [] with
      | .ok text => return text.length = count
      | .error _ => return true
    | _ => return true

/-- How the output of a copy is opened. -/
def copyAccess (plan : CopyPlan) : Access :=
  { writes := true, makes := !plan.has "nocreat", isNew := plan.has "excl"
    empties := !plan.has "notrunc" && plan.seek.1 = 0
    atEnd := plan.outputFlags.contains "append" }

/-- Go to a place in the output. What lies behind it is cut off, unless it is to stay. -/
def seekOutput (plan : CopyPlan) (stream : Nat) : Step Unit := do
  let place := CopyPlan.bytesOf "seek_bytes" plan.outputFlags plan.outputBlock plan.seek
  if place ≠ 0 then
    match ← Step.openingOf? stream with
    | none => pure ()
    | some number => do
      let world := (← get).world
      let opening := world.opening number
      match opening.target with
      | .node node =>
        if plan.output.isSome && !plan.has "notrunc" then
          let kept := (world.bytesOf node).take place
          let filled := kept ++ List.replicate (place - kept.length) 0
          modify fun run =>
            match run.world.files.nodes[node]? with
            | some ⟨.file _ mode, _⟩ =>
              { run with
                world := run.world.withFiles fun files => files.setNode node (.file filled mode) }
            | _ => run
        Step.moveTo stream (opening.place + place)
      | _ => pure ()

/-- Copy from one stream to another. -/
def copyStreams (plan : CopyPlan) (source target : Nat) : Step Nat := do
  let skipped := CopyPlan.bytesOf "skip_bytes" plan.inputFlags plan.inputBlock plan.skip
  if skipped ≠ 0 then
    if !(← skipInput source skipped) && plan.status ≠ "none" then
      complain "dd" (quotedIfNeeded (plan.input.getD "standard input") ++ ": cannot skip to specified offset")
  seekOutput plan target
  let state ← copyBlocks plan source target mostPortions (plan.count.map (·.1)) {}
  if ← Step.isKilled then return state.code
  let state ← finishCopy plan target state
  if !(← Step.isKilled) then tellCopied plan state
  return state.code
where
  /-- How many blocks are copied at most. -/
  mostPortions : Nat := 200000

/-- Copy block by block. -/
def dd : Tool := fun _ arguments => do
  match ({} : OptionSet).read arguments with
  | .error why => misuse "dd" 1 why
  | .ok options =>
    match (options.operands.foldlM CopyPlan.read {}).bind CopyPlan.check with
    | .error fault =>
      if fault.pointsToHelp then misuse "dd" 1 fault.text else fail "dd" 1 fault.text
    | .ok plan => do
      let opened (path : String) (why : Refusal) : Step Nat :=
        fail "dd" 1 ("failed to open " ++ quoted path ++ ": " ++ why.reason)
      let source ← match plan.input with | none => pure 0 | some _ => Step.freeStream
      let fault? ← match plan.input with
        | none => pure none
        | some path => Step.openPath source path .reading
      match fault?, plan.input.getD "" with
      | some why, path => opened path why
      | none, _ => do
        let target ← match plan.output with | none => pure 1 | some _ => Step.freeStream
        let fault? ← match plan.output with
          | none => pure none
          | some path => Step.openPath target path (copyAccess plan)
        match fault? with
        | some why => opened (plan.output.getD "") why
        | none => copyStreams plan source target

end Tool

end Metamorph.Sandbox
