import Metamorph.Sandbox.Tool.Path
import Metamorph.Sandbox.Calendar

/-! # Modes and times of files

What may be done with a file, when it was changed, and the tools that change both. -/

namespace Metamorph.Sandbox

/-! ## Modes

The bits that say what may be done with a file, how they are shown, and how words change them. -/

/-- A mode in letters: what the owner may do, what his group may, and what all others may. -/
def modeLetters (mode : Nat) : List Char :=
  let bit (value : Nat) (c : Char) : Char := if mode &&& value ≠ 0 then c else '-'
  let last (special run : Nat) (both one : Char) : Char :=
    if mode &&& special = 0 then bit run 'x' else if mode &&& run ≠ 0 then both else one
  [bit 0o400 'r', bit 0o200 'w', last 0o4000 0o100 's' 'S', bit 0o40 'r', bit 0o20 'w',
    last 0o2000 0o10 's' 'S', bit 0o4 'r', bit 0o2 'w', last 0o1000 0o1 't' 'T']

/-- A number in octal digits, at least so many. -/
def octalText (width n : Nat) : String :=
  let digits := Nat.toDigits 8 n
  String.ofList (List.replicate (width - digits.length) '0' ++ digits)

/-- What the bits of a change are. -/
inductive ModeValue where
  | bits (value : Nat)
  /-- The bits that some users have. -/
  | copied (users : Nat)
  /-- Some bits, and those for running if these are set for anybody, or for a folder. -/
  | running (value : Nat)
  deriving DecidableEq, Repr

/-- A change of a mode: which bits are touched, if that is told, and whether others are added,
taken away, or put in their place. -/
structure ModeChange where
  sign : Char
  affected : Nat
  value : ModeValue
  deriving DecidableEq, Repr

namespace ModeChange

/-- All bits of a mode. -/
def allBits : Nat := 0o7777

/-- The bits that belong to the users with a letter. -/
def usersBits (c : Char) : Nat :=
  match c with
  | 'u' => 0o4700
  | 'g' => 0o2070
  | 'o' => 0o1007
  | _ => allBits

/-- The value of octal digits. -/
def octal? (text : List Char) : Option Nat :=
  if !text.isEmpty && text.all (fun c => '0' ≤ c && c ≤ '7') then some (valueIn 8 text) else none

/-- The bits that a letter for a right stands for. -/
def rightBits (c : Char) : Nat :=
  match c with
  | 'r' => 0o444
  | 'w' => 0o222
  | 'x' => 0o111
  | 's' => 0o6000
  | 't' => 0o1000
  | _ => 0

/-- Read what stands behind a sign, and give the rest. -/
def readValue (text : List Char) : Option (ModeValue × List Char) :=
  match text with
  | c :: rest =>
    if ['u', 'g', 'o'].contains c then some (.copied (usersBits c &&& 0o777), rest)
    else
      let digits := text.takeWhile fun c => '0' ≤ c && c ≤ '7'
      if !digits.isEmpty then
        if valueIn 8 digits ≤ allBits then
          some (.bits (valueIn 8 digits), text.drop digits.length)
        else none
      else
        let letters := text.takeWhile ("rwxXst".toList.contains ·)
        let bits := letters.foldl (fun n c => n ||| rightBits c) 0
        some (if letters.contains 'X' then .running bits else .bits bits, text.drop letters.length)
  | [] => some (.bits 0, [])

/-- Read the changes that a clause with signs stands for. The fuel bounds the number of signs. -/
def readSigns (affected : Nat) : Nat → List Char → Option (List ModeChange)
  | 0, _ => none
  | _ + 1, [] => some []
  | fuel + 1, sign :: rest =>
    if ['+', '-', '='].contains sign then do
      let (value, rest) ← readValue rest
      return ⟨sign, affected, value⟩ :: (← readSigns affected fuel rest)
    else none

/-- Read a mode: octal digits, or clauses such as `u+x` with commas between them. -/
def read? (text : String) : Option (List ModeChange) :=
  match octal? text.toList with
  | some mode => if mode ≤ allBits then some [⟨'=', allBits, .bits mode⟩] else none
  | none => do
    let clauses ← (splitAt ',' text.toList).mapM fun clause =>
      let users := clause.takeWhile ("ugoa".toList.contains ·)
      let rest := clause.drop users.length
      if rest.isEmpty then none
      else readSigns (users.foldl (fun n c => n ||| usersBits c) 0) (rest.length + 1) rest
    return clauses.flatten

/-- Carry out a change. Where nobody is told whose bits are meant, those that are kept from new
files do not change. -/
def apply (isFolder : Bool) (mask mode : Nat) (change : ModeChange) : Nat :=
  let value :=
    match change.value with
    | .bits value => value
    | .copied users =>
      let share (bits : Nat) : Nat := if mode &&& users &&& bits ≠ 0 then bits else 0
      share 0o444 + share 0o222 + share 0o111
    | .running value =>
      if isFolder || mode &&& 0o111 ≠ 0 then value ||| 0o111 else value
  let value := value &&& if change.affected = 0 then allBits ^^^ mask else change.affected
  match change.sign with
  | '+' => mode ||| value
  | '-' => mode &&& (allBits ^^^ value)
  | _ => if change.affected = 0 then value else (mode &&& (allBits ^^^ change.affected)) ||| value

/-- Carry out changes one after the other. -/
def applyAll (isFolder : Bool) (mask mode : Nat) (changes : List ModeChange) : Nat :=
  changes.foldl (apply isFolder mask) mode

end ModeChange

/-- Whether an entry is a folder. -/
def Entry.isFolder : Entry → Bool
  | .folder _ => true
  | _ => false

/-- The paths of everything in a folder, what is inside of a folder before the folder itself. -/
def insideOut (files : Files) : Nat → Trail → String → List (String × Trail × Entry)
  | 0, _, _ => []
  | fuel + 1, trail, path =>
    match files.find? trail with
    | none => []
    | some entry =>
      let inner :=
        match entry with
        | .folder _ => (files.names trail).flatMap fun name =>
            insideOut files fuel (trail ++ [name]) (pathIn path name)
        | _ => []
      inner ++ [(path, trail, entry)]

/-- How deep folders may be nested. -/
def folderDepth : Nat := 200

namespace Tool

/-- Whether a word in the place of an option is a mode. -/
def isModeWord (word : String) : Bool :=
  match word.toList with
  | '-' :: c :: _ => "rwxXstugoa,+=01234567".toList.contains c
  | _ => false

/-- How the tool that changes modes tells what it does. -/
structure ModeTelling where
  onChange : Bool := false
  always : Bool := false
  isSilent : Bool := false

/-- Change the mode of what is at the end of a trail, and tell of it. -/
def changeMode (telling : ModeTelling) (path : String) (trail : Trail) (entry : Entry)
    (wanted : Nat) : Step Unit := do
  let before := entry.mode
  modify fun run => { run with world.files := run.world.files.setMode trail wanted }
  let shown (mode : Nat) : String :=
    octalText 4 mode ++ " (" ++ String.ofList (modeLetters mode) ++ ")"
  if before ≠ wanted && (telling.onChange || telling.always) then
    Step.out ("mode of " ++ quoted path ++ " changed from " ++ shown before ++ " to " ++ shown wanted
      ++ "\n")
  else if telling.always then
    Step.out ("mode of " ++ quoted path ++ " retained as " ++ shown wanted ++ "\n")

/-- Say what may be done with files. -/
def chmod : Tool := fun _ arguments => do
  let words := arguments.takeWhile (· ≠ "--")
  let modes := words.filter isModeWord
  withOptions "chmod" 1
    { flags := "Rcfvhp", valued := "e", long := [("changes", 'c'), ("recursive", 'R'),
      ("no-preserve-root", 'p'), ("preserve-root", 'p'), ("quiet", 'f'), ("reference", 'e'),
      ("silent", 'f'), ("verbose", 'v')] }
    (words.filter (!isModeWord ·) ++ arguments.drop words.length) fun options => do
    let telling : ModeTelling :=
      { onChange := options.has 'c', always := options.has 'v', isSilent := options.has 'f' }
    let mask := (← Step.process).mask
    let (text?, paths) : Option String × List String :=
      if options.has 'e' then (none, options.operands)
      else if !modes.isEmpty then (some (",".intercalate modes), options.operands)
      else (options.operands.head?, options.operands.drop 1)
    let given := if modes.isEmpty then options.operands.getLast? else some (",".intercalate modes)
    let refuseAccess (path : String) (why : Refusal) : Step Nat := do
      if !telling.isSilent then
        complain "chmod" ("cannot access " ++ quoted path ++ ": " ++ why.reason)
      return 1
    match paths, given with
    | [], none => misuse "chmod" 1 "missing operand"
    | [], some last =>
      if options.has 'e' then misuse "chmod" 1 "missing operand"
      else misuse "chmod" 1 ("missing operand after " ++ cited last)
    | _, _ => do
      let changes? ←
        match options.value? 'e', text? with
        | some path, _ => do
          pure ((← Step.entry? true path).map fun entry =>
            [⟨'=', ModeChange.allBits, .bits entry.mode⟩])
        | none, some text => pure (ModeChange.read? text)
        | none, none => pure none
      match changes?, options.value? 'e' with
      | none, some path =>
        fail "chmod" 1 ("failed to get attributes of " ++ quoted path ++ ": "
          ++ Refusal.notFound.reason)
      | none, none => misuse "chmod" 1 ("invalid mode: " ++ cited (text?.getD ""))
      | some changes, _ =>
        forNames paths fun path => do
          match ← Step.resolve true path with
          | .error why => refuseAccess path why
          | .ok trail =>
            let files ← Step.files
            match files.find? trail, ← Step.entry? false path with
            | none, some _ => do
              if !telling.isSilent then
                complain "chmod" ("cannot operate on dangling symlink " ++ quoted path)
              return 1
            | none, none => refuseAccess path .notFound
            | some entry, _ => do
              let all :=
                if options.has 'R' then (insideOut files folderDepth trail path).reverse
                else [(path, trail, entry)]
              let codes ← all.mapM fun (path, trail, entry) => do
                match entry with
                | .link _ => return 0
                | _ => do
                  let wanted := ModeChange.applyAll entry.isFolder mask entry.mode changes
                  changeMode telling path trail entry wanted
                  let plain := ModeChange.applyAll entry.isFolder 0 entry.mode changes
                  if modes.isEmpty || wanted &&& (ModeChange.allBits ^^^ plain) = 0 then return 0
                  else
                    let letters (mode : Nat) : String := String.ofList (modeLetters mode)
                    fail "chmod" 1 (quotedIfNeeded path ++ ": new permissions are "
                      ++ letters wanted ++ ", not " ++ letters plain)
              return codes.foldl max 0

end Tool

end Metamorph.Sandbox

namespace Metamorph.Sandbox.Tool

/-! ## Tools that change the times and sizes of files -/

/-- The names of the times of a file, of which only the time of the last change is kept. -/
def timeNames : List (List String × Bool) :=
  [(["atime", "access", "use"], false), (["mtime", "modify"], true)]

/-- The time that the options of the tool ask for, or a complaint. -/
def touchTime (options : Options) : Step (Except String Int) := do
  let world := (← get).world
  let now := Moment.ofMicroseconds world.now
  let reference? : Except String (Option Int) ←
    match options.value? 'r' with
    | none => pure (.ok none)
    | some path => do
      let trail? := (← Step.resolve (!options.has 'h') path).toOption
      match trail?.bind world.files.changed? with
      | some time => pure (.ok (some time))
      | none => do
        let why : Refusal := match ← Step.resolve true path with | .error why => why | _ => .notFound
        pure (.error ("failed to get attributes of " ++ quoted path ++ ": " ++ why.reason))
  match reference?, options.value? 'd', options.value? 't' with
  | .error why, _, _ => return .error why
  | .ok (some _), _, some _ => return .error "cannot specify times from more than one source"
  | .ok none, some _, some _ => return .error "cannot specify times from more than one source"
  | .ok reference?, some text, _ =>
    let start := (reference?.map Moment.ofMicroseconds).getD now
    match readTime? start text.toList with
    | some (seconds, fraction) => return .ok (seconds * 1000000 + fraction / 1000)
    | none => return .error ("invalid date format " ++ quoted text)
  | .ok none, none, some text =>
    match readStamp? now text.toList with
    | some seconds => return .ok (seconds * 1000000)
    | none => return .error ("invalid date format " ++ quoted text)
  | .ok reference?, none, none => return .ok (reference?.getD world.now)

/-- Set the times of files, which are made if they are missing. -/
def touch : Tool := fun _ arguments =>
  withOptions "touch" 1
    { flags := "acfhm", valued := "drtT", long := [("time", 'T'), ("no-create", 'c'), ("date", 'd'),
      ("reference", 'r'), ("no-dereference", 'h')] } arguments fun options => do
    let chosen : Except String (List Bool) :=
      (options.values 'T').mapM (chooseNamed "--time" timeNames)
    match chosen, ← touchTime options with
    | .error why, _ => misuse "touch" 1 why
    | .ok _, .error why =>
      fail "touch" 1 why
    | .ok chosen, .ok time => do
      let onlyAccess := (options.has 'a' || chosen.contains false)
        && !(options.has 'm' || chosen.contains true)
      if options.operands.isEmpty then misuse "touch" 1 "missing file operand"
      else
        let set (trail : Trail) : Step Nat := do
          if !onlyAccess then Step.modifyFiles (·.setChanged trail time)
          return 0
        forNames options.operands fun path => do
          let refuse (why : Refusal) : Step Nat :=
            fail "touch" 1 ("cannot touch " ++ quoted path ++ ": " ++ why.reason)
          let refuseTimes (why : Refusal) : Step Nat :=
            fail "touch" 1 ("setting times of " ++ quoted path ++ ": " ++ why.reason)
          if path = "-" then return 0
          let makes := !(options.has 'c' || options.has 'h')
          match ← Step.resolve (!options.has 'h') path with
          | .error why =>
            if path.endsWith "/" && why = .notFolder
                && (← Step.entry? true (withoutEnd path)).isSome then refuseTimes .notFolder
            else if makes then refuse why
            else if why = .notFound && options.has 'c' then return 0
            else refuseTimes why
          | .ok trail =>
            let files ← Step.files
            if trail.isEmpty || (files.find? trail).isSome then set trail
            else if !makes then if options.has 'c' then return 0 else refuseTimes .notFound
            else if path.endsWith "/" then refuseTimes .notFound
            else
              match files.checkPlace trail with
              | .error why => refuse why
              | .ok () => do
                let mode := 0o666 &&& (0o777 ^^^ (← Step.process).mask)
                Step.modifyFiles (·.add trail (.file [] mode))
                set trail

/-- The size that a text asks for, given the one that was there. A sign in front makes it a change. -/
def sizeOf? (text : String) : Option (Nat → Option Nat) := do
  let sign := text.toList.headD ' '
  let isSigned := "+-<>/%".toList.contains sign
  let count ← countOf? (if isSigned then (text.drop 1).toString else text)
  match sign with
  | '+' => return fun before => some (before + count)
  | '-' => return fun before => some (before - count)
  | '<' => return fun before => some (min before count)
  | '>' => return fun before => some (max before count)
  | '/' => if count = 0 then none else return fun before => some (before / count * count)
  | '%' => if count = 0 then none else return fun before => some ((before + count - 1) / count * count)
  | _ => return fun _ => some count

/-- Make files shorter or longer. What is added is zeros. -/
def truncate : Tool := fun _ arguments =>
  withOptions "truncate" 1
    { flags := "co", valued := "rs", long := [("no-create", 'c'), ("io-blocks", 'o'),
      ("reference", 'r'), ("size", 's')] } arguments fun options => do
    let size? := (options.value? 's').map sizeOf?
    let reference? ← (options.value? 'r').mapM fun path => do
      match ← Step.entry? true path with
      | some (.file bytes _) => pure (some bytes.length)
      | some _ => pure (some 4096)
      | none => pure none
    match size?, reference? with
    | none, none =>
      misuse "truncate" 1 "you must specify either '--size' or '--reference'"
    | some none, _ =>
      fail "truncate" 1 ("Invalid number: " ++ quoted ((options.value? 's').getD ""))
    | _, some none =>
      fail "truncate" 1 ("cannot stat " ++ quoted ((options.value? 'r').getD "") ++ ": "
        ++ Refusal.notFound.reason)
    | _, _ => do
      if options.operands.isEmpty then misuse "truncate" 1 "missing file operand"
      else
        forNames options.operands fun path => do
          let access : Access := { writes := true, makes := !options.has 'c' }
          let result ← Step.withOpen path access fun stream => do
            let number? ← Step.openingOf? stream
            match number?.map fun number => number, (← get).world with
            | some number, world =>
              match (world.opening number).target with
              | .node node => do
                let before := world.bytesOf node
                let start := reference?.join.getD before.length
                let wanted :=
                  match size? with
                  | some (some change) => (change start).getD start
                  | _ => start
                let bytes := before.take wanted ++ List.replicate (wanted - before.length) 0
                modify fun run =>
                  { run with
                    world := run.world.withFiles fun files =>
                      match files.nodes[node]? with
                      | some ⟨.file _ mode, _⟩ => files.setNode node (.file bytes mode)
                      | _ => files }
              | _ => pure ()
            | none, _ => pure ()
          match result with
          | .ok () => return 0
          | .error why =>
            if why = .notFound && options.has 'c' then return 0
            else fail "truncate" 1 ("cannot open " ++ quoted path ++ " for writing: " ++ why.reason)

end Metamorph.Sandbox.Tool
