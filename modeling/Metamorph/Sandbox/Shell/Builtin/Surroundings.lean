import Metamorph.Sandbox.Shell.State
import Metamorph.Sandbox.Tool.Basic

/-! # Where and how a shell works

The builtin commands for the working folder, for the rights of new files, and for what programs
may use. -/

namespace Metamorph.Sandbox.Shell

/-- The path that another one leads to from a folder, by the names alone: a dot stays, and two of
them take the last name away. -/
def joinFolder (folder path : String) : String :=
  let names := (path.splitOn "/").filter (· ≠ "")
  let text := path.toList
  let twoSlashes := text.take 2 = ['/', '/'] && (text.drop 2).head? ≠ some '/'
  let (root, start) : String × List String :=
    if !path.startsWith "/" then
      if folder.startsWith "//" then ("//", ((folder.drop 2).toString.splitOn "/").filter (· ≠ ""))
      else ("/", ((folder.drop 1).toString.splitOn "/").filter (· ≠ ""))
    else (if twoSlashes then "//" else "/", [])
  let parts := names.foldl (fun (parts : List String) name =>
    if name = "." then parts else if name = ".." then parts.drop 1 else name :: parts) start.reverse
  root ++ "/".intercalate parts.reverse

/-- The path of a trail. -/
def pathOf (trail : Trail) : String :=
  "/" ++ "/".intercalate trail

/-- Work in a folder from now on, and let the variables tell of it. -/
def enterFolder (path : String) (trail : Trail) : Step Unit := do
  let before ← Step.process
  Step.modifyProcess fun process => { process with folder := path, trail := trail }
  let kept (name value : String) : Step Unit := do
    if ← Step.isGoing then
      if ← setVariable name value then
        Step.modifyProcess fun process => process.update name fun entry =>
          { entry with exported := entry.exported || before.dialect = .plain }
  kept "OLDPWD" before.folder
  kept "PWD" path

/-- The trail of a folder that a path leads to. -/
def folderAt (folder : Trail) (path : String) : Step (Except Refusal Trail) := do
  let files ← Step.files
  match files.resolve true folder path with
  | .error why => return .error why
  | .ok trail =>
    if files.isFolder trail then return .ok trail
    else return .error (if (files.find? trail).isSome then .notFolder else .notFound)

/-- Go to the folder at a path, by the names in it or as its links lead. -/
def goTo (physical : Bool) (path : String) : Step (Except Refusal Unit) := do
  let process ← Step.process
  let target := if physical then path else joinFolder process.folder path
  match ← folderAt process.trail target with
  | .ok trail => do
    enterFolder (if physical then pathOf trail else target) trail
    return .ok ()
  | .error why =>
    if physical || process.dialect = .plain then return .error why
    else
      match ← folderAt process.trail path with
      | .ok trail => do
        enterFolder (pathOf trail) trail
        return .ok ()
      | .error why => return .error why

/-- The first of the places to look for a folder in that has one, with the sign whether the place
has a name. -/
def searchFolder (places : List String) (path : String) : Step (Option (String × Bool)) := do
  let process ← Step.process
  let files ← Step.files
  return places.findSome? fun place =>
    let candidate := if place.isEmpty then path else place ++ "/" ++ path
    match files.resolve true process.trail candidate with
    | .ok trail => if files.isFolder trail then some (candidate, !place.isEmpty) else none
    | .error _ => none

/-- Whether the last of the letters that choose between two kinds of paths is the second one. -/
def isPhysical (options : List (Char × String)) : Bool :=
  (options.getLast?.map (·.1)) = some 'P'

/-- Go to another folder. -/
def changeFolder (words : List String) : Step Unit :=
  withLetters "LP" words fun options words => do
    let process ← Step.process
    let rich := process.dialect = .rich
    let home := process.value? "HOME"
    let previous := process.value? "OLDPWD"
    let bare := words.isEmpty
    let back := words.head? = some "-"
    let complaint? :=
      if !rich then none
      else if 1 < words.length then some "too many arguments"
      else if bare && home.isNone then some "HOME not set"
      else if back && previous.isNone then some "OLDPWD not set"
      else none
    match complaint? with
    | some text => failBuiltin 1 text
    | none =>
      let given := if bare then home else if back then previous else words.head?
      change options (given.getD "") words
where
  /-- Go to a folder that words have named, and show it if they do not. -/
  change (options : List (Char × String)) (given : String) (words : List String) : Step Unit := do
    let process ← Step.process
    let path := if given.isEmpty then "." else given
    let first := (path.splitOn "/").headD ""
    let places :=
      if first = "" || first = "." || first = ".." then []
      else ((process.value? "CDPATH").map fun text => text.splitOn ":").getD []
    let (target, named) := (← searchFolder places path).getD (path, false)
    match ← goTo (isPhysical options) target with
    | .ok () =>
      if ← Step.isGoing then
        if named || words.head? = some "-" then
          Step.out ((← Step.process).folder ++ "\n")
        Step.setStatus 0
    | .error why =>
      if process.dialect = .rich then failBuiltin 1 (given ++ ": " ++ why.reason)
      else failBuiltin 2 ("can't cd to " ++ path)

/-- Write the path of the working folder. -/
def showFolder (words : List String) : Step Unit :=
  withLetters "LP" words fun options _ => do
    let process ← Step.process
    Step.out ((if isPhysical options then pathOf process.trail else process.folder) ++ "\n")
    Step.setStatus 0

/-- The letters of the rights that three bits stand for. -/
def rightLetters (bits : Nat) : String :=
  (if bits / 4 % 2 = 1 then "r" else "") ++ (if bits / 2 % 2 = 1 then "w" else "")
    ++ (if bits % 2 = 1 then "x" else "")

/-- The rights that a mask leaves, in letters. -/
def shownRights (mask : Nat) : String :=
  let left := 0o777 &&& (0o777 ^^^ mask)
  "u=" ++ rightLetters (left / 64) ++ ",g=" ++ rightLetters (left / 8 % 8) ++ ",o="
    ++ rightLetters (left % 8)

/-- Change rights as a list of letters and signs says: for whom, a sign, and which. The rights that
were there at first are what letters of users refer to. The fuel bounds the signs. -/
def changeRights? (before : Nat) : Nat → Nat → Nat → List Char → Option Nat
  | 0, _, _, _ => none
  | _ + 1, _, rights, [] => some rights
  | fuel + 1, users, rights, text =>
    let whom := text.takeWhile fun c => ['a', 'u', 'g', 'o'].contains c
    let users := whom.foldl (fun users c =>
      users ||| ([('a', 0o111), ('u', 0o100), ('g', 0o010), ('o', 0o001)].lookup c).getD 0) users
    let users := if users = 0 then 0o111 else users
    match text.drop whom.length with
    | [] => some rights
    | sign :: rest =>
      if !(['=', '+', '-'].contains sign) then none
      else
        let what := rest.takeWhile fun c => ['r', 'w', 'x', 'u', 'g', 'o', 'X', 's'].contains c
        let bits := what.foldl (fun bits c =>
          bits ||| ([('r', 4), ('w', 2), ('x', 1), ('u', before / 64), ('g', before / 8),
            ('o', before), ('X', if before &&& 0o111 = 0 then 0 else 1)].lookup c).getD 0) 0
        let bits := bits % 8 * users
        let rights :=
          if sign = '-' then rights &&& (0o777 ^^^ bits)
          else if sign = '+' then rights ||| bits
          else bits ||| (rights &&& (0o777 ^^^ (users * 7)))
        match rest.drop what.length with
        | [] => some rights
        | ',' :: rest => changeRights? before fuel 0 rights rest
        | c :: rest =>
          if ['=', '+', '-'].contains c then changeRights? before fuel users rights (c :: rest)
          else none

/-- Show or change the rights that new files do not get. -/
def maskRights (words : List String) : Step Unit :=
  withLetters (if words.head? = some "-p" then "Sp" else "S") words fun options words => do
    let mask := (← Step.process).mask
    let four (n : Nat) : String :=
      let digits := Nat.toDigits 8 n
      String.ofList (List.replicate (4 - digits.length) '0' ++ digits)
    Step.setStatus 0
    match words with
    | [] => Step.out ((if options.isEmpty then four mask else shownRights mask) ++ "\n")
    | text :: _ =>
      let rich ← isRich
      let setMask (mask : Nat) : Step Unit :=
        Step.modifyProcess fun process => { process with mask := mask }
      if (text.toList.headD ' ').isDigit then
        if text.toList.all (isDigitIn 8) then setMask (valueIn 8 text.toList % 512)
        else if rich then failBuiltin 1 (text ++ ": octal number out of range")
        else failBuiltin 2 ("Illegal number: " ++ text)
      else
        let rights := 0o777 &&& (0o777 ^^^ mask)
        match changeRights? rights (text.length + 1) 0 rights text.toList with
        | some rights => setMask (0o777 ^^^ rights)
        | none =>
          if rich then failBuiltin 1 (text ++ ": invalid symbolic mode character")
          else failBuiltin 2 ("Illegal mode: " ++ text)

/-- What can be limited: a letter, a name, and what is allowed if nothing else is said. -/
def limitKinds : List (Char × String × Limit) :=
  [('t', "time(seconds)", {}), ('f', "file(blocks)", {}), ('d', "data(kbytes)", {}),
    ('s', "stack(kbytes)", { soft := some 8192 }), ('c', "coredump(blocks)", { soft := some 0 }),
    ('m', "memory(kbytes)", {}),
    ('l', "locked memory(kbytes)", { soft := some 8192, hard := some 8192 }),
    ('p', "process", { soft := some 128604, hard := some 128604 }),
    ('n', "nofiles", { soft := some 1048576, hard := some 1048576 }), ('v', "vmemory(kbytes)", {}),
    ('w', "locks", {}), ('r', "rtprio", { soft := some 0, hard := some 0 })]

/-- The text of a limit. -/
def shownLimit (limit : Option Nat) : String :=
  (limit.map toString).getD "unlimited"

/-- Whether one limit is greater than another one. -/
def isAbove (first second : Option Nat) : Bool :=
  match first, second with
  | _, none => false
  | none, some _ => true
  | some a, some b => b < a

/-- Show or change a limit. -/
def limitUse (words : List String) : Step Unit :=
  withLetters "HSatfdscmlpnvwr" words fun options words => do
    let has (letter : Char) : Bool := options.any fun option => option.1 = letter
    let kind := ((options.filter fun option =>
      !(['H', 'S', 'a'].contains option.1)).getLast?.map (·.1)).getD 'f'
    let soft := has 'S' || !has 'H'
    let hard := has 'H' || !has 'S'
    let process ← Step.process
    let limitOf (letter : Char) : Limit :=
      (process.limits.lookup letter).getD
        (((limitKinds.lookup letter).map (·.2)).getD {})
    let shown (limit : Limit) : String := shownLimit (if soft then limit.soft else limit.hard)
    Step.setStatus 0
    match words with
    | [] =>
      if has 'a' then
        limitKinds.forM fun (letter, name, _) =>
          Step.out (String.ofList (padEnd 20 name.toList) ++ " " ++ shown (limitOf letter) ++ "\n")
      else Step.out (shown (limitOf kind) ++ "\n")
    | text :: more =>
      if has 'a' || !more.isEmpty then failBuiltin 2 "too many arguments"
      else if text ≠ "unlimited" && !text.toList.all Char.isDigit then
        failBuiltin 2 "bad number"
      else
        let value := if text = "unlimited" then none else some (Text.digitsValue text.toList)
        let before := limitOf kind
        let after : Limit :=
          { soft := if soft then value else before.soft, hard := if hard then value else before.hard }
        if isAbove after.soft after.hard then failBuiltin 2 "error setting limit (Invalid argument)"
        else if isAbove after.hard before.hard then
          failBuiltin 2 "error setting limit (Operation not permitted)"
        else
          Step.modifyProcess fun process =>
            { process with
              limits := (kind, after) :: process.limits.filter fun entry => entry.1 ≠ kind }

end Metamorph.Sandbox.Shell
