import Metamorph.Sandbox.Tool.Numeral
import Metamorph.Sandbox.Tool.Listing

/-! # Describing files

The tool that tells what is known of files, in a form that is its own or by a format. -/

namespace Metamorph.Sandbox

namespace Entry

/-- The words for the kind of an entry. -/
def kindWords : Entry → String
  | .folder _ => "directory"
  | .file bytes _ => if bytes.isEmpty then "regular empty file" else "regular file"
  | .link _ => "symbolic link"
  | .pipe _ _ => "fifo"
  | .device _ => "character special file"

/-- The bits that stand for the kind of an entry. -/
def kindBits : Entry → Nat
  | .folder _ => 0o040000
  | .file _ _ => 0o100000
  | .link _ => 0o120000
  | .pipe _ _ => 0o010000
  | .device _ => 0o020000

end Entry

namespace Details

/-- The number of the device that all files are on. -/
def deviceNumber : Nat := 60

/-- The size of the portions that files are best read in. -/
def portionSize : Nat := 4096

/-- The name of a file between quotes, and where it leads to if it is a link. -/
def fullName (file : Details) : String :=
  match file.entry with
  | .link target => quoted file.name ++ " -> " ++ quoted target
  | _ => quoted file.name

/-- The time of the last change with all that belongs to it. -/
def timeText (file : Details) : String :=
  String.ofList
    ((Moment.ofMicroseconds file.changed).formatted "%Y-%m-%d %H:%M:%S.%N %z".toList)

/-- The seconds until the last change. Places are shown if a precision is told; nine, if it is told
without digits. -/
def secondsText (file : Details) (precision : Option Nat) : String :=
  let moment := Moment.ofMicroseconds file.changed
  match precision with
  | none => toString moment.seconds
  | some places =>
    let digits := Nat.toDigits 10 moment.fraction
    let all := List.replicate (9 - digits.length) '0' ++ digits
    let shown := all.take places ++ List.replicate (places - 9) '0'
    toString moment.seconds ++ "." ++ String.ofList shown

/-- A value that is shown of a file. -/
inductive Shown where
  | text (text : String)
  /-- A number and the letter for how it is written. -/
  | number (value : Nat) (conversion : Char)

/-- What a letter of a format asks for. -/
def shown? (file : Details) (precision : Option Nat) (letter : Char) : Option Shown :=
  let entry := file.entry
  match letter with
  | 'n' => some (.text file.name)
  | 'N' => some (.text file.fullName)
  | 'a' => some (.number entry.mode 'o')
  | 'A' => some (.text (String.ofList (entry.letter :: modeLetters entry.mode)))
  | 'b' => some (.number (entry.blocks * 2) 'u')
  | 'B' => some (.number 512 'u')
  | 'C' => some (.text "?")
  | 'd' => some (.number deviceNumber 'u')
  | 'D' => some (.number deviceNumber 'x')
  | 'f' => some (.number (entry.kindBits + entry.mode) 'x')
  | 'F' => some (.text entry.kindWords)
  | 'g' => some (.number 0 'u')
  | 'G' => some (.text "root")
  | 'h' => some (.number file.names 'u')
  | 'i' => some (.number file.number 'u')
  | 'm' => some (.text "/")
  | 'o' => some (.number portionSize 'u')
  | 'r' => some (.number (entry.deviceNumbers.1 * 256 + entry.deviceNumbers.2) 'u')
  | 'R' => some (.number (entry.deviceNumbers.1 * 256 + entry.deviceNumbers.2) 'x')
  | 's' => some (.number entry.size 'u')
  | 't' => some (.number entry.deviceNumbers.1 'x')
  | 'T' => some (.number entry.deviceNumbers.2 'x')
  | 'u' => some (.number 0 'u')
  | 'U' => some (.text "root")
  | _ =>
    if ['w', 'x', 'y', 'z'].contains letter then some (.text file.timeText)
    else if ['W', 'X', 'Y', 'Z'].contains letter then
      some (.text (file.secondsText precision))
    else none

/-- The letters for times in seconds, in which a precision means places. -/
def isSeconds (letter : Char) : Bool :=
  ['W', 'X', 'Y', 'Z'].contains letter

/-- A value as a directive shows it. -/
def withDirective (file : Details) (shape : OpenDirective) (isPrecise : Bool) (letter : Char) :
    List Char :=
  let directive := shape.close []
  let places := if isPrecise then some (directive.precision.getD 9) else none
  match file.shown? places letter with
  | none => ['?']
  | some (.text text) =>
    if isSeconds letter then { directive with precision := none }.ofText text.toList
    else directive.ofText text.toList
  | some (.number value conversion) =>
    { directive with conversion, plus := false, space := false }.ofInt value

/-- Write what a format asks for. Escapes are carried out if that is asked for. The fuel bounds the
length of the format. An error is a directive that means nothing. -/
def format (file : Details) (escapes : Bool) : Nat → List Char → Except String (List Char)
  | 0, _ => .ok []
  | _ + 1, [] => .ok []
  | fuel + 1, '%' :: text => do
    let (shape, rest) := OpenDirective.readShape ['#', '-', '+', 'I', ' ', '0', '\''] text
    let before := text.take (text.length - rest.length)
    let digits := before.reverse.takeWhile Char.isDigit
    let isPrecise := before.contains '.'
    let shape := if isPrecise && digits.isEmpty then { shape with precision := some none } else shape
    match rest with
    | [] | '%' :: _ =>
      if before.isEmpty then return '%' :: (← format file escapes fuel (rest.drop 1))
      else
        throw (quoted (String.ofList ('%' :: before ++ rest.take 1)) ++ ": invalid directive")
    | 'H' :: 'd' :: rest => return '0' :: (← format file escapes fuel rest)
    | 'L' :: 'd' :: rest =>
      return Nat.toDigits 10 deviceNumber ++ (← format file escapes fuel rest)
    | 'H' :: 'r' :: rest =>
      return Nat.toDigits 10 file.entry.deviceNumbers.1 ++ (← format file escapes fuel rest)
    | 'L' :: 'r' :: rest =>
      return Nat.toDigits 10 file.entry.deviceNumbers.2 ++ (← format file escapes fuel rest)
    | letter :: rest =>
      return file.withDirective shape isPrecise letter ++ (← format file escapes fuel rest)
  | fuel + 1, '\\' :: c :: rest =>
    if escapes then
      match Escapes.readOne { hexadecimal := true, control := ['e'], signs := ['"'] } c rest with
      | .plain text rest => do return text ++ (← format file escapes fuel rest)
      | _ => do return c :: (← format file escapes fuel rest)
    else do return '\\' :: (← format file escapes fuel (c :: rest))
  | fuel + 1, c :: rest => do return c :: (← format file escapes fuel rest)

/-- The format of a line with all values. -/
def terseFormat : String :=
  "%n %s %b %f %u %g %D %i %h %t %T %X %Y %Z %W %o"

/-- The format that is usual for a file. -/
def usualFormat (file : Details) : String :=
  let device :=
    match file.entry with
    | .device _ => "Inode: %-11i Links: %-5h Device type: %Hr,%Lr"
    | _ => "Inode: %-11i Links: %h"
  "  File: %N\n  Size: %-10s\tBlocks: %-10b IO Block: %-6o %F\nDevice: %Hd,%Ld\t" ++ device
    ++ "\nAccess: (%04a/%10.10A)  Uid: (%5u/%8U)   Gid: (%5g/%8G)\n"
    ++ "Access: %x\nModify: %y\nChange: %z\n Birth: %w"

end Details

namespace Tool

/-- What is known of the file that a path leads to; a dash stands for the input. -/
def detailsAt (follow : Bool) (path : String) : Step (Except Refusal Details) := do
  let files ← Step.files
  match ← Step.resolve follow path with
  | .error why => return .error why
  | .ok trail =>
    match Details.ofTrail? files trail path with
    | some file => return .ok file
    | none => return .error .notFound

/-- Tell what is known of files. -/
def stat : Tool := fun _ arguments =>
  withOptions "stat" 1
    { flags := "Lft", valued := "cp@", long := [("dereference", 'L'), ("file-system", 'f'),
      ("format", 'c'), ("printf", 'p'), ("terse", 't'), ("cached", '@')] }
    arguments fun options => do
    if options.operands.isEmpty then misuse "stat" 1 "missing operand"
    else
      let codes ← options.operands.mapM fun path => do
        match ← detailsAt (options.has 'L') path with
        | .error why => fail "stat" 1 ("cannot statx " ++ quoted path ++ ": " ++ why.reason)
        | .ok file => do
          let (format, escapes, close) :=
            match options.lastOf? ['c', 'p'] with
            | some 'c' => ((options.value? 'c').getD "", false, "\n")
            | some _ => ((options.value? 'p').getD "", true, "")
            | none => (if options.has 't' then Details.terseFormat else file.usualFormat, false, "\n")
          match file.format escapes (format.length + 1) format.toList with
          | .error why => fail "stat" 1 why
          | .ok text => do
            Step.write 1 (text ++ close.toList)
            return 0
      return codes.foldl max 0

end Tool

end Metamorph.Sandbox
