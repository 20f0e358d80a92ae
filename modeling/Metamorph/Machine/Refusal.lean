/-! # Refusals

Why a machine does not do what it is asked for: a file is missing, is none, or must not be
run, or a text cannot be handed over at all. -/

namespace Metamorph

/-- Why a machine refuses a file or a command. -/
inductive Refusal where
  | notFound
  | denied
  | exists
  | notFolder
  | isFolder
  /-- The file is no program. -/
  | noProgram
  | notEmpty
  | tooManyLinks
  | nameTooLong
  /-- The device, or what a program may write, is full. -/
  | noRoom
  | tooLarge
  /-- Nobody reads what is written. -/
  | brokenPipe
  | badStream
  | invalid
  | busy
  /-- Programs are told nothing that has a character with the code zero in it. -/
  | zeroByte
  deriving DecidableEq, Repr

namespace Refusal

/-- What is wrong, in words. -/
def reason : Refusal → String
  | .notFound => "No such file or directory"
  | .denied => "Permission denied"
  | .exists => "File exists"
  | .notFolder => "Not a directory"
  | .isFolder => "Is a directory"
  | .noProgram => "Exec format error"
  | .notEmpty => "Directory not empty"
  | .tooManyLinks => "Too many levels of symbolic links"
  | .nameTooLong => "File name too long"
  | .noRoom => "No space left on device"
  | .tooLarge => "File too large"
  | .brokenPipe => "Broken pipe"
  | .badStream => "Bad file descriptor"
  | .invalid => "Invalid argument"
  | .busy => "Device or resource busy"
  | .zeroByte => "nul byte found in provided data"

/-- The number of a refusal; that of a text comes from no system and has none. -/
def number? : Refusal → Option Nat
  | .notFound => some 2
  | .denied => some 13
  | .exists => some 17
  | .notFolder => some 20
  | .isFolder => some 21
  | .noProgram => some 8
  | .notEmpty => some 39
  | .tooManyLinks => some 40
  | .nameTooLong => some 36
  | .noRoom => some 28
  | .tooLarge => some 27
  | .brokenPipe => some 32
  | .badStream => some 9
  | .invalid => some 22
  | .busy => some 16
  | .zeroByte => none

/-- The text of a refusal, with its number. -/
def message (refusal : Refusal) : String :=
  match refusal.number? with
  | some number => refusal.reason ++ " (os error " ++ toString number ++ ")"
  | none => refusal.reason

end Refusal

end Metamorph
