import Metamorph.Report.Outcome

/-! # Verdicts

What became of a circuit is decided from what was observed of its build and its run. A guest
that ends well says its value in a line `output: VALUE`, of which the last one counts; in all
other cases what it wrote is kept as the text of a crash. -/

namespace Metamorph

/-- What was observed of a build and a run. -/
inductive Observation where
  | buildTimedOut
  | buildFailed (log : String)
  | runTimedOut
  | exited (success : Bool) (stdout stderr : String)
  deriving DecidableEq, Repr

namespace Report

/-- The digits of a line that says the value of a guest. -/
def outputDigits? (line : List Char) : Option (List Char) := do
  let rest ← Text.after? "output:".toList (line.dropWhile Text.isBlank)
  let rest := rest.dropWhile Text.isBlank
  let digits := rest.takeWhile Text.isDecimalDigit
  if !digits.isEmpty && Text.isBlankText (rest.dropWhile Text.isDecimalDigit) then some digits
  else none

/-- The value that a guest says last, if it fits in 32 bits. -/
def guestOutput? (stdout : String) : Option UInt32 := do
  let digits ← (Text.lines stdout.toList).reverse.findSome? outputDigits?
  Text.word32OfDigits? digits

/-- The outcome for an expected value, given the value that was said or else the text of a
crash. -/
def classify (expected : UInt32) (actual : Option UInt32) (crash : Option String) : Outcome :=
  match crash, actual with
  | some raw, _ => .crashed (panics raw) raw
  | none, some actual => if actual = expected then .passed else .mismatch expected actual
  | none, none => .crashed [] ""

/-- Two texts as one. Blank ones are left out. -/
def joinStreams (stdout stderr : String) : String :=
  if Text.isBlankText stderr.toList then stdout
  else if Text.isBlankText stdout.toList then stderr
  else stdout ++ "\n" ++ stderr

end Report

/-- The outcome of what was observed, for an expected value. -/
def Observation.outcome (expected : UInt32) : Observation → Outcome
  | .buildTimedOut => .timedOut .build
  | .runTimedOut => .timedOut .run
  | .buildFailed log => .buildFailed log
  | .exited true stdout stderr =>
    match Report.guestOutput? stdout with
    | some actual => Report.classify expected (some actual) none
    | none => Report.classify expected none (some (Report.joinStreams stdout stderr))
  | .exited false stdout stderr =>
    Report.classify expected none (some (Report.joinStreams stdout stderr))

end Metamorph
