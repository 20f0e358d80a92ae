import Metamorph.Report.Panic

/-! # Outcomes

What became of a circuit: its guest gave the expected value or another one, broke down, took
too long, or was never built. -/

namespace Metamorph

/-- What took too long. -/
inductive Stage where
  | build
  | run
  deriving DecidableEq, Repr

namespace Stage

/-- Both stages. -/
def all : List Stage := [.build, .run]

/-- The name of a stage. -/
def name : Stage → String
  | .build => "build"
  | .run => "run"

/-- Read a stage. -/
def ofJson? (value : Json) : Option Stage :=
  value.plainChoice?.bind (Json.named? name all)

/-- Read a stage before it is known to be one: nothing may then also be an empty object. -/
def ofEarlyJson? : Json → Option Stage
  | .object [(stage, .object [])] => Json.named? name all stage
  | value => ofJson? value

end Stage

/-- What became of a circuit. -/
inductive Outcome where
  | passed
  /-- The guest gave another value than the expected one. -/
  | mismatch (expected actual : UInt32)
  /-- The guest broke down; there may be no panic that can be read off the text. -/
  | crashed (panics : List Panic) (raw : String)
  | timedOut (stage : Stage)
  /-- The guest never ran, which says nothing about the target. -/
  | buildFailed (log : String)
  deriving DecidableEq, Repr

namespace Outcome

/-- Whether an outcome tells of a possible fault of the target. -/
def isFinding : Outcome → Bool
  | .passed => false
  | .buildFailed _ => false
  | .mismatch _ _ => true
  | .crashed _ _ => true
  | .timedOut _ => true

/-- What outcomes are counted under. -/
def label : Outcome → String
  | .passed => "passed"
  | .mismatch _ _ => "mismatch"
  | .crashed _ _ => "crashed"
  | .timedOut .build => "build_timeout"
  | .timedOut .run => "run_timeout"
  | .buildFailed _ => "build_failed"

/-- The fingerprints of the panics of an outcome. -/
def fingerprints : Outcome → List String
  | .crashed panics _ => panics.map Panic.fingerprint
  | _ => []

/-- The JSON form of an outcome with a name and details. -/
def tagged (name : String) (detail : Json) : Json :=
  .object [("outcome", .text name), ("detail", detail)]

/-- The JSON form of an outcome. -/
def toJson : Outcome → Json
  | .passed => .object [("outcome", .text "passed")]
  | .mismatch expected actual =>
    tagged "mismatch" (.object [("expected", .nat expected.toNat), ("actual", .nat actual.toNat)])
  | .crashed panics raw =>
    tagged "crashed" (.object [("panics", .list Panic.toJson panics), ("raw", .text raw)])
  | .timedOut stage => tagged "timed_out" (.text stage.name)
  | .buildFailed log => tagged "build_failed" (.object [("log", .text log)])

/-- Read the details of the outcome with a name. They are a record with named fields, or a
stage. -/
def ofDetail? (stage? : Json → Option Stage) (name : String) (detail : Option Json) :
    Option Outcome := do
  match name, detail with
  | "passed", none => return .passed
  | "passed", some .null => return .passed
  | "mismatch", some detail =>
    match ← detail.namedRecord? ["expected", "actual"] with
    | [expected, actual] =>
      return .mismatch (← Json.required? Json.word32? expected)
        (← Json.required? Json.word32? actual)
    | _ => none
  | "crashed", some detail =>
    match ← detail.namedRecord? ["panics", "raw"] with
    | [panics, raw] =>
      return .crashed (← Json.required? (Json.list? Panic.ofJson?) panics)
        (← Json.required? Json.string? raw)
    | _ => none
  | "timed_out", some detail => return .timedOut (← stage? detail)
  | "build_failed", some detail =>
    match ← detail.namedRecord? ["log"] with
    | [log] => return .buildFailed (← Json.required? Json.string? log)
    | _ => none
  | _, _ => none

/-- Whether the details of an outcome come before its name. -/
def isDetailAhead : Json → Bool
  | .object fields =>
    (fields.find? fun (key, _) => key == "outcome" || key == "detail").any fun (key, _) =>
      key == "detail"
  | _ => false

/-- Read an outcome. Details that come before the name are read before it is known what they
mean, so that all of them must be usable. -/
def ofJson? (value : Json) : Option Outcome := do
  match ← value.record? ["outcome", "detail"] with
  | [some name, detail] =>
    let name ← name.plainChoice?
    if isDetailAhead value then
      if detail.all Json.isUsable then ofDetail? Stage.ofEarlyJson? name detail else none
    else ofDetail? Stage.ofJson? name detail
  | _ => none

end Outcome

end Metamorph
