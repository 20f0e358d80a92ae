import Metamorph.Target.Basic
import Metamorph.Text.Basic

/-! # Hooks of targets

The modules that injections need in a checkout, and the registry that knows where they belong. -/

namespace Metamorph

/-! ## Fault hooks

A hook is a function of a target that gives a wrong result when its injection is switched on
from outside. All hooks of a revision make up one module, which is put into the checkout of
the target at a fixed place. -/

/-- A function that a fault can be injected through. -/
structure Hook where
  injection : Injection
  /-- The name of the parameter. -/
  parameter : String
  /-- The type of the parameter and of the result. -/
  type : String
  /-- The result with the fault. -/
  faulty : String
  /-- The result without the fault. -/
  sound : String := parameter
  /-- What must also hold for the fault to occur. -/
  guard : Option String := none
  deriving Repr

/-- The lines of a hook after the blank line in front of it. -/
def Hook.lines (attributes : List String) (hook : Hook) : List String :=
  [""] ++ attributes
    ++ ["pub fn " ++ hook.injection.name ++ "(" ++ hook.parameter ++ ": " ++ hook.type ++ ") -> "
        ++ hook.type ++ " \x7b",
      "    if enabled(\"" ++ hook.injection.name ++ "\")"
        ++ (match hook.guard with
          | some guard => " && " ++ guard
          | none => "")
        ++ " \x7b " ++ hook.faulty ++ " \x7d else \x7b " ++ hook.sound ++ " \x7d",
      "\x7d"]

/-- A source file that is put into a checkout. -/
structure HookModule where
  /-- The path inside the checkout. -/
  path : String
  text : String
  deriving DecidableEq, Repr

/-- The module with the given hooks. -/
def HookModule.ofHooks (path title : String) (attributes : List String) (hooks : List Hook) :
    HookModule where
  path := path
  text := Text.ofLines <|
    ["// zkfuzz fault hooks for " ++ title,
      "fn enabled(kind: &str) -> bool \x7b",
      "    std::env::var(\"ZKFUZZ_INJECT\")",
      "        .map(|v| v.split(',').any(|k| k == kind))",
      "        .unwrap_or(false)",
      "\x7d"]
    ++ hooks.flatMap (Hook.lines attributes)

/-- A revision of a target that there are hooks for. -/
structure Revision where
  commit : String
  /-- Branches and tags that name the commit. -/
  aliases : List String
  hooks : HookModule
  deriving Repr

/-- The commit of a revision and its other names. -/
def Revision.keys (revision : Revision) : List String :=
  revision.commit :: revision.aliases

namespace Hook

/-- A branch that goes the other way. -/
def branch : Hook :=
  { injection := .branchCondition, parameter := "taken", type := "bool", faulty := "!taken" }

/-- A result that is written to another register; the zero register is left alone. -/
def register : Hook :=
  { injection := .registerWrite, parameter := "rd", type := "usize", faulty := "(rd % 31) + 1"
    guard := some "rd != 0" }

/-- A shift amount with one bit too many. -/
def shift (type : String) : Hook :=
  { injection := .shiftAmount, parameter := "shamt", type := type, faulty := "shamt & 0x3f"
    sound := "shamt & 0x1f" }

/-- A wrong result of arithmetic. -/
def arithmetic (parameter type faulty : String) : Hook :=
  { injection := .arithmeticResult, parameter := parameter, type := type, faulty := faulty }

/-- A wrong word stored in memory. -/
def memoryStore (faulty : String) : Hook :=
  { injection := .memoryStore, parameter := "word", type := "u32", faulty := faulty }

end Hook

/-- The revisions of a target that there are hooks for. -/
def Target.revisions : Target → List Revision
  | .risc0 =>
    [{ commit := "9bb5a5d7e6c3b0b1a5e84bd3f2cc24ba0e4f9c1e"
       aliases := ["v1.2.0", "release-1.2"]
       hooks := .ofHooks "risc0/circuit/rv32im/src/prove/emu/zkfuzz.rs"
         "risc0 v1.2 (emulator path)" []
         [.arithmetic "result" "u32" "result ^ 1", .branch,
           .memoryStore "word.rotate_left(8)", .register] },
      { commit := "4f1a8e0c2d77b6e9158a6a30c9be1f0d82c35a47"
        aliases := ["v2.0.0", "release-2.0"]
        hooks := .ofHooks "risc0/circuit/rv32im/src/execute/zkfuzz.rs"
          "risc0 v2.0 (executor path)" ["#[inline]"]
          [.arithmetic "result" "u32" "result.wrapping_add(1)", .branch,
            .memoryStore "word & 0xffff_fffe", .register] }]
  | .sp1 =>
    [{ commit := "c1d0e3b2a7f54b6e8d9c0a1f2e3d4c5b6a798081"
       aliases := ["v4.1.0", "dev"]
       hooks := .ofHooks "crates/core/executor/src/zkfuzz.rs" "sp1 v4" []
         [.arithmetic "a" "u32" "a ^ 0x8000_0000", .branch,
           { injection := .memoryLoad, parameter := "word", type := "u32"
             faulty := "word.swap_bytes()" },
           .shift "u32",
           { injection := .syscall, parameter := "code", type := "u32"
             faulty := "code.wrapping_add(1)" }] }]
  | .jolt =>
    [{ commit := "0e6f7a2b5c9d41e38f7a60b2c4d1e9f8a3b57c26"
       aliases := ["main-2024-11"]
       hooks := .ofHooks "tracer/src/emulator/zkfuzz.rs" "jolt tracer" []
         [.arithmetic "value" "u64" "value ^ 1",
           { injection := .lookupTable, parameter := "index", type := "usize"
             faulty := "index.wrapping_add(1)" },
           .register, .shift "u64"] }]

/-! ## The registry of revisions

Which hooks belong to which revision of a target. Look-ups are exact: an unknown key never
falls back to another revision. -/

/-- Hooks by target and commit or other name. The first entry of a key counts. -/
structure Registry where
  entries : List ((Target × String) × HookModule) := []
  deriving Repr

namespace Registry

/-- Put hooks under a key, in the place of those that were there. -/
def register (registry : Registry) (target : Target) (key : String) (hooks : HookModule) :
    Registry :=
  ⟨((target, key), hooks) :: registry.entries.filter fun entry => entry.1 ≠ (target, key)⟩

/-- The hooks under a key. -/
def find? (registry : Registry) (target : Target) (key : String) : Option HookModule :=
  (registry.entries.find? fun entry => entry.1 = (target, key)).map (·.2)

/-- The hooks of a revision, which must be registered. -/
def lookup (registry : Registry) (target : Target) (revision : String) :
    Except Error HookModule :=
  match registry.find? target revision with
  | some hooks => .ok hooks
  | none => .error (.unsupportedRevision target.name revision)

/-- Whether there are hooks under a key. -/
def supports (registry : Registry) (target : Target) (key : String) : Bool :=
  (registry.find? target key).isSome

/-- The keys of a target, in increasing order. -/
def keys (registry : Registry) (target : Target) : List String :=
  ((registry.entries.filter fun entry => entry.1.1 = target).map fun entry => entry.1.2).mergeSort

/-- Put the hooks of a revision under all its names. -/
def registerRevision (target : Target) (registry : Registry) (revision : Revision) : Registry :=
  revision.keys.foldl (fun registry key => registry.register target key revision.hooks) registry

/-- Put the hooks of all known revisions of a target under their names. -/
def registerTarget (registry : Registry) (target : Target) : Registry :=
  target.revisions.foldl (registerRevision target) registry

/-- The registry of all known revisions. -/
def builtin : Registry :=
  Target.vocabulary.labels.foldl registerTarget {}

end Registry

end Metamorph
