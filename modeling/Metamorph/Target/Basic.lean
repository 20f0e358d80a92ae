import Metamorph.Target.Settings
import Metamorph.Target.Vocabulary

/-! # Targets

The virtual machines that a campaign can work against, and the faults that can be injected
into each of them. -/

namespace Metamorph

/-- A virtual machine under test. -/
inductive Target where
  | risc0
  | sp1
  | jolt
  deriving DecidableEq, Repr

/-- A fault that can be injected into a target. -/
inductive Injection where
  | arithmeticResult
  | branchCondition
  | memoryStore
  | memoryLoad
  | registerWrite
  | lookupTable
  | shiftAmount
  | syscall
  deriving DecidableEq, Repr

/-- The name of an injection. -/
def Injection.name : Injection → String
  | .arithmeticResult => "arithmetic_result"
  | .branchCondition => "branch_condition"
  | .memoryStore => "memory_store"
  | .memoryLoad => "memory_load"
  | .registerWrite => "register_write"
  | .lookupTable => "lookup_table"
  | .shiftAmount => "shift_amount"
  | .syscall => "syscall"

namespace Target

/-- The name of a target. -/
def name : Target → String
  | .risc0 => "risc0"
  | .sp1 => "sp1"
  | .jolt => "jolt"

/-- All targets. -/
def vocabulary : Vocabulary Target where
  labels := [.risc0, .sp1, .jolt]
  name := name
  nodup_names := by decide

/-- The injections that a target knows. -/
def injections : Target → Vocabulary Injection
  | .risc0 => ⟨[.arithmeticResult, .branchCondition, .memoryStore, .registerWrite],
      Injection.name, by decide⟩
  | .sp1 => ⟨[.arithmeticResult, .branchCondition, .memoryLoad, .shiftAmount, .syscall],
      Injection.name, by decide⟩
  | .jolt => ⟨[.arithmeticResult, .lookupTable, .registerWrite, .shiftAmount],
      Injection.name, by decide⟩

/-- Pick one of the injections that settings enable. Nothing is drawn where fault injection
is off or nothing is enabled. -/
def selectInjection {ρ : Type} [RandomSource ρ] (target : Target) (settings : TargetSettings) :
    Draw ρ (Option Injection) :=
  if settings.faultInjection then do
    match ← target.injections.parse settings.enabledInjections with
    | [] => return none
    | first :: rest => return some (← selectLabel (first :: rest) [])
  else return none

end Target

end Metamorph
