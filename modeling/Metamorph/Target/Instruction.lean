import Metamorph.Expr.Operator
import Metamorph.Target.Vocabulary

/-! # Instructions

The kinds of machine instructions that guests can be steered toward. -/

namespace Metamorph

/-- A kind of machine instruction. -/
inductive Instruction where
  | add
  | sub
  | mul
  | mulh
  | mulhu
  | mulhsu
  | div
  | divu
  | rem
  | remu
  | and
  | or
  | xor
  | sll
  | srl
  | sra
  | slt
  | sltu
  | branch
  | load
  | store
  | lui
  | auipc
  | jal
  | jalr
  | ecall
  deriving DecidableEq, Repr

namespace Instruction

/-- The name of a kind of instruction. -/
def name : Instruction → String
  | .add => "add"
  | .sub => "sub"
  | .mul => "mul"
  | .mulh => "mulh"
  | .mulhu => "mulhu"
  | .mulhsu => "mulhsu"
  | .div => "div"
  | .divu => "divu"
  | .rem => "rem"
  | .remu => "remu"
  | .and => "and"
  | .or => "or"
  | .xor => "xor"
  | .sll => "sll"
  | .srl => "srl"
  | .sra => "sra"
  | .slt => "slt"
  | .sltu => "sltu"
  | .branch => "branch"
  | .load => "load"
  | .store => "store"
  | .lui => "lui"
  | .auipc => "auipc"
  | .jal => "jal"
  | .jalr => "jalr"
  | .ecall => "ecall"

/-- All kinds of instructions. -/
def vocabulary : Vocabulary Instruction where
  labels := [.add, .sub, .mul, .mulh, .mulhu, .mulhsu, .div, .divu, .rem, .remu, .and, .or, .xor,
    .sll, .srl, .sra, .slt, .sltu, .branch, .load, .store, .lui, .auipc, .jal, .jalr, .ecall]
  name := name
  nodup_names := by decide

/-- The instruction that an operator becomes in a guest, if there is one that stands out. -/
def ofOperator? : Operator → Option Instruction
  | .unary _ => none
  | .cast => none
  | .binary op =>
    match op with
    | .add => some .add
    | .sub => some .sub
    | .mul => some .mul
    | .div => some .divu
    | .rem => some .remu
    | .bitAnd => some .and
    | .and => some .and
    | .bitOr => some .or
    | .or => some .or
    | .bitXor => some .xor
    | .xor => some .xor
    | .shl => some .sll
    | .shr => some .srl
    | .lt => some .sltu
    | .gt => some .sltu
    | .le => some .sltu
    | .ge => some .sltu
    | .eq => some .branch
    | .ne => some .branch

end Instruction

/-- The operators that seed trees are built with when some instructions are preferred: an
operator that becomes one of them occurs several times and so is drawn more often. Nothing
stands for all operators alike. -/
def operatorPool (preferred : List Instruction) : Option (List Operator) :=
  if preferred.isEmpty then none
  else some <| Operator.all.flatMap fun op =>
    let favoured := (Instruction.ofOperator? op).any preferred.contains
    List.replicate (if favoured then preferredWeight else 1) op

end Metamorph
