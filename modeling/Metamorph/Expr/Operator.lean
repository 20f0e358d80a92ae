/-! # Kinds and operators

A node of an expression has one of two kinds. Every operator has a signature: the kind its
operands must have and the kind of its result. -/

namespace Metamorph

/-- What an expression denotes. -/
inductive Kind where
  /-- A 32 bit word; arithmetic wraps. -/
  | field
  /-- A truth value, written 0 or 1. -/
  | bool
  deriving DecidableEq, Repr

namespace Kind

/-- Both kinds. -/
def all : List Kind := [.field, .bool]

/-- The name of a kind. -/
def name : Kind → String
  | .field => "Field"
  | .bool => "Bool"

end Kind

/-- Operators with one operand. -/
inductive UnaryOp where
  | neg
  | not
  deriving DecidableEq, Repr

namespace UnaryOp

/-- Every unary operator, in canonical order. -/
def all : List UnaryOp := [.neg, .not]

/-- The name of a unary operator. -/
def name : UnaryOp → String
  | .neg => "Neg"
  | .not => "Not"

/-- The kind the operand must have. -/
def operandKind : UnaryOp → Kind
  | .neg => .field
  | .not => .bool

/-- The kind of the result. -/
def resultKind (op : UnaryOp) : Kind := op.operandKind

end UnaryOp

/-- Operators with two operands. -/
inductive BinaryOp where
  -- arithmetic
  | add | sub | mul | div | rem
  -- bitwise
  | bitAnd | bitOr | bitXor | shl | shr
  -- logical
  | and | or | xor
  -- comparison of unsigned words
  | eq | ne | lt | le | gt | ge
  deriving DecidableEq, Repr

namespace BinaryOp

/-- Every binary operator, in canonical order. -/
def all : List BinaryOp :=
  [.add, .sub, .mul, .div, .rem, .bitAnd, .bitOr, .bitXor, .shl, .shr, .and, .or, .xor,
    .eq, .ne, .lt, .le, .gt, .ge]

/-- The name of a binary operator. -/
def name : BinaryOp → String
  | .add => "Add"
  | .sub => "Sub"
  | .mul => "Mul"
  | .div => "Div"
  | .rem => "Rem"
  | .bitAnd => "BitAnd"
  | .bitOr => "BitOr"
  | .bitXor => "BitXor"
  | .shl => "Shl"
  | .shr => "Shr"
  | .and => "And"
  | .or => "Or"
  | .xor => "Xor"
  | .eq => "Eq"
  | .ne => "Ne"
  | .lt => "Lt"
  | .le => "Le"
  | .gt => "Gt"
  | .ge => "Ge"

/-- The kind both operands must have. -/
def operandKind : BinaryOp → Kind
  | .and | .or | .xor => .bool
  | _ => .field

/-- Whether the operator compares two words. -/
def isComparison : BinaryOp → Bool
  | .eq | .ne | .lt | .le | .gt | .ge => true
  | _ => false

/-- The kind of the result. -/
def resultKind (op : BinaryOp) : Kind :=
  if op.isComparison then .bool else op.operandKind

/-- Whether the operands may change places. -/
def isCommutative : BinaryOp → Bool
  | .add | .mul | .bitAnd | .bitOr | .bitXor | .and | .or | .xor | .eq | .ne => true
  | _ => false

/-- The comparison that holds when the operands change places. -/
def flipped : BinaryOp → Option BinaryOp
  | .lt => some .gt
  | .gt => some .lt
  | .le => some .ge
  | .ge => some .le
  | .eq => some .eq
  | .ne => some .ne
  | _ => none

/-- The comparison that holds exactly when this one does not. -/
def negated : BinaryOp → Option BinaryOp
  | .eq => some .ne
  | .ne => some .eq
  | .lt => some .ge
  | .ge => some .lt
  | .le => some .gt
  | .gt => some .le
  | _ => none

end BinaryOp

/-- An operator that a seed tree may be built with. -/
inductive Operator where
  | unary (op : UnaryOp)
  | binary (op : BinaryOp)
  /-- From truth values to words. -/
  | cast
  deriving DecidableEq, Repr

namespace Operator

/-- Every operator, in canonical order. -/
def all : List Operator :=
  UnaryOp.all.map .unary ++ BinaryOp.all.map .binary ++ [.cast]

/-- The kind of the result. -/
def resultKind : Operator → Kind
  | .unary op => op.resultKind
  | .binary op => op.resultKind
  | .cast => .field

/-- The kind the operands must have; a cast leaves it open. -/
def operandKind : Operator → Option Kind
  | .unary op => some op.operandKind
  | .binary op => some op.operandKind
  | .cast => none

/-- How messages call an operator. -/
def label : Operator → String
  | .unary op => op.name
  | .binary op => op.name
  | .cast => "cast"

end Operator

end Metamorph
