import Metamorph.Expr.Operator

/-! # Expressions

The trees that circuits are made of. Every node declares its kind; whether the declared
kinds fit the operators is a question of its own. -/

namespace Metamorph

/-- A node of an expression tree. -/
inductive Expr where
  | const (kind : Kind) (value : UInt32)
  | var (kind : Kind) (name : String)
  | unary (kind : Kind) (op : UnaryOp) (operand : Expr)
  | binary (kind : Kind) (op : BinaryOp) (lhs rhs : Expr)
  | cast (kind : Kind) (operand : Expr)
  deriving DecidableEq, Repr

/-- A unary operator applied to an expression, declared as its signature says. -/
def UnaryOp.on (op : UnaryOp) (operand : Expr) : Expr :=
  .unary op.resultKind op operand

/-- A binary operator applied to two expressions, declared as its signature says. -/
def BinaryOp.on (op : BinaryOp) (lhs rhs : Expr) : Expr :=
  .binary op.resultKind op lhs rhs

namespace Expr

instance : Inhabited Expr := ⟨.const .field 0⟩

/-- The constant of a word. -/
def field (value : UInt32) : Expr :=
  .const .field value

/-- The constant of a truth value. -/
def boolean (value : Bool) : Expr :=
  .const .bool (if value then 1 else 0)

/-- A truth value as a comparison of a word with itself, so that its only constant is that
word. -/
def truth (value : Bool) (witness : UInt32) : Expr :=
  (if value then BinaryOp.eq else BinaryOp.ne).on (field witness) (field witness)

/-- The word of a truth value. -/
def toField (operand : Expr) : Expr :=
  .cast .field operand

/-- The kind that a node declares. -/
def kind : Expr → Kind
  | .const kind _ => kind
  | .var kind _ => kind
  | .unary kind _ _ => kind
  | .binary kind _ _ _ => kind
  | .cast kind _ => kind

/-- The subtrees right below a node. -/
def children : Expr → List Expr
  | .const _ _ => []
  | .var _ _ => []
  | .unary _ _ operand => [operand]
  | .binary _ _ lhs rhs => [lhs, rhs]
  | .cast _ operand => [operand]

/-- Whether a node has no subtree. -/
def isLeaf : Expr → Bool
  | .const _ _ => true
  | .var _ _ => true
  | _ => false

/-- The number of nodes. -/
def size : Expr → Nat
  | .const _ _ => 1
  | .var _ _ => 1
  | .unary _ _ operand => operand.size + 1
  | .binary _ _ lhs rhs => lhs.size + rhs.size + 1
  | .cast _ operand => operand.size + 1

/-- The height of the tree; a leaf has depth 0. -/
def depth : Expr → Nat
  | .const _ _ => 0
  | .var _ _ => 0
  | .unary _ _ operand => operand.depth + 1
  | .binary _ _ lhs rhs => max lhs.depth rhs.depth + 1
  | .cast _ operand => operand.depth + 1

/-- The constants with their declared kinds, in pre-order. -/
def constants : Expr → List (Kind × UInt32)
  | .const kind value => [(kind, value)]
  | .var _ _ => []
  | .unary _ _ operand => operand.constants
  | .binary _ _ lhs rhs => lhs.constants ++ rhs.constants
  | .cast _ operand => operand.constants

/-- The names of the variables in pre-order, with repeats. -/
def variableNames : Expr → List String
  | .const _ _ => []
  | .var _ name => [name]
  | .unary _ _ operand => operand.variableNames
  | .binary _ _ lhs rhs => lhs.variableNames ++ rhs.variableNames
  | .cast _ operand => operand.variableNames

/-- The operator and operands of a binary node. -/
def asBinary : Expr → Option (BinaryOp × Expr × Expr)
  | .binary _ op lhs rhs => some (op, lhs, rhs)
  | _ => none

/-- The operator of a binary node. -/
def binaryOp (e : Expr) : Option BinaryOp :=
  e.asBinary.map (·.1)

/-- The text that shows a tree to a reader. -/
def display : Expr → String
  | .const .bool value => if value = 0 then "false" else "true"
  | .const .field value => toString value
  | .var _ name => name
  | .unary _ .neg operand => "-(" ++ operand.display ++ ")"
  | .unary _ .not operand => "!(" ++ operand.display ++ ")"
  | .binary _ op lhs rhs => "(" ++ lhs.display ++ " " ++ op.name ++ " " ++ rhs.display ++ ")"
  | .cast _ operand => "field(" ++ operand.display ++ ")"

end Expr

end Metamorph
