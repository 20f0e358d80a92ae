import Metamorph.Expr.Basic
import Metamorph.Json.Record

/-! # Expressions in JSON

A node is an object with the name of its shape as only key, and a record of its parts;
operators and kinds are strings. -/

namespace Metamorph

/-- The JSON form of a kind. -/
def Kind.toJson (kind : Kind) : Json := .text kind.name

/-- Read a kind. -/
def Kind.ofJson? (value : Json) : Option Kind :=
  value.plainChoice?.bind (Json.named? Kind.name Kind.all)

/-- The JSON form of a unary operator. -/
def UnaryOp.toJson (op : UnaryOp) : Json := .text op.name

/-- Read a unary operator. -/
def UnaryOp.ofJson? (value : Json) : Option UnaryOp :=
  value.plainChoice?.bind (Json.named? UnaryOp.name UnaryOp.all)

/-- The JSON form of a binary operator. -/
def BinaryOp.toJson (op : BinaryOp) : Json := .text op.name

/-- Read a binary operator. -/
def BinaryOp.ofJson? (value : Json) : Option BinaryOp :=
  value.plainChoice?.bind (Json.named? BinaryOp.name BinaryOp.all)

namespace Operator

/-- The JSON form of an operator. -/
def toJson : Operator → Json
  | .unary op => .object [("Unary", op.toJson)]
  | .binary op => .object [("Binary", op.toJson)]
  | .cast => .text "Cast"

/-- Read an operator. -/
def ofJson? (value : Json) : Option Operator :=
  match value.choice? with
  | some ("Unary", some op) => (UnaryOp.ofJson? op).map .unary
  | some ("Binary", some op) => (BinaryOp.ofJson? op).map .binary
  | some ("Cast", none) => some .cast
  | some ("Cast", some .null) => some .cast
  | _ => none

end Operator

namespace Expr

/-- The JSON form of a tree. -/
def toJson : Expr → Json
  | .const kind value =>
    .object [("Const", .object [("kind", kind.toJson), ("value", .nat value.toNat)])]
  | .var kind name =>
    .object [("Var", .object [("kind", kind.toJson), ("name", .text name)])]
  | .unary kind op operand =>
    .object [("Unary", .object
      [("kind", kind.toJson), ("op", op.toJson), ("operand", operand.toJson)])]
  | .binary kind op lhs rhs =>
    .object [("Binary", .object
      [("kind", kind.toJson), ("op", op.toJson), ("lhs", lhs.toJson), ("rhs", rhs.toJson)])]
  | .cast kind operand =>
    .object [("Cast", .object [("kind", kind.toJson), ("operand", operand.toJson)])]

/-- The names of the parts of a node of a shape. -/
def partNames : String → List String
  | "Const" => ["kind", "value"]
  | "Var" => ["kind", "name"]
  | "Unary" => ["kind", "op", "operand"]
  | "Binary" => ["kind", "op", "lhs", "rhs"]
  | "Cast" => ["kind", "operand"]
  | _ => []

/-- Put a node of a shape together from its parts, and read its subtrees with the given
reader. -/
def ofParts? (subtree : Json → Option Expr) : String → List Json → Option Expr
  | "Const", [kind, value] => do return .const (← Kind.ofJson? kind) (← value.word32?)
  | "Var", [kind, name] => do return .var (← Kind.ofJson? kind) (← name.string?)
  | "Unary", [kind, op, operand] => do
    return .unary (← Kind.ofJson? kind) (← UnaryOp.ofJson? op) (← subtree operand)
  | "Binary", [kind, op, lhs, rhs] => do
    return .binary (← Kind.ofJson? kind) (← BinaryOp.ofJson? op) (← subtree lhs) (← subtree rhs)
  | "Cast", [kind, operand] => do return .cast (← Kind.ofJson? kind) (← subtree operand)
  | _, _ => none

/-- Read a tree from JSON that is nested at most as deep as the fuel says. -/
def readTree : Nat → Json → Option Expr
  | 0, _ => none
  | fuel + 1, .object [(shape, parts)] => do
    ofParts? (readTree fuel) shape (← (← parts.record? (partNames shape)).mapM id)
  | _ + 1, _ => none

/-- Read a tree. -/
def ofJson? (value : Json) : Option Expr :=
  readTree (value.depth + 1) value

end Expr

end Metamorph
