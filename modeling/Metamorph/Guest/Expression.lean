import Metamorph.Expr.Basic

/-! # Expressions of the guest program

Every value of a guest is an unsigned word of 32 bits, and truth values are 0 and 1. So the
logical operators are the bitwise ones, and a cast leaves no trace. Arithmetic uses the
methods that wrap, and division the two helper functions of the module. -/

namespace Metamorph.Guest

/-- A method call: the receiver stands in parentheses. -/
def methodCall (method receiver : String) (arguments : List String) : String :=
  "(" ++ receiver ++ ")." ++ method ++ "(" ++ ", ".intercalate arguments ++ ")"

/-- A function call. -/
def functionCall (function : String) (arguments : List String) : String :=
  function ++ "(" ++ ", ".intercalate arguments ++ ")"

/-- Two operands with a sign between them, in parentheses. -/
def between (sign a b : String) : String :=
  "(" ++ a ++ " " ++ sign ++ " " ++ b ++ ")"

/-- A comparison, made a word. -/
def comparison (sign a b : String) : String :=
  "(" ++ between sign a b ++ " as u32)"

/-- A unary operator over the text of its operand. -/
def renderUnary : UnaryOp → String → String
  | .neg, a => methodCall "wrapping_neg" a []
  | .not, a => between "^" a "1"

/-- A binary operator over the texts of its operands. -/
def renderBinary : BinaryOp → String → String → String
  | .add, a, b => methodCall "wrapping_add" a [b]
  | .sub, a, b => methodCall "wrapping_sub" a [b]
  | .mul, a, b => methodCall "wrapping_mul" a [b]
  | .div, a, b => functionCall "rv_div" [a, b]
  | .rem, a, b => functionCall "rv_rem" [a, b]
  | .shl, a, b => methodCall "wrapping_shl" a [b]
  | .shr, a, b => methodCall "wrapping_shr" a [b]
  | .bitAnd, a, b => between "&" a b
  | .and, a, b => between "&" a b
  | .bitOr, a, b => between "|" a b
  | .or, a, b => between "|" a b
  | .bitXor, a, b => between "^" a b
  | .xor, a, b => between "^" a b
  | .eq, a, b => comparison "==" a b
  | .ne, a, b => comparison "!=" a b
  | .lt, a, b => comparison "<" a b
  | .le, a, b => comparison "<=" a b
  | .gt, a, b => comparison ">" a b
  | .ge, a, b => comparison ">=" a b

/-- The guest expression that computes the value of a tree. -/
def render : Expr → String
  | .const _ value => toString value ++ "u32"
  | .var _ name => "inputs." ++ name
  | .unary _ op operand => renderUnary op (render operand)
  | .binary _ op lhs rhs => renderBinary op (render lhs) (render rhs)
  | .cast _ operand => render operand

end Metamorph.Guest
