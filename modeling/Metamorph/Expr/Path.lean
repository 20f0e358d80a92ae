import Metamorph.Expr.Basic

/-! # Addresses in a tree

A path leads from the root to a node: at every step it names a child by its number. -/

namespace Metamorph

/-- The way from the root of a tree to one of its nodes. -/
abbrev Path := List Nat

namespace Expr

/-- The paths of all nodes, in pre-order. -/
def paths : Expr → List Path
  | .const _ _ => [[]]
  | .var _ _ => [[]]
  | .unary _ _ operand => [] :: operand.paths.map (0 :: ·)
  | .binary _ _ lhs rhs => [] :: (lhs.paths.map (0 :: ·) ++ rhs.paths.map (1 :: ·))
  | .cast _ operand => [] :: operand.paths.map (0 :: ·)

/-- The subtree that a path leads to. -/
def at? : Expr → Path → Option Expr
  | e, [] => some e
  | .unary _ _ operand, 0 :: rest => operand.at? rest
  | .cast _ operand, 0 :: rest => operand.at? rest
  | .binary _ _ lhs _, 0 :: rest => lhs.at? rest
  | .binary _ _ _ rhs, 1 :: rest => rhs.at? rest
  | _, _ => none

/-- The tree with another subtree at the end of a path. -/
def replaceAt? : Expr → Path → Expr → Option Expr
  | _, [], replacement => some replacement
  | .unary kind op operand, 0 :: rest, replacement =>
    (operand.replaceAt? rest replacement).map (.unary kind op)
  | .cast kind operand, 0 :: rest, replacement =>
    (operand.replaceAt? rest replacement).map (.cast kind)
  | .binary kind op lhs rhs, 0 :: rest, replacement =>
    (lhs.replaceAt? rest replacement).map (.binary kind op · rhs)
  | .binary kind op lhs rhs, 1 :: rest, replacement =>
    (rhs.replaceAt? rest replacement).map (.binary kind op lhs)
  | _, _, _ => none

end Expr

end Metamorph
