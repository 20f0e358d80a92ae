import Metamorph.Circuit.Basic
import Metamorph.Expr.Kinding

/-! # Valid circuits

A circuit is valid when its inputs have different names and its truth values are 0 or 1,
when its tree is well kinded and of the declared output kind, and when every variable is an
input of the same kind. -/

namespace Metamorph

/-- The kind of the input with a given name. -/
def declaredKind (inputs : List Input) (name : String) : Option Kind :=
  (inputs.find? fun input => input.name == name).map (·.kind)

/-- Check inputs against the names before them, from the first to the last. -/
def checkInputs (seen : List String) : List Input → Except Error Unit
  | [] => .ok ()
  | input :: rest =>
    if seen.contains input.name then .error (.illKinded (.repeatedInput input.name))
    else if input.kind = .bool && 1 < input.value then
      .error (.illKinded (.inputValue input.name input.value))
    else checkInputs (input.name :: seen) rest

/-- Check that every variable is declared with the kind it is used with, in pre-order. -/
def Expr.checkVariables (declared : String → Option Kind) : Expr → Except Error Unit
  | .const _ _ => .ok ()
  | .var kind name =>
    match declared name with
    | none => .error (.unboundVariable name)
    | some k => if k = kind then .ok () else .error (.illKinded (.variable name kind k))
  | .unary _ _ operand => operand.checkVariables declared
  | .binary _ _ lhs rhs => do
    lhs.checkVariables declared
    rhs.checkVariables declared
  | .cast _ operand => operand.checkVariables declared

namespace Circuit

/-- Demand the declared kind of output. -/
def expectOutput (circuit : Circuit) (computed : Kind) : Except Error Unit :=
  if computed = circuit.outputKind then .ok ()
  else .error (.illKinded (.output circuit.name circuit.outputKind computed))

/-- Refuse a circuit that is not valid. -/
def validate (circuit : Circuit) : Except Error Unit := do
  checkInputs [] circuit.inputs
  let computed ← circuit.root.checkKinds
  circuit.expectOutput computed
  circuit.root.checkVariables (declaredKind circuit.inputs)

end Circuit

end Metamorph
