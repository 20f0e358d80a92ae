import Metamorph.Expr.Value

/-! # Circuits

A circuit is a tree together with the inputs it may use, and the record of the rewrites
that led to it. -/

namespace Metamorph

/-- A declared input and the value it is run with. -/
structure Input where
  name : String
  kind : Kind
  value : UInt32
  deriving DecidableEq, Repr

/-- One generated program. -/
structure Circuit where
  name : String
  inputs : List Input
  outputKind : Kind
  root : Expr
  /-- The names of the rewrite rules that led here, in order. -/
  rewrites : List String
  /-- Whether one of them changes the value on purpose. -/
  perturbed : Bool
  deriving DecidableEq, Repr

/-- The value of the last input with a given name. -/
def lastValue (inputs : List Input) : Env :=
  fun name => (inputs.reverse.find? fun input => input.name == name).map (·.value)

namespace Circuit

/-- A circuit that no rewrite has touched. -/
def ofTree (name : String) (inputs : List Input) (root : Expr) : Circuit where
  name := name
  inputs := inputs
  outputKind := root.kind
  root := root
  rewrites := []
  perturbed := false

/-- The values the circuit is run with. Of inputs with one name the last counts. -/
def env (circuit : Circuit) : Env :=
  lastValue circuit.inputs

/-- The names and values the circuit is run with, each name once. -/
def bindings (circuit : Circuit) : List (String × UInt32) :=
  (circuit.inputs.map (·.name)).eraseDups.filterMap fun name =>
    (circuit.env name).map fun value => (name, value)

/-- The value of the circuit under its own inputs. -/
def evaluate (circuit : Circuit) : Except Error UInt32 :=
  circuit.root.evaluate circuit.env

/-- Whether no rewrite led to the circuit. -/
def isSeed (circuit : Circuit) : Bool :=
  circuit.rewrites.isEmpty && !circuit.perturbed

end Circuit

end Metamorph
