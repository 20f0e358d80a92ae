import Metamorph.Bundle.Basic
import Metamorph.Circuit.Validity
import Metamorph.Guest.Expression
import Metamorph.Text.Basic

/-! # The guest module of a bundle

One source text holds a whole bundle: the expected value, the record of inputs, the two
helper functions for division, one function per circuit, and the function that calls them
all. -/

namespace Metamorph.Guest

open Text (ofLines)

/-- What may vary in a guest module. -/
structure Settings where
  /-- The name of the function that calls every circuit. -/
  entryPoint : String := "run_all"
  /-- Whether the recorded inputs are part of the module. -/
  recordedInputs : Bool := true
  deriving Repr

/-- The expected value, behind the head of the module. -/
def header (bundle : Bundle) : String :=
  ofLines ["// Generated bundle: 1 seed, " ++ toString (bundle.size - 1) ++ " variants",
    "#![allow(unused_parens, clippy::all)]",
    "",
    "pub const EXPECTED: u32 = " ++ toString bundle.expected ++ ";",
    ""]

/-- The record that holds the inputs. -/
def inputRecord (inputs : List Input) : String :=
  ofLines (["#[derive(Clone, Copy, Debug)]", "pub struct Inputs \x7b"]
    ++ (inputs.map fun input => "    pub " ++ input.name ++ ": u32,")
    ++ ["\x7d", ""])

/-- The function that gives the recorded inputs. -/
def recordedInputs (inputs : List Input) : String :=
  ofLines (["impl Inputs \x7b", "    pub fn recorded() -> Self \x7b", "        Self \x7b"]
    ++ (inputs.map fun input =>
      "            " ++ input.name ++ ": " ++ toString input.value ++ ",")
    ++ ["        \x7d", "    \x7d", "\x7d", ""])

/-- Division and remainder that are defined for a divisor of zero. -/
def helpers : String :=
  ofLines ["#[inline(always)]",
    "fn rv_div(a: u32, b: u32) -> u32 \x7b",
    "    if b == 0 \x7b u32::MAX \x7d else \x7b a / b \x7d",
    "\x7d",
    "",
    "#[inline(always)]",
    "fn rv_rem(a: u32, b: u32) -> u32 \x7b",
    "    if b == 0 \x7b a \x7d else \x7b a % b \x7d",
    "\x7d"]

/-- The line that names the rewrites behind a circuit, if there are any. -/
def provenance (circuit : Circuit) : List String :=
  if circuit.rewrites.isEmpty then []
  else ["// rewrites: " ++ ", ".intercalate circuit.rewrites]

/-- The function of a circuit. -/
def circuitFunction (circuit : Circuit) : String :=
  ofLines (provenance circuit
    ++ ["pub fn " ++ circuit.name ++ "(inputs: &Inputs) -> u32 \x7b",
      "    " ++ render circuit.root,
      "\x7d"])

/-- The function of a circuit, which must be valid. -/
def emitCircuit (circuit : Circuit) : Except Error String := do
  circuit.validate
  return circuitFunction circuit

/-- The function that calls every circuit in order. -/
def entryFunction (name : String) (bundle : Bundle) : String :=
  ofLines ["",
    "pub fn " ++ name ++ "(inputs: &Inputs) -> [u32; " ++ toString bundle.size ++ "] \x7b",
    "    [" ++ ", ".intercalate (bundle.names.map (· ++ "(inputs)")) ++ "]",
    "\x7d"]

/-- The guest module of a bundle, all of whose circuits must be valid. -/
def emitBundle (settings : Settings) (bundle : Bundle) : Except Error String := do
  let functions ← bundle.circuits.mapM emitCircuit
  return header bundle
    ++ inputRecord bundle.inputs
    ++ (if settings.recordedInputs then recordedInputs bundle.inputs else "")
    ++ helpers
    ++ String.join (functions.map ("\n" ++ ·))
    ++ entryFunction settings.entryPoint bundle

end Metamorph.Guest
