import Metamorph.Decimal.Shortest
import Metamorph.Expr.Operator
import Metamorph.Machine.Refusal

/-! # Errors

Everything that can go wrong, by cause. The text of an error is made from its cause in one
place. -/

namespace Metamorph

/-- Which operand of an operator. -/
inductive Place where
  | operand
  | lhs
  | rhs
  deriving DecidableEq, Repr

/-- How messages call an operand. -/
def Place.label : Place → String
  | .operand => "operand"
  | .lhs => "lhs"
  | .rhs => "rhs"

/-- How a tree or a circuit breaks the rules of kinds. -/
inductive KindFault where
  /-- A truth value that is neither 0 nor 1. -/
  | constant (value : UInt32)
  /-- An operand of the wrong kind. -/
  | operand (op : Operator) (place : Place) (found wanted : Kind)
  /-- A node that declares another kind than its operator gives. -/
  | node (op : Operator) (declared wanted : Kind)
  /-- Two inputs of one name. -/
  | repeatedInput (name : String)
  /-- A truth value as input that is neither 0 nor 1. -/
  | inputValue (name : String) (value : UInt32)
  /-- A circuit that declares another kind of output than its tree has. -/
  | output (circuit : String) (declared computed : Kind)
  /-- A variable used as another kind than its input has. -/
  | variable (name : String) (used declared : Kind)
  deriving DecidableEq, Repr

/-- The text of a fault of kinds. -/
def KindFault.message : KindFault → String
  | .constant value => s!"boolean constant {value}"
  | .operand op place found wanted =>
    s!"{op.label} {place.label} is {found.name}, expected {wanted.name}"
  | .node op declared wanted =>
    s!"{op.label} node declared {declared.name}, signature gives {wanted.name}"
  | .repeatedInput name => s!"input '{name}' declared twice"
  | .inputValue name value => s!"boolean input '{name}' assigned {value}"
  | .output circuit declared computed =>
    s!"circuit '{circuit}' declares {declared.name} output but computes {computed.name}"
  | .variable name used declared =>
    s!"variable '{name}' used as {used.name} but declared {declared.name}"

/-- How bounds can be invalid. -/
inductive BoundsFault where
  /-- The lower end lies above the upper end; the ends are given by their texts. -/
  | inverted (what low high : String)
  | noCircuits
  | noAttempts
  deriving DecidableEq, Repr

/-- The text of a fault of bounds. -/
def BoundsFault.message : BoundsFault → String
  | .inverted what low high => s!"{what}: min {low} exceeds max {high}"
  | .noCircuits => "batch size must be at least 1"
  | .noAttempts => "max_rule_attempts must be at least 1"

/-- What is empty and must not be. -/
inductive Emptiness where
  | options
  | items
  | labels
  | rules
  | bundle
  deriving DecidableEq, Repr

/-- The text that says what is empty. -/
def Emptiness.message : Emptiness → String
  | .options => "weighted_select called with no options"
  | .items => "choose_weighted called with no options"
  | .labels => "no enabled labels"
  | .rules => "rewrite rule set"
  | .bundle => "bundle without circuits"

/-- How weights can be invalid. -/
inductive WeightFault where
  /-- A weight that is not at least zero. -/
  | negative
  /-- All weights are zero. -/
  | allZero
  /-- A rule whose weight is not a finite number above zero. -/
  | rule (name : String) (weight : Float)

/-- The text of a fault of weights. -/
def WeightFault.message : WeightFault → String
  | .negative => "A weight is invalid in distribution"
  | .allZero => "All weights are zero in distribution"
  | .rule name weight => s!"rule '{name}' has weight {Decimal.plain weight}"

/-- How work on a repository can fail. -/
inductive RepositoryFault where
  /-- A revision that would be read as an option. -/
  | revision (name : String)
  /-- A program that cannot be started. -/
  | unstartable (program : String) (why : Refusal)
  /-- A program that ended in failure. -/
  | failed (program : String) (arguments : List String) (status : String) (log : String)
  /-- Any other failure, by its text. -/
  | other (message : String)
  deriving DecidableEq, Repr

/-- The text of a fault of a repository. -/
def RepositoryFault.message : RepositoryFault → String
  | .revision name => s!"invalid revision '{name}'"
  | .unstartable program why => s!"failed to spawn {program}: {why.message}"
  | .failed program arguments status log =>
    program ++ " " ++ " ".intercalate arguments ++ " failed (" ++ status ++ "): " ++ log
  | .other message => message

/-- How settings can be wrong. -/
inductive SettingFault where
  | unknownLabel (name : String)
  | emptyCommand
  deriving DecidableEq, Repr

/-- The text of a fault of settings. -/
def SettingFault.message : SettingFault → String
  | .unknownLabel name => s!"unknown label '{name}'"
  | .emptyCommand => "empty command line"

/-- What can go wrong. -/
inductive Error where
  | io (why : Refusal)
  /-- The files of a campaign cannot be written. -/
  | output (why : Refusal)
  /-- Bytes that are no bundle. -/
  | unreadable
  | invalidBounds (fault : BoundsFault)
  | emptyInput (what : Emptiness)
  /-- An option without a weight, given by its quoted text. -/
  | missingWeight (option : String)
  | invalidWeight (fault : WeightFault)
  /-- Weights that add up to no finite number: a draw among them stops everything. -/
  | unboundedWeight
  /-- A range without any number: a draw from it stops everything. -/
  | emptyRange
  | illKinded (fault : KindFault)
  | unboundVariable (name : String)
  | unsupportedRevision (target revision : String)
  | repository (fault : RepositoryFault)
  | config (fault : SettingFault)

namespace Error

/-- The text of an error. -/
def message : Error → String
  | .io why => "IO error: " ++ why.message
  | .output why => "cannot write the campaign: " ++ why.message
  | .unreadable => "Serialization error: malformed bundle"
  | .invalidBounds fault => "Invalid bounds: " ++ fault.message
  | .emptyInput what => "Empty input: " ++ what.message
  | .missingWeight option => "Missing weight for option: " ++ option
  | .invalidWeight fault => "Invalid weight: " ++ fault.message
  | .unboundedWeight => "total weight is not finite"
  | .emptyRange => "draw from an empty range"
  | .illKinded fault => "Ill-kinded expression: " ++ fault.message
  | .unboundVariable name => "Unbound variable: " ++ name
  | .unsupportedRevision target revision =>
    s!"Unsupported revision '{revision}' for target {target}"
  | .repository fault => "Repository error: " ++ fault.message
  | .config fault => "Configuration error: " ++ fault.message

end Error

end Metamorph
