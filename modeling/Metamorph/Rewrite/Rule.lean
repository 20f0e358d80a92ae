import Metamorph.Expr.Kinding
import Metamorph.Random.Choice

/-! # Rewrite rules

A rule says which trees it matches and what it puts in their place. It may draw on a random
source, and it may decline, for instance when a constant that it needs is out of range. A
rule set is a list of rules with usable weights. -/

namespace Metamorph

/-- Whether a rule keeps the value of a tree. -/
inductive Effect where
  | preserving
  /-- The value is changed on purpose, to see whether the change is noticed. -/
  | perturbing
  deriving DecidableEq, Repr

/-- The name of an effect. -/
def Effect.name : Effect → String
  | .preserving => "Preserving"
  | .perturbing => "Perturbing"

/-- A rewrite rule over random sources of one type. -/
structure Rule (ρ : Type) where
  name : String
  weight : Float
  effect : Effect
  /-- Whether building draws from the range of the caller, which then must not be empty. -/
  usesRange : Bool
  /-- The trees the rule is made for. -/
  matchesTree : Expr → Bool
  /-- What takes the place of a tree; new constants come from the given range. -/
  build : Bounds UInt32 → Expr → StateM ρ (Option Expr)

/-- Whether a weight can be used in a choice: finite and above zero. -/
def usableWeight (weight : Float) : Bool :=
  weight.isFinite && weight > 0.0

namespace Rule

variable {ρ : Type}

/-- A rule whose replacement depends on the tree alone. -/
def fixed (name : String) (weight : Float) (effect : Effect) (matchesTree : Expr → Bool)
    (build : Expr → Option Expr) : Rule ρ :=
  ⟨name, weight, effect, false, matchesTree, fun _ e => pure (build e)⟩

/-- A rule that needs a certain word to lie in the range. -/
def withLiteral (name : String) (weight : Float) (effect : Effect) (matchesTree : Expr → Bool)
    (word : UInt32) (build : Expr → Expr → Option Expr) : Rule ρ :=
  ⟨name, weight, effect, false, matchesTree, fun values e =>
    pure (if values.contains word then build (.field word) e else none)⟩

/-- A rule that uses a word drawn from the range. -/
def withWord [RandomSource ρ] (name : String) (weight : Float) (effect : Effect)
    (matchesTree : Expr → Bool) (build : UInt32 → Expr → Expr) : Rule ρ :=
  ⟨name, weight, effect, true, matchesTree, fun values e => do
    return some (build (← drawWord values) e)⟩

/-- Apply a rule to a tree that it matches. -/
def apply (rule : Rule ρ) (values : Bounds UInt32) (e : Expr) : Draw ρ (Option Expr) :=
  if !rule.matchesTree e then return none
  else if rule.usesRange && values.max < values.min then throw .emptyRange
  else do
    let replacement ← (rule.build values e : StateM ρ (Option Expr))
    return replacement

/-- The text that shows a rule to a reader. -/
def display (rule : Rule ρ) : String :=
  "RewriteRule \x7b name: " ++ Text.quoted rule.name ++ ", weight: "
    ++ Decimal.precise rule.weight ++ ", effect: " ++ rule.effect.name ++ " \x7d"

end Rule

/-- Rules that can be chosen from by their weights. -/
structure RuleSet (ρ : Type) where
  rules : List (Rule ρ)
  usable : (rules.all fun rule => usableWeight rule.weight) = true

namespace RuleSet

variable {ρ : Type}

/-- A rule set of given rules; a weight that is of no use is refused, the first one first. -/
def ofRules (rules : List (Rule ρ)) : Except Error (RuleSet ρ) :=
  if usable : (rules.all fun rule => usableWeight rule.weight) = true then
    .ok ⟨rules, usable⟩
  else
    match rules.find? fun rule => !usableWeight rule.weight with
    | some bad => .error (.invalidWeight (.rule bad.name bad.weight))
    | none => .error (.emptyInput .rules)

/-- The rules that match a tree. -/
def matching (set : RuleSet ρ) (e : Expr) : List (Rule ρ) :=
  set.rules.filter (·.matchesTree e)

/-- The first rule of a name. -/
def find? (set : RuleSet ρ) (name : String) : Option (Rule ρ) :=
  set.rules.find? (·.name == name)

/-- The names of the rules, in order. -/
def names (set : RuleSet ρ) : List String :=
  set.rules.map (·.name)

end RuleSet

end Metamorph
