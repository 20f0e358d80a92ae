import Metamorph.Random.Choice
import Metamorph.Text.Basic

/-! # Vocabularies

A vocabulary is a closed set of labels in a canonical order. Labels carry no behaviour: they
name what a patch or a guest should exercise, and are picked at random among those that
settings enable. -/

namespace Metamorph

/-- Labels in their canonical order, with distinct names. -/
structure Vocabulary (α : Type) where
  labels : List α
  name : α → String
  nodup_names : (labels.map name).Nodup

namespace Vocabulary

variable {α : Type}

/-- The names in canonical order. -/
def names (vocabulary : Vocabulary α) : List String :=
  vocabulary.labels.map vocabulary.name

/-- The label of a name. -/
def find? (vocabulary : Vocabulary α) (name : String) : Option α :=
  vocabulary.labels.find? fun label => vocabulary.name label == name

/-- The label that a setting names; blanks around the name do not count. -/
def lookup (vocabulary : Vocabulary α) (setting : String) : Except Error α :=
  match vocabulary.find? (String.ofList (Text.trim setting.toList)) with
  | some label => .ok label
  | none => .error (.config (.unknownLabel setting))

/-- The labels that settings name, in canonical order and without repetition. The first
setting that names no label is refused. -/
def parse [DecidableEq α] (vocabulary : Vocabulary α) (settings : List String) :
    Except Error (List α) := do
  let wanted ← settings.mapM vocabulary.lookup
  return vocabulary.labels.filter fun label => wanted.contains label

end Vocabulary

/-- How many times likelier a preferred label is than another one. -/
def preferredWeight : Nat := 4

/-- Pick one of the enabled labels: every one is equally likely if nothing is preferred. A
preferred label that is not enabled is never picked. -/
def selectLabel {ρ α : Type} [RandomSource ρ] [DecidableEq α] (enabled preferred : List α) :
    Draw ρ α :=
  match enabled with
  | [] => throw (.emptyInput .labels)
  | first :: rest =>
    if preferred.isEmpty then
      monadLift (drawItem first rest : StateM ρ α)
    else
      let weight (label : α) : Float :=
        if preferred.contains label then preferredWeight.toFloat else 1.0
      chooseWeighted weight (first :: rest)

end Metamorph
