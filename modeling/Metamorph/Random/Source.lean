import Metamorph.Bounds

/-! # Random sources

Every random decision is a draw from a source that the caller hands over and gets back. What
the library needs of a source are four draws; a lawful source keeps to the range that it was
asked for. -/

namespace Metamorph

/-- A state that random draws are made from. -/
class RandomSource (ρ : Type) where
  /-- A word between two words, both included. -/
  wordBetween (low high : UInt32) : StateM ρ UInt32
  /-- A count between two counts of 64 bits, both included. -/
  countBetween (low high : Nat) : StateM ρ Nat
  /-- A float from zero up to below one. -/
  unit : StateM ρ Float
  /-- A float from zero up to below a finite positive one. -/
  below (total : Float) : StateM ρ Float

/-- A source whose draws stay in their ranges. -/
class LawfulRandomSource (ρ : Type) [RandomSource ρ] : Prop where
  wordBetween_mem {low high : UInt32} (s : ρ) : low ≤ high →
    low ≤ (RandomSource.wordBetween low high s).1 ∧ (RandomSource.wordBetween low high s).1 ≤ high
  countBetween_mem {low high : Nat} (s : ρ) : low ≤ high →
    low ≤ (RandomSource.countBetween low high s).1
      ∧ (RandomSource.countBetween low high s).1 ≤ high
  below_mem {total : Float} (s : ρ) : 0 < total → total.isFinite →
    0 ≤ (RandomSource.below total s).1 ∧ (RandomSource.below total s).1 < total

/-- A draw that may fail; what was drawn before the failure stays drawn. -/
abbrev Draw (ρ : Type) (α : Type) : Type :=
  ExceptT Error (StateM ρ) α

/-- A word of a range. -/
def drawWord {ρ : Type} [RandomSource ρ] (bounds : Bounds UInt32) : StateM ρ UInt32 :=
  RandomSource.wordBetween bounds.min bounds.max

/-- One of the items of a list that is not empty. -/
def drawItem {ρ α : Type} [RandomSource ρ] (first : α) (rest : List α) : StateM ρ α := do
  let number ← RandomSource.countBetween 0 rest.length
  return (first :: rest).getD number first

end Metamorph
