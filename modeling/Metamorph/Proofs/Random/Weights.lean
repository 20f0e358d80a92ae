import Metamorph.Generate.Variant
import Metamorph.Proofs.Binary64.Measure
import Metamorph.Proofs.Random.Choice

/-! # Choices that never fail

A choice by weights fails only when the weights are refused. Positive weights of finite sum
are never refused, and neither are those of any part of them that is not empty; nor are the
weights that steps are counted by. -/

namespace Metamorph

open Binary64

variable {ρ α : Type} [RandomSource ρ]

theorem usableWeight_iff {weight : Float} :
    usableWeight weight = true ↔ weight.isFinite = true ∧ (0.0 : Float) < weight := by
  simp [usableWeight]

/-- The sum of positive weights, of which there is one at least, is positive. -/
theorem totalWeight_pos {weights : List Float} (nonempty : weights ≠ [])
    (positive : ∀ w ∈ weights, (0.0 : Float) < w) : (0.0 : Float) < totalWeight weights := by
  obtain ⟨first, rest, rfl⟩ := List.exists_cons_of_ne_nil nonempty
  have nonneg := fun w member => zero_le_of_zero_lt (positive w member)
  have zero := hasUnits_zero.le_iff hasUnits_zero |>.mpr le_rfl
  have within : [first].Sublist (first :: rest) := List.singleton_sublist.mpr (by simp)
  have sum := sublist_sum_below within nonneg (below_refl zero)
  have term := below_add_left zero (nonneg first (by simp))
  exact (term.trans sum).zero_lt (positive first (by simp))

/-- Positive weights of finite sum are accepted. -/
theorem checkWeights_of_pos {weights : List Float} (nonempty : weights ≠ [])
    (positive : ∀ w ∈ weights, (0.0 : Float) < w)
    (finite : (totalWeight weights).isFinite = true) : checkWeights weights = .ok () := by
  have total := totalWeight_pos nonempty positive
  obtain ⟨u, hu⟩ := zero_le_iff.mp (zero_le_of_zero_lt total)
  have nonzero : ¬ (totalWeight weights == 0.0) = true := by
    rw [hu.beq_zero_iff]
    exact ((hasUnits_zero.lt_iff hu).mp total).ne'
  have nonneg : ¬ (weights.any fun w => !decide (w ≥ 0.0)) = true := by
    simpa using fun w member => zero_le_of_zero_lt (positive w member)
  rw [checkWeights, if_neg nonneg, if_neg nonzero, if_neg (by simp [finite])]

/-- With accepted weights a choice is made. -/
theorem chooseAmong_total {first : α} {items : List (α × Float)}
    (accepted : checkWeights (items.map (·.2)) = .ok ()) :
    Meets (fun _ => False) (chooseAmong first items : Draw ρ α) fun _ => True := by
  have checked : Contract (fun _ => False) (fun _ => True) (checkWeights (items.map (·.2))) := by
    rw [accepted]
    trivial
  refine Meets.bind (Meets.check checked) fun _ _ => ?_
  exact Meets.bind (Meets.lift (Always.drawn _)) fun _ _ => Meets.pure trivial

/-- Among items of usable weights with a finite sum, a choice from some of them is made. -/
theorem chooseWeighted_total {weight : α → Float} {items candidates : List α}
    (usable : ∀ a ∈ items, usableWeight (weight a) = true)
    (finite : (totalWeight (items.map weight)).isFinite = true)
    (within : candidates.Sublist items) (nonempty : candidates ≠ []) :
    Meets (fun _ => False) (chooseWeighted weight candidates : Draw ρ α) fun _ => True := by
  have positive : ∀ w ∈ items.map weight, (0.0 : Float) < w := by
    intro w member
    obtain ⟨a, listed, rfl⟩ := List.mem_map.mp member
    exact (usableWeight_iff.mp (usable a listed)).2
  have zero := hasUnits_zero.le_iff hasUnits_zero |>.mpr le_rfl
  have smaller := sublist_sum_below (within.map weight)
    (fun w member => zero_le_of_zero_lt (positive w member)) (below_refl zero)
  have accepted : checkWeights (candidates.map weight) = .ok () :=
    checkWeights_of_pos (by simpa using nonempty)
      (fun w member => positive w ((within.map weight).subset member)) (smaller.isFinite finite)
  obtain ⟨first, rest, rfl⟩ := List.exists_cons_of_ne_nil nonempty
  exact chooseAmong_total (by simpa [Function.comp_def] using accepted)

theorem weightsOf_some {shown : α → String} {weight : α → Float} {options : List α} :
    weightsOf shown (fun a => some (weight a)) options =
      .ok (options.map fun a => (a, weight a)) := by
  induction options with
  | nil => rfl
  | cons a rest ih => simp [weightsOf, ih, Except.map]

/-- Among options that all have a weight, a choice by accepted weights is made. -/
theorem weightedSelect_total {shown : α → String} {weight : α → Float} {options : List α}
    (nonempty : options ≠ []) (accepted : checkWeights (options.map weight) = .ok ()) :
    Meets (fun _ => False)
      (weightedSelect shown (fun a => some (weight a)) options : Draw ρ α) fun _ => True := by
  obtain ⟨first, rest, rfl⟩ := List.exists_cons_of_ne_nil nonempty
  rw [weightedSelect, weightsOf_some]
  refine Meets.bind (Meets.check (show Contract _ (fun items => checkWeights (items.map (·.2)) =
    .ok ()) (.ok _) from ?_)) fun items usable => chooseAmong_total usable
  simpa [Contract, Function.comp_def] using accepted

namespace StepDistribution

/-- The weight of a count of steps, by its distance to the nearer end. -/
def stepWeight (budget steps : Nat) : Float :=
  1.0 + (min steps (budget - steps)).toFloat

/-- No weight of a count exceeds that of the middle of the largest budget. -/
theorem stepWeight_below {budget : Nat} (bound : budget < 2 ^ 64) (steps : Nat) :
    Below (stepWeight budget steps) (1.0 + (2 ^ 64 : Nat).toFloat) :=
  (below_refl (zero_le_iff.mpr ⟨_, hasUnits_one⟩)).add (toFloat_below (by omega))

theorem stepWeight_pos (budget steps : Nat) : (0.0 : Float) < stepWeight budget steps := by
  have one : (0.0 : Float) < 1.0 := by decide +kernel
  exact (below_add_right (zero_le_of_zero_lt one) (toFloat_nonneg _)).zero_lt one

/-- However many weights are added up, their sum is finite: from some sum on they are too small
to make a difference. -/
theorem totalWeight_isFinite {budget : Nat} (bound : budget < 2 ^ 64) (counts : List Nat) :
    (totalWeight (counts.map (stepWeight budget))).isFinite = true := by
  have absorbs : (2 ^ 127 : Nat).toFloat + (1.0 + (2 ^ 64 : Nat).toFloat) =
      (2 ^ 127 : Nat).toFloat := by decide +kernel
  have small : ∀ w ∈ counts.map (stepWeight budget),
      Below w (1.0 + (2 ^ 64 : Nat).toFloat) := by
    intro w member
    obtain ⟨steps, -, rfl⟩ := List.mem_map.mp member
    exact stepWeight_below bound steps
  have start : Below 0.0 (2 ^ 127 : Nat).toFloat := zero_below (toFloat_nonneg _)
  exact (sum_below_of_absorbs absorbs small start).isFinite (by decide +kernel)

/-- A number of steps is drawn, whatever the budget of 64 bits is. -/
theorem drawSteps_total {budget : Nat} (bound : budget < 2 ^ 64)
    (distribution : StepDistribution) :
    Meets (fun _ => False) (distribution.drawSteps budget : Draw ρ Nat) fun _ => True := by
  cases distribution with
  | uniform =>
      exact Meets.bind (Meets.lift (Always.drawn _)) fun steps _ => Meets.pure (a := steps) trivial
  | triangular =>
      have accepted : checkWeights ((List.range (budget + 1)).map (stepWeight budget)) = .ok () := by
        refine checkWeights_of_pos (by simp) ?_ (totalWeight_isFinite bound _)
        intro w member
        obtain ⟨steps, -, rfl⟩ := List.mem_map.mp member
        exact stepWeight_pos budget steps
      exact weightedSelect_total (by simp) accepted

end StepDistribution

end Metamorph
