import Metamorph.Proofs.Random.Weights
import Metamorph.Proofs.Random.ChaCha

/-! # What becomes of a choice by weights

A choice among options looks for their weights first, then at the weights one by one, then at their
sum, and draws only when nothing is wrong with any of them. A sum that is not finite is no refusal: the
draw itself breaks down on it. The point that is drawn lies below the sum, and the option at which the
running sum passes it has made the running sum larger, so that its weight is not zero. -/

namespace Metamorph

open Binary64

variable {ρ α : Type} {shown : α → String} {weightOf : α → Option Float} {options : List α}

/-- A weight that is below zero or no number. -/
def IsImproper (weight : Float) : Prop :=
  weight < 0.0 ∨ weight.isNaN = true

/-- The first option that a table of weights does not have. -/
def firstMissing? (weightOf : α → Option Float) (options : List α) : Option α :=
  options.find? fun a => (weightOf a).isNone

/-- Options of which there is one at least, and that all have a weight. -/
structure IsWeighed (weightOf : α → Option Float) (options : List α) : Prop where
  nonempty : options ≠ []
  complete : firstMissing? weightOf options = none

/-! ## Weights -/

theorem not_zero_le_iff {weight : Float} : ¬ (0.0 : Float) ≤ weight ↔ IsImproper weight := by
  rw [IsImproper, Float.isNaN, Float.Model.isNaN, le_iff_unpack, lt_iff_unpack, zero_eq,
    unpack_pack_zero]
  cases weight.toModel.unpack with
  | notANumber => decide
  | zero sign => cases sign <;> decide
  | infinity sign => cases sign <;> decide
  | finite sign mantissa exponent positive =>
      cases sign <;>
        simp [Float.Model.UnpackedFloat.le, Float.Model.UnpackedFloat.lt,
          Float.Model.UnpackedFloat.compare, Float.Model.UnpackedFloat.isNaN]

/-- What is wrong with weights, if anything is. -/
inductive Weighing (weights : List Float) : Except Error Unit → Prop where
  | negative (improper : ∃ w ∈ weights, IsImproper w) :
      Weighing weights (.error (.invalidWeight .negative))
  | allZero (proper : ∀ w ∈ weights, ¬ IsImproper w) (zero : (totalWeight weights == 0.0) = true) :
      Weighing weights (.error (.invalidWeight .allZero))
  | unbounded (proper : ∀ w ∈ weights, ¬ IsImproper w)
      (nonzero : ¬ (totalWeight weights == 0.0) = true)
      (infinite : (totalWeight weights).isFinite = false) :
      Weighing weights (.error .unboundedWeight)
  | accepted (proper : ∀ w ∈ weights, ¬ IsImproper w) (nonzero : ¬ (totalWeight weights == 0.0) = true)
      (finite : (totalWeight weights).isFinite = true) : Weighing weights (.ok ())

theorem weighing_checkWeights (weights : List Float) : Weighing weights (checkWeights weights) := by
  have improper : (weights.any fun w => !decide (w ≥ 0.0)) = true ↔ ∃ w ∈ weights, IsImproper w := by
    simp only [List.any_eq_true, Bool.not_eq_true', decide_eq_false_iff_not, ge_iff_le,
      not_zero_le_iff]
  unfold checkWeights
  split
  · rename_i some_improper
    exact .negative (improper.mp some_improper)
  · rename_i all_proper
    have proper : ∀ w ∈ weights, ¬ IsImproper w := fun w member fault =>
      all_proper (improper.mpr ⟨w, member, fault⟩)
    split
    · rename_i zero
      exact .allZero proper zero
    · rename_i nonzero
      split
      · rename_i infinite
        exact .unbounded proper nonzero (by simpa using infinite)
      · rename_i finite
        exact .accepted proper nonzero (by simpa using finite)

theorem exists_units_totalWeight {weights : List Float} (proper : ∀ w ∈ weights, ¬ IsImproper w) :
    ∃ u, HasUnits (totalWeight weights) u := by
  have nonneg : ∀ w ∈ weights, (0.0 : Float) ≤ w := fun w member =>
    not_not.mp (mt not_zero_le_iff.mp (proper w member))
  have zero := hasUnits_zero.le_iff hasUnits_zero |>.mpr le_rfl
  have sum := sublist_sum_below (List.nil_sublist weights) nonneg (below_refl zero)
  exact (@zero_le_iff (totalWeight weights)).mp sum.right_nonneg

/-- A sum of proper weights that is not zero is positive. -/
theorem totalWeight_pos_of_nonzero {weights : List Float} (proper : ∀ w ∈ weights, ¬ IsImproper w)
    (nonzero : ¬ (totalWeight weights == 0.0) = true) : (0.0 : Float) < totalWeight weights := by
  obtain ⟨u, hu⟩ := exists_units_totalWeight proper
  rw [hu.beq_zero_iff] at nonzero
  exact (hasUnits_zero.lt_iff hu).mpr (pos_of_ne_zero nonzero)

/-- A sum of proper weights that is zero is finite. -/
theorem isFinite_of_beq_zero {weights : List Float} (proper : ∀ w ∈ weights, ¬ IsImproper w)
    (zero : (totalWeight weights == 0.0) = true) : (totalWeight weights).isFinite = true := by
  obtain ⟨u, hu⟩ := exists_units_totalWeight proper
  rw [hu.isFinite_iff, hu.beq_zero_iff.mp zero]
  exact ENat.zero_ne_top

/-! ## The option at a point -/

/-- Where the running sum has not passed a point yet and passes it in the end, it does so at an item
of positive weight. -/
theorem itemAt_positive {point sum : Float} {last : α} {items : List (α × Float)}
    (nonneg : ∀ item ∈ items, (0.0 : Float) ≤ item.2) (start : Below sum point)
    (passed : point < (items.map (·.2)).foldl (· + ·) sum) :
    ∃ item ∈ items, itemAt point sum last items = item.1 ∧ (0.0 : Float) < item.2 := by
  obtain ⟨u, v, hu, hv, ordered⟩ := start
  induction items generalizing sum u last with
  | nil => exact absurd ((hv.lt_iff hu).mp passed) ordered.not_gt
  | cons item items ih =>
      obtain ⟨a, weight⟩ := item
      obtain ⟨first, others⟩ := List.forall_mem_cons.mp nonneg
      obtain ⟨w, hw⟩ := zero_le_iff.mp first
      have added := hu.add hw
      rw [itemAt]
      split
      · rename_i here
        refine ⟨(a, weight), List.mem_cons_self, rfl, (hasUnits_zero.lt_iff hw).mpr ?_⟩
        -- a weight of zero would have left the sum where it was
        rw [pos_iff_ne_zero]
        rintro rfl
        rw [add_zero, hu.roundUnits_eq] at added
        exact absurd ((hv.lt_iff added).mp here) ordered.not_gt
      · rename_i further
        have later := not_lt.mp (mt (hv.lt_iff added).mpr further)
        obtain ⟨item, member, found, positive⟩ := ih others passed _ added later
        exact ⟨item, List.mem_cons_of_mem _ member, found, positive⟩

/-! ## Choosing -/

theorem run_chooseAmong_of_error [RandomSource ρ] {first : α} {items : List (α × Float)} {e : Error}
    (refused : checkWeights (items.map (·.2)) = .error e) (s : ρ) :
    (chooseAmong first items : Draw ρ α).run s = (.error e, s) := by
  apply Draw.run_bind_of_error
  rw [Draw.run_liftM, refused]

/-- From accepted weights one is drawn, and the chosen item has a positive weight. -/
theorem run_chooseAmong_of_ok [RandomSource ρ] [LawfulRandomSource ρ] {first : α}
    {items : List (α × Float)} (passes : checkWeights (items.map (·.2)) = .ok ()) (s : ρ) :
    ∃ item ∈ items, (0.0 : Float) < item.2 ∧
      ∃ last, (chooseAmong first items : Draw ρ α).run s = (.ok item.1, last) := by
  have weighing := weighing_checkWeights (items.map (·.2))
  rw [passes] at weighing
  obtain _ | _ | _ | ⟨proper, nonzero, finite⟩ := weighing
  have zero : (0.0 : Float) = 0 := by decide +kernel
  obtain ⟨least, most⟩ := LawfulRandomSource.below_mem s
    (zero ▸ totalWeight_pos_of_nonzero proper nonzero) finite
  rw [← zero] at least
  have nonneg : ∀ item ∈ items, (0.0 : Float) ≤ item.2 := fun item member =>
    not_not.mp (mt not_zero_le_iff.mp (proper _ (List.mem_map_of_mem member)))
  obtain ⟨item, member, found, positive⟩ := @itemAt_positive _ _ _ first items nonneg
    (zero_below least) most
  refine ⟨item, member, positive, (RandomSource.below (totalWeight (items.map (·.2))) s).2, ?_⟩
  rw [← found]
  apply Draw.run_bind_of_ok
  rw [Draw.run_liftM, passes]

/-! ## The weights of options -/

/-- The options that have a weight, with it. -/
def weighted (weightOf : α → Option Float) (options : List α) : List (α × Float) :=
  options.filterMap fun a => (weightOf a).map (a, ·)

theorem map_weighted (weightOf : α → Option Float) (options : List α) :
    (weighted weightOf options).map (·.2) = options.filterMap weightOf := by
  simp [weighted, List.map_filterMap, Function.comp_def]

theorem of_mem_weighted {item : α × Float} (member : item ∈ weighted weightOf options) :
    item.1 ∈ options ∧ weightOf item.1 = some item.2 := by
  obtain ⟨a, listed, same⟩ := List.mem_filterMap.mp member
  obtain ⟨w, weighed, rfl⟩ := Option.map_eq_some_iff.mp same
  exact ⟨listed, weighed⟩

theorem weightsOf_of_missing {a : α} (missing : firstMissing? weightOf options = some a) :
    weightsOf shown weightOf options = .error (.missingWeight (shown a)) := by
  induction options with
  | nil => cases missing
  | cons b rest ih =>
      rw [firstMissing?, List.find?_cons] at missing
      cases weighed : weightOf b with
      | none =>
          obtain rfl : b = a := by simpa [weighed] using missing
          simp [weightsOf, weighed]
      | some w =>
          have later := ih (by simpa [firstMissing?, weighed] using missing)
          simp [weightsOf, weighed, later, Except.map]

theorem weightsOf_of_complete (complete : firstMissing? weightOf options = none) :
    weightsOf shown weightOf options = .ok (weighted weightOf options) := by
  induction options with
  | nil => rfl
  | cons b rest ih =>
      rw [firstMissing?, List.find?_cons] at complete
      cases weighed : weightOf b with
      | none => simp [weighed] at complete
      | some w =>
          have later := ih (by simpa [firstMissing?, weighed] using complete)
          simp [weightsOf, weighed, later, Except.map, weighted]

/-! ## The outcome -/

/-- The outcome of a choice among options, given the state that it starts and ends in. -/
inductive Chosen (shown : α → String) (weightOf : α → Option Float) (options : List α) (s : ρ) :
    Except Error α × ρ → Prop where
  | empty (none : options = []) : Chosen shown weightOf options s (.error (.emptyInput .options), s)
  | missing {a} (filled : options ≠ []) (first : firstMissing? weightOf options = some a) :
      Chosen shown weightOf options s (.error (.missingWeight (shown a)), s)
  | refused {e} (weighed : IsWeighed weightOf options)
      (weighing : Weighing (options.filterMap weightOf) (.error e)) :
      Chosen shown weightOf options s (.error e, s)
  | drawn {a w last} (weighed : IsWeighed weightOf options)
      (weighing : Weighing (options.filterMap weightOf) (.ok ())) (member : a ∈ options)
      (weight : weightOf a = some w) (positive : (0.0 : Float) < w) :
      Chosen shown weightOf options s (.ok a, last)

theorem chosen_weightedSelect [RandomSource ρ] [LawfulRandomSource ρ] (shown : α → String)
    (weightOf : α → Option Float) (options : List α) (s : ρ) :
    Chosen shown weightOf options s ((weightedSelect shown weightOf options : Draw ρ α).run s) := by
  cases options with
  | nil => exact .empty rfl
  | cons first rest =>
      cases complete : firstMissing? weightOf (first :: rest) with
      | some a =>
          rw [weightedSelect, Draw.run_bind, Draw.run_liftM, weightsOf_of_missing complete]
          exact .missing (by simp) complete
      | none =>
          have weighing := weighing_checkWeights ((weighted weightOf (first :: rest)).map (·.2))
          rw [weightedSelect, Draw.run_bind, Draw.run_liftM, weightsOf_of_complete complete]
          dsimp only
          cases outcome : checkWeights ((weighted weightOf (first :: rest)).map (·.2)) with
          | error e =>
              rw [run_chooseAmong_of_error outcome]
              rw [outcome, map_weighted] at weighing
              exact .refused ⟨by simp, complete⟩ weighing
          | ok _ =>
              obtain ⟨item, member, positive, last, made⟩ := run_chooseAmong_of_ok outcome s
              obtain ⟨listed, weight⟩ := of_mem_weighted member
              rw [made]
              rw [outcome, map_weighted] at weighing
              exact .drawn ⟨by simp, complete⟩ weighing listed weight positive

namespace Chosen

variable {s last : ρ} {outcome : Except Error α}

theorem empty_iff (h : Chosen shown weightOf options s (outcome, last)) :
    outcome = .error (.emptyInput .options) ↔ options = [] := by
  constructor
  · rintro rfl
    cases h with
    | empty none => exact none
    | refused _ weighing => cases weighing
  · rintro rfl
    cases h with
    | empty => rfl
    | missing filled => exact absurd rfl filled
    | refused weighed => exact absurd rfl weighed.nonempty
    | drawn weighed => exact absurd rfl weighed.nonempty

theorem missing_iff (h : Chosen shown weightOf options s (outcome, last)) (text : String) :
    outcome = .error (.missingWeight text) ↔
      ∃ a, firstMissing? weightOf options = some a ∧ text = shown a := by
  constructor
  · rintro rfl
    cases h with
    | missing _ first => exact ⟨_, first, rfl⟩
    | refused _ weighing => cases weighing
  · rintro ⟨a, first, rfl⟩
    cases h with
    | empty none =>
        subst none
        cases first
    | missing _ other =>
        rw [first, Option.some.injEq] at other
        rw [other]
    | refused weighed => simp [weighed.complete] at first
    | drawn weighed => simp [weighed.complete] at first

/-- Options with weights are looked at for their weights alone. -/
theorem weighing (h : Chosen shown weightOf options s (outcome, last))
    (weighed : IsWeighed weightOf options) :
    Weighing (options.filterMap weightOf) (outcome.map fun _ => ()) := by
  cases h with
  | empty none => exact absurd none weighed.nonempty
  | missing _ first => simp [weighed.complete] at first
  | refused _ weighing => exact weighing
  | drawn _ weighing => exact weighing

theorem invalid_iff (h : Chosen shown weightOf options s (outcome, last)) :
    (∃ fault, outcome = .error (.invalidWeight fault)) ↔ IsWeighed weightOf options ∧
      ((∃ w ∈ options.filterMap weightOf, IsImproper w) ∨
        (totalWeight (options.filterMap weightOf) == 0.0) = true) := by
  constructor
  · rintro ⟨fault, rfl⟩
    cases h with
    | refused weighed weighing =>
        cases weighing with
        | negative improper => exact ⟨weighed, .inl improper⟩
        | allZero _ zero => exact ⟨weighed, .inr zero⟩
  · rintro ⟨weighed, wrong⟩
    have improper (proper : ∀ w ∈ options.filterMap weightOf, ¬ IsImproper w) :
        (totalWeight (options.filterMap weightOf) == 0.0) = true :=
      wrong.resolve_left fun ⟨w, member, improper⟩ => proper w member improper
    cases outcome with
    | ok a =>
        cases h.weighing weighed with
        | accepted proper nonzero => exact absurd (improper proper) nonzero
    | error e =>
        cases h.weighing weighed with
        | negative => exact ⟨_, rfl⟩
        | allZero => exact ⟨_, rfl⟩
        | unbounded proper nonzero => exact absurd (improper proper) nonzero

theorem unbounded_iff (h : Chosen shown weightOf options s (outcome, last)) :
    outcome = .error .unboundedWeight ↔ IsWeighed weightOf options ∧
      (∀ w ∈ options.filterMap weightOf, ¬ IsImproper w) ∧
        (totalWeight (options.filterMap weightOf)).isFinite = false := by
  constructor
  · rintro rfl
    cases h with
    | refused weighed weighing =>
        cases weighing with
        | unbounded proper _ infinite => exact ⟨weighed, proper, infinite⟩
  · rintro ⟨weighed, proper, infinite⟩
    cases outcome with
    | ok a =>
        cases h.weighing weighed with
        | accepted _ _ finite => simp [infinite] at finite
    | error e =>
        cases h.weighing weighed with
        | negative improper =>
            obtain ⟨w, member, improper⟩ := improper
            exact absurd improper (proper w member)
        | allZero _ zero => simp [isFinite_of_beq_zero proper zero] at infinite
        | unbounded => rfl

theorem ok_iff (h : Chosen shown weightOf options s (outcome, last)) :
    (∃ a, outcome = .ok a) ↔ IsWeighed weightOf options ∧
      (∀ w ∈ options.filterMap weightOf, ¬ IsImproper w) ∧
        ¬ (totalWeight (options.filterMap weightOf) == 0.0) = true ∧
          (totalWeight (options.filterMap weightOf)).isFinite = true := by
  constructor
  · rintro ⟨a, rfl⟩
    cases h with
    | drawn weighed weighing =>
        cases weighing with
        | accepted proper nonzero finite => exact ⟨weighed, proper, nonzero, finite⟩
  · rintro ⟨weighed, proper, nonzero, finite⟩
    cases outcome with
    | ok a => exact ⟨a, rfl⟩
    | error e =>
        cases h.weighing weighed with
        | negative improper =>
            obtain ⟨w, member, improper⟩ := improper
            exact absurd improper (proper w member)
        | allZero _ zero => exact absurd zero nonzero
        | unbounded _ _ infinite => simp [infinite] at finite

end Chosen

/-- What becomes of a choice among options by the table of their weights: the errors in the order in
which they count, the draw that breaks down, and the option that is chosen. -/
structure Selects (shown : α → String) (weightOf : α → Option Float) (options : List α)
    (outcome : Except Error α) : Prop where
  empty : outcome = .error (.emptyInput .options) ↔ options = []
  missing : ∀ text, outcome = .error (.missingWeight text) ↔
    ∃ a, firstMissing? weightOf options = some a ∧ text = shown a
  invalid : (∃ fault, outcome = .error (.invalidWeight fault)) ↔ IsWeighed weightOf options ∧
    ((∃ w ∈ options.filterMap weightOf, IsImproper w) ∨
      (totalWeight (options.filterMap weightOf) == 0.0) = true)
  unbounded : outcome = .error .unboundedWeight ↔ IsWeighed weightOf options ∧
    (∀ w ∈ options.filterMap weightOf, ¬ IsImproper w) ∧
      (totalWeight (options.filterMap weightOf)).isFinite = false
  chosen : (∃ a, outcome = .ok a) ↔ IsWeighed weightOf options ∧
    (∀ w ∈ options.filterMap weightOf, ¬ IsImproper w) ∧
      ¬ (totalWeight (options.filterMap weightOf) == 0.0) = true ∧
        (totalWeight (options.filterMap weightOf)).isFinite = true
  positive : ∀ a, outcome = .ok a → a ∈ options ∧ ∃ w, weightOf a = some w ∧ (0.0 : Float) < w

/-- A choice among options by a table of weights ends in one of the ways that are listed, and unless an
option is chosen nothing is drawn. -/
theorem weightedSelect_selects [RandomSource ρ] [LawfulRandomSource ρ] (shown : α → String)
    (weightOf : α → Option Float) (options : List α) (s : ρ) :
    Selects shown weightOf options
      ((weightedSelect shown weightOf options : Draw ρ α).run s).1 ∧
    ∀ e, ((weightedSelect shown weightOf options : Draw ρ α).run s).1 = .error e →
      ((weightedSelect shown weightOf options : Draw ρ α).run s).2 = s := by
  have chosen := chosen_weightedSelect shown weightOf options s
  generalize (weightedSelect shown weightOf options : Draw ρ α).run s = result at chosen
  obtain ⟨outcome, last⟩ := result
  refine ⟨⟨chosen.empty_iff, chosen.missing_iff, chosen.invalid_iff, chosen.unbounded_iff,
    chosen.ok_iff, ?_⟩, ?_⟩
  · rintro a rfl
    cases chosen with
    | drawn _ _ member weight positive => exact ⟨member, _, weight, positive⟩
  · rintro e rfl
    cases chosen <;> rfl

/-- Between two listings of an option without weight, the other option is chosen. -/
theorem weightedSelect_selects_positive :
    ((weightedSelect Text.quoted (fun option => some (if option = "b" then 1.5 else 0.0))
      ["a", "b", "a"] : Draw ChaCha String).run (ChaCha.ofSeed 7)).1 = .ok "b" := by
  have selects := (weightedSelect_selects Text.quoted
    (fun option => some (if option = "b" then 1.5 else 0.0)) ["a", "b", "a"] (ChaCha.ofSeed 7)).1
  generalize ((weightedSelect Text.quoted (fun option => some (if option = "b" then 1.5 else 0.0))
    ["a", "b", "a"] : Draw ChaCha String).run (ChaCha.ofSeed 7)).1 = outcome at selects ⊢
  have weights : ["a", "b", "a"].filterMap
      (fun option => some (if option = "b" then (1.5 : Float) else 0.0)) = [0.0, 1.5, 0.0] := by
    simp
  have proper : ∀ w ∈ [(0.0 : Float), 1.5, 0.0], ¬ IsImproper w := by
    simp only [List.forall_mem_cons, IsImproper]
    decide +kernel
  obtain ⟨chosen, made⟩ := selects.chosen.mpr ⟨⟨by simp, rfl⟩, by rwa [weights],
    by rw [weights]; decide +kernel, by rw [weights]; decide +kernel⟩
  obtain ⟨-, w, weight, positive⟩ := selects.positive chosen made
  have isB : chosen = "b" := by
    by_contra other
    rw [if_neg other, Option.some.injEq] at weight
    rw [← weight] at positive
    exact absurd positive (by decide +kernel)
  rw [made, isB]

/-- A weight that is not finite is not refused: the draw breaks down on it. -/
theorem weightedSelect_infinite :
    ((1.0 / 0.0 : Float).isFinite = false) ∧
      ((weightedSelect Text.quoted (fun _ => some (1.0 / 0.0)) ["a"] : Draw ChaCha String).run
        (ChaCha.ofSeed 5)).1 = .error .unboundedWeight := by
  have refused : checkWeights [1.0 / 0.0] = .error .unboundedWeight := by
    rw [checkWeights, if_neg (by decide +kernel), if_neg (by decide +kernel),
      if_pos (by decide +kernel)]
  have brokenOff := @run_chooseAmong_of_error ChaCha String _ "a" [("a", 1.0 / 0.0)] _ refused
    (ChaCha.ofSeed 5)
  exact ⟨by decide +kernel, congrArg Prod.fst brokenOff⟩

end Metamorph
