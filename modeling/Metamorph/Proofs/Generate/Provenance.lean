import Metamorph.Generate.Generator
import Metamorph.Proofs.Circuit.WellFormed
import Metamorph.Proofs.Generate.Derivation
import Metamorph.Proofs.Random.ChaCha

/-! # Where the circuits of a bundle come from

A bundle is a drawn seed with variants, each of which records the derivation that led to it.
What the steps of generation may fail with is left open, so that one walk through them serves
both for what a bundle is made of and for when there is one. -/

namespace Metamorph

variable {ρ : Type} [RandomSource ρ]

/-- A circuit derived from a seed under a name of its own, in no more plans than some count of
steps; in the planned mode all of them are made for the seed. -/
structure Circuit.Descends (rules : RuleSet ρ) (values : Bounds UInt32) (iterative : Bool)
    (variant seed : Circuit) (number steps : Nat) (plans : List (Plan ρ)) : Prop where
  records : variant.Records rules values
    { seed with name := Generator.variantName number } plans
  short : plans.length ≤ steps
  planned : iterative = false → ∀ plan ∈ plans, seed.root.at? plan.path = some plan.target

/-- The steps of generation fail with allowed errors only, and the counts of rewrite steps that
it draws are as said. -/
structure Generator.Runs (allowed : Error → Prop) (counted : Nat → Prop)
    (generator : Generator ρ) (budgets : Budgets) : Prop where
  rules : generator.rules.Runs allowed budgets.values
  steps : Meets allowed
    (generator.shape.distribution.drawSteps budgets.rewrites : Draw ρ Nat) counted
  checked : Contract allowed (fun _ => True) (generator.checkBudgets budgets)
  seeds : Always (generator.shape.randomSeed budgets.values : StateM ρ Circuit)
    fun seed => Contract allowed (fun _ => True) seed.validate
  variants : ∀ (seed variant : Circuit) plans, seed.WellFormed →
    variant.Records generator.rules budgets.values seed plans →
    Contract allowed (fun _ => True) variant.validate

/-- The seed that a bundle begins with, and the variants after it. -/
structure Generator.Yields (counted : Nat → Prop) (generator : Generator ρ) (budgets : Budgets)
    (iterative : Bool) (bundle : Bundle) (seed : Circuit) (variants : List Circuit) : Prop where
  circuits : bundle.circuits = seed :: variants
  drawn : ∃ s : ρ, seed = ((generator.shape.randomSeed budgets.values).run s).1
  wellFormed : seed.WellFormed
  expected : seed.evaluate = .ok bundle.expected
  descend : List.Forall₂ (fun i variant => variant.WellFormed ∧ ∃ steps plans, counted steps ∧
    variant.Descends generator.rules budgets.values iterative seed (i + 1) steps plans)
    (List.range (budgets.batchSize - 1)) variants

namespace Generator

variable {generator : Generator ρ} {budgets : Budgets} {iterative : Bool}
  {allowed : Error → Prop} {counted : Nat → Prop}

/-- A check that passes or fails with an allowed error is passed wherever generation goes on. -/
theorem contract_validate {circuit : Circuit}
    (h : Contract allowed (fun _ => True) circuit.validate) :
    Contract allowed (fun _ => circuit.WellFormed) circuit.validate := by
  cases outcome : circuit.validate with
  | ok done => exact validate_eq_ok.mp outcome
  | error e =>
      rw [outcome] at h
      exact h

theorem randomVariant_meets (runs : generator.Runs allowed counted budgets) {seed : Circuit}
    (wellFormed : seed.WellFormed) (number : Nat) :
    Meets allowed (generator.randomVariant budgets iterative seed number) fun variant =>
      variant.WellFormed ∧ ∃ steps plans, counted steps ∧
        variant.Descends generator.rules budgets.values iterative seed number steps plans := by
  have renamed : Circuit.WellFormed { seed with name := variantName number } :=
    ⟨wellFormed.distinct, wellFormed.admitted, wellFormed.wellKinded, wellFormed.declared⟩
  refine Meets.bind runs.steps fun steps holds => ?_
  have finish : ∀ variant plans,
      variant.Descends generator.rules budgets.values iterative seed number steps plans →
      Meets allowed (do variant.validate; return variant : Draw ρ Circuit) fun variant =>
        variant.WellFormed ∧ ∃ steps plans, counted steps ∧
          variant.Descends generator.rules budgets.values iterative seed number steps plans := by
    intro variant plans descent
    have checked := contract_validate (runs.variants _ variant plans renamed descent.records)
    exact Meets.bind (Meets.check checked) fun _ wellFormed =>
      Meets.pure ⟨wellFormed, steps, plans, holds, descent⟩
  cases iterative with
  | true =>
      refine Meets.bind (rewriteIteratively_meets runs.rules (Circuit.records_start _ _ _))
        fun variant ⟨plans, short, records⟩ => ?_
      exact finish variant plans ⟨records, short, by simp⟩
  | false =>
      refine Meets.bind (rewriteByPlans_meets runs.rules)
        fun variant ⟨plans, short, records, planned⟩ => ?_
      exact finish variant plans ⟨records, short, fun _ => planned⟩

/-- Generation gives a seed with its variants, or fails with an allowed error. -/
theorem generate_meets (runs : generator.Runs allowed counted budgets) :
    Meets allowed (generator.generate budgets iterative) fun bundle =>
      ∃ seed variants, generator.Yields counted budgets iterative bundle seed variants := by
  refine Meets.bind (Meets.check runs.checked) fun _ _ => ?_
  have seeds : Always (generator.shape.randomSeed budgets.values : StateM ρ Circuit) fun seed =>
      (∃ s : ρ, seed = ((generator.shape.randomSeed budgets.values).run s).1) ∧
        Contract allowed (fun _ => True) seed.validate :=
    fun s => ⟨⟨s, rfl⟩, runs.seeds s⟩
  refine Meets.bind (Meets.lift seeds) fun seed ⟨drawn, checked⟩ => ?_
  refine Meets.bind (Meets.check (contract_validate checked)) fun _ wellFormed => ?_
  obtain ⟨expected, evaluated, -⟩ := wellFormed.evaluate
  have evaluates : Contract allowed (fun value => seed.evaluate = .ok value) seed.evaluate := by
    rw [evaluated]
    rfl
  refine Meets.bind (Meets.check evaluates) fun value reached => ?_
  refine Meets.bind (Meets.mapM _ fun i _ => randomVariant_meets runs wellFormed (i + 1))
    fun variants descend => Meets.pure ?_
  exact ⟨seed, variants, rfl, drawn, wellFormed, reached, descend⟩

/-- Every variant descends from the seed, under the number of its place. -/
theorem Yields.descends {bundle : Bundle} {seed variant : Circuit} {variants : List Circuit}
    (h : generator.Yields counted budgets iterative bundle seed variants)
    (member : variant ∈ variants) :
    variant.WellFormed ∧ ∃ number steps plans, counted steps ∧
      variant.Descends generator.rules budgets.values iterative seed number steps plans := by
  obtain ⟨i, bound, rfl⟩ := List.getElem_of_mem member
  obtain ⟨sameLength, related⟩ := List.forall₂_iff_get.mp h.descend
  obtain ⟨wellFormed, steps, plans, descent⟩ := related i (sameLength ▸ bound) bound
  exact ⟨wellFormed, _, steps, plans, descent⟩

/-- Where every error is allowed, only the counts of steps are left to be shown. -/
theorem runs_anyhow (steps : Meets (fun _ => True)
    (generator.shape.distribution.drawSteps budgets.rewrites : Draw ρ Nat) counted) :
    generator.Runs (fun _ => True) counted budgets := by
  have anyhow : ∀ {α : Type} (outcome : Except Error α),
      Contract (fun _ => True) (fun _ => True) outcome := by
    intro α outcome
    cases outcome <;> trivial
  exact ⟨generator.rules.runs_anyhow _, steps, anyhow _, fun _ => anyhow _,
    fun _ _ _ _ _ => anyhow _⟩

/-- A bundle descends from a seed, whatever numbers the source gives. -/
theorem exists_yields {bundle : Bundle} {s : ρ}
    (made : ((generator.generate budgets iterative).run s).1 = .ok bundle) :
    ∃ seed variants, generator.Yields (fun _ => True) budgets iterative bundle seed variants :=
  (generate_meets (runs_anyhow ((Meets.drawn _).mono fun _ _ => trivial))).ok made

theorem randomSeed_untouched {shape : Shape} {values : Bounds UInt32} :
    Always (shape.randomSeed values : StateM ρ Circuit) fun seed =>
      seed.rewrites = [] ∧ seed.perturbed = false :=
  fun _ => ⟨rfl, rfl⟩

theorem drawSteps_le [LawfulRandomSource ρ] {distribution : StepDistribution} {budget : Nat} :
    Meets (fun _ => True) (distribution.drawSteps budget : Draw ρ Nat) (· ≤ budget) := by
  cases distribution with
  | triangular =>
      refine weightedSelect_mem.mono fun steps member => ?_
      exact Nat.lt_succ_iff.mp (List.mem_range.mp member)
  | uniform =>
      have within : Always (RandomSource.countBetween 0 budget : StateM ρ Nat) (· ≤ budget) :=
        fun s => (LawfulRandomSource.countBetween_mem s (Nat.zero_le budget)).2
      exact Meets.bind (Meets.lift within) fun steps short => Meets.pure (a := steps) short

/-- Every variant of a bundle comes from the seed by a derivation within the budget, of which
it records the rules, and whether one of them changes the value on purpose. -/
theorem generate_derivations [LawfulRandomSource ρ] {s : ρ} {bundle : Bundle}
    (made : ((generator.generate budgets iterative).run s).1 = .ok bundle) :
    ∃ seed, bundle.seed? = some seed ∧ ∀ variant ∈ bundle.variants, ∃ plans : List (Plan ρ),
      Derivation generator.rules budgets.values seed.root plans variant.root ∧
      variant.rewrites = plans.map (·.rewriting.rule.name) ∧
      plans.length ≤ budgets.rewrites ∧
      (variant.perturbed = true ↔ ∃ plan ∈ plans, plan.rewriting.rule.effect = .perturbing) ∧
      (iterative = false → ∀ plan ∈ plans, seed.root.at? plan.path = some plan.target) := by
  have runs : generator.Runs (fun _ => True) (· ≤ budgets.rewrites) budgets :=
    runs_anyhow drawSteps_le
  obtain ⟨seed, variants, yields⟩ := (generate_meets runs).ok made
  refine ⟨seed, by simp [Bundle.seed?, yields.circuits], fun variant member => ?_⟩
  rw [Bundle.variants, yields.circuits, List.tail_cons] at member
  obtain ⟨-, number, steps, plans, counted, descent⟩ := yields.descends member
  obtain ⟨source, drawn⟩ := yields.drawn
  obtain ⟨unrecorded, unperturbed⟩ := drawn ▸ randomSeed_untouched source
  refine ⟨plans, descent.records.derivation, ?_, descent.short.trans counted, ?_, descent.planned⟩
  · simp [descent.records.rewrites, unrecorded]
  · simp [descent.records.perturbed, unperturbed]

theorem generate_derivations_chaCha : ∃ bundle,
    (((⟨.withPerturbing, {}⟩ : Generator ChaCha).generate ⟨⟨0, 100⟩, 5, 3⟩ false).run
      (ChaCha.ofSeed 7)).1 = .ok bundle ∧
    ∃ seed, bundle.seed? = some seed ∧ ∀ variant ∈ bundle.variants, ∃ plans : List (Plan ChaCha),
      Derivation .withPerturbing ⟨0, 100⟩ seed.root plans variant.root ∧
      variant.rewrites = plans.map (·.rewriting.rule.name) ∧
      plans.length ≤ 5 ∧
      (variant.perturbed = true ↔ ∃ plan ∈ plans, plan.rewriting.rule.effect = .perturbing) ∧
      (false = false → ∀ plan ∈ plans, seed.root.at? plan.path = some plan.target) := by
  obtain ⟨bundle, made⟩ : ∃ bundle,
      (((⟨.withPerturbing, {}⟩ : Generator ChaCha).generate ⟨⟨0, 100⟩, 5, 3⟩ false).run
        (ChaCha.ofSeed 7)).1 = .ok bundle :=
    exists_eq_ok (by decide +kernel)
  exact ⟨bundle, made, generate_derivations made⟩

end Generator

end Metamorph
