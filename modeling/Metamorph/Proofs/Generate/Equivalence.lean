import Metamorph.Proofs.Generate.Provenance
import Metamorph.Proofs.Rewrite.Soundness

/-! # Circuits of a bundle are equivalent

With rules of the catalogue a derivation that uses no rule made to change values keeps the
value of the tree in every environment that suits it. So all circuits of a bundle agree with
the seed, but those that are marked as perturbed. -/

namespace Metamorph

variable {ρ : Type} [RandomSource ρ]

/-- Every rule of a set is one of the catalogue, with a weight of any size. -/
def RuleSet.FromCatalogue (set : RuleSet ρ) : Prop :=
  ∀ rule ∈ set.rules, ∃ original ∈ Catalogue.preserving ++ Catalogue.perturbing, ∃ weight,
    rule = { original with weight := weight }

theorem RuleSet.standard_fromCatalogue : (standard : RuleSet ρ).FromCatalogue :=
  fun rule member => ⟨rule, List.mem_append_left _ member, rule.weight, rfl⟩

theorem RuleSet.withPerturbing_fromCatalogue : (withPerturbing : RuleSet ρ).FromCatalogue :=
  fun rule member => ⟨rule, member, rule.weight, rfl⟩

/-- A rule of the catalogue that does not say it changes values keeps them. -/
theorem RuleSet.FromCatalogue.sound {set : RuleSet ρ} (h : set.FromCatalogue) {rule : Rule ρ}
    (member : rule ∈ set.rules) (keeps : rule.effect ≠ .perturbing) : rule.Sound := by
  obtain ⟨original, listed, weight, rfl⟩ := h rule member
  rcases List.mem_append.mp listed with preserving | perturbing
  · exact Catalogue.preserving_sound original preserving
  · exact absurd (Catalogue.perturbing_effect original perturbing) keeps

/-- Every rule of the catalogue puts in trees that may take the place of others. -/
theorem RuleSet.FromCatalogue.replacing {set : RuleSet ρ} (h : set.FromCatalogue) {rule : Rule ρ}
    (member : rule ∈ set.rules) : rule.Replacing := by
  obtain ⟨original, listed, weight, rfl⟩ := h rule member
  rcases List.mem_append.mp listed with preserving | perturbing
  · exact (Catalogue.preserving_sound original preserving).replacing
  · exact Catalogue.perturbing_replacing original perturbing

variable {rules : RuleSet ρ} {values : Bounds UInt32}

/-- What a plan puts in is as good as all that its rule makes. -/
theorem Plan.Honest.makes {root : Expr} {kind : Kind} {plan : Plan ρ}
    {good : (UInt32 → Prop) → Expr → Kind → Expr → Prop}
    (honest : plan.Honest rules values root) (wellKinded : root.HasKind kind)
    (makes : plan.rewriting.rule.Makes good) :
    good (FreshWord ρ values) plan.target plan.target.kind plan.rewriting.replacement := by
  obtain ⟨s, built⟩ := honest.built
  have below := Derivation.target_hasKind honest wellKinded
  exact Rule.apply_good (makes values _ _ below honest.matched) built

/-- What a plan of a sound rule puts in stands for what it takes out. -/
theorem Plan.Honest.standsFor {root : Expr} {kind : Kind} {plan : Plan ρ}
    (honest : plan.Honest rules values root) (wellKinded : root.HasKind kind)
    (sound : plan.rewriting.rule.Sound) :
    StandsFor (FreshWord ρ values) plan.target plan.target.kind plan.rewriting.replacement :=
  honest.makes wellKinded sound

/-- A derivation by rules that keep values keeps the value of the tree. -/
theorem Derivation.evaluate_eq {start e : Expr} {plans : List (Plan ρ)} {kind : Kind}
    (h : Derivation rules values start plans e) (wellKinded : start.HasKind kind)
    (sound : ∀ plan ∈ plans, plan.rewriting.rule.Sound) {env : Env} (suits : start.Suits env) :
    e.evaluate env = start.evaluate env := by
  induction h with
  | start => rfl
  | @step plans plan before after earlier honest replaced ih =>
      have earlierSound := fun p (member : p ∈ plans) => sound p (by simp [member])
      -- The tree before the step has no variable that the start has not, so it suits as well.
      have fewer := earlier.occurrences_subset wellKinded fun p member root honest wellKinded =>
        (honest.standsFor wellKinded (earlierSound p member)).occurrences
      have stands := honest.standsFor (earlier.hasKind wellKinded) (sound plan (by simp))
      have splice := Derivation.splice honest replaced
      have targetSuits : plan.target.Suits env :=
        suits.subset (List.Subset.trans splice.occurrences_target fewer)
      rw [splice.evaluate (stands.evaluate env targetSuits), ih earlierSound]

namespace Generator

variable {generator : Generator ρ} {budgets : Budgets} {iterative : Bool}
  {counted : Nat → Prop} {bundle : Bundle} {seed variant : Circuit} {variants : List Circuit}

/-- A variant that is not marked as perturbed has the value of the seed wherever the seed
has one. -/
theorem Yields.evaluate_variant
    (yields : generator.Yields counted budgets iterative bundle seed variants)
    (fromCatalogue : generator.rules.FromCatalogue) (member : variant ∈ variants)
    (unmarked : variant.perturbed = false) {env : Env} (assigned : Assigns env seed.inputs) :
    variant.root.evaluate env = seed.root.evaluate env := by
  obtain ⟨-, number, steps, plans, -, descent⟩ := yields.descends member
  have sound : ∀ plan ∈ plans, plan.rewriting.rule.Sound := by
    intro plan used
    have keeps : plan.rewriting.rule.effect ≠ .perturbing := by
      have marks := descent.records.perturbed
      rw [unmarked, eq_comm, Bool.or_eq_false_iff, List.any_eq_false] at marks
      simpa using marks.2 plan used
    exact fromCatalogue.sound (descent.records.derivation.rule_mem plan used) keeps
  have wellFormed := yields.wellFormed
  exact descent.records.derivation.evaluate_eq wellFormed.wellKinded sound
    (wellFormed.suits assigned)

/-- All circuits of a bundle that are not marked as perturbed have one value under any values
for the inputs, which is the expected one under those that are recorded. Rules that say they
keep values mark no circuit. -/
theorem generate_equivalent {s : ρ} (fromCatalogue : generator.rules.FromCatalogue)
    (made : ((generator.generate budgets iterative).run s).1 = .ok bundle) :
    ∃ seed, bundle.seed? = some seed ∧
      (∀ env, Assigns env bundle.inputs → ∃ value, seed.root.evaluate env = .ok value ∧
        ∀ circuit ∈ bundle.circuits, circuit.perturbed = false →
          circuit.root.evaluate env = .ok value) ∧
      (∀ circuit ∈ bundle.circuits, circuit.perturbed = false →
        circuit.root.evaluate (lastValue bundle.inputs) = .ok bundle.expected) ∧
      ((∀ rule ∈ generator.rules.rules, rule.effect = .preserving) →
        ∀ circuit ∈ bundle.circuits, circuit.perturbed = false) := by
  have steps : Meets (fun _ => True)
      (generator.shape.distribution.drawSteps budgets.rewrites : Draw ρ Nat) fun _ => True :=
    (Meets.drawn _).mono fun _ _ => trivial
  obtain ⟨seed, variants, yields⟩ := (generate_meets (runs_anyhow steps)).ok made
  have wellFormed := yields.wellFormed
  have isSeed : bundle.seed? = some seed := by simp [Bundle.seed?, yields.circuits]
  have inputs : bundle.inputs = seed.inputs := by simp [Bundle.inputs, isSeed]
  have agree : ∀ env, Assigns env seed.inputs → ∀ circuit ∈ bundle.circuits,
      circuit.perturbed = false → circuit.root.evaluate env = seed.root.evaluate env := by
    intro env assigned circuit member unmarked
    rw [yields.circuits] at member
    rcases List.mem_cons.mp member with rfl | member
    · rfl
    · exact yields.evaluate_variant fromCatalogue member unmarked assigned
  refine ⟨seed, isSeed, ?_, ?_, ?_⟩
  · rw [inputs]
    intro env assigned
    obtain ⟨value, evaluated, -⟩ := wellFormed.wellKinded.evaluate (wellFormed.suits assigned)
    exact ⟨value, evaluated, fun circuit member unmarked =>
      (agree env assigned circuit member unmarked).trans evaluated⟩
  · rw [inputs]
    exact fun circuit member unmarked =>
      (agree seed.env wellFormed.assigns_env circuit member unmarked).trans yields.expected
  · intro preserving circuit member
    obtain ⟨source, drawn⟩ := yields.drawn
    have unmarked : seed.perturbed = false := drawn ▸ (randomSeed_untouched source).2
    rw [yields.circuits] at member
    rcases List.mem_cons.mp member with rfl | member
    · exact unmarked
    · obtain ⟨-, number, steps, plans, -, descent⟩ := yields.descends member
      rw [descent.records.perturbed, Bool.or_eq_false_iff, List.any_eq_false]
      refine ⟨unmarked, fun plan used => ?_⟩
      have keeps := preserving _ (descent.records.derivation.rule_mem plan used)
      simp [keeps]

theorem generate_equivalent_chaCha : ∃ bundle,
    (((⟨.withPerturbing, {}⟩ : Generator ChaCha).generate ⟨⟨0, 100⟩, 5, 4⟩ true).run
      (ChaCha.ofSeed 7)).1 = .ok bundle ∧
    ∃ seed, bundle.seed? = some seed ∧
      (∀ env, Assigns env bundle.inputs → ∃ value, seed.root.evaluate env = .ok value ∧
        ∀ circuit ∈ bundle.circuits, circuit.perturbed = false →
          circuit.root.evaluate env = .ok value) := by
  obtain ⟨bundle, made⟩ : ∃ bundle,
      (((⟨.withPerturbing, {}⟩ : Generator ChaCha).generate ⟨⟨0, 100⟩, 5, 4⟩ true).run
        (ChaCha.ofSeed 7)).1 = .ok bundle :=
    exists_eq_ok (by decide +kernel)
  obtain ⟨seed, isSeed, agree, -⟩ :=
    generate_equivalent RuleSet.withPerturbing_fromCatalogue made
  exact ⟨bundle, made, seed, isSeed, agree⟩

end Generator

end Metamorph
