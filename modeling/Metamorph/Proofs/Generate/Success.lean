import Metamorph.Proofs.Generate.Growth
import Metamorph.Proofs.Generate.Provenance
import Metamorph.Proofs.Random.Weights

/-! # When generation succeeds

Generation checks its budgets before it draws anything. With budgets that pass, it gives a
bundle of valid circuits, whatever the rules do: weights of finite sum can always be chosen
by, a replacement of the wrong kind is never taken, and as long as rules bring in no variables
every variable stays declared. -/

namespace Metamorph

variable {ρ : Type}

/-- What the rules of a set give for a well kinded tree has no variable, by name and kind, that
the tree has not. -/
def RuleSet.Closed (rules : RuleSet ρ) (values : Bounds UInt32) : Prop :=
  ∀ rule ∈ rules.rules, ∀ (e : Expr) (kind : Kind) (replacement : Expr) (s : ρ),
    e.HasKind kind → ((rule.apply values e).run s).1 = .ok (some replacement) →
    replacement.occurrences ⊆ e.occurrences

/-- Rules of which one gives ill kinded trees only and the other ones of the wrong kind. -/
def RuleSet.hostile : RuleSet ρ where
  rules := [
    .fixed "ill_kinded" 1.0 .preserving (fun _ => true) fun e => some (.unary .bool .neg e),
    .fixed "wrong_kind" 2.0 .perturbing (fun e => e.kind = .bool) fun e => some e.toField]
  usable := by
    have one : usableWeight 1.0 = true := by decide +kernel
    have two : usableWeight 2.0 = true := by decide +kernel
    simp [Rule.fixed, one, two]

theorem RuleSet.hostile_closed (values : Bounds UInt32) :
    (hostile : RuleSet ρ).Closed values := by
  intro rule member e kind replacement s _ built
  refine @Rule.apply_good _ _ _ _ _ _ (·.occurrences ⊆ e.occurrences) ?_ built
  simp only [hostile, List.mem_cons, List.not_mem_nil, or_false] at member
  rcases member with rfl | rfl
  all_goals
    refine Always.pure fun r given => ?_
    obtain rfl := Option.some.inj given
    exact List.Subset.refl _

/-- A rule that is not asked to draw from an empty range does not fail. -/
theorem Rule.apply_total {rule : Rule ρ} {values : Bounds UInt32} {e : Expr}
    (ordered : ¬ values.max < values.min) :
    Meets (fun _ => False) (rule.apply values e) fun _ => True := by
  unfold Rule.apply
  split
  · exact Meets.pure trivial
  · split
    · rename_i empty
      exact absurd (of_decide_eq_true (Bool.and_eq_true_iff.mp empty).2) ordered
    · exact Meets.bind (Meets.lift (Always.drawn _)) fun result _ => Meets.pure (a := result) trivial

/-- Derivations by closed rules lead from valid circuits to valid ones. -/
theorem Circuit.Records.wellFormed {rules : RuleSet ρ} {values : Bounds UInt32}
    {circuit start : Circuit} {plans : List (Plan ρ)}
    (h : circuit.Records rules values start plans) (closed : rules.Closed values)
    (wellFormed : start.WellFormed) : circuit.WellFormed := by
  have derivation := h.derivation
  have wellKinded := wellFormed.wellKinded
  have fewer : circuit.root.occurrences ⊆ start.root.occurrences := by
    refine derivation.occurrences_subset wellKinded fun plan member root honest rootKinded => ?_
    obtain ⟨s, built⟩ := honest.built
    exact closed _ honest.member _ _ _ s (Derivation.target_hasKind honest rootKinded) built
  refine ⟨h.inputs ▸ wellFormed.distinct, h.inputs ▸ wellFormed.admitted, ?_, ?_⟩
  · rw [h.outputKind]
    exact derivation.hasKind wellKinded
  · rw [h.inputs]
    exact fun kind name used => wellFormed.declared kind name (fewer used)

/-- A bundle is of the size that was asked for; its circuits are named in order, share the
inputs of the seed, and are valid and of the kind that the shape asks for. -/
structure Bundle.Complete (shape : Shape) (budgets : Budgets) (bundle : Bundle) : Prop where
  size : bundle.size = budgets.batchSize
  names : bundle.names = Shape.seedName ::
    (List.range (budgets.batchSize - 1)).map fun i => Generator.variantName (i + 1)
  inputs : ∀ circuit ∈ bundle.circuits, circuit.inputs = bundle.inputs
  outputKind : ∀ circuit ∈ bundle.circuits, circuit.outputKind = shape.outputKind
  valid : ∀ circuit ∈ bundle.circuits, circuit.validate = .ok ()

namespace Generator

/-- The bounds of generation are invalid: no value, no circuit or no attempt is allowed. -/
def HasInvalidBounds (generator : Generator ρ) (budgets : Budgets) : Prop :=
  budgets.values.max < budgets.values.min ∨ budgets.batchSize = 0 ∨
    generator.shape.ruleAttempts = 0

/-- There are variants to be rewritten but no rules to do it with. -/
def LacksRules (generator : Generator ρ) (budgets : Budgets) : Prop :=
  generator.rules.rules = [] ∧ 0 < budgets.rewrites ∧ 1 < budgets.batchSize

/-- What the check of the budgets finds. -/
theorem checkBudgets_cases (generator : Generator ρ) (budgets : Budgets) :
    (generator.HasInvalidBounds budgets ∧
      ∃ fault, generator.checkBudgets budgets = .error (.invalidBounds fault)) ∨
    (¬ generator.HasInvalidBounds budgets ∧ generator.LacksRules budgets ∧
      generator.checkBudgets budgets = .error (.emptyInput .rules)) ∨
    (¬ generator.HasInvalidBounds budgets ∧ ¬ generator.LacksRules budgets ∧
      generator.checkBudgets budgets = .ok ()) := by
  unfold checkBudgets Bounds.validate
  by_cases inverted : budgets.values.max < budgets.values.min
  · exact .inl ⟨.inl inverted, _, by simp [Quantity.lt, inverted]; rfl⟩
  by_cases noCircuits : budgets.batchSize = 0
  · exact .inl ⟨.inr (.inl noCircuits), _, by simp [Quantity.lt, inverted, noCircuits]; rfl⟩
  by_cases noAttempts : generator.shape.ruleAttempts = 0
  · refine .inl ⟨.inr (.inr noAttempts), .noAttempts, ?_⟩
    simp [Quantity.lt, inverted, noCircuits, noAttempts]
    rfl
  have valid : ¬ generator.HasInvalidBounds budgets := by
    rintro (empty | empty | empty) <;> contradiction
  by_cases lacks : generator.LacksRules budgets
  · refine .inr (.inl ⟨valid, lacks, ?_⟩)
    obtain ⟨none, rewrites, variants⟩ := lacks
    simp [Quantity.lt, inverted, noCircuits, noAttempts, none, rewrites, variants]
    rfl
  · refine .inr (.inr ⟨valid, lacks, ?_⟩)
    have enough : ¬ (generator.rules.rules.isEmpty && decide (0 < budgets.rewrites) &&
        decide (1 < budgets.batchSize)) = true := by
      simpa [LacksRules, and_assoc] using lacks
    simp only [Quantity.lt, inverted, noCircuits, noAttempts, enough]
    rfl

variable [RandomSource ρ] {generator : Generator ρ} {budgets : Budgets} {iterative : Bool}

/-- Budgets that are refused are refused before anything is drawn. -/
theorem generate_refused {e : Error} (refused : generator.checkBudgets budgets = .error e)
    (s : ρ) : (generator.generate budgets iterative).run s = (.error e, s) := by
  unfold generate
  rw [refused]
  rfl

/-- With budgets that pass, no step of generation fails. -/
theorem runs_always (closed : generator.rules.Closed budgets.values)
    (finite : (totalWeight (generator.rules.rules.map (·.weight))).isFinite = true)
    (bound : budgets.rewrites < 2 ^ 64) (ordered : ¬ budgets.values.max < budgets.values.min)
    (passed : generator.checkBudgets budgets = .ok ()) :
    generator.Runs (fun _ => False) (fun _ => True) budgets := by
  have usable := List.all_eq_true.mp generator.rules.usable
  have valid : ∀ {circuit : Circuit}, circuit.WellFormed →
      Contract (fun _ => False) (fun _ => True) circuit.validate := by
    intro circuit wellFormed
    rw [validate_eq_ok.mpr wellFormed]
    trivial
  refine ⟨⟨?_, fun _ _ _ => Rule.apply_total ordered⟩, ?_, ?_, ?_, ?_⟩
  · exact fun _ within nonempty => chooseWeighted_total usable finite within nonempty
  · exact StepDistribution.drawSteps_total bound _
  · rw [passed]
    trivial
  · exact Shape.randomSeed_wellFormed.mono fun seed good => valid good.1
  · exact fun seed variant plans wellFormed records => valid (records.wellFormed closed wellFormed)

/-- Variants are named by their places. -/
theorem Yields.names {counted : Nat → Prop} {bundle : Bundle} {seed : Circuit}
    {variants : List Circuit}
    (h : generator.Yields counted budgets iterative bundle seed variants) :
    variants.map (·.name) =
      (List.range (budgets.batchSize - 1)).map fun i => variantName (i + 1) := by
  have named : List.Forall₂ (fun i variant => variantName (i + 1) = variant.name)
      (List.range (budgets.batchSize - 1)) variants := by
    refine h.descend.imp fun i variant ⟨_, _, _, _, descent⟩ => ?_
    exact descent.records.name.symm
  have equal := List.forall₂_map_right_iff.mpr (List.forall₂_map_left_iff.mpr named)
  exact (List.forall₂_eq_eq_eq ▸ equal).symm

/-- The inputs of a bundle are those of its seed. -/
theorem Yields.inputs_eq {counted : Nat → Prop} {bundle : Bundle} {seed : Circuit}
    {variants : List Circuit}
    (h : generator.Yields counted budgets iterative bundle seed variants) :
    bundle.inputs = seed.inputs := by
  simp [Bundle.inputs, Bundle.seed?, h.circuits]

/-- All circuits of a bundle are well-formed and share what the seed has. -/
theorem Yields.shares {counted : Nat → Prop} {bundle : Bundle} {seed : Circuit}
    {variants : List Circuit}
    (h : generator.Yields counted budgets iterative bundle seed variants) {circuit : Circuit}
    (member : circuit ∈ bundle.circuits) :
    circuit.inputs = bundle.inputs ∧ circuit.outputKind = seed.outputKind ∧
      circuit.WellFormed := by
  rw [h.circuits] at member
  rw [h.inputs_eq]
  rcases List.mem_cons.mp member with rfl | later
  · exact ⟨rfl, rfl, h.wellFormed⟩
  · obtain ⟨wellFormed, number, steps, plans, -, descent⟩ := h.descends later
    exact ⟨descent.records.inputs, descent.records.outputKind, wellFormed⟩

/-- The circuits that are made are all that was asked for. -/
theorem Yields.complete {counted : Nat → Prop} {bundle : Bundle} {seed : Circuit}
    {variants : List Circuit}
    (h : generator.Yields counted budgets iterative bundle seed variants)
    (positive : budgets.batchSize ≠ 0) : bundle.Complete generator.shape budgets := by
  obtain ⟨source, drawn⟩ := h.drawn
  obtain ⟨-, named, ofKind⟩ := drawn ▸ Shape.randomSeed_wellFormed source
  have names : bundle.names = Shape.seedName ::
      (List.range (budgets.batchSize - 1)).map fun i => variantName (i + 1) := by
    rw [Bundle.names, h.circuits, List.map_cons, h.names, named]
  refine ⟨?_, names, fun circuit member => ?_, fun circuit member => ?_, fun circuit member => ?_⟩
  · have counts := congrArg List.length names
    simp only [Bundle.names, List.length_map, List.length_cons, List.length_range] at counts
    rw [Bundle.size]
    omega
  · exact (h.shares member).1
  · exact (h.shares member).2.1.trans ofKind
  · exact validate_eq_ok.mpr (h.shares member).2.2

/-- With budgets that are not refused a complete bundle is made. -/
theorem generate_complete (closed : generator.rules.Closed budgets.values)
    (finite : (totalWeight (generator.rules.rules.map (·.weight))).isFinite = true)
    (bound : budgets.rewrites < 2 ^ 64) (valid : ¬ generator.HasInvalidBounds budgets)
    (enough : ¬ generator.LacksRules budgets) (s : ρ) :
    ∃ bundle, ((generator.generate budgets iterative).run s).1 = .ok bundle ∧
      bundle.Complete generator.shape budgets := by
  rcases checkBudgets_cases generator budgets with
    ⟨invalid, -⟩ | ⟨-, lacks, -⟩ | ⟨-, -, passed⟩
  · exact absurd invalid valid
  · exact absurd lacks enough
  · have ordered : ¬ budgets.values.max < budgets.values.min := fun inverted =>
      valid (.inl inverted)
    have positive : budgets.batchSize ≠ 0 := fun none => valid (.inr (.inl none))
    have runs := runs_always closed finite bound ordered passed
    obtain ⟨bundle, made, seed, variants, yields⟩ := (generate_meets runs).exists_ok s
    exact ⟨bundle, made, yields.complete positive⟩

/-- Generation fails only on invalid bounds, or on variants that are to be rewritten without
rules, and draws nothing then. Otherwise it gives a complete bundle, whatever the rules do that
bring in no variables and whose weights have a finite sum. -/
theorem generate_outcome (closed : generator.rules.Closed budgets.values)
    (finite : (totalWeight (generator.rules.rules.map (·.weight))).isFinite = true)
    (bound : budgets.rewrites < 2 ^ 64) (s : ρ) :
    let made := (generator.generate budgets iterative).run s
    ((∃ fault, made.1 = .error (.invalidBounds fault)) ↔ generator.HasInvalidBounds budgets) ∧
      ((∃ what, made.1 = .error (.emptyInput what)) ↔
        ¬ generator.HasInvalidBounds budgets ∧ generator.LacksRules budgets) ∧
      (∀ e, made.1 = .error e →
        (generator.HasInvalidBounds budgets ∨ generator.LacksRules budgets) ∧ made.2 = s) ∧
      (¬ generator.HasInvalidBounds budgets → ¬ generator.LacksRules budgets →
        ∃ bundle, made.1 = .ok bundle ∧ bundle.Complete generator.shape budgets) := by
  intro made
  rcases checkBudgets_cases generator budgets with
    ⟨invalid, fault, refused⟩ | ⟨valid, lacks, refused⟩ | ⟨valid, enough, -⟩
  · have outcome : made = (.error (.invalidBounds fault), s) := generate_refused refused s
    simp [outcome, invalid]
  · have outcome : made = (.error (.emptyInput .rules), s) := generate_refused refused s
    simp [outcome, valid, lacks]
  · obtain ⟨bundle, given, complete⟩ := generate_complete closed finite bound valid enough s
    have outcome : made.1 = .ok bundle := given
    simp [outcome, valid, enough, complete]

theorem generate_outcome_hostile : ∃ bundle,
    (((⟨.hostile, {}⟩ : Generator ChaCha).generate ⟨⟨0, 100⟩, 5, 3⟩ true).run
      (ChaCha.ofSeed 7)).1 = .ok bundle ∧ bundle.Complete {} ⟨⟨0, 100⟩, 5, 3⟩ := by
  have finite : (totalWeight ((.hostile : RuleSet ChaCha).rules.map (·.weight))).isFinite := by
    decide +kernel
  obtain ⟨-, -, -, succeeds⟩ := @generate_outcome ChaCha _ ⟨.hostile, {}⟩ ⟨⟨0, 100⟩, 5, 3⟩ true
    (RuleSet.hostile_closed _) finite (by decide) (ChaCha.ofSeed 7)
  refine succeeds ?_ ?_
  · simp [HasInvalidBounds]
  · simp [LacksRules, RuleSet.hostile]

end Generator

end Metamorph
