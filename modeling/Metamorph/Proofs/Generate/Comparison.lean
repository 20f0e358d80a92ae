import Metamorph.Proofs.Generate.Success

/-! # Comparing two runs of generation

Two runs of generation from one state of the source draw alike up to the place where something
differs that they were asked for, and what a run has drawn does not depend on what it draws later.
So the seed is settled by the shape and the range alone, a smaller bundle is the beginning of a
larger one, and the two modes agree where there is no second step to see the first one. -/

namespace Metamorph

variable {ρ α β : Type}

/-! ## One step -/

/-- Put the replacement of a plan in its place and record the rule, without a look at what stands
there. -/
def Circuit.adopt (circuit : Circuit) (plan : Plan ρ) : Circuit :=
  match circuit.root.replaceAt? plan.path plan.rewriting.replacement with
  | some root =>
    { circuit with
      root := root
      rewrites := circuit.rewrites ++ [plan.rewriting.rule.name]
      perturbed := circuit.perturbed || plan.rewriting.rule.effect = .perturbing }
  | none => circuit

/-- A plan whose node is in place is not dropped. -/
theorem Circuit.carryOut_eq_adopt {circuit : Circuit} {plan : Plan ρ}
    (found : circuit.root.at? plan.path = some plan.target) :
    circuit.carryOut plan = circuit.adopt plan :=
  if_pos found

variable [RandomSource ρ] {rules : RuleSet ρ} {attempts steps : Nat} {values : Bounds UInt32}
  {circuit : Circuit}

/-- The node of a plan that is drawn for a tree is in place. -/
theorem drawPlan_found {root : Expr} :
    Meets (fun _ => True) (drawPlan rules attempts values root) fun drawn =>
      ∀ plan, drawn = some plan → root.at? plan.path = some plan.target :=
  (drawPlan_meets (rules.runs_anyhow values)).mono fun _ honest plan made =>
    (honest plan made).found

/-- A step of the iterative mode adopts whatever plan it draws. -/
theorem rewriteIteratively_succ :
    rewriteIteratively rules attempts values (steps + 1) circuit =
      drawPlan rules attempts values circuit.root >>= fun drawn =>
        rewriteIteratively rules attempts values steps (drawn.elim circuit circuit.adopt) := by
  refine Draw.bind_congr drawPlan_found fun drawn found => ?_
  cases drawn with
  | none => rfl
  | some plan =>
      change rewriteIteratively _ _ _ _ (circuit.carryOut plan) = _
      rw [Circuit.carryOut_eq_adopt (found plan rfl)]
      rfl

/-- The first plan of the planned mode is adopted as well. -/
theorem rewriteByPlans_one :
    rewriteByPlans rules attempts values 1 circuit =
      drawPlan rules attempts values circuit.root >>= fun drawn =>
        pure (drawn.elim circuit circuit.adopt) := by
  have single : rewriteByPlans rules attempts values 1 circuit =
      drawPlan rules attempts values circuit.root >>= fun drawn =>
        pure (drawn.toList.foldl Circuit.carryOut circuit) := by
    simp [rewriteByPlans, drawPlans]
  rw [single]
  refine Draw.bind_congr drawPlan_found fun drawn found => ?_
  cases drawn with
  | none => rfl
  | some plan =>
      change pure (circuit.carryOut plan) = _
      rw [Circuit.carryOut_eq_adopt (found plan rfl)]
      rfl

/-- Both modes do the same when there is at most one step to do. -/
theorem rewriteIteratively_eq_rewriteByPlans (few : steps ≤ 1) :
    rewriteIteratively rules attempts values steps circuit =
      rewriteByPlans rules attempts values steps circuit := by
  cases steps with
  | zero => simp [rewriteIteratively, rewriteByPlans, drawPlans]
  | succ steps =>
      obtain rfl : steps = 0 := by omega
      rw [rewriteIteratively_succ, rewriteByPlans_one]
      rfl

/-- The seeds of two shapes are alike when they differ in nothing but what comes after the seed. -/
structure Shape.SeedsAlike (shape other : Shape) : Prop where
  maxDepth : shape.maxDepth = other.maxDepth
  fieldVariables : shape.fieldVariables = other.fieldVariables
  boolVariables : shape.boolVariables = other.boolVariables
  operators : shape.operators = other.operators
  leafProbability : shape.leafProbability = other.leafProbability
  outputKind : shape.outputKind = other.outputKind

theorem Shape.SeedsAlike.randomSeed_eq {shape other : Shape} (alike : shape.SeedsAlike other)
    (values : Bounds UInt32) :
    (shape.randomSeed values : StateM ρ Circuit) = other.randomSeed values := by
  simp only [randomSeed, randomInputs, alike.maxDepth, alike.fieldVariables, alike.boolVariables,
    alike.operators, alike.leafProbability, alike.outputKind]

namespace Generator

variable {generator other : Generator ρ} {budgets others : Budgets} {iterative otherwise : Bool}
  {bundle : Bundle} {s : ρ}

theorem randomVariant_modes [LawfulRandomSource ρ] (few : budgets.rewrites ≤ 1) (seed : Circuit)
    (number : Nat) :
    generator.randomVariant budgets true seed number =
      generator.randomVariant budgets false seed number := by
  refine Draw.bind_congr drawSteps_le fun steps short => ?_
  dsimp only
  rw [if_pos rfl, if_neg Bool.false_ne_true,
    rewriteIteratively_eq_rewriteByPlans (short.trans few)]

/-- Where a variant has one rewrite at most, both modes give the same bundles or errors and leave
the source in the same state. -/
theorem generate_modes_agree [LawfulRandomSource ρ] (few : budgets.rewrites ≤ 1) (s : ρ) :
    (generator.generate budgets true).run s = (generator.generate budgets false).run s := by
  unfold generate
  simp only [randomVariant_modes few]

theorem generate_modes_agree_single : ∃ bundle,
    (((⟨.withPerturbing, {}⟩ : Generator ChaCha).generate ⟨⟨0, 100⟩, 1, 3⟩ true).run
      (ChaCha.ofSeed 7)).1 = .ok bundle ∧
    (((⟨.withPerturbing, {}⟩ : Generator ChaCha).generate ⟨⟨0, 100⟩, 1, 3⟩ false).run
      (ChaCha.ofSeed 7)).1 = .ok bundle := by
  obtain ⟨bundle, made⟩ : ∃ bundle,
      (((⟨.withPerturbing, {}⟩ : Generator ChaCha).generate ⟨⟨0, 100⟩, 1, 3⟩ true).run
        (ChaCha.ofSeed 7)).1 = .ok bundle :=
    exists_eq_ok (by decide +kernel)
  exact ⟨bundle, made, by rw [← generate_modes_agree le_rfl, made]⟩

/-! ## Fewer circuits -/

/-- The circuits behind a seed. -/
def randomVariants (generator : Generator ρ) (budgets : Budgets) (iterative : Bool)
    (seed : Circuit) (count : Nat) : Draw ρ (List Circuit) :=
  (List.range count).mapM fun i => generator.randomVariant budgets iterative seed (i + 1)

theorem length_of_randomVariants {seed : Circuit} {count : Nat} {variants : List Circuit}
    {last : ρ} (made : (generator.randomVariants budgets iterative seed count).run s =
      (.ok variants, last)) : variants.length = count := by
  have listed : Meets (fun _ => True) (generator.randomVariants budgets iterative seed count)
      (List.Forall₂ (fun _ _ => True) (List.range count)) :=
    Meets.mapM _ fun _ _ => (Meets.drawn _).mono fun _ _ => trivial
  have related := listed.ok (congrArg Prod.fst made)
  rw [← related.length_eq, List.length_range]

/-- The first variants are drawn as if no others were to follow. -/
theorem randomVariants_fewer {seed : Circuit} {count total : Nat} {variants : List Circuit}
    {last : ρ} (fewer : count ≤ total)
    (made : (generator.randomVariants budgets iterative seed total).run s = (.ok variants, last)) :
    ∃ middle, (generator.randomVariants budgets iterative seed count).run s =
      (.ok (variants.take count), middle) := by
  -- The first variants are drawn in the same way, however many are to follow.
  obtain ⟨more, rfl⟩ := Nat.exists_eq_add_of_le fewer
  rw [randomVariants, List.range_add, List.mapM_append] at made
  obtain ⟨front, middle, first, later⟩ := Draw.run_bind_eq_ok.mp made
  obtain ⟨back, _, -, joined⟩ := Draw.run_bind_eq_ok.mp later
  obtain rfl : front ++ back = variants := Except.ok.inj (congrArg Prod.fst joined)
  have counted : front.length = count := length_of_randomVariants first
  exact ⟨middle, by rw [List.take_left' counted]; exact first⟩

/-- How a bundle is made: the budgets pass, a seed is drawn that passes and has a value, and then
the variants. -/
theorem run_generate_eq_ok {last : ρ} :
    (generator.generate budgets iterative).run s = (.ok bundle, last) ↔
      generator.checkBudgets budgets = .ok () ∧ ∃ seed middle variants,
        (generator.shape.randomSeed budgets.values).run s = (seed, middle) ∧
        seed.validate = .ok () ∧ seed.evaluate = .ok bundle.expected ∧
        (generator.randomVariants budgets iterative seed (budgets.batchSize - 1)).run middle =
          (.ok variants, last) ∧
        bundle.circuits = seed :: variants := by
  simp only [generate, Draw.run_bind_eq_ok, Draw.run_check, Draw.run_lift]
  constructor
  · rintro ⟨⟨⟩, _, ⟨passed, rfl⟩, seed, middle, drawn, ⟨⟩, _, ⟨valid, rfl⟩, expected, _,
      ⟨evaluated, rfl⟩, variants, _, made, joined⟩
    cases joined
    exact ⟨passed, seed, _, variants, drawn, valid, evaluated, made, rfl⟩
  · rintro ⟨passed, seed, middle, variants, drawn, valid, evaluated, made, joined⟩
    refine ⟨(), s, ⟨passed, rfl⟩, seed, middle, drawn, (), middle, ⟨valid, rfl⟩, bundle.expected,
      middle, ⟨evaluated, rfl⟩, variants, last, made, ?_⟩
    rw [← joined]
    rfl

omit [RandomSource ρ] in
/-- Budgets that pass do so for fewer circuits, as long as there are any. -/
theorem checkBudgets_fewer {count : Nat} (positive : 0 < count) (fewer : count ≤ budgets.batchSize)
    (passed : generator.checkBudgets budgets = .ok ()) :
    generator.checkBudgets { budgets with batchSize := count } = .ok () := by
  have both : ¬ generator.HasInvalidBounds budgets ∧ ¬ generator.LacksRules budgets := by
    rcases checkBudgets_cases generator budgets with
      ⟨-, fault, refused⟩ | ⟨-, -, refused⟩ | ⟨valid, enough, -⟩
    · cases passed.symm.trans refused
    · cases passed.symm.trans refused
    · exact ⟨valid, enough⟩
  rcases checkBudgets_cases generator { budgets with batchSize := count } with
    ⟨invalid, -⟩ | ⟨-, ⟨none, rewrites, several⟩, -⟩ | ⟨-, -, passes⟩
  · rcases invalid with inverted | empty | noAttempts
    · exact absurd (.inl inverted) both.1
    · exact absurd empty positive.ne'
    · exact absurd (.inr (.inr noAttempts)) both.1
  · exact absurd ⟨none, rewrites, several.trans_le fewer⟩ both.2
  · exact passes

/-- When fewer circuits are asked for, the bundle is the beginning of the one with more. -/
theorem generate_fewer {count : Nat} (positive : 0 < count) (fewer : count ≤ budgets.batchSize)
    (made : ((generator.generate budgets iterative).run s).1 = .ok bundle) :
    ((generator.generate { budgets with batchSize := count } iterative).run s).1 =
      .ok ⟨bundle.circuits.take count, bundle.expected⟩ := by
  obtain ⟨passed, seed, middle, variants, drawn, valid, evaluated, more, joined⟩ :=
    run_generate_eq_ok.mp (Prod.ext made rfl)
  obtain ⟨last, first⟩ := randomVariants_fewer (Nat.sub_le_sub_right fewer 1) more
  have beginning : bundle.circuits.take count = seed :: variants.take (count - 1) := by
    obtain ⟨less, rfl⟩ := Nat.exists_eq_add_one.mpr positive
    rw [joined, List.take_succ_cons, Nat.add_sub_cancel]
  have run : (generator.generate { budgets with batchSize := count } iterative).run s =
      (.ok ⟨bundle.circuits.take count, bundle.expected⟩, last) :=
    run_generate_eq_ok.mpr ⟨checkBudgets_fewer positive fewer passed, seed, middle,
      variants.take (count - 1), drawn, valid, evaluated, first, beginning⟩
  exact congrArg Prod.fst run

/-- Runs from one state whose shapes and ranges give the same seed begin with it. -/
theorem generate_seed {another : Bundle} (alike : generator.shape.SeedsAlike other.shape)
    (range : others.values = budgets.values)
    (made : ((generator.generate budgets iterative).run s).1 = .ok bundle)
    (also : ((other.generate others otherwise).run s).1 = .ok another) :
    ∃ seed, bundle.seed? = some seed ∧ another.seed? = some seed ∧
      another.expected = bundle.expected := by
  obtain ⟨-, seed, _, _, drawn, -, evaluated, -, joined⟩ :=
    run_generate_eq_ok.mp (Prod.ext made rfl)
  obtain ⟨-, twin, _, _, drawn', -, evaluated', -, joined'⟩ :=
    run_generate_eq_ok.mp (Prod.ext also rfl)
  rw [range, ← alike.randomSeed_eq, drawn] at drawn'
  obtain rfl : seed = twin := congrArg Prod.fst drawn'
  refine ⟨seed, by rw [Bundle.seed?, joined]; rfl, by rw [Bundle.seed?, joined']; rfl, ?_⟩
  exact (Except.ok.inj (evaluated.symm.trans evaluated')).symm

/-- A bundle depends on what is asked for in no more than it must: with fewer circuits there is one,
and it is a beginning; and neither its rules nor anything else that comes after the seed changes the
seed or the expected value. -/
theorem generate_stable
    (made : ((generator.generate budgets iterative).run s).1 = .ok bundle) :
    (∀ count ≤ budgets.batchSize,
      let fewer := ((generator.generate { budgets with batchSize := count } iterative).run s).1
      (0 < count → ∃ part, fewer = .ok part) ∧
        ∀ part, fewer = .ok part →
          part.circuits = bundle.circuits.take count ∧ part.expected = bundle.expected) ∧
    ∀ (other : Generator ρ) (others : Budgets) (otherwise : Bool) (another : Bundle),
      generator.shape.SeedsAlike other.shape → others.values = budgets.values →
      ((other.generate others otherwise).run s).1 = .ok another →
      ∃ seed, bundle.seed? = some seed ∧ another.seed? = some seed ∧
        another.expected = bundle.expected := by
  refine ⟨fun count within => ?_, fun other others otherwise another alike range also =>
    generate_seed alike range made also⟩
  rcases Nat.eq_zero_or_pos count with rfl | positive
  · refine ⟨fun impossible => absurd impossible (Nat.lt_irrefl 0), fun part small => ?_⟩
    have refused : generator.HasInvalidBounds { budgets with batchSize := 0 } := .inr (.inl rfl)
    rcases checkBudgets_cases generator { budgets with batchSize := 0 } with
      ⟨-, fault, stopped⟩ | ⟨valid, -⟩ | ⟨valid, -⟩
    · rw [generate_refused stopped s] at small
      cases small
    · exact absurd refused valid
    · exact absurd refused valid
  · have small := generate_fewer positive within made
    refine ⟨fun _ => ⟨_, small⟩, fun part given => ?_⟩
    obtain rfl : _ = part := Except.ok.inj (small.symm.trans given)
    exact ⟨rfl, rfl⟩

theorem generate_stable_chaCha : ∃ bundle part another,
    (((⟨.withPerturbing, {}⟩ : Generator ChaCha).generate ⟨⟨0, 100⟩, 5, 3⟩ true).run
      (ChaCha.ofSeed 7)).1 = .ok bundle ∧
    (((⟨.withPerturbing, {}⟩ : Generator ChaCha).generate ⟨⟨0, 100⟩, 5, 2⟩ true).run
      (ChaCha.ofSeed 7)).1 = .ok part ∧
    (((⟨.standard, { distribution := .uniform, ruleAttempts := 1 }⟩ : Generator ChaCha).generate
      ⟨⟨0, 100⟩, 2, 2⟩ false).run (ChaCha.ofSeed 7)).1 = .ok another ∧
    part.circuits = bundle.circuits.take 2 ∧ part.expected = bundle.expected ∧
    ∃ seed, bundle.seed? = some seed ∧ another.seed? = some seed ∧
      another.expected = bundle.expected := by
  obtain ⟨bundle, made⟩ : ∃ bundle,
      (((⟨.withPerturbing, {}⟩ : Generator ChaCha).generate ⟨⟨0, 100⟩, 5, 3⟩ true).run
        (ChaCha.ofSeed 7)).1 = .ok bundle :=
    exists_eq_ok (by decide +kernel)
  obtain ⟨another, also⟩ : ∃ another,
      (((⟨.standard, { distribution := .uniform, ruleAttempts := 1 }⟩ : Generator ChaCha).generate
        ⟨⟨0, 100⟩, 2, 2⟩ false).run (ChaCha.ofSeed 7)).1 = .ok another :=
    exists_eq_ok (by decide +kernel)
  obtain ⟨beginnings, seeds⟩ := generate_stable made
  obtain ⟨part, small⟩ := (beginnings 2 (by decide)).1 (by decide)
  obtain ⟨circuits, expected⟩ := (beginnings 2 (by decide)).2 part small
  have seed := seeds ⟨.standard, { distribution := .uniform, ruleAttempts := 1 }⟩ ⟨⟨0, 100⟩, 2, 2⟩
    false another ⟨rfl, rfl, rfl, rfl, rfl, rfl⟩ rfl also
  exact ⟨bundle, part, another, made, small, also, circuits, expected, seed⟩

end Generator

end Metamorph
