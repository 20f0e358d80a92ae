import Metamorph.Campaign.Settings
import Metamorph.Proofs.Generate.Equivalence
import Metamorph.Proofs.Generate.Success

/-! # What accepted settings can generate

Settings are checked when they are read, and their bounds once more when budgets are drawn, by the
same conditions, so that the second check finds nothing that the first let pass. Generation checks
the drawn budgets, which pass, and demands besides that rules may be tried at all, which nobody
asked of the settings: those that allow no attempt are accepted, and every bundle is refused. All
other accepted settings give a bundle from every source. -/

namespace Metamorph

variable {ρ : Type} [RandomSource ρ]

/-- Rules of the catalogue bring in no variables. -/
theorem RuleSet.FromCatalogue.closed {set : RuleSet ρ} (h : set.FromCatalogue)
    (values : Bounds UInt32) : set.Closed values := by
  intro rule member e kind replacement s wellKinded built
  by_cases matched : rule.matchesTree e = true
  · have replaces := h.replacing member values e kind wellKinded matched
    exact (Rule.apply_good replaces built).occurrences
  · simp [Rule.apply, matched] at built
    cases built

theorem countBetween_within [LawfulRandomSource ρ] {bounds : Bounds Nat}
    (ordered : bounds.min ≤ bounds.max) :
    Always (RandomSource.countBetween bounds.min bounds.max : StateM ρ Nat) fun count =>
      bounds.min ≤ count ∧ count ≤ bounds.max :=
  fun s => LawfulRandomSource.countBetween_mem s ordered

theorem Bounds.validate_eq_ok {α : Type} [Quantity α] {what : String} {bounds : Bounds α}
    {done : Unit} :
    bounds.validate what = .ok done ↔ Quantity.lt bounds.max bounds.min = false := by
  unfold Bounds.validate
  split <;> simp [*]

namespace GenerationSettings

variable {settings : GenerationSettings}

theorem ruleSet_fromCatalogue : (settings.ruleSet : RuleSet ρ).FromCatalogue := by
  unfold ruleSet
  split
  · exact RuleSet.withPerturbing_fromCatalogue
  · exact RuleSet.standard_fromCatalogue

theorem ruleSet_nonempty : (settings.ruleSet : RuleSet ρ).rules ≠ [] := by
  unfold ruleSet
  split <;> simp [RuleSet.withPerturbing, RuleSet.standard, Catalogue.preserving]

/-- The weights of the rules that settings allow can be chosen by. -/
theorem ruleSet_isFinite :
    (totalWeight ((settings.ruleSet : RuleSet ρ).rules.map (·.weight))).isFinite = true := by
  unfold ruleSet
  split
  · exact Eq.trans (congrArg (fun weights => (totalWeight weights).isFinite) (rfl : _ =
      [1.0, 1.0, 0.8, 1.0, 0.8, 1.0, 0.6, 0.6, 0.5, 0.8, 0.5, 0.8, 0.5, 0.5, 0.4, 0.3, 0.3, 0.3]))
      (by decide +kernel)
  · exact Eq.trans (congrArg (fun weights => (totalWeight weights).isFinite) (rfl : _ =
      [1.0, 1.0, 0.8, 1.0, 0.8, 1.0, 0.6, 0.6, 0.5, 0.8, 0.5, 0.8, 0.5, 0.5, 0.4]))
      (by decide +kernel)

/-- The bounds that budgets are drawn from pass their check exactly when settings with them are
accepted. -/
theorem checkBounds_eq_ok :
    settings.checkBounds = .ok () ↔ CampaignSettings.hasValidBounds settings = true := by
  have positive : ∀ done : Unit,
      (if settings.batchSize.min = 0 then throw (.invalidBounds .noCircuits) else pure () :
        Except Error Unit) = .ok done ↔ settings.batchSize.min ≠ 0 := by
    intro done
    split <;> simp [*, throw, throwThe, MonadExceptOf.throw, pure, Except.pure]
  simp only [checkBounds, bind_eq_ok, Bounds.validate_eq_ok, positive]
  simp [CampaignSettings.hasValidBounds, Quantity.lt, and_assoc]

/-- Bounds that would not be accepted are refused before a budget is drawn. -/
theorem drawBudgets_refused (invalid : CampaignSettings.hasValidBounds settings = false) (s : ρ) :
    ∃ e, (settings.drawBudgets : Draw ρ Budgets).run s = (.error e, s) := by
  cases checked : settings.checkBounds with
  | ok =>
    rw [checkBounds_eq_ok.mp checked] at invalid
    contradiction
  | error e =>
    refine ⟨e, ?_⟩
    unfold drawBudgets
    rw [checked]
    rfl

/-- Budgets that are drawn lie within their bounds. -/
theorem drawBudgets_meets [LawfulRandomSource ρ] (passed : settings.checkBounds = .ok ())
    (valid : CampaignSettings.hasValidBounds settings = true) :
    Meets (fun _ => False) (settings.drawBudgets : Draw ρ Budgets) fun budgets =>
      budgets.values = settings.values ∧
        (settings.rewrites.min ≤ budgets.rewrites ∧ budgets.rewrites ≤ settings.rewrites.max) ∧
        settings.batchSize.min ≤ budgets.batchSize ∧
          budgets.batchSize ≤ settings.batchSize.max := by
  simp only [CampaignSettings.hasValidBounds, Bool.and_eq_true, decide_eq_true_eq] at valid
  obtain ⟨⟨⟨-, rewrites⟩, batchSize⟩, -⟩ := valid
  have checked : Contract (fun _ => False) (fun _ => True) settings.checkBounds := by
    rw [passed]
    trivial
  refine Meets.bind (Meets.check checked) fun _ _ => ?_
  refine Meets.bind (Meets.lift (countBetween_within rewrites)) fun steps stepsWithin => ?_
  refine Meets.bind (Meets.lift (countBetween_within batchSize)) fun size sizeWithin => ?_
  exact Meets.pure ⟨rfl, stepsWithin, sizeWithin⟩

variable {budgets : Budgets} {shape : Shape} {iterative : Bool}

/-- Budgets as they are drawn make a bundle, if rules may be tried. -/
theorem generates (valid : CampaignSettings.hasValidBounds settings = true)
    (values : budgets.values = settings.values) (rewrites : budgets.rewrites < 2 ^ 64)
    (batchSize : settings.batchSize.min ≤ budgets.batchSize) (attempts : shape.ruleAttempts ≠ 0)
    (s : ρ) : ∃ bundle,
      (((Generator.mk settings.ruleSet shape).generate budgets iterative).run s).1 = .ok bundle ∧
        bundle.Complete shape budgets := by
  simp only [CampaignSettings.hasValidBounds, Bool.and_eq_true, decide_eq_true_eq] at valid
  obtain ⟨⟨⟨ordered, -⟩, -⟩, positive⟩ := valid
  have finite : (totalWeight ((settings.ruleSet : RuleSet ρ).rules.map (·.weight))).isFinite :=
    ruleSet_isFinite
  have closed : (settings.ruleSet : RuleSet ρ).Closed budgets.values :=
    ruleSet_fromCatalogue.closed _
  have nonempty : (settings.ruleSet : RuleSet ρ).rules ≠ [] := ruleSet_nonempty
  generalize (settings.ruleSet : RuleSet ρ) = rules at finite closed nonempty
  refine @Generator.generate_complete _ _ ⟨rules, shape⟩ _ _ closed finite rewrites ?_
    (fun lacks => nonempty lacks.1) s
  rintro (inverted | empty | none)
  · exact UInt32.not_le.mpr (values ▸ inverted) ordered
  · omega
  · exact attempts none

/-- Where no rule may be tried the same budgets are refused. -/
theorem refuses (valid : CampaignSettings.hasValidBounds settings = true)
    (values : budgets.values = settings.values)
    (batchSize : settings.batchSize.min ≤ budgets.batchSize) (none : shape.ruleAttempts = 0)
    (s : ρ) : ((Generator.mk settings.ruleSet shape).generate budgets iterative).run s =
      (.error (.invalidBounds .noAttempts), s) := by
  simp only [CampaignSettings.hasValidBounds, Bool.and_eq_true, decide_eq_true_eq] at valid
  obtain ⟨⟨⟨ordered, -⟩, -⟩, positive⟩ := valid
  refine Generator.generate_refused ?_ s
  have inRange : ¬ budgets.values.max < budgets.values.min := by
    rw [values]
    exact UInt32.not_lt.mpr ordered
  have circuits : budgets.batchSize ≠ 0 := by omega
  simp [Generator.checkBudgets, Bounds.validate, Quantity.lt, inRange, circuits, none]
  rfl

end GenerationSettings

namespace CampaignSettings

/-- That settings are accepted, or refused for their bounds, tells whether the bounds are valid. -/
theorem hasValidBounds_of_validate (settings : CampaignSettings) :
    (settings.validate = .ok () → hasValidBounds settings.generation = true) ∧
      ∀ why, settings.validate = .error (.bounds why) →
        hasValidBounds settings.generation = false := by
  cases empty : settings.targets.isEmpty <;>
    cases unknown : settings.targets.find? fun target =>
      (Target.vocabulary.find? target.name).isNone <;>
    cases valid : hasValidBounds settings.generation <;>
    simp [validate, empty, unknown, valid, bind, Except.bind, throw, throwThe,
      MonadExceptOf.throw, pure, Except.pure]

/-- Settings that are refused for their bounds give no budgets from any source. With accepted ones
budgets within the bounds are drawn from every source, and a complete bundle is generated with them
whatever the operators are, unless no attempt at a rule is allowed: then every bundle is refused
before anything is drawn for it. -/
theorem accepted_generates [LawfulRandomSource ρ] {settings : CampaignSettings}
    (counted : settings.generation.rewrites.max < 2 ^ 64) (pool : Option (List Operator)) (s : ρ) :
    let generation := settings.generation
    let shape := { generation.shape with operators := pool }
    let drawn := (generation.drawBudgets : Draw ρ Budgets).run s
    (∀ why, settings.validate = .error (.bounds why) → ∃ e, drawn = (.error e, s)) ∧
    (settings.validate = .ok () → ∃ budgets, drawn.1 = .ok budgets ∧
      budgets.values = generation.values ∧
      (generation.rewrites.min ≤ budgets.rewrites ∧ budgets.rewrites ≤ generation.rewrites.max) ∧
      (generation.batchSize.min ≤ budgets.batchSize ∧
        budgets.batchSize ≤ generation.batchSize.max) ∧
      let made := ((Generator.mk generation.ruleSet shape).generate budgets
        generation.iterative).run drawn.2
      (generation.shape.ruleAttempts ≠ 0 → ∃ bundle, made.1 = .ok bundle ∧
        bundle.Complete shape budgets) ∧
      (generation.shape.ruleAttempts = 0 →
        made = (.error (.invalidBounds .noAttempts), drawn.2))) := by
  intro generation shape drawn
  refine ⟨fun why refused => ?_, fun accepted => ?_⟩
  · exact GenerationSettings.drawBudgets_refused
      ((hasValidBounds_of_validate settings).2 why refused) s
  have valid := (hasValidBounds_of_validate settings).1 accepted
  have passed := GenerationSettings.checkBounds_eq_ok.mpr valid
  obtain ⟨budgets, made, values, rewrites, batchSize⟩ :=
    (GenerationSettings.drawBudgets_meets passed valid).exists_ok s
  have short := rewrites.2.trans_lt counted
  -- the pool changes the operators of the shape and nothing that is checked
  have sameAttempts : shape.ruleAttempts = generation.shape.ruleAttempts := rfl
  refine ⟨budgets, made, values, rewrites, batchSize, ?_⟩
  clear_value shape drawn
  rw [← sameAttempts]
  exact ⟨fun attempts => GenerationSettings.generates valid values short batchSize.1 attempts _,
    fun none => GenerationSettings.refuses valid values batchSize.1 none _⟩

theorem accepted_generates_default : ∃ budgets bundle,
    (((({} : CampaignSettings).generation.drawBudgets : Draw ChaCha Budgets).run
      (ChaCha.ofSeed 7)).1 = .ok budgets ∧ budgets.rewrites ≤ 5 ∧ budgets.batchSize ≤ 10) ∧
      (((Generator.mk ({} : CampaignSettings).generation.ruleSet {}).generate budgets true).run
        ((({} : CampaignSettings).generation.drawBudgets : Draw ChaCha Budgets).run
          (ChaCha.ofSeed 7)).2).1 = .ok bundle := by
  obtain ⟨-, generates⟩ := @accepted_generates ChaCha _ _ {} (by decide) none (ChaCha.ofSeed 7)
  obtain ⟨budgets, drawn, -, rewrites, batchSize, made, -⟩ := generates rfl
  obtain ⟨bundle, generated, -⟩ := made (by decide)
  exact ⟨budgets, bundle, ⟨drawn, rewrites.2, batchSize.2⟩, generated⟩

/-- Default settings, but for rules that may never be tried. -/
def withoutAttempts : CampaignSettings :=
  { generation := { shape := { ruleAttempts := 0 } } }

/-- Settings that allow no attempt at a rule are accepted, budgets are drawn from them, and there
is no bundle. -/
theorem withoutAttempts_refused :
    withoutAttempts.validate = .ok () ∧ ∃ budgets,
      ((withoutAttempts.generation.drawBudgets : Draw ChaCha Budgets).run
        (ChaCha.ofSeed 0)).1 = .ok budgets ∧
      (((Generator.mk withoutAttempts.generation.ruleSet withoutAttempts.generation.shape).generate
        budgets withoutAttempts.generation.iterative).run
          ((withoutAttempts.generation.drawBudgets : Draw ChaCha Budgets).run
            (ChaCha.ofSeed 0)).2).1 = .error (.invalidBounds .noAttempts) := by
  have valid : hasValidBounds withoutAttempts.generation = true := by decide
  have passed := GenerationSettings.checkBounds_eq_ok.mpr valid
  obtain ⟨budgets, drawn, values, -, batchSize⟩ :=
    (GenerationSettings.drawBudgets_meets passed valid).exists_ok (ChaCha.ofSeed 0)
  refine ⟨rfl, budgets, drawn, ?_⟩
  rw [GenerationSettings.refuses valid values batchSize.1 rfl]

end CampaignSettings

end Metamorph
