import Metamorph.Proofs.Campaign.Acceptance
import Metamorph.Proofs.Campaign.Rounds
import Metamorph.Proofs.Generate.Size

/-! # The bundles of rounds

Whatever a source gives, the circuits of a bundle that a campaign draws have different names, and
where the counts in the settings are words of a machine the bundle fits into a file. -/

namespace Metamorph

variable {ρ : Type} [RandomSource ρ]

/-- The counts in settings are words of 64 bits, and so is the number of inputs. -/
structure GenerationSettings.Counted (settings : GenerationSettings) : Prop where
  rewrites : settings.rewrites.max < 2 ^ 64
  circuits : settings.batchSize.max < 2 ^ 64
  inputs : settings.shape.fieldVariables + settings.shape.boolVariables < 2 ^ 64

/-- Budgets that were drawn are not above their bounds. -/
theorem GenerationSettings.le_of_drawBudgets [LawfulRandomSource ρ] {settings : GenerationSettings}
    {budgets : Budgets} {s : ρ} (drawn : (settings.drawBudgets.run s).1 = .ok budgets) :
    budgets.rewrites ≤ settings.rewrites.max ∧ budgets.batchSize ≤ settings.batchSize.max := by
  cases valid : CampaignSettings.hasValidBounds settings with
  | true =>
    have within := (drawBudgets_meets (checkBounds_eq_ok.mpr valid) valid).ok drawn
    exact ⟨within.2.1.2, within.2.2.2⟩
  | false =>
    obtain ⟨e, refused⟩ := drawBudgets_refused valid s
    rw [refused] at drawn
    cases drawn

namespace Campaign

variable {campaign : Campaign} {shape : Shape} {source : ρ} {round : Round}

/-- The choice of operators leaves the number of inputs as it is. -/
theorem inputs_of_shape (known : campaign.shape = .ok shape) :
    shape.fieldVariables = campaign.generation.shape.fieldVariables ∧
      shape.boolVariables = campaign.generation.shape.boolVariables := by
  unfold Campaign.shape at known
  dsimp only at known
  split at known
  · obtain rfl := Except.ok.inj known
    exact ⟨rfl, rfl⟩
  · obtain ⟨preferred, -, chosen⟩ := bind_eq_ok.mp known
    obtain rfl := Except.ok.inj chosen
    exact ⟨rfl, rfl⟩

theorem names_nodup_of_mem (member : round ∈ campaign.rounds source) :
    round.bundle.names.Nodup := by
  obtain ⟨shape, -, budgets, -, s, generated⟩ := drawn_of_mem member
  obtain ⟨seed, variants, yields⟩ := Generator.exists_yields generated
  exact yields.names_nodup

theorem fits_of_mem [LawfulRandomSource ρ] (counted : campaign.generation.Counted)
    (member : round ∈ campaign.rounds source) : round.bundle.Fits := by
  obtain ⟨shape, known, budgets, ⟨start, drawn⟩, s, generated⟩ := drawn_of_mem member
  obtain ⟨rewrites, circuits⟩ := GenerationSettings.le_of_drawBudgets drawn
  obtain ⟨words, truths⟩ := inputs_of_shape known
  have runs : Generator.Runs (fun _ => True) (· ≤ budgets.rewrites)
      (Generator.mk (campaign.generation.ruleSet : RuleSet ρ) shape) budgets :=
    Generator.runs_anyhow Generator.drawSteps_le
  obtain ⟨seed, variants, yields⟩ := (Generator.generate_meets runs).ok generated
  refine yields.fits GenerationSettings.ruleSet_fromCatalogue (rewrites.trans_lt counted.rewrites)
    (circuits.trans_lt counted.circuits) ?_
  rw [words, truths]
  exact counted.inputs

end Campaign

end Metamorph
