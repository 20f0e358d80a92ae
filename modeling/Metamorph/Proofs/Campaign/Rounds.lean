import Metamorph.Campaign.Run
import Metamorph.Proofs.Random.Contract

/-! # The rounds of a campaign

Which rounds a campaign plays is decided by its settings of generation, its target and its random
source, and by nothing that happens while it plays them. -/

namespace Metamorph.Campaign

variable {ρ : Type} [RandomSource ρ]

/-- The rounds that are drawn one after the other, up to the first that cannot be drawn. -/
def drawRounds (campaign : Campaign) (shape : Shape) : (left number : Nat) → ρ → List Round
  | 0, _, _ => []
  | left + 1, number, source =>
    match (campaign.drawRound shape number : Draw ρ Round) source with
    | (.error _, _) => []
    | (.ok round, source) => round :: campaign.drawRounds shape left (number + 1) source

-- The equations of `drawRounds` are derived here, ahead of the proofs that open it.
attribute [local grind =] drawRounds

/-- The rounds of a campaign with a random source. -/
def rounds (campaign : Campaign) (source : ρ) : List Round :=
  match campaign.shape with
  | .ok shape => campaign.drawRounds shape campaign.bundles 0 source
  | .error _ => []

variable {campaign other : Campaign} {shape : Shape} {left number : Nat} {source : ρ}
  {round : Round}

/-! ## What rounds are drawn from -/

/-- The settings of two campaigns that have a say in what is drawn are the same. -/
structure Alike (campaign other : Campaign) : Prop where
  target : campaign.target = other.target
  generation : campaign.generation = other.generation
  bundles : campaign.bundles = other.bundles
  faultInjection : campaign.settings.faultInjection = other.settings.faultInjection
  enabledInjections : campaign.settings.enabledInjections = other.settings.enabledInjections
  preferredInstructions :
    campaign.settings.preferredInstructions = other.settings.preferredInstructions

theorem Alike.shape_eq (alike : campaign.Alike other) : campaign.shape = other.shape := by
  rw [Campaign.shape, Campaign.shape, alike.generation, alike.preferredInstructions]

theorem Alike.drawRound_eq (alike : campaign.Alike other) (shape : Shape) (number : Nat) :
    (campaign.drawRound shape number : Draw ρ Round) = other.drawRound shape number := by
  -- of all settings of the target the injection depends on these two only
  have injection : (campaign.target.selectInjection campaign.settings : Draw ρ _) =
      other.target.selectInjection other.settings := by
    rw [Target.selectInjection, Target.selectInjection, alike.target, alike.faultInjection,
      alike.enabledInjections]
  rw [Campaign.drawRound, Campaign.drawRound, alike.generation, injection]

theorem Alike.drawRounds_eq (alike : campaign.Alike other) (shape : Shape) (left number : Nat)
    (source : ρ) : campaign.drawRounds shape left number source =
      other.drawRounds shape left number source := by
  induction left generalizing number source with
  | zero => rfl
  | succ left ih =>
    rw [Campaign.drawRounds, Campaign.drawRounds, alike.drawRound_eq]
    split
    · rfl
    · rw [ih]

theorem Alike.rounds_eq (alike : campaign.Alike other) (source : ρ) :
    campaign.rounds source = other.rounds source := by
  rw [Campaign.rounds, Campaign.rounds, alike.shape_eq, alike.bundles]
  split
  · exact alike.drawRounds_eq ..
  · rfl

/-- What a round is drawn by: its bundle is generated with budgets of the settings. -/
def Drawn (ρ : Type) [RandomSource ρ] (campaign : Campaign) (shape : Shape) (round : Round) :
    Prop :=
  ∃ budgets : Budgets,
    (∃ s : ρ, (campaign.generation.drawBudgets.run s).1 = .ok budgets) ∧
      ∃ s : ρ, (((Generator.mk campaign.generation.ruleSet shape).generate budgets
        campaign.generation.iterative).run s).1 = .ok round.bundle

theorem drawRound_meets (campaign : Campaign) (shape : Shape) (number : Nat) :
    Meets (fun _ => True) (campaign.drawRound shape number : Draw ρ Round) fun round =>
      round.number = number ∧ campaign.Drawn ρ shape round := by
  refine Meets.bind (Meets.drawn _) fun budgets drawn => ?_
  refine Meets.bind (Meets.drawn _) fun bundle generated => ?_
  refine Meets.bind (Meets.drawn _) fun injection _ => ?_
  exact Meets.pure ⟨rfl, budgets, drawn, generated⟩

theorem drawn_of_mem_drawRounds (member : round ∈ campaign.drawRounds shape left number source) :
    campaign.Drawn ρ shape round := by
  induction left generalizing number source with
  | zero => cases member
  | succ left ih =>
    rw [Campaign.drawRounds] at member
    split at member
    · cases member
    · rename_i first rest drawn
      obtain rfl | member := List.mem_cons.mp member
      · exact ((drawRound_meets campaign shape number).ok (congrArg Prod.fst drawn)).2
      · exact ih member

theorem drawn_of_mem (member : round ∈ campaign.rounds source) :
    ∃ shape, campaign.shape = .ok shape ∧ campaign.Drawn ρ shape round := by
  rw [rounds] at member
  split at member
  · rename_i shape known
    exact ⟨shape, known, drawn_of_mem_drawRounds member⟩
  · cases member

/-! ## Numbers -/

theorem number_drawRound {rest : ρ}
    (drawn : (campaign.drawRound shape number : Draw ρ Round) source = (.ok round, rest)) :
    round.number = number :=
  ((drawRound_meets campaign shape number).ok (congrArg Prod.fst drawn)).1

theorem numbers_drawRounds :
    (campaign.drawRounds shape left number source).map (·.number) =
      List.range' number (campaign.drawRounds shape left number source).length := by
  induction left generalizing number source with
  | zero => rfl
  | succ left ih =>
    rw [Campaign.drawRounds]
    split
    · rfl
    · rename_i round rest drawn
      rw [List.map_cons, List.length_cons, List.range'_succ, ih, number_drawRound drawn]

theorem length_drawRounds_le : (campaign.drawRounds shape left number source).length ≤ left := by
  induction left generalizing number source with
  | zero => exact Nat.le_refl 0
  | succ left ih =>
    rw [Campaign.drawRounds]
    split
    · exact Nat.zero_le _
    · exact Nat.succ_le_succ ih

/-- Rounds are numbered from zero on. -/
theorem numbers_rounds (campaign : Campaign) (source : ρ) :
    (campaign.rounds source).map (·.number) = List.range (campaign.rounds source).length := by
  rw [rounds]
  split
  · rw [numbers_drawRounds, List.range_eq_range']
  · rfl

theorem rounds_increasing (campaign : Campaign) (source : ρ) :
    (campaign.rounds source).Pairwise fun round later => round.number < later.number := by
  rw [← List.pairwise_map (f := Round.number), numbers_rounds]
  exact List.pairwise_lt_range

theorem length_rounds_le (campaign : Campaign) (source : ρ) :
    (campaign.rounds source).length ≤ campaign.bundles := by
  rw [rounds]
  split
  · exact length_drawRounds_le
  · exact Nat.zero_le _

theorem number_lt (member : round ∈ campaign.rounds source) : round.number < campaign.bundles := by
  have listed := List.mem_map_of_mem (f := Round.number) member
  rw [numbers_rounds, List.mem_range] at listed
  exact listed.trans_le (campaign.length_rounds_le source)

/-- No number is given twice. -/
theorem number_inj {later : Round} (member : round ∈ campaign.rounds source)
    (also : later ∈ campaign.rounds source) (same : round.number = later.number) :
    round = later := by
  have distinct : ((campaign.rounds source).map (·.number)).Nodup := by
    rw [numbers_rounds]
    exact List.nodup_range
  exact List.inj_on_of_nodup_map distinct member also same

end Metamorph.Campaign
