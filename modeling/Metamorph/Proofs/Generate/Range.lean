import Metamorph.Proofs.Generate.Equivalence
import Metamorph.Proofs.Generate.Success

/-! # Bundles keep to their range

Every constant of a bundle is a word of the range that the budgets give, and so is the value of
every word among the inputs. Seeds are grown of such words; a rule of the catalogue, whether or
not it keeps values, moves the constants that it finds and adds only words that lie in the range
or are drawn from it. -/

namespace Metamorph

variable {ρ : Type} [RandomSource ρ]

/-- A constant at the end of a derivation stood in the tree at its start, or is a word that a
rule may put in. -/
theorem Derivation.mem_constants {rules : RuleSet ρ} {values : Bounds UInt32} {start e : Expr}
    {plans : List (Plan ρ)} {kind : Kind} (h : Derivation rules values start plans e)
    (wellKinded : start.HasKind kind) (replacing : ∀ rule ∈ rules.rules, rule.Replacing) :
    ∀ c ∈ e.constants,
      c ∈ start.constants ∨ ∃ word, c = (.field, word) ∧ FreshWord ρ values word := by
  induction h with
  | start => exact fun c member => .inl member
  | step earlier honest replaced ih =>
      intro c member
      have splice := Derivation.splice honest replaced
      rcases splice.mem_constants member with kept | new
      · exact ih c kept
      · have replaces := honest.makes (earlier.hasKind wellKinded) (replacing _ honest.member)
        rcases replaces.constants c new with moved | fresh
        · exact ih c (splice.constants_target moved)
        · exact .inr fresh

namespace Generator

variable {generator : Generator ρ} {budgets : Budgets} {iterative : Bool} {bundle : Bundle}

/-- A bundle is only made with a range that is not empty. -/
theorem ordered_of_generate {s : ρ}
    (made : ((generator.generate budgets iterative).run s).1 = .ok bundle) :
    budgets.values.min ≤ budgets.values.max := by
  by_contra inverted
  have empty : budgets.values.max < budgets.values.min := UInt32.not_le.mp inverted
  rcases checkBudgets_cases generator budgets with
    ⟨-, fault, refused⟩ | ⟨valid, -⟩ | ⟨valid, -⟩
  · simp [generate_refused refused s] at made
  · exact valid (.inl empty)
  · exact valid (.inl empty)

/-- Every constant of a bundle is a word of the range, every word among the recorded inputs lies
in the range, and every truth value among them is 0 or 1. -/
theorem generate_withinRange [LawfulRandomSource ρ] {s : ρ}
    (fromCatalogue : generator.rules.FromCatalogue)
    (made : ((generator.generate budgets iterative).run s).1 = .ok bundle) :
    ∀ circuit ∈ bundle.circuits,
      (∀ path kind value, circuit.root.at? path = some (.const kind value) →
        kind = .field ∧ budgets.values.contains value = true) ∧
      ∀ input ∈ circuit.inputs,
        (input.kind = .field → budgets.values.contains input.value = true) ∧
          (input.kind = .bool → input.value = 0 ∨ input.value = 1) := by
  have steps : Meets (fun _ => True)
      (generator.shape.distribution.drawSteps budgets.rewrites : Draw ρ Nat) fun _ => True :=
    (Meets.drawn _).mono fun _ _ => trivial
  obtain ⟨seed, variants, yields⟩ := (generate_meets (runs_anyhow steps)).ok made
  have ordered := ordered_of_generate made
  obtain ⟨source, drawn⟩ := yields.drawn
  have fresh := Always.drawn (drawWord budgets.values : StateM ρ UInt32)
  obtain ⟨inputsFresh, constantsFresh⟩ := drawn ▸ Shape.randomSeed_fresh fresh source
  have derived : ∀ circuit ∈ bundle.circuits, circuit.inputs = seed.inputs ∧
      ∀ c ∈ circuit.root.constants, ∃ word, c = (.field, word) ∧
        FreshWord ρ budgets.values word := by
    have seedFresh : ∀ c ∈ seed.root.constants, ∃ word, c = (.field, word) ∧
        FreshWord ρ budgets.values word := fun c member =>
      (constantsFresh c member).imp fun word ⟨same, drawn⟩ => ⟨same, .inr drawn⟩
    intro circuit member
    rw [yields.circuits] at member
    rcases List.mem_cons.mp member with rfl | later
    · exact ⟨rfl, seedFresh⟩
    · obtain ⟨-, number, steps, plans, -, descent⟩ := yields.descends later
      refine ⟨descent.records.inputs, fun c found => ?_⟩
      have origin := descent.records.derivation.mem_constants yields.wellFormed.wellKinded
        (fun rule listed => fromCatalogue.replacing listed) c found
      exact origin.elim (seedFresh c) id
  intro circuit member
  obtain ⟨inputs, constants⟩ := derived circuit member
  constructor
  · intro path kind value found
    obtain ⟨word, same, allowed⟩ := constants _ (Expr.mem_constants_of_at? found)
    obtain ⟨rfl, rfl⟩ := Prod.mk.inj same
    exact ⟨rfl, allowed.contains ordered⟩
  · rw [inputs]
    intro input listed
    refine ⟨fun isField => ?_, fun isBool => ?_⟩
    · exact FreshWord.contains ordered (.inr (inputsFresh input listed isField))
    · simpa [isBool, Kind.Admits] using yields.wellFormed.admitted input listed

theorem generate_withinRange_narrow : ∃ bundle,
    (((⟨.withPerturbing, { maxDepth := 2 }⟩ : Generator ChaCha).generate ⟨⟨7, 9⟩, 3, 2⟩ true).run
      (ChaCha.ofSeed 11)).1 = .ok bundle ∧
    ∀ circuit ∈ bundle.circuits,
      (∀ path kind value, circuit.root.at? path = some (.const kind value) →
        kind = .field ∧ (⟨7, 9⟩ : Bounds UInt32).contains value = true) ∧
      ∀ input ∈ circuit.inputs,
        (input.kind = .field → (⟨7, 9⟩ : Bounds UInt32).contains input.value = true) ∧
          (input.kind = .bool → input.value = 0 ∨ input.value = 1) := by
  obtain ⟨bundle, made⟩ : ∃ bundle,
      (((⟨.withPerturbing, { maxDepth := 2 }⟩ : Generator ChaCha).generate ⟨⟨7, 9⟩, 3, 2⟩ true).run
        (ChaCha.ofSeed 11)).1 = .ok bundle :=
    exists_eq_ok (by decide +kernel)
  exact ⟨bundle, made, generate_withinRange RuleSet.withPerturbing_fromCatalogue made⟩

end Generator

end Metamorph
