import Metamorph.Proofs.Random.ChaCha
import Metamorph.Proofs.Rewrite.Soundness

/-! # Applying a rule

What comes of applying a rule that keeps values, in all cases. A tree that the rule does not match
is left alone, and nothing is drawn for it. On a well kinded tree that it matches the rule gives a
replacement, unless it needs a literal that is out of range; and the replacement stands for the
tree. That its new constants come from the range needs a source that keeps to the range. -/

namespace Metamorph

namespace Rule

variable {ρ : Type} {name : String} {weight : Float} {effect : Effect} {test : Expr → Bool}

/-- Nothing is drawn for a tree that a rule does not match. -/
theorem apply_unmatched {rule : Rule ρ} {e : Expr} (unmatched : rule.matchesTree e = false)
    (values : Bounds UInt32) (s : ρ) : (rule.apply values e).run s = (.ok none, s) := by
  simp only [apply, unmatched, Bool.not_false, if_true]
  rfl

/-- Applying a rule to a tree that it matches is building, where there is a word in the range or none
is drawn. -/
theorem apply_matched {rule : Rule ρ} {e : Expr} (matched : rule.matchesTree e = true)
    {values : Bounds UInt32} (filled : rule.usesRange = true → values.min ≤ values.max) (s : ρ) :
    (rule.apply values e).run s = (.ok (rule.build values e s).1, (rule.build values e s).2) := by
  have drawable : (rule.usesRange && decide (values.max < values.min)) = false := by
    cases uses : rule.usesRange with
    | false => rfl
    | true => simpa using filled uses
  simp only [apply, matched, drawable, Bool.not_true, Bool.false_eq_true, if_false]
  rfl

/-- What a rule makes of a well kinded tree that it matches: nothing where it lacks a literal, and
elsewhere a tree that stands for the other, with new constants from the range only. -/
def Answers [RandomSource ρ] (lacks : Bounds UInt32 → Prop) (rule : Rule ρ) : Prop :=
  ∀ (values : Bounds UInt32) (e : Expr) (kind : Kind), values.min ≤ values.max → e.HasKind kind →
    rule.matchesTree e = true → ∀ s : ρ, ∃ result s',
      (rule.apply values e).run s = (.ok result, s') ∧ (result = none ↔ lacks values) ∧
        ∀ r, result = some r → StandsFor (values.contains · = true) e kind r

variable [RandomSource ρ] {lacks : Bounds UInt32 → Prop}

theorem fixed_answers {build : Expr → Option Expr} (never : ∀ values, ¬ lacks values)
    (h : ∀ {fresh e kind}, e.HasKind kind → test e = true →
      ∃ r, build e = some r ∧ StandsFor fresh e kind r) :
    (fixed name weight effect test build : Rule ρ).Answers lacks := by
  intro values e kind ordered wellKinded matched s
  obtain ⟨made, built, stands⟩ := h wellKinded matched
  refine ⟨some made, s, ?_, by simpa using never values, ?_⟩
  · rw [apply_matched matched fun _ => ordered]
    simp only [fixed, built]
    rfl
  · rintro r ⟨⟩
    exact stands

theorem withLiteral_answers {word : UInt32} {build : Expr → Expr → Option Expr}
    (exactly : ∀ values, lacks values ↔ values.contains word = false)
    (h : ∀ {fresh : UInt32 → Prop} {e kind}, e.HasKind kind → test e = true → fresh word →
      ∃ r, build (.field word) e = some r ∧ StandsFor fresh e kind r) :
    (withLiteral name weight effect test word build : Rule ρ).Answers lacks := by
  intro values e kind ordered wellKinded matched s
  cases inRange : values.contains word with
  | false =>
      refine ⟨none, s, ?_, by simp [exactly, inRange], by simp⟩
      rw [apply_matched matched fun _ => ordered]
      simp only [withLiteral, inRange]
      rfl
  | true =>
      obtain ⟨made, built, stands⟩ :=
        @h (values.contains · = true) e kind wellKinded matched inRange
      refine ⟨some made, s, ?_, by simp [exactly, inRange], ?_⟩
      · rw [apply_matched matched fun _ => ordered]
        simp only [withLiteral, inRange, built]
        rfl
      · rintro r ⟨⟩
        exact stands

theorem withWord_answers [LawfulRandomSource ρ] {build : UInt32 → Expr → Expr} {wanted : Kind}
    (never : ∀ values, ¬ lacks values)
    (typed : ∀ {e kind}, e.HasKind kind → test e = true → kind = wanted)
    (h : ∀ {fresh : UInt32 → Prop} {e word}, e.HasKind wanted → fresh word →
      StandsFor fresh e wanted (build word e)) :
    (withWord name weight effect test build : Rule ρ).Answers lacks := by
  intro values e kind ordered wellKinded matched s
  obtain rfl := typed wellKinded matched
  have drawn : values.contains (drawWord values s).1 = true :=
    FreshWord.contains ordered (.inr ⟨s, rfl⟩)
  refine ⟨some (build (drawWord values s).1 e), (drawWord values s).2, ?_,
    by simpa using never values, ?_⟩
  · rw [apply_matched matched fun _ => ordered]
    rfl
  · rintro r ⟨⟩
    exact @h (values.contains · = true) e _ wellKinded drawn

end Rule

namespace Catalogue

variable {ρ : Type} [RandomSource ρ] [LawfulRandomSource ρ]

/-- The literal that a rule of the catalogue cannot do without is out of range. -/
def Lacks (name : String) (values : Bounds UInt32) : Prop :=
  name = "mul_identity" ∧ values.contains 1 = false ∨
    name = "shift_amount_mask" ∧ values.contains 31 = false

/-- The rules that keep values give a replacement wherever they match, those with a literal if it
is in range. -/
theorem preserving_answers :
    ∀ rule ∈ (preserving : List (Rule ρ)), rule.Answers (Lacks rule.name) := by
  simp only [preserving, List.forall_mem_cons, List.not_mem_nil, false_implies, implies_true,
    and_true]
  have others {name : String} (plain : ["mul_identity", "shift_amount_mask"].contains name = false)
      (values : Bounds UInt32) : ¬ Lacks name values := by
    simp_all [Lacks]
  exact ⟨Rule.fixed_answers (others rfl) swapOperands_standsFor,
    Rule.fixed_answers (others rfl) flipComparison_standsFor,
    Rule.fixed_answers (others rfl) negateComparison_standsFor,
    Rule.withWord_answers (others rfl) field_of_isField addThenSubtract_standsFor,
    Rule.withWord_answers (others rfl) field_of_isField xorTwice_standsFor,
    Rule.fixed_answers (others rfl) subtractionAsSum_standsFor,
    Rule.fixed_answers (others rfl) doubleNegation_standsFor,
    Rule.fixed_answers (others rfl) doubleNot_standsFor,
    Rule.withLiteral_answers (by simp [Lacks, Rule.withLiteral]) timesOne_standsFor,
    Rule.fixed_answers (others rfl) distribute_standsFor,
    Rule.withWord_answers (others rfl) field_of_isField divideAndRestore_standsFor,
    Rule.fixed_answers (others rfl) deMorgan_standsFor,
    Rule.withWord_answers (others rfl) bool_of_isBool throughField_standsFor,
    Rule.fixed_answers (others rfl) xorAsInequality_standsFor,
    Rule.withLiteral_answers (by simp [Lacks, Rule.withLiteral]) maskAmount_standsFor⟩

end Catalogue

namespace RuleSet

variable {ρ : Type} [RandomSource ρ] [LawfulRandomSource ρ]

/-- A rule of the standard set leaves a tree that it does not match alone, with nothing drawn. To a
well kinded tree that it matches it gives a replacement, unless it needs the literal 1 or 31 and that
is out of range. The replacement is of the same kind, has the same value in every environment that
suits the tree, uses only variables of the tree, and has only constants of the tree and words of the
range. -/
theorem standard_apply {rule : Rule ρ} (member : rule ∈ (standard : RuleSet ρ).rules)
    {values : Bounds UInt32} (ordered : values.min ≤ values.max) (e : Expr) (s : ρ) :
    (rule.matchesTree e = false → (rule.apply values e).run s = (.ok none, s)) ∧
    (rule.matchesTree e = true → ∀ kind, e.checkKinds = .ok kind →
      ∃ result s', (rule.apply values e).run s = (.ok result, s') ∧
        (result = none ↔ rule.name = "mul_identity" ∧ values.contains 1 = false ∨
          rule.name = "shift_amount_mask" ∧ values.contains 31 = false) ∧
        ∀ r, result = some r →
          r.checkKinds = .ok kind ∧
          (∀ env, e.Suits env → r.evaluate env = e.evaluate env) ∧
          r.occurrences ⊆ e.occurrences ∧
          ∀ c ∈ r.constants, c ∈ e.constants ∨ c.1 = .field ∧ values.contains c.2 = true) := by
  refine ⟨fun unmatched => Rule.apply_unmatched unmatched values s, fun matched kind accepted => ?_⟩
  have wellKinded : e.HasKind kind := Expr.checkKinds_eq_ok.mp accepted
  obtain ⟨result, s', applied, declined, replaced⟩ :=
    Catalogue.preserving_answers rule member values e kind ordered wellKinded matched s
  refine ⟨result, s', applied, declined, fun r made => ?_⟩
  have stands := replaced r made
  refine ⟨Expr.checkKinds_eq_ok.mpr stands.hasKind, stands.evaluate, stands.occurrences, ?_⟩
  intro c found
  refine (stands.constants c found).imp_right ?_
  rintro ⟨word, rfl, inRange⟩
  exact ⟨rfl, inRange⟩

/-- A division by zero, taken apart and put together again. -/
theorem standard_apply_zeroDivisor :
    let e := BinaryOp.div.on (.var .field "f0") (.field 0)
    let rule : Rule ChaCha := .withWord "div_rem_decompose" 0.5 .preserving Catalogue.isField
      Catalogue.divideAndRestore
    rule ∈ (standard : RuleSet ChaCha).rules ∧ rule.matchesTree e = true ∧
      e.checkKinds = .ok .field ∧
      ∃ result s', (rule.apply ⟨0, 0⟩ e).run (ChaCha.ofSeed 3) = (.ok result, s') ∧
        (result = none ↔ rule.name = "mul_identity" ∧ (⟨0, 0⟩ : Bounds UInt32).contains 1 = false ∨
          rule.name = "shift_amount_mask" ∧ (⟨0, 0⟩ : Bounds UInt32).contains 31 = false) ∧
        ∀ r, result = some r →
          r.checkKinds = .ok .field ∧
          (∀ env, e.Suits env → r.evaluate env = e.evaluate env) ∧
          r.occurrences ⊆ e.occurrences ∧
          ∀ c ∈ r.constants,
            c ∈ e.constants ∨ c.1 = .field ∧ (⟨0, 0⟩ : Bounds UInt32).contains c.2 = true := by
  intro e rule
  have member : rule ∈ (standard : RuleSet ChaCha).rules := by
    simp [rule, standard, Catalogue.preserving]
  exact ⟨member, rfl, rfl, (standard_apply member (by decide) e _).2 rfl .field rfl⟩

end RuleSet

end Metamorph
