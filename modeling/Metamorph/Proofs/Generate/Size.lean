import Metamorph.Proofs.Bundle.Binary
import Metamorph.Proofs.Generate.Equivalence
import Metamorph.Proofs.Generate.Success

/-! # Bundles fit into words

The bytes of a bundle have room for lists and texts whose lengths take 64 bits. Names are short
when the numbers in them are, and there are no more circuits, inputs and rewrites than were asked
for, so that a bundle fits as soon as the counts that it was asked for do. -/

namespace Metamorph

variable {ρ : Type} [RandomSource ρ]

/-- No character takes more than four bytes. -/
theorem Text.utf8ByteSize_le (text : String) : text.utf8ByteSize ≤ 4 * text.length := by
  suffices ∀ chars : List Char, (String.ofList chars).utf8ByteSize ≤ 4 * chars.length by
    simpa only [String.ofList_toList, String.length_toList] using this text.toList
  intro chars
  induction chars with
  | nil => exact Nat.zero_le _
  | cons c chars ih =>
    have most := c.utf8Size_le_four
    rw [String.ofList_cons, String.utf8ByteSize_append, String.utf8ByteSize_singleton,
      List.length_cons]
    omega

/-- A short word with a number of 64 bits fits. -/
theorem Text.fits_numbered {word : String} (short : word.length ≤ 8) {number : Nat}
    (counted : number < 2 ^ 64) : Fits (word ++ toString number) := by
  have digits : (toString number).length ≤ 20 :=
    Nat.repr_length number 20 (by decide) (counted.trans (by decide))
  have bytes := utf8ByteSize_le (word ++ toString number)
  rw [String.length_append] at bytes
  rw [Fits]
  omega

theorem Catalogue.names_eq : (preserving ++ perturbing : List (Rule ρ)).map (·.name) =
    ["commute", "flip_comparison", "negate_comparison", "add_sub_constant", "xor_twice",
      "sub_to_add_neg", "double_negation", "double_not", "mul_identity", "mul_distribute",
      "div_rem_decompose", "de_morgan", "bool_roundtrip", "xor_as_ne", "shift_amount_mask",
      "off_by_one", "swap_subtraction", "negate_bool"] :=
  rfl

/-- A rule from the catalogue has one of its names. -/
theorem RuleSet.FromCatalogue.name_mem {set : RuleSet ρ} (h : set.FromCatalogue) {rule : Rule ρ}
    (member : rule ∈ set.rules) :
    rule.name ∈ (Catalogue.preserving ++ Catalogue.perturbing : List (Rule ρ)).map (·.name) := by
  obtain ⟨original, listed, weight, rfl⟩ := h rule member
  exact List.mem_map.mpr ⟨original, listed, rfl⟩

theorem Catalogue.fits_names :
    ∀ name ∈ (preserving ++ perturbing : List (Rule ρ)).map (·.name), Text.Fits name := by
  rw [names_eq]
  decide +kernel

theorem RuleSet.FromCatalogue.fits_name {set : RuleSet ρ} (h : set.FromCatalogue) {rule : Rule ρ}
    (member : rule ∈ set.rules) : Text.Fits rule.name :=
  Catalogue.fits_names _ (h.name_mem member)

theorem Expr.variableNames_eq (e : Expr) : e.variableNames = e.occurrences.map Prod.snd := by
  induction e with
  | const | var => rfl
  | unary _ _ _ ih | cast _ _ ih => exact ih
  | binary _ _ _ _ left right => simp [variableNames, occurrences, left, right]

/-- The variables of a valid circuit are inputs. -/
theorem Circuit.WellFormed.exists_input {circuit : Circuit} (wellFormed : circuit.WellFormed)
    {name : String} (used : name ∈ circuit.root.variableNames) :
    ∃ input ∈ circuit.inputs, input.name = name := by
  rw [Expr.variableNames_eq] at used
  obtain ⟨⟨kind, name⟩, occurs, rfl⟩ := List.mem_map.mp used
  obtain ⟨input, member, named, -⟩ := wellFormed.declared kind name occurs
  exact ⟨input, member, named⟩

/-- The variables of a valid circuit fit if its inputs do. -/
theorem Circuit.WellFormed.fits_root {circuit : Circuit} (wellFormed : circuit.WellFormed)
    (inputs : ∀ input ∈ circuit.inputs, input.Fits) : circuit.root.Fits := by
  intro name used
  obtain ⟨input, member, rfl⟩ := wellFormed.exists_input used
  exact inputs input member

namespace Shape

variable {shape : Shape} {values : Bounds UInt32}

theorem randomSeed_inputNames : Always (shape.randomSeed values : StateM ρ Circuit) fun seed =>
    seed.inputs.map (·.name) = shape.inputNames := by
  refine Always.bind (randomInputs_good (Always.drawn _)) fun inputs ⟨names, _⟩ => ?_
  exact Always.bind (Always.drawn _) fun root _ => Always.pure names

theorem fits_inputNames (counted : shape.fieldVariables + shape.boolVariables < 2 ^ 64) :
    ∀ name ∈ shape.inputNames, Text.Fits name := by
  intro name member
  obtain word | truth := List.mem_append.mp member
  · obtain ⟨i, bound, rfl⟩ := List.mem_map.mp word
    have bound := List.mem_range.mp bound
    exact Text.fits_numbered (by decide) (by omega)
  · obtain ⟨i, bound, rfl⟩ := List.mem_map.mp truth
    have bound := List.mem_range.mp bound
    exact Text.fits_numbered (by decide) (by omega)

end Shape

namespace Generator

variable {generator : Generator ρ} {budgets : Budgets} {iterative : Bool} {bundle : Bundle}
  {seed : Circuit} {variants : List Circuit} {counted : Nat → Prop}

/-- No two circuits of a bundle have one name. -/
theorem Yields.names_nodup
    (h : generator.Yields counted budgets iterative bundle seed variants) :
    bundle.names.Nodup := by
  obtain ⟨source, drawn⟩ := h.drawn
  obtain ⟨-, named, -⟩ := drawn ▸ Shape.randomSeed_wellFormed source
  rw [Bundle.names, h.circuits, List.map_cons, h.names, named, List.nodup_cons]
  constructor
  · intro member
    obtain ⟨i, -, same⟩ := List.mem_map.mp member
    have heads := congrArg (·.toList.head?) same
    simp [variantName, Shape.seedName] at heads
  · refine List.nodup_range.map fun i j same => ?_
    have numbers := Nat.repr_injective (String.append_right_inj _ |>.mp same)
    omega

theorem Yields.fits
    (h : generator.Yields (· ≤ budgets.rewrites) budgets iterative bundle seed variants)
    (fromCatalogue : generator.rules.FromCatalogue) (rewrites : budgets.rewrites < 2 ^ 64)
    (circuits : budgets.batchSize < 2 ^ 64)
    (inputs : generator.shape.fieldVariables + generator.shape.boolVariables < 2 ^ 64) :
    bundle.Fits := by
  obtain ⟨source, drawn⟩ := h.drawn
  obtain ⟨-, seedName, -⟩ := drawn ▸ Shape.randomSeed_wellFormed source
  have inputNames : seed.inputs.map (·.name) = generator.shape.inputNames :=
    drawn ▸ Shape.randomSeed_inputNames source
  have unrecorded := (drawn ▸ randomSeed_untouched source).1
  have sizes : seed.inputs.length < 2 ^ 64 ∧ ∀ input ∈ seed.inputs, input.Fits := by
    constructor
    · rw [← List.length_map (·.name), inputNames]
      simpa [Shape.inputNames] using inputs
    · intro input member
      refine Shape.fits_inputNames inputs _ ?_
      rw [← inputNames]
      exact List.mem_map_of_mem member
  have names : ∀ variant ∈ variants, Text.Fits variant.name := by
    intro variant member
    have listed := List.mem_map_of_mem (f := Circuit.name) member
    rw [h.names] at listed
    obtain ⟨i, bound, same⟩ := List.mem_map.mp listed
    have bound := List.mem_range.mp bound
    rw [← same]
    exact Text.fits_numbered (by decide) (by omega)
  rw [Bundle.Fits, h.circuits, List.length_cons, ← (List.Forall₂.length_eq h.descend),
    List.length_range, List.forall_mem_cons]
  -- the seed has no rewrites, and its variants have the inputs of the seed
  refine ⟨by omega, ⟨?_, sizes, h.wellFormed.fits_root sizes.2, ?_⟩, fun variant member => ?_⟩
  · rw [seedName]
    decide +kernel
  · simp [unrecorded]
  · obtain ⟨wellFormed, number, steps, plans, short, descent⟩ := h.descends member
    have shared : variant.inputs = seed.inputs := descent.records.inputs
    have recorded : variant.rewrites = plans.map (·.rewriting.rule.name) := by
      simp [descent.records.rewrites, unrecorded]
    rw [← shared] at sizes
    refine ⟨names variant member, sizes, wellFormed.fits_root sizes.2, ?_, ?_⟩
    · rw [recorded, List.length_map]
      exact (descent.short.trans short).trans_lt rewrites
    · rw [recorded]
      intro name listed
      obtain ⟨plan, used, rfl⟩ := List.mem_map.mp listed
      exact fromCatalogue.fits_name (descent.records.derivation.rule_mem plan used)

end Generator

end Metamorph
