import Metamorph.Expr.Path
import Metamorph.Proofs.Generate.Comparison
import Metamorph.Proofs.Rewrite.Soundness

/-! # What seeds look like

A seed is made of what its shape offers. Its operators are drawn from the pool of the shape, and
where the pool has none for a kind there is a leaf: an input, a word of the range, or a truth value
written as a comparison of such a word with itself.

The depth of a shape counts operators of the pool. A truth value written as a comparison counts as a
leaf there, but has a level of its own below it. So a seed is at most one level deeper than its
shape says, and it is deeper exactly when there is such a truth value at the last level. -/

namespace Metamorph

variable {ρ : Type} [RandomSource ρ]

/-! ## What seeds are made of -/

/-- A seed that has nothing but what its shape offers. Its root is of the kind that the shape asks
for, its operators come from the pool but for those of written truth values, its variables are its
inputs, and every node has children of the kinds that its signature takes. -/
structure Shape.Offers (shape : Shape) (values : Bounds UInt32) (seed : Circuit) : Prop where
  output : seed.root.kind = shape.outputKind
  operators : seed.root.Everywhere
    (Expr.OperatorFrom (shape.operators.getD Operator.all) (values.contains · = true))
  declared : ∀ path kind name, seed.root.at? path = some (.var kind name) →
    ∃ input ∈ seed.inputs, input.name = name ∧ input.kind = kind
  signatures : seed.root.Everywhere Expr.KeepsSignature
  wellKinded : seed.root.checkKinds = .ok shape.outputKind

/-- Every seed is made of what its shape offers. -/
theorem Shape.randomSeed_offers [LawfulRandomSource ρ] {shape : Shape} {values : Bounds UInt32}
    (ordered : values.min ≤ values.max) :
    Always (shape.randomSeed values : StateM ρ Circuit) (shape.Offers values) := by
  have words : Always (drawWord values : StateM ρ UInt32) (values.contains · = true) :=
    fun s => FreshWord.contains ordered (.inr ⟨s, rfl⟩)
  refine Always.bind (Always.drawn _) fun inputs _ => ?_
  refine Always.bind (Soil.randomTree_grows words) fun root grown => Always.pure ?_
  obtain ⟨output, signatures⟩ := Expr.hasKind_iff_nodes.mp grown.hasKind
  refine ⟨output, grown.operators, fun path kind name found => ?_, signatures,
    Expr.checkKinds_eq_ok.mpr grown.hasKind⟩
  exact grown.declared kind name (Expr.mem_occurrences_iff.mpr ⟨path, found⟩)

namespace Generator

/-- The seed that generation draws first, and that every bundle begins with, is made of what the
shape offers: whatever the pool, operators from elsewhere stand in it only where a word of the range
is compared with itself for a truth value, and it is well kinded. -/
theorem generate_seed_offers [LawfulRandomSource ρ] (generator : Generator ρ) {budgets : Budgets}
    (ordered : budgets.values.min ≤ budgets.values.max) (s : ρ) :
    let seed := ((generator.shape.randomSeed budgets.values).run s).1
    generator.shape.Offers budgets.values seed ∧
      ∀ iterative bundle, ((generator.generate budgets iterative).run s).1 = .ok bundle →
        bundle.seed? = some seed := by
  intro seed
  refine ⟨Shape.randomSeed_offers ordered s, fun iterative bundle made => ?_⟩
  obtain ⟨-, first, middle, variants, drawn, -, -, -, joined⟩ :=
    run_generate_eq_ok.mp (Prod.ext made rfl)
  obtain rfl : seed = first := congrArg Prod.fst drawn
  rw [Bundle.seed?, joined]
  rfl

/-- A pool of casts, and of no operator for the truth values that they take. -/
theorem generate_seed_offers_casts :
    let shape : Shape := { operators := some [.cast, .cast], boolVariables := 0 }
    let generator : Generator ChaCha := ⟨.standard, shape⟩
    let budgets : Budgets := ⟨⟨7, 9⟩, 2, 2⟩
    let seed := ((shape.randomSeed budgets.values).run (ChaCha.ofSeed 5)).1
    budgets.values.min ≤ budgets.values.max ∧ shape.Offers budgets.values seed ∧
      ∃ bundle, ((generator.generate budgets true).run (ChaCha.ofSeed 5)).1 = .ok bundle ∧
        bundle.seed? = some seed := by
  intro shape generator budgets seed
  obtain ⟨bundle, made⟩ : ∃ bundle,
      ((generator.generate budgets true).run (ChaCha.ofSeed 5)).1 = .ok bundle :=
    exists_eq_ok (by decide +kernel)
  have ordered : budgets.values.min ≤ budgets.values.max := by decide
  obtain ⟨offers, begins⟩ := generate_seed_offers generator ordered (ChaCha.ofSeed 5)
  exact ⟨ordered, offers, bundle, made, begins true bundle made⟩

end Generator

/-! ## How deep seeds are -/

/-- What stands at the end of a path is as far below the root as the path is long. -/
theorem Expr.length_add_depth_le {e node : Expr} {path : Path} (found : e.at? path = some node) :
    path.length + node.depth ≤ e.depth := by
  fun_induction Expr.at? e path with
  | case1 e =>
      obtain rfl : e = node := by simpa using found
      simp
  | case2 kind op operand rest ih | case3 kind operand rest ih =>
      have below := ih found
      simp only [List.length_cons, Expr.depth]
      omega
  | case4 kind op lhs rhs rest ih | case5 kind op lhs rhs rest ih =>
      have below := ih found
      simp only [List.length_cons, Expr.depth]
      omega
  | case6 => simp at found

@[simp] theorem Expr.depth_truth {value : Bool} {word : UInt32} :
    (Expr.truth value word).depth = 1 := by
  cases value <;> rfl

namespace Soil.Grows

variable {soil : Soil} {fresh : UInt32 → Prop} {depth : Nat} {kind : Kind} {e : Expr}

theorem depth_le (h : soil.Grows fresh depth kind e) : e.depth ≤ depth + 1 := by
  induction h with
  | input | word => simp [Expr.depth, Expr.field]
  | truth => simp
  | unary _ _ ih | cast _ _ ih => simpa [UnaryOp.on, Expr.toField, Expr.depth] using ih
  | binary _ _ _ ihl ihr => simp [BinaryOp.on, Expr.depth, ihl, ihr]

/-- Only a truth value as a leaf at the last level makes a tree deeper. -/
theorem exists_truth (h : soil.Grows fresh depth kind e) (deeper : depth < e.depth) :
    ∃ path value word, path.length = depth ∧ e.at? path = some (.truth value word) := by
  induction h with
  | input | word => simp [Expr.depth, Expr.field] at deeper
  | @truth depth value word =>
      obtain rfl : depth = 0 := by simpa using deeper
      exact ⟨[], value, word, rfl, by simp [Expr.at?]⟩
  | unary _ _ ih | cast _ _ ih =>
      obtain ⟨path, value, word, rfl, found⟩ :=
        ih (by simpa [UnaryOp.on, Expr.toField, Expr.depth] using deeper)
      exact ⟨0 :: path, value, word, rfl, found⟩
  | @binary depth _ lhs rhs _ _ _ ihl ihr =>
      have side : depth < lhs.depth ∨ depth < rhs.depth := by
        simpa [BinaryOp.on, Expr.depth] using deeper
      rcases side with left | right
      · obtain ⟨path, value, word, rfl, found⟩ := ihl left
        exact ⟨0 :: path, value, word, rfl, found⟩
      · obtain ⟨path, value, word, rfl, found⟩ := ihr right
        exact ⟨1 :: path, value, word, rfl, found⟩

end Soil.Grows

/-- A seed is as deep as its shape allows, or deeper by one level under a truth value. -/
theorem Shape.randomSeed_depth {shape : Shape} {values : Bounds UInt32} :
    Always (shape.randomSeed values : StateM ρ Circuit) fun seed =>
      seed.root.depth ≤ shape.maxDepth + 1 ∧
        (shape.maxDepth < seed.root.depth → ∃ path value word, path.length = shape.maxDepth ∧
          seed.root.at? path = some (.truth value word)) := by
  refine Always.bind (Always.drawn _) fun inputs _ => ?_
  refine Always.bind (Soil.randomTree_grows (Always.drawn _)) fun root grown => Always.pure ?_
  exact ⟨grown.depth_le, grown.exists_truth⟩

namespace Generator

variable {generator : Generator ρ} {budgets : Budgets} {iterative : Bool} {bundle : Bundle}

/-- The tree of a seed has at most one level more than the depth of the shape, and it has that level
exactly when a truth value written as a comparison stands at the last level that the shape
allows. Every other seed keeps to the depth of its shape. -/
theorem generate_seed_depth {s : ρ}
    (made : ((generator.generate budgets iterative).run s).1 = .ok bundle) :
    ∃ seed, bundle.seed? = some seed ∧ seed.root.depth ≤ generator.shape.maxDepth + 1 ∧
      (generator.shape.maxDepth < seed.root.depth ↔
        ∃ path value word, path.length = generator.shape.maxDepth ∧
          seed.root.at? path = some (.truth value word)) := by
  obtain ⟨seed, variants, yields⟩ := exists_yields made
  obtain ⟨source, drawn⟩ := yields.drawn
  obtain ⟨bounded, deeper⟩ := drawn ▸ Shape.randomSeed_depth source
  refine ⟨seed, by simp [Bundle.seed?, yields.circuits], bounded, deeper, ?_⟩
  rintro ⟨path, value, word, last, found⟩
  have below := Expr.length_add_depth_le found
  rw [Expr.depth_truth] at below
  omega

theorem generate_seed_depth_default : ∃ bundle,
    (((⟨.standard, {}⟩ : Generator ChaCha).generate ⟨⟨0, 100⟩, 5, 3⟩ true).run
      (ChaCha.ofSeed 7)).1 = .ok bundle ∧
    ∃ seed, bundle.seed? = some seed ∧ seed.root.depth ≤ 4 + 1 ∧
      (4 < seed.root.depth ↔ ∃ path value word, path.length = 4 ∧
        seed.root.at? path = some (.truth value word)) := by
  obtain ⟨bundle, made⟩ : ∃ bundle,
      (((⟨.standard, {}⟩ : Generator ChaCha).generate ⟨⟨0, 100⟩, 5, 3⟩ true).run
        (ChaCha.ofSeed 7)).1 = .ok bundle :=
    exists_eq_ok (by decide +kernel)
  exact ⟨bundle, made, generate_seed_depth made⟩

/-- A shape of depth 0 for a truth value may be given a seed of depth 1. -/
theorem seed_deeper_than_shape :
    let shape : Shape := { maxDepth := 0, boolVariables := 0, outputKind := .bool }
    ((((⟨.standard, shape⟩ : Generator ChaCha).generate ⟨⟨0, 9⟩, 0, 1⟩ true).run
      (ChaCha.ofSeed 1)).1.toOption.bind Bundle.seed?).map (·.root.depth) =
        some (shape.maxDepth + 1) := by
  decide +kernel

end Generator

end Metamorph
