import Metamorph.Generate.Seed
import Metamorph.Proofs.Circuit.WellFormed
import Metamorph.Proofs.Expr.HasKind
import Metamorph.Proofs.Random.Choice

/-! # How seeds grow

Whatever the source gives, a random tree is built of declared inputs, words of the range and
operators of the pool, each over operands of its kinds. A seed is such a tree over inputs of
different names, so every seed is a valid circuit of the kind that the shape asks for. -/

namespace Metamorph

/-- The trees of a kind that may grow in a soil, with operators down to a depth only. A truth
value that is written as a comparison of words is a leaf here. -/
inductive Soil.Grows (soil : Soil) (fresh : UInt32 → Prop) : Nat → Kind → Expr → Prop where
  | input {depth input} (member : input ∈ soil.inputs) :
      Grows soil fresh depth input.kind (.var input.kind input.name)
  | word {depth word} (drawn : fresh word) : Grows soil fresh depth .field (.field word)
  | truth {depth value word} (drawn : fresh word) :
      Grows soil fresh depth .bool (.truth value word)
  | unary {depth op operand} (member : .unary op ∈ soil.pool)
      (below : Grows soil fresh depth op.operandKind operand) :
      Grows soil fresh (depth + 1) op.resultKind (op.on operand)
  | binary {depth op lhs rhs} (member : .binary op ∈ soil.pool)
      (left : Grows soil fresh depth op.operandKind lhs)
      (right : Grows soil fresh depth op.operandKind rhs) :
      Grows soil fresh (depth + 1) op.resultKind (op.on lhs rhs)
  | cast {depth operand} (member : .cast ∈ soil.pool)
      (below : Grows soil fresh depth .bool operand) :
      Grows soil fresh (depth + 1) .field operand.toField

/-- The operator of a node, if it has one. -/
def Expr.operator? : Expr → Option Operator
  | .const _ _ => none
  | .var _ _ => none
  | .unary _ op _ => some (.unary op)
  | .binary _ op _ _ => some (.binary op)
  | .cast _ _ => some .cast

/-- The operator of a node comes from a pool, or it compares a fresh word with itself to write a
truth value. -/
def Expr.OperatorFrom (pool : List Operator) (fresh : UInt32 → Prop) (node : Expr) : Prop :=
  ∀ op, node.operator? = some op → op ∈ pool ∨ ∃ value word, fresh word ∧ node = .truth value word

namespace Soil

variable {ρ : Type} [RandomSource ρ] {soil : Soil} {fresh : UInt32 → Prop} {depth : Nat}
  {kind : Kind} {e : Expr}

theorem Grows.hasKind (h : soil.Grows fresh depth kind e) : e.HasKind kind := by
  induction h with
  | input => exact .var
  | word => exact Expr.hasKind_field
  | truth => exact Expr.hasKind_truth
  | unary _ _ ih => exact UnaryOp.hasKind_on ih
  | binary _ _ _ ihl ihr => exact BinaryOp.hasKind_on ihl ihr
  | cast _ _ ih => exact Expr.hasKind_toField ih

/-- The variables of a grown tree are inputs of the soil. -/
theorem Grows.declared (h : soil.Grows fresh depth kind e) :
    ∀ kind name, (kind, name) ∈ e.occurrences →
      ∃ input ∈ soil.inputs, input.name = name ∧ input.kind = kind := by
  induction h with
  | input member =>
      intro kind name used
      obtain ⟨rfl, rfl⟩ := Prod.mk.inj (List.mem_singleton.mp used)
      exact ⟨_, member, rfl, rfl⟩
  | word | truth => simp
  | unary _ _ ih | cast _ _ ih => exact ih
  | binary _ _ _ ihl ihr =>
      intro kind name used
      rcases List.mem_append.mp used with left | right
      · exact ihl kind name left
      · exact ihr kind name right

/-- The constants of a grown tree are words, and fresh ones. -/
theorem Grows.constants (h : soil.Grows fresh depth kind e) :
    ∀ c ∈ e.constants, ∃ word, c = (.field, word) ∧ fresh word := by
  induction h with
  | input => simp [Expr.constants]
  | word drawn =>
      intro c member
      exact ⟨_, List.mem_singleton.mp member, drawn⟩
  | truth drawn =>
      intro c member
      exact ⟨_, by simpa using member, drawn⟩
  | unary _ _ ih | cast _ _ ih => exact ih
  | binary _ _ _ ihl ihr =>
      intro c member
      rcases List.mem_append.mp member with left | right
      · exact ihl c left
      · exact ihr c right

/-- The operators of a grown tree are those of the pool, but for the comparisons that truth values
are written as. -/
theorem Grows.operators (h : soil.Grows fresh depth kind e) :
    e.Everywhere (Expr.OperatorFrom soil.pool fresh) := by
  have leaf (word : UInt32) : (Expr.field word).Everywhere (Expr.OperatorFrom soil.pool fresh) := by
    simp [Expr.field, Expr.OperatorFrom, Expr.operator?]
  induction h with
  | input => simp [Expr.OperatorFrom, Expr.operator?]
  | word => exact leaf _
  | @truth _ value word drawn =>
      have comparison : (Expr.truth value word).OperatorFrom soil.pool fresh :=
        fun op _ => .inr ⟨value, word, drawn, rfl⟩
      exact Expr.everywhere_binary.mpr ⟨comparison, leaf word, leaf word⟩
  | unary member _ ih =>
      refine Expr.everywhere_unary.mpr ⟨fun op same => .inl ?_, ih⟩
      exact Option.some.inj same ▸ member
  | binary member _ _ ihl ihr =>
      refine Expr.everywhere_binary.mpr ⟨fun op same => .inl ?_, ihl, ihr⟩
      exact Option.some.inj same ▸ member
  | cast member _ ih =>
      refine Expr.everywhere_cast.mpr ⟨fun op same => .inl ?_, ih⟩
      exact Option.some.inj same ▸ member

/-- What is drawn from a part of a list that is not empty is in the list and in the part. -/
theorem drawFiltered_mem {α : Type} {items : List α} {p : α → Bool} {first : α} {rest : List α}
    (filtered : items.filter p = first :: rest) :
    Always (drawItem first rest : StateM ρ α) fun a => a ∈ items ∧ p a = true := by
  refine drawItem_mem.mono fun a member => ?_
  rwa [← filtered, List.mem_filter] at member

theorem randomLiteral_grows
    (words : Always (drawWord soil.values : StateM ρ UInt32) fresh) :
    Always (soil.randomLiteral kind : StateM ρ Expr) (soil.Grows fresh depth kind) := by
  cases kind with
  | field => exact Always.bind words fun word drawn => Always.pure (.word drawn)
  | bool =>
      refine Always.bind (Always.drawn _) fun value _ => ?_
      exact Always.bind words fun word drawn => Always.pure (.truth drawn)

theorem randomLeaf_grows (words : Always (drawWord soil.values : StateM ρ UInt32) fresh) :
    Always (soil.randomLeaf kind : StateM ρ Expr) (soil.Grows fresh depth kind) := by
  unfold randomLeaf
  split
  · exact randomLiteral_grows words
  · rename_i filtered
    refine Always.bind (Always.drawn _) fun heads _ => ?_
    cases heads with
    | true =>
        refine Always.bind (drawFiltered_mem filtered) fun input found => ?_
        obtain rfl : input.kind = kind := of_decide_eq_true found.2
        exact Always.pure (.input found.1)
    | false => exact randomLiteral_grows words

/-- A random tree grows in its soil, down to the depth that it is given. -/
theorem randomTree_grows (words : Always (drawWord soil.values : StateM ρ UInt32) fresh)
    {isRoot : Bool} :
    Always (soil.randomTree depth isRoot kind : StateM ρ Expr) (soil.Grows fresh depth kind) := by
  induction depth generalizing isRoot kind with
  | zero => exact randomLeaf_grows words
  | succ depth ih =>
      unfold randomTree
      split
      · exact randomLeaf_grows words
      · rename_i filtered
        dsimp only
        -- At the root the coin is a draw that gives `false`.
        split
        all_goals
          refine Always.bind (Always.drawn _) fun stop _ => ?_
          split
          · exact randomLeaf_grows words
          · refine Always.bind (drawFiltered_mem filtered) fun op found => ?_
            obtain rfl : op.resultKind = kind := of_decide_eq_true found.2
            cases op with
            | unary op =>
                exact Always.bind ih fun operand below => Always.pure (.unary found.1 below)
            | binary op =>
                refine Always.bind ih fun lhs left => ?_
                exact Always.bind ih fun rhs right => Always.pure (.binary found.1 left right)
            | cast => exact Always.bind ih fun operand below => Always.pure (.cast found.1 below)

end Soil

namespace Shape

variable {ρ : Type} [RandomSource ρ] {shape : Shape} {values : Bounds UInt32}

/-- The names that a shape gives to its inputs. -/
def inputNames (shape : Shape) : List String :=
  (List.range shape.fieldVariables).map (fun i => "f" ++ toString i) ++
    (List.range shape.boolVariables).map fun i => "b" ++ toString i

theorem numbered_nodup (letter : String) (count : Nat) :
    ((List.range count).map fun i => letter ++ toString i).Nodup := by
  refine List.nodup_range.map fun i j same => ?_
  exact Nat.repr_injective (by simpa using same)

theorem inputNames_nodup : shape.inputNames.Nodup := by
  refine (numbered_nodup "f" _).append (numbered_nodup "b" _) fun name word truth => ?_
  obtain ⟨i, -, rfl⟩ := List.mem_map.mp word
  obtain ⟨j, -, same⟩ := List.mem_map.mp truth
  have heads := congrArg (·.toList.head?) same
  simp at heads

/-- Inputs have the names of the shape and words of their kinds; where any word is of the kind,
it is a fresh one. -/
theorem randomInputs_good {fresh : UInt32 → Prop}
    (fromRange : Always (drawWord values : StateM ρ UInt32) fresh) :
    Always (shape.randomInputs values : StateM ρ (List Input)) fun inputs =>
      inputs.map (·.name) = shape.inputNames ∧ ∀ input ∈ inputs,
        input.kind.Admits input.value ∧ (input.kind = .field → fresh input.value) := by
  have family : ∀ (letter : String) (count : Nat) (draw : Nat → StateM ρ Input),
      (∀ i, Always (draw i) fun input => input.name = letter ++ toString i ∧
        input.kind.Admits input.value ∧ (input.kind = .field → fresh input.value)) →
      Always ((List.range count).mapM draw) fun inputs =>
        inputs.map (·.name) = (List.range count).map (fun i => letter ++ toString i) ∧
          ∀ input ∈ inputs,
            input.kind.Admits input.value ∧ (input.kind = .field → fresh input.value) := by
    intro letter count draw each
    refine (Always.mapM _ fun i _ => each i).mono fun inputs related => ?_
    generalize List.range count = numbers at related
    induction related with
    | nil => simp
    | cons first _ ih => simpa [first.1, ih.1] using ⟨first.2, ih.2⟩
  refine Always.bind (family "f" _ _ fun i => ?_) fun words ⟨wordNames, wordsGood⟩ => ?_
  · exact Always.bind fromRange fun word drawn => Always.pure ⟨rfl, trivial, fun _ => drawn⟩
  refine Always.bind (family "b" _ _ fun i => ?_) fun truths ⟨truthNames, truthsGood⟩ => ?_
  · refine Always.bind (Always.drawn _) fun value _ => Always.pure ⟨rfl, ?_, by simp⟩
    exact Kind.admits_ofBool _ value
  refine Always.pure ⟨by simp [inputNames, wordNames, truthNames], fun input member => ?_⟩
  rcases List.mem_append.mp member with word | truth
  · exact wordsGood input word
  · exact truthsGood input truth

/-- Every seed is well formed and of the kind that the shape asks for. -/
theorem randomSeed_wellFormed :
    Always (shape.randomSeed values : StateM ρ Circuit) fun seed =>
      seed.WellFormed ∧ seed.name = seedName ∧ seed.outputKind = shape.outputKind := by
  refine Always.bind (randomInputs_good (Always.drawn _)) fun inputs ⟨names, good⟩ => ?_
  refine Always.bind (Soil.randomTree_grows (Always.drawn _)) fun root grown => Always.pure ?_
  have admitted := fun input member => (good input member).1
  have wellKinded := grown.hasKind
  have output : root.kind = shape.outputKind := wellKinded.kind_eq
  refine ⟨⟨names ▸ inputNames_nodup, admitted, ?_, grown.declared⟩, rfl, output⟩
  exact (output ▸ wellKinded : root.HasKind root.kind)

/-- The only words of a seed are fresh ones, those of its inputs and those of its tree. -/
theorem randomSeed_fresh {fresh : UInt32 → Prop}
    (fromRange : Always (drawWord values : StateM ρ UInt32) fresh) :
    Always (shape.randomSeed values : StateM ρ Circuit) fun seed =>
      (∀ input ∈ seed.inputs, input.kind = .field → fresh input.value) ∧
        ∀ c ∈ seed.root.constants, ∃ word, c = (.field, word) ∧ fresh word := by
  refine Always.bind (randomInputs_good fromRange) fun inputs ⟨_, good⟩ => ?_
  refine Always.bind (Soil.randomTree_grows fromRange) fun root grown => Always.pure ?_
  exact ⟨fun input member => (good input member).2, grown.constants⟩

end Shape

end Metamorph
