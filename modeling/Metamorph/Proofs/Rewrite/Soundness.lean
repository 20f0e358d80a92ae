import Metamorph.Proofs.Rewrite.Laws

/-! # Soundness of the rules that keep values

Every rule that is meant to keep the value of a tree does so on every well kinded tree that
it matches and in every environment that suits the tree. What it builds is of the same kind,
has no variable of its own, and has no new constant but words that the rule may use. -/

namespace Metamorph

/-- A tree may take the place of another: it is of the same kind, uses only variables of the
other, and its new constants are fresh words. -/
structure Replaces (fresh : UInt32 → Prop) (e : Expr) (kind : Kind) (r : Expr) : Prop where
  hasKind : r.HasKind kind
  occurrences : r.occurrences ⊆ e.occurrences
  constants : ∀ c ∈ r.constants, c ∈ e.constants ∨ ∃ word, c = (.field, word) ∧ fresh word

/-- A tree may take the place of another and has the same value. -/
structure StandsFor (fresh : UInt32 → Prop) (e : Expr) (kind : Kind) (r : Expr) : Prop
    extends Replaces fresh e kind r where
  evaluate : ∀ env, e.Suits env → r.evaluate env = e.evaluate env

/-- The words that a rule may put into a tree: those of the range, and those drawn from it. -/
def FreshWord (ρ : Type) [RandomSource ρ] (values : Bounds UInt32) (word : UInt32) : Prop :=
  values.contains word = true ∨ ∃ s : ρ, word = (drawWord values s).1

/-- What rules put in comes from the range, when the source keeps to it. -/
theorem FreshWord.contains {ρ : Type} [RandomSource ρ] [LawfulRandomSource ρ]
    {values : Bounds UInt32} {word : UInt32} (ordered : values.min ≤ values.max)
    (fresh : FreshWord ρ values word) : values.contains word = true := by
  rcases fresh with inRange | ⟨s, rfl⟩
  · exact inRange
  · have within := LawfulRandomSource.wordBetween_mem s ordered
    exact Bool.and_eq_true_iff.mpr ⟨decide_eq_true within.1, decide_eq_true within.2⟩

namespace Catalogue

variable {fresh : UInt32 → Prop} {e : Expr} {kind : Kind} {word : UInt32}

/-- What a test for binary nodes finds in a well kinded tree. -/
theorem isBinary_cases {test : BinaryOp → Bool} (h : e.HasKind kind)
    (matched : isBinary test e = true) :
    ∃ op lhs rhs, e = BinaryOp.on op lhs rhs ∧ test op = true ∧ kind = op.resultKind ∧
      lhs.HasKind op.operandKind ∧ rhs.HasKind op.operandKind := by
  cases h with
  | binary left right => exact ⟨_, _, _, rfl, matched, rfl, left, right⟩
  | const | var | unary | cast => simp [isBinary, Expr.binaryOp, Expr.asBinary] at matched

/-- Both operands of a binary node have values of their kind. -/
theorem operand_values {op : BinaryOp} {lhs rhs : Expr} {env : Env}
    (left : lhs.HasKind op.operandKind) (right : rhs.HasKind op.operandKind)
    (suits : (op.on lhs rhs).Suits env) :
    ∃ a b, lhs.evaluate env = .ok a ∧ rhs.evaluate env = .ok b ∧
      op.operandKind.Admits a ∧ op.operandKind.Admits b := by
  obtain ⟨a, ha, admitsA⟩ := left.evaluate suits.left
  obtain ⟨b, hb, admitsB⟩ := right.evaluate suits.right
  exact ⟨a, b, ha, hb, admitsA, admitsB⟩

theorem field_of_isField (h : e.HasKind kind) (matched : isField e = true) : kind = .field := by
  simpa [isField, h.kind_eq] using matched

theorem bool_of_isBool (h : e.HasKind kind) (matched : isBool e = true) : kind = .bool := by
  simpa [isBool, h.kind_eq] using matched

/-- Operands of one kind may change places, whatever that does to the value. -/
theorem swapped_replaces {op : BinaryOp} {lhs rhs : Expr} (left : lhs.HasKind op.operandKind)
    (right : rhs.HasKind op.operandKind) :
    Replaces fresh (op.on lhs rhs) op.resultKind (op.on rhs lhs) := by
  refine ⟨BinaryOp.hasKind_on right left, by simp, fun c member => .inl ?_⟩
  simpa [or_comm] using member

theorem swapOperands_standsFor (h : e.HasKind kind)
    (matched : isBinary (·.isCommutative) e = true) :
    ∃ r, swapOperands e = some r ∧ StandsFor fresh e kind r := by
  obtain ⟨op, lhs, rhs, rfl, commutes, rfl, left, right⟩ := isBinary_cases h matched
  refine ⟨op.on rhs lhs, rfl, swapped_replaces left right, fun env suits => ?_⟩
  obtain ⟨a, b, ha, hb, -, -⟩ := operand_values left right suits
  rw [BinaryOp.evaluate_on hb ha, BinaryOp.evaluate_on ha hb, BinaryOp.apply_comm commutes]

theorem flipComparison_standsFor (h : e.HasKind kind)
    (matched : isBinary (·.isComparison) e = true) :
    ∃ r, flipComparison e = some r ∧ StandsFor fresh e kind r := by
  obtain ⟨op, lhs, rhs, rfl, compares, rfl, left, right⟩ := isBinary_cases h matched
  obtain ⟨other, flipped⟩ := BinaryOp.exists_flipped compares
  obtain ⟨operand, operand', result, result', agree⟩ := BinaryOp.flipped_spec flipped
  have built : flipComparison (op.on lhs rhs) = some (other.on rhs lhs) := by
    simp [flipComparison, BinaryOp.on, Expr.asBinary, flipped]
  refine ⟨_, built, ⟨⟨?_, by simp, ?_⟩, ?_⟩⟩
  · rw [result, ← result']
    rw [operand, ← operand'] at left right
    exact BinaryOp.hasKind_on right left
  · intro c member
    exact .inl (by simpa [or_comm] using member)
  · intro env suits
    obtain ⟨a, b, ha, hb, -, -⟩ := operand_values left right suits
    rw [BinaryOp.evaluate_on hb ha, BinaryOp.evaluate_on ha hb, agree]

theorem negateComparison_standsFor (h : e.HasKind kind)
    (matched : isBinary (·.isComparison) e = true) :
    ∃ r, negateComparison e = some r ∧ StandsFor fresh e kind r := by
  obtain ⟨op, lhs, rhs, rfl, compares, rfl, left, right⟩ := isBinary_cases h matched
  obtain ⟨other, negated⟩ := BinaryOp.exists_negated compares
  obtain ⟨operand, operand', result, result', denies⟩ := BinaryOp.negated_spec negated
  have built : negateComparison (op.on lhs rhs) = some (UnaryOp.not.on (other.on lhs rhs)) := by
    simp [negateComparison, BinaryOp.on, Expr.asBinary, negated]
  refine ⟨_, built, ⟨⟨?_, by simp, ?_⟩, ?_⟩⟩
  · rw [operand, ← operand'] at left right
    have below := BinaryOp.hasKind_on left right
    rw [result'] at below
    rw [result]
    exact UnaryOp.hasKind_on below
  · exact fun c member => .inl (by simpa using member)
  · intro env suits
    obtain ⟨a, b, ha, hb, -, -⟩ := operand_values left right suits
    rw [UnaryOp.evaluate_on (BinaryOp.evaluate_on ha hb), BinaryOp.evaluate_on ha hb, denies]

/-- An operator of words whose effect another one takes back. -/
theorem undone_standsFor {op undo : BinaryOp} (operand : op.operandKind = .field)
    (result : op.resultKind = .field) (operand' : undo.operandKind = .field)
    (result' : undo.resultKind = .field) (undoes : ∀ a b, undo.apply (op.apply a b) b = a)
    (h : e.HasKind .field) (drawn : fresh word) :
    StandsFor fresh e .field (undo.on (op.on e (.field word)) (.field word)) := by
  have literal : (Expr.field word).HasKind .field := Expr.hasKind_field
  refine ⟨⟨?_, by simp, ?_⟩, ?_⟩
  · have once := BinaryOp.hasKind_on (operand.symm ▸ h) (operand.symm ▸ literal)
    rw [result, ← operand'] at once
    rw [← result']
    exact BinaryOp.hasKind_on once (operand'.symm ▸ literal)
  · simp only [BinaryOp.constants_on, Expr.constants_field]
    grind
  · intro env suits
    obtain ⟨a, ha, -⟩ := h.evaluate suits
    rw [BinaryOp.evaluate_on (BinaryOp.evaluate_on ha Expr.evaluate_field) Expr.evaluate_field,
      undoes, ha]

theorem addThenSubtract_standsFor (h : e.HasKind .field) (drawn : fresh word) :
    StandsFor fresh e .field (addThenSubtract word e) :=
  undone_standsFor rfl rfl rfl rfl (fun _ _ => BinaryOp.add_sub_apply) h drawn

theorem xorTwice_standsFor (h : e.HasKind .field) (drawn : fresh word) :
    StandsFor fresh e .field (xorTwice word e) :=
  undone_standsFor rfl rfl rfl rfl (fun _ _ => BinaryOp.xor_xor_apply) h drawn

theorem subtractionAsSum_standsFor (h : e.HasKind kind) (matched : isBinary (· == .sub) e = true) :
    ∃ r, subtractionAsSum e = some r ∧ StandsFor fresh e kind r := by
  obtain ⟨op, lhs, rhs, rfl, isSub, rfl, left, right⟩ := isBinary_cases h matched
  obtain rfl : op = .sub := by simpa using isSub
  refine ⟨_, rfl, ⟨⟨?_, by simp, ?_⟩, ?_⟩⟩
  · exact BinaryOp.hasKind_on left (UnaryOp.hasKind_on right)
  · exact fun c member => .inl (by simpa using member)
  · intro env suits
    obtain ⟨a, b, ha, hb, -, -⟩ := operand_values left right suits
    rw [BinaryOp.evaluate_on ha (UnaryOp.evaluate_on hb), BinaryOp.evaluate_on ha hb,
      BinaryOp.add_neg_apply]

/-- An operator that takes itself back on the words of its kind. -/
theorem twice_standsFor {op : UnaryOp} (h : e.HasKind op.operandKind)
    (undoes : ∀ a, op.operandKind.Admits a → op.apply (op.apply a) = a) :
    ∃ r, twice op e = some r ∧ StandsFor fresh e op.operandKind r := by
  refine ⟨_, rfl, ⟨⟨UnaryOp.hasKind_on (UnaryOp.hasKind_on h), by simp, ?_⟩, ?_⟩⟩
  · exact fun c member => .inl (by simpa using member)
  · intro env suits
    obtain ⟨a, ha, admitted⟩ := h.evaluate suits
    rw [UnaryOp.evaluate_on (UnaryOp.evaluate_on ha), undoes a admitted, ha]

theorem doubleNegation_standsFor (h : e.HasKind kind) (matched : isField e = true) :
    ∃ r, twice .neg e = some r ∧ StandsFor fresh e kind r := by
  obtain rfl := field_of_isField h matched
  exact @twice_standsFor _ _ .neg h fun _ _ => BinaryOp.neg_neg_apply

theorem doubleNot_standsFor (h : e.HasKind kind) (matched : isBool e = true) :
    ∃ r, twice .not e = some r ∧ StandsFor fresh e kind r := by
  obtain rfl := bool_of_isBool h matched
  exact @twice_standsFor _ _ .not h fun _ admitted => BinaryOp.not_not_apply admitted

theorem timesOne_standsFor (h : e.HasKind kind) (matched : isField e = true) (inRange : fresh 1) :
    ∃ r, timesOne (.field 1) e = some r ∧ StandsFor fresh e kind r := by
  obtain rfl := field_of_isField h matched
  refine ⟨_, rfl, ⟨⟨BinaryOp.hasKind_on h Expr.hasKind_field, by simp, ?_⟩, ?_⟩⟩
  · simp only [BinaryOp.constants_on, Expr.constants_field]
    grind
  · intro env suits
    obtain ⟨a, ha, -⟩ := h.evaluate suits
    rw [BinaryOp.evaluate_on ha Expr.evaluate_field, BinaryOp.mul_one_apply, ha]

/-- What the test for a product with a sum finds in a well kinded tree: the sum stands on
either side, and the product is that of the other factor with it. -/
theorem isProductOfSum_cases (h : e.HasKind kind) (matched : isProductOfSum e = true) :
    ∃ factor b c, kind = .field ∧ factor.HasKind .field ∧ b.HasKind .field ∧ c.HasKind .field ∧
      distribute e = some (BinaryOp.add.on (BinaryOp.mul.on factor b) (BinaryOp.mul.on factor c)) ∧
      (e = BinaryOp.mul.on factor (BinaryOp.add.on b c) ∨
        e = BinaryOp.mul.on (BinaryOp.add.on b c) factor) := by
  have product : isBinary (· == .mul) e = true := by
    cases h with
    | @binary op _ _ _ _ =>
        cases op <;> simp_all [isProductOfSum, isBinary, Expr.binaryOp, Expr.asBinary]
    | const | var | unary | cast => simp [isProductOfSum, Expr.asBinary] at matched
  obtain ⟨op, lhs, rhs, rfl, isMul, rfl, left, right⟩ := isBinary_cases h product
  obtain rfl : op = .mul := by simpa using isMul
  have isSum : ∀ {side : Expr}, side.HasKind .field → side.binaryOp = some .add →
      ∃ b c, b.HasKind .field ∧ c.HasKind .field ∧ side = BinaryOp.add.on b c := by
    intro side wellKinded sum
    have sumNode : isBinary (· == .add) side = true := by simp [isBinary, sum]
    obtain ⟨op, b, c, rfl, isAdd, -, hb, hc⟩ := isBinary_cases wellKinded sumNode
    obtain rfl : op = .add := by simpa using isAdd
    exact ⟨b, c, hb, hc, rfl⟩
  by_cases onRight : rhs.binaryOp = some .add
  · obtain ⟨b, c, hb, hc, rfl⟩ := isSum right onRight
    exact ⟨lhs, b, c, rfl, left, hb, hc, rfl, .inl rfl⟩
  · have onLeft : lhs.binaryOp = some .add := by
      simpa [isProductOfSum, BinaryOp.on, Expr.asBinary, onRight] using matched
    obtain ⟨b, c, hb, hc, rfl⟩ := isSum left onLeft
    refine ⟨rhs, b, c, rfl, right, hb, hc, ?_, .inr rfl⟩
    simp only [distribute, BinaryOp.on, Expr.asBinary, onRight, if_false, bind, Option.bind, pure]

theorem distribute_standsFor (h : e.HasKind kind) (matched : isProductOfSum e = true) :
    ∃ r, distribute e = some r ∧ StandsFor fresh e kind r := by
  obtain ⟨factor, b, c, rfl, hf, hb, hc, built, shape⟩ := isProductOfSum_cases h matched
  refine ⟨_, built, ⟨⟨?_, ?_, ?_⟩, ?_⟩⟩
  · exact BinaryOp.hasKind_on (BinaryOp.hasKind_on hf hb) (BinaryOp.hasKind_on hf hc)
  · rcases shape with rfl | rfl <;> simp [List.subset_def] <;> tauto
  · rcases shape with rfl | rfl <;> simp <;> tauto
  · intro env suits
    have used : factor.Suits env ∧ b.Suits env ∧ c.Suits env := by
      rcases shape with rfl | rfl
      · exact ⟨suits.left, suits.right.left, suits.right.right⟩
      · exact ⟨suits.right, suits.left.left, suits.left.right⟩
    obtain ⟨f, ef, -⟩ := hf.evaluate used.1
    obtain ⟨v, ev, -⟩ := hb.evaluate used.2.1
    obtain ⟨w, ew, -⟩ := hc.evaluate used.2.2
    rw [BinaryOp.evaluate_on (BinaryOp.evaluate_on ef ev) (BinaryOp.evaluate_on ef ew),
      BinaryOp.mul_add_apply]
    rcases shape with rfl | rfl
    · rw [BinaryOp.evaluate_on ef (BinaryOp.evaluate_on ev ew)]
    · have commutes : BinaryOp.mul.isCommutative = true := rfl
      rw [BinaryOp.evaluate_on (BinaryOp.evaluate_on ev ew) ef, BinaryOp.apply_comm commutes]

theorem divideAndRestore_standsFor (h : e.HasKind .field) (drawn : fresh word) :
    StandsFor fresh e .field (divideAndRestore word e) := by
  have literal : (Expr.field word).HasKind .field := Expr.hasKind_field
  refine ⟨⟨?_, by simp [divideAndRestore], ?_⟩, ?_⟩
  · exact BinaryOp.hasKind_on (BinaryOp.hasKind_on (BinaryOp.hasKind_on h literal) literal)
      (BinaryOp.hasKind_on h literal)
  · simp only [divideAndRestore, BinaryOp.constants_on, Expr.constants_field]
    grind
  · intro env suits
    obtain ⟨a, ha, -⟩ := h.evaluate suits
    rw [divideAndRestore, BinaryOp.evaluate_on
      (BinaryOp.evaluate_on (BinaryOp.evaluate_on ha Expr.evaluate_field) Expr.evaluate_field)
      (BinaryOp.evaluate_on ha Expr.evaluate_field), BinaryOp.div_rem_apply, ha]

theorem deMorgan_standsFor (h : e.HasKind kind)
    (matched : isBinary (fun op => op == .and || op == .or) e = true) :
    ∃ r, deMorgan e = some r ∧ StandsFor fresh e kind r := by
  obtain ⟨op, lhs, rhs, rfl, logical, rfl, left, right⟩ := isBinary_cases h matched
  obtain ⟨other, dual⟩ : ∃ other, dual op = some other := by
    cases op <;> simp_all [Catalogue.dual]
  obtain ⟨operand, operand', result, result', agree⟩ := BinaryOp.dual_spec dual
  have built : deMorgan (op.on lhs rhs) =
      some (UnaryOp.not.on (other.on (UnaryOp.not.on lhs) (UnaryOp.not.on rhs))) := by
    simp [deMorgan, BinaryOp.on, Expr.asBinary, dual]
  refine ⟨_, built, ⟨⟨?_, by simp, ?_⟩, ?_⟩⟩
  · rw [operand] at left right
    have below : (other.on (UnaryOp.not.on lhs) (UnaryOp.not.on rhs)).HasKind other.resultKind :=
      BinaryOp.hasKind_on (operand' ▸ UnaryOp.hasKind_on left) (operand' ▸ UnaryOp.hasKind_on right)
    rw [result'] at below
    rw [result]
    exact UnaryOp.hasKind_on below
  · exact fun c member => .inl (by simpa using member)
  · intro env suits
    obtain ⟨a, b, ha, hb, -, -⟩ := operand_values left right suits
    rw [UnaryOp.evaluate_on (BinaryOp.evaluate_on (UnaryOp.evaluate_on ha)
      (UnaryOp.evaluate_on hb)), BinaryOp.evaluate_on ha hb, agree]

theorem throughField_standsFor (h : e.HasKind .bool) (drawn : fresh word) :
    StandsFor fresh e .bool (throughField word e) := by
  refine ⟨⟨?_, by simp [throughField], ?_⟩, ?_⟩
  · exact @BinaryOp.hasKind_on .eq _ _ (Expr.hasKind_toField h)
      (Expr.hasKind_toField Expr.hasKind_truth)
  · simp only [throughField, BinaryOp.constants_on, Expr.constants_toField, Expr.constants_truth]
    grind
  · intro env suits
    obtain ⟨a, ha, admitted⟩ := h.evaluate suits
    rw [throughField, BinaryOp.evaluate_on (Expr.evaluate_toField ha)
      (Expr.evaluate_toField Expr.evaluate_truth), BinaryOp.eq_truth_apply admitted, ha]

theorem xorAsInequality_standsFor (h : e.HasKind kind) (matched : isBinary (· == .xor) e = true) :
    ∃ r, xorAsInequality e = some r ∧ StandsFor fresh e kind r := by
  obtain ⟨op, lhs, rhs, rfl, isXor, rfl, left, right⟩ := isBinary_cases h matched
  obtain rfl : op = .xor := by simpa using isXor
  refine ⟨_, rfl, ⟨⟨?_, by simp, ?_⟩, ?_⟩⟩
  · exact @BinaryOp.hasKind_on .ne _ _ (Expr.hasKind_toField left) (Expr.hasKind_toField right)
  · exact fun c member => .inl (by simpa using member)
  · intro env suits
    obtain ⟨a, b, ha, hb, admitsA, admitsB⟩ := operand_values left right suits
    rw [BinaryOp.evaluate_on (Expr.evaluate_toField ha) (Expr.evaluate_toField hb),
      BinaryOp.evaluate_on ha hb, BinaryOp.ne_words_apply admitsA admitsB]

theorem maskAmount_standsFor (h : e.HasKind kind)
    (matched : isBinary (fun op => op == .shl || op == .shr) e = true) (inRange : fresh 31) :
    ∃ r, maskAmount (.field 31) e = some r ∧ StandsFor fresh e kind r := by
  obtain ⟨op, lhs, rhs, rfl, shifts, rfl, left, right⟩ := isBinary_cases h matched
  have isShift : op = .shl ∨ op = .shr := by simpa using shifts
  have operand : op.operandKind = .field := by rcases isShift with rfl | rfl <;> rfl
  have amount : rhs.HasKind .field := operand ▸ right
  refine ⟨_, rfl, ⟨⟨?_, by simp, ?_⟩, ?_⟩⟩
  · refine BinaryOp.hasKind_on left (operand ▸ ?_)
    exact @BinaryOp.hasKind_on .bitAnd _ _ amount Expr.hasKind_field
  · simp only [BinaryOp.constants_on, Expr.constants_field]
    grind
  · intro env suits
    obtain ⟨a, b, ha, hb, -, -⟩ := operand_values left right suits
    rw [BinaryOp.evaluate_on ha (BinaryOp.evaluate_on hb Expr.evaluate_field),
      BinaryOp.evaluate_on ha hb, BinaryOp.shift_mask_apply isShift]

end Catalogue

namespace Rule

variable {ρ : Type} [RandomSource ρ] {name : String} {weight : Float} {effect : Effect}
  {test : Expr → Bool}

/-- Whatever a rule makes of a well kinded tree that it matches stands for the tree. -/
def Sound (rule : Rule ρ) : Prop :=
  ∀ values e kind, e.HasKind kind → rule.matchesTree e = true →
    Always (rule.build values e) fun result =>
      ∀ r, result = some r → StandsFor (FreshWord ρ values) e kind r

/-- Whatever a rule makes of a well kinded tree that it matches is as good as said in the place
of the tree. -/
def Makes (good : (UInt32 → Prop) → Expr → Kind → Expr → Prop) (rule : Rule ρ) : Prop :=
  ∀ values e kind, e.HasKind kind → rule.matchesTree e = true →
    Always (rule.build values e) fun result =>
      ∀ r, result = some r → good (FreshWord ρ values) e kind r

variable {good : (UInt32 → Prop) → Expr → Kind → Expr → Prop}

theorem fixed_makes {build : Expr → Option Expr}
    (h : ∀ {fresh e kind}, e.HasKind kind → test e = true →
      ∃ r, build e = some r ∧ good fresh e kind r) :
    (fixed name weight effect test build : Rule ρ).Makes good := by
  intro values e kind wellKinded matched
  obtain ⟨made, built, stands⟩ := h wellKinded matched
  refine Always.pure fun r result => ?_
  rw [built, Option.some.injEq] at result
  exact result ▸ stands

theorem withLiteral_makes {word : UInt32} {build : Expr → Expr → Option Expr}
    (h : ∀ (fresh : UInt32 → Prop) {e kind}, e.HasKind kind → test e = true → fresh word →
      ∃ r, build (.field word) e = some r ∧ good fresh e kind r) :
    (withLiteral name weight effect test word build : Rule ρ).Makes good := by
  intro values e kind wellKinded matched
  refine Always.pure fun r result => ?_
  split at result
  · rename_i inRange
    have allowed : FreshWord ρ values word := .inl inRange
    obtain ⟨made, built, stands⟩ := h _ wellKinded matched allowed
    rw [built, Option.some.injEq] at result
    exact result ▸ stands
  · simp at result

theorem withWord_makes {build : UInt32 → Expr → Expr} {wanted : Kind}
    (typed : ∀ {e kind}, e.HasKind kind → test e = true → kind = wanted)
    (h : ∀ (fresh : UInt32 → Prop) {e word}, e.HasKind wanted → fresh word →
      good fresh e wanted (build word e)) :
    (withWord name weight effect test build : Rule ρ).Makes good := by
  intro values e kind wellKinded matched
  obtain rfl := typed wellKinded matched
  refine Always.bind (Always.drawn (drawWord values)) fun word drawn => Always.pure ?_
  intro r result
  rw [Option.some.injEq] at result
  have allowed : FreshWord ρ values word := .inr drawn
  exact result ▸ h _ wellKinded allowed

end Rule

namespace Catalogue

variable {ρ : Type} [RandomSource ρ]

/-- The rules that are meant to keep the value of a tree keep it. -/
theorem preserving_sound : ∀ rule ∈ (preserving : List (Rule ρ)), rule.Sound := by
  simp only [preserving, List.forall_mem_cons, List.not_mem_nil, false_implies, implies_true,
    and_true]
  exact ⟨Rule.fixed_makes swapOperands_standsFor,
    Rule.fixed_makes flipComparison_standsFor,
    Rule.fixed_makes negateComparison_standsFor,
    Rule.withWord_makes field_of_isField fun _ => addThenSubtract_standsFor,
    Rule.withWord_makes field_of_isField fun _ => xorTwice_standsFor,
    Rule.fixed_makes subtractionAsSum_standsFor,
    Rule.fixed_makes doubleNegation_standsFor,
    Rule.fixed_makes doubleNot_standsFor,
    Rule.withLiteral_makes fun _ => timesOne_standsFor,
    Rule.fixed_makes distribute_standsFor,
    Rule.withWord_makes field_of_isField fun _ => divideAndRestore_standsFor,
    Rule.fixed_makes deMorgan_standsFor,
    Rule.withWord_makes bool_of_isBool fun _ => throughField_standsFor,
    Rule.fixed_makes xorAsInequality_standsFor,
    Rule.withLiteral_makes fun _ => maskAmount_standsFor⟩

/-- No rule of the catalogue changes a value without saying so. -/
theorem perturbing_effect : ∀ rule ∈ (perturbing : List (Rule ρ)), rule.effect = .perturbing := by
  simp [perturbing, Rule.withWord, Rule.fixed]

end Catalogue

end Metamorph

/-! ## What rules put into trees

Every rule of the catalogue, also one made to change values, puts a tree of the same kind in the
place of another, with no variable of its own and no new constant but words that it may use. For
the rules that keep values this is a part of their soundness. -/

namespace Metamorph

namespace Catalogue

variable {fresh : UInt32 → Prop} {e : Expr} {kind : Kind} {word : UInt32}

theorem swapSubtraction_replaces (h : e.HasKind kind) (matched : isBinary (· == .sub) e = true) :
    ∃ r, swapOperands e = some r ∧ Replaces fresh e kind r := by
  obtain ⟨op, lhs, rhs, rfl, -, rfl, left, right⟩ := isBinary_cases h matched
  exact ⟨op.on rhs lhs, rfl, swapped_replaces left right⟩

theorem addOne_replaces (h : e.HasKind .field) (drawn : fresh word) :
    Replaces fresh e .field (addOne word e) := by
  refine ⟨?_, by simp [addOne], ?_⟩
  · exact @BinaryOp.hasKind_on .add _ _ h (Expr.hasKind_toField Expr.hasKind_truth)
  · simp only [addOne, BinaryOp.constants_on, Expr.constants_toField, Expr.constants_truth]
    grind

theorem negate_replaces (h : e.HasKind kind) (matched : isBool e = true) :
    ∃ r, negate e = some r ∧ Replaces fresh e kind r := by
  obtain rfl := bool_of_isBool h matched
  exact ⟨_, rfl, @UnaryOp.hasKind_on .not _ h, by simp,
    fun c member => .inl (by simpa using member)⟩

end Catalogue

/-- Whatever a rule makes of a well kinded tree that it matches may take its place. -/
def Rule.Replacing {ρ : Type} [RandomSource ρ] (rule : Rule ρ) : Prop :=
  rule.Makes Replaces

variable {ρ : Type} [RandomSource ρ]

theorem Rule.Sound.replacing {rule : Rule ρ} (sound : rule.Sound) : rule.Replacing :=
  fun values e kind wellKinded matched =>
    (sound values e kind wellKinded matched).mono fun _ stands r result =>
      (stands r result).toReplaces

/-- The rules that change values change neither kinds nor what a tree is made of. -/
theorem Catalogue.perturbing_replacing : ∀ rule ∈ (perturbing : List (Rule ρ)), rule.Replacing := by
  simp only [perturbing, List.forall_mem_cons, List.not_mem_nil, false_implies, implies_true,
    and_true]
  exact ⟨Rule.withWord_makes field_of_isField fun _ => addOne_replaces,
    Rule.fixed_makes swapSubtraction_replaces,
    Rule.fixed_makes negate_replaces⟩

end Metamorph
