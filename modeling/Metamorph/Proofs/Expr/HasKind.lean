import Metamorph.Expr.Kinding
import Metamorph.Expr.Value
import Metamorph.Proofs.Random.Contract

/-! # Well kinded trees

The rules of kinds as a relation, which holds exactly where the check gives a kind. A well
kinded tree has a value in every environment that suits its variables, and the value is one
of the words of its kind: every word for a word, and 0 or 1 for a truth value. -/

namespace Metamorph

/-- The words that a kind has. -/
def Kind.Admits : Kind → UInt32 → Prop
  | .field, _ => True
  | .bool, value => value = 0 ∨ value = 1

theorem Kind.admits_iff {kind : Kind} {value : UInt32} :
    kind.Admits value ↔ (kind = .bool → value = 0 ∨ value = 1) := by
  cases kind <;> simp [Kind.Admits]

theorem Kind.admits_ofBool (kind : Kind) (b : Bool) : kind.Admits (ofBool b) := by
  cases kind with
  | field => trivial
  | bool => cases b <;> simp [Kind.Admits, ofBool]

/-- A truth value that is told apart from zero is itself. -/
theorem ofBool_truth {a : UInt32} (h : Kind.bool.Admits a) : ofBool (a != 0) = a := by
  rcases h with rfl | rfl <;> rfl

/-- The only words that are not greater than one. -/
theorem not_one_lt_iff {value : UInt32} : ¬ 1 < value ↔ value = 0 ∨ value = 1 := by
  rw [UInt32.lt_iff_toNat_lt, ← UInt32.toNat_inj, ← UInt32.toNat_inj]
  simp only [UInt32.toNat_one, UInt32.toNat_zero]
  omega

theorem UnaryOp.admits_apply (op : UnaryOp) (a : UInt32) : op.resultKind.Admits (op.apply a) := by
  cases op with
  | neg => trivial
  | not => exact Kind.admits_ofBool _ _

theorem BinaryOp.admits_apply (op : BinaryOp) (a b : UInt32) :
    op.resultKind.Admits (op.apply a b) := by
  cases op <;> first | exact trivial | exact Kind.admits_ofBool _ _

namespace Expr

/-- A tree is well kinded and of a kind. -/
inductive HasKind : Expr → Kind → Prop where
  | const {kind value} (admitted : kind.Admits value) : HasKind (.const kind value) kind
  | var {kind name} : HasKind (.var kind name) kind
  | unary {op operand} (below : HasKind operand op.operandKind) :
      HasKind (.unary op.resultKind op operand) op.resultKind
  | binary {op lhs rhs} (left : HasKind lhs op.operandKind) (right : HasKind rhs op.operandKind) :
      HasKind (.binary op.resultKind op lhs rhs) op.resultKind
  | cast {operand} (below : HasKind operand .bool) : HasKind (.cast .field operand) .field

/-- The variables with the kinds they are used with, in pre-order and with repeats. -/
def occurrences : Expr → List (Kind × String)
  | .const _ _ => []
  | .var kind name => [(kind, name)]
  | .unary _ _ operand => operand.occurrences
  | .binary _ _ lhs rhs => lhs.occurrences ++ rhs.occurrences
  | .cast _ operand => operand.occurrences

/-- An environment binds every variable of a tree to a word of its kind. -/
def Suits (env : Env) (e : Expr) : Prop :=
  ∀ kind name, (kind, name) ∈ e.occurrences → ∃ value, env name = some value ∧ kind.Admits value

-- The equations of the check and of evaluation are derived here, ahead of the proofs that open
-- them.
attribute [local grind =] checkKinds evaluate

theorem expectOperand_eq_ok {op place wanted found} {done : Unit} :
    expectOperand op place wanted found = .ok done ↔ found = wanted := by
  unfold expectOperand
  split <;> simp [*]

theorem expectNode_eq_ok {op declared wanted kind} :
    expectNode op declared wanted = .ok kind ↔ declared = wanted ∧ kind = wanted := by
  unfold expectNode
  split <;> simp_all [eq_comm]

/-- The check gives exactly the kinds that the rules give. -/
theorem checkKinds_eq_ok {e : Expr} {kind : Kind} : e.checkKinds = .ok kind ↔ HasKind e kind := by
  constructor
  · intro accepted
    induction e generalizing kind with
    | const declared value =>
        simp only [checkKinds] at accepted
        split at accepted
        · simp at accepted
        · rename_i within
          obtain rfl : declared = kind := by simpa using accepted
          refine .const ?_
          cases declared with
          | field => trivial
          | bool => exact not_one_lt_iff.mp (by simpa using within)
    | var declared name =>
        obtain rfl : declared = kind := by simpa [checkKinds] using accepted
        exact .var
    | unary declared op operand ih =>
        simp only [checkKinds, bind_eq_ok, expectOperand_eq_ok, expectNode_eq_ok] at accepted
        obtain ⟨found, below, -, same, rfl, rfl⟩ := accepted
        exact .unary (ih (same ▸ below))
    | binary declared op lhs rhs ihl ihr =>
        simp only [checkKinds, bind_eq_ok, expectOperand_eq_ok, expectNode_eq_ok] at accepted
        obtain ⟨left, hl, -, sameLeft, right, hr, -, sameRight, rfl, rfl⟩ := accepted
        exact .binary (ihl (sameLeft ▸ hl)) (ihr (sameRight ▸ hr))
    | cast declared operand ih =>
        simp only [checkKinds, bind_eq_ok, expectOperand_eq_ok, expectNode_eq_ok] at accepted
        obtain ⟨found, below, -, rfl, rfl, rfl⟩ := accepted
        exact .cast (ih below)
  · intro h
    induction h with
    | @const kind value admitted =>
        cases kind with
        | field => simp [checkKinds]
        | bool => simp [checkKinds, not_one_lt_iff.mpr admitted]
    | var => rfl
    | unary _ ih => simp [checkKinds, ih, bind_eq_ok, expectOperand_eq_ok, expectNode_eq_ok]
    | binary _ _ ihl ihr =>
        simp [checkKinds, ihl, ihr, bind_eq_ok, expectOperand_eq_ok, expectNode_eq_ok]
    | cast _ ih => simp [checkKinds, ih, bind_eq_ok, expectOperand_eq_ok, expectNode_eq_ok]

namespace HasKind

variable {e : Expr} {kind : Kind} {env : Env}

/-- A well kinded tree declares its kind. -/
theorem kind_eq (h : HasKind e kind) : e.kind = kind := by
  cases h <;> rfl

/-- A tree is of one kind at most. -/
theorem unique {other : Kind} (h : HasKind e kind) (h' : HasKind e other) : kind = other :=
  h.kind_eq.symm.trans h'.kind_eq

variable {declared : Kind} {operand lhs rhs : Expr}

theorem of_unary {op : UnaryOp} (h : HasKind (.unary declared op operand) kind) :
    HasKind operand op.operandKind := by
  cases h with
  | unary below => exact below

theorem of_left {op : BinaryOp} (h : HasKind (.binary declared op lhs rhs) kind) :
    HasKind lhs op.operandKind := by
  cases h with
  | binary left _ => exact left

theorem of_right {op : BinaryOp} (h : HasKind (.binary declared op lhs rhs) kind) :
    HasKind rhs op.operandKind := by
  cases h with
  | binary _ right => exact right

theorem of_cast (h : HasKind (.cast declared operand) kind) : HasKind operand .bool := by
  cases h with
  | cast below => exact below

end HasKind

namespace Suits

variable {env : Env}

theorem unary {kind op operand} (h : Suits env (.unary kind op operand)) : Suits env operand := h

theorem left {kind op lhs rhs} (h : Suits env (.binary kind op lhs rhs)) : Suits env lhs :=
  fun kind name used => h kind name (List.mem_append_left _ used)

theorem right {kind op lhs rhs} (h : Suits env (.binary kind op lhs rhs)) : Suits env rhs :=
  fun kind name used => h kind name (List.mem_append_right _ used)

theorem cast {kind operand} (h : Suits env (.cast kind operand)) : Suits env operand := h

/-- A tree with no variables but those of another suits where the other does. -/
theorem subset {e e' : Expr} (h : Suits env e) (fewer : e'.occurrences ⊆ e.occurrences) :
    Suits env e' :=
  fun kind name used => h kind name (fewer used)

end Suits

/-- The value of a well kinded tree is one of the words of its kind. -/
theorem HasKind.evaluate {e : Expr} {kind : Kind} {env : Env} (h : HasKind e kind)
    (suits : Suits env e) : ∃ value, e.evaluate env = .ok value ∧ kind.Admits value := by
  induction h with
  | const admitted => exact ⟨_, rfl, admitted⟩
  | @var kind name =>
      obtain ⟨value, bound, admitted⟩ := suits kind name (by simp [occurrences])
      exact ⟨value, by simp [Expr.evaluate, bound], admitted⟩
  | @unary op _ _ ih =>
      obtain ⟨a, ha, -⟩ := ih suits.unary
      exact ⟨op.apply a, by simp [Expr.evaluate, ha, bind, Except.bind, pure, Except.pure],
        op.admits_apply a⟩
  | @binary op _ _ _ _ ihl ihr =>
      obtain ⟨a, ha, -⟩ := ihl suits.left
      obtain ⟨b, hb, -⟩ := ihr suits.right
      exact ⟨op.apply a b, by simp [Expr.evaluate, ha, hb, bind, Except.bind, pure, Except.pure],
        op.admits_apply a b⟩
  | cast _ ih =>
      obtain ⟨a, ha, -⟩ := ih suits.cast
      exact ⟨ofBool (a != 0), by simp [Expr.evaluate, ha, bind, Except.bind, pure, Except.pure],
        trivial⟩

end Expr

end Metamorph

/-! ## Trees made as their signatures say

An operator put over operands of its kind makes a well kinded tree, adds no variable and no
constant, and has the value that the operator gives. A truth value written as a comparison
has one constant, which is a word. -/

namespace Metamorph

open Metamorph.Expr (HasKind)

namespace UnaryOp

variable {op : UnaryOp} {operand : Expr}

theorem hasKind_on (h : HasKind operand op.operandKind) : HasKind (op.on operand) op.resultKind :=
  .unary h

@[simp] theorem occurrences_on : (op.on operand).occurrences = operand.occurrences := rfl

@[simp] theorem constants_on : (op.on operand).constants = operand.constants := rfl

theorem evaluate_on {env : Env} {a : UInt32} (h : operand.evaluate env = .ok a) :
    (op.on operand).evaluate env = .ok (op.apply a) := by
  simp only [on, Expr.evaluate, h]
  rfl

end UnaryOp

namespace BinaryOp

variable {op : BinaryOp} {lhs rhs : Expr}

theorem hasKind_on (left : HasKind lhs op.operandKind) (right : HasKind rhs op.operandKind) :
    HasKind (op.on lhs rhs) op.resultKind :=
  .binary left right

@[simp] theorem occurrences_on : (op.on lhs rhs).occurrences = lhs.occurrences ++ rhs.occurrences :=
  rfl

@[simp] theorem constants_on : (op.on lhs rhs).constants = lhs.constants ++ rhs.constants := rfl

theorem evaluate_on {env : Env} {a b : UInt32} (left : lhs.evaluate env = .ok a)
    (right : rhs.evaluate env = .ok b) : (op.on lhs rhs).evaluate env = .ok (op.apply a b) := by
  simp only [on, Expr.evaluate, left, right]
  rfl

end BinaryOp

namespace Expr

variable {operand : Expr} {word : UInt32} {value : Bool} {env : Env}

theorem hasKind_field : HasKind (field word) .field := .const trivial

@[simp] theorem occurrences_field : (field word).occurrences = [] := rfl

@[simp] theorem constants_field : (field word).constants = [(.field, word)] := rfl

@[simp] theorem evaluate_field : (field word).evaluate env = .ok word := rfl

theorem hasKind_toField (h : HasKind operand .bool) : HasKind operand.toField .field := .cast h

@[simp] theorem occurrences_toField : operand.toField.occurrences = operand.occurrences := rfl

@[simp] theorem constants_toField : operand.toField.constants = operand.constants := rfl

theorem evaluate_toField {a : UInt32} (h : operand.evaluate env = .ok a) :
    operand.toField.evaluate env = .ok (ofBool (a != 0)) := by
  simp only [toField, Expr.evaluate, h]
  rfl

theorem hasKind_truth : HasKind (truth value word) .bool := by
  cases value <;> exact BinaryOp.hasKind_on hasKind_field hasKind_field

@[simp] theorem occurrences_truth : (truth value word).occurrences = [] := by
  cases value <;> rfl

@[simp] theorem constants_truth :
    (truth value word).constants = [(.field, word), (.field, word)] := by
  cases value <;> rfl

theorem evaluate_truth : (truth value word).evaluate env = .ok (ofBool value) := by
  have apply : ∀ op : BinaryOp, (op.on (field word) (field word)).evaluate env
      = .ok (op.apply word word) :=
    fun op => BinaryOp.evaluate_on evaluate_field evaluate_field
  cases value <;> simp [truth, apply, BinaryOp.apply]

end Expr

end Metamorph
