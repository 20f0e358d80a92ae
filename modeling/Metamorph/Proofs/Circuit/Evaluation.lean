import Metamorph.Proofs.Circuit.WellFormed

/-! # When a tree has a value

Nothing but an unbound variable keeps a tree from having a value, whether or not it is well kinded,
and no binding matters but those of its variables. In a well kinded tree whose variables have words
of their kinds, every node has a word of its kind; the inputs of a valid circuit are such words. -/

namespace Metamorph

namespace Expr

variable {env : Env} {e : Expr}

/-- The first variable in pre-order that an environment leaves out. -/
def firstUnbound? (env : Env) (e : Expr) : Option String :=
  e.variableNames.find? fun name => (env name).isNone

theorem exists_firstUnbound? :
    (∃ name, e.firstUnbound? env = some name) ↔ ∃ name ∈ e.variableNames, env name = none := by
  simp [← Option.isSome_iff_exists, firstUnbound?]

theorem firstUnbound?_binary {kind : Kind} {op : BinaryOp} {lhs rhs : Expr} :
    (Expr.binary kind op lhs rhs).firstUnbound? env =
      (lhs.firstUnbound? env).or (rhs.firstUnbound? env) :=
  List.find?_append

/-- Evaluation stops at the first unbound variable, and at nothing else. -/
theorem evaluate_cases (env : Env) (e : Expr) :
    (∃ name, e.firstUnbound? env = some name ∧ e.evaluate env = .error (.unboundVariable name)) ∨
      e.firstUnbound? env = none ∧ ∃ value, e.evaluate env = .ok value := by
  induction e with
  | const kind value => exact .inr ⟨rfl, value, rfl⟩
  | var kind name =>
      cases bound : env name with
      | none =>
          left
          exact ⟨name, by simp [firstUnbound?, variableNames, bound], by simp [evaluate, bound]⟩
      | some value =>
          right
          exact ⟨by simp [firstUnbound?, variableNames, bound], value, by simp [evaluate, bound]⟩
  | unary _ _ operand ih | cast _ operand ih =>
      rcases ih with ⟨name, first, stops⟩ | ⟨all, a, ha⟩
      · refine .inl ⟨name, first, ?_⟩
        rw [evaluate, stops]
        rfl
      · refine .inr ⟨all, ?_⟩
        rw [evaluate, ha]
        exact ⟨_, rfl⟩
  | binary kind op lhs rhs ihl ihr =>
      -- The operands are searched in the order in which they are evaluated.
      rcases ihl with ⟨name, first, stops⟩ | ⟨allLeft, a, ha⟩
      · refine .inl ⟨name, by simp [firstUnbound?_binary, first], ?_⟩
        rw [evaluate, stops]
        rfl
      rcases ihr with ⟨name, first, stops⟩ | ⟨allRight, b, hb⟩
      · refine .inl ⟨name, by simp [firstUnbound?_binary, allLeft, first], ?_⟩
        rw [evaluate, ha, stops]
        rfl
      · refine .inr ⟨by simp [firstUnbound?_binary, allLeft, allRight], op.apply a b, ?_⟩
        rw [evaluate, ha, hb]
        rfl

theorem evaluate_eq_error {err : Error} :
    e.evaluate env = .error err ↔
      ∃ name, e.firstUnbound? env = some name ∧ err = .unboundVariable name := by
  rcases evaluate_cases env e with ⟨name, first, stops⟩ | ⟨all, value, evaluated⟩
  · simp [stops, first, eq_comm]
  · simp [evaluated, all]

/-- Only the variables of a tree matter to its value. -/
theorem evaluate_congr {env' : Env} (agree : ∀ name ∈ e.variableNames, env' name = env name) :
    e.evaluate env' = e.evaluate env := by
  induction e with
  | const => rfl
  | var kind name => simp [evaluate, agree name (by simp [variableNames])]
  | unary _ _ _ ih | cast _ _ ih => simp only [evaluate, ih agree]
  | binary _ _ _ _ ihl ihr =>
      have left := ihl fun name used => agree name (List.mem_append_left _ used)
      have right := ihr fun name used => agree name (List.mem_append_right _ used)
      simp only [evaluate, left, right]

theorem HasKind.evaluate_nodes {kind : Kind} (h : e.HasKind kind) (suits : e.Suits env) :
    e.Everywhere fun node => node.checkKinds = .ok node.kind ∧
      ∃ value, node.evaluate env = .ok value ∧ node.kind.Admits value := by
  intro path node found
  have wellKinded := h.at? found
  exact ⟨checkKinds_eq_ok.mpr wellKinded, wellKinded.evaluate (suits.at? found)⟩

end Expr

namespace Circuit

/-- In an environment that binds the variables of a well kinded tree to words of their kinds, the
tree has a word of its kind, and so has every node of it. Any tree at all has a value unless one of
its variables is unbound, where the error names the first of those; and the outcome depends on the
bindings of its variables only. A valid circuit has a word of the kind of its output. -/
theorem evaluate_outcome :
    (∀ (e : Expr) (kind : Kind) (env : Env), e.checkKinds = .ok kind → e.Suits env →
      (∃ value, e.evaluate env = .ok value ∧ kind.Admits value) ∧
      e.Everywhere fun node => node.checkKinds = .ok node.kind ∧
        ∃ value, node.evaluate env = .ok value ∧ node.kind.Admits value) ∧
    (∀ (e : Expr) (env : Env),
      ((∃ err, e.evaluate env = .error err) ↔ ∃ name ∈ e.variableNames, env name = none) ∧
      (∀ err, e.evaluate env = .error err →
        ∃ name, e.firstUnbound? env = some name ∧ err = .unboundVariable name) ∧
      ∀ env' : Env, (∀ name ∈ e.variableNames, env' name = env name) →
        e.evaluate env' = e.evaluate env) ∧
    ∀ circuit : Circuit, circuit.validate = .ok () →
      ∃ value, circuit.evaluate = .ok value ∧ circuit.outputKind.Admits value := by
  refine ⟨fun e kind env accepted suits => ?_, fun e env => ⟨?_, ?_, ?_⟩, fun circuit valid => ?_⟩
  · have wellKinded := Expr.checkKinds_eq_ok.mp accepted
    exact ⟨wellKinded.evaluate suits, wellKinded.evaluate_nodes suits⟩
  · rw [← Expr.exists_firstUnbound?]
    simp [Expr.evaluate_eq_error]
  · exact fun err => Expr.evaluate_eq_error.mp
  · exact fun env' => Expr.evaluate_congr
  · exact (validate_eq_ok.mp valid).evaluate

theorem evaluate_outcome_conjunction :
    let below := BinaryOp.lt.on (.var .field "f0") (.field 3)
    let circuit := ofTree "seed" [⟨"f0", .field, 7⟩, ⟨"b0", .bool, 1⟩]
      (BinaryOp.and.on below (.var .bool "b0"))
    let truthOnly : Env := lastValue [⟨"b0", .bool, 1⟩]
    circuit.validate = .ok () ∧ circuit.root.checkKinds = .ok .bool ∧
      circuit.root.Suits circuit.env ∧
      (∃ value, below.evaluate circuit.env = .ok value ∧ below.kind.Admits value) ∧
      (∃ err, circuit.root.evaluate truthOnly = .error err) ∧
      ∃ value, circuit.evaluate = .ok value ∧ circuit.outputKind.Admits value := by
  intro below circuit truthOnly
  obtain ⟨sound, stops, valid⟩ := evaluate_outcome
  have accepted : circuit.validate = .ok () := rfl
  have suits := (validate_eq_ok.mp accepted).suits (validate_eq_ok.mp accepted).assigns_env
  have node := (sound circuit.root .bool circuit.env rfl suits).2 [0] below rfl
  refine ⟨accepted, rfl, suits, node.2, (stops _ truthOnly).1.mpr ⟨"f0", ?_, ?_⟩, valid _ accepted⟩
  · decide
  · decide

end Circuit

end Metamorph
