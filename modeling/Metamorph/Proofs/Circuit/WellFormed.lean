import Metamorph.Circuit.Validity
import Metamorph.Proofs.Expr.Splice

/-! # Well formed circuits

What the validation of a circuit accepts, said without the order in which it looks: inputs
of different names with words of their kinds, a well kinded tree of the declared kind, and
no variable that is not an input of the same kind. Such a circuit has a value wherever its
inputs have one. Whether a tree is well kinded can be told from its nodes one by one. -/

namespace Metamorph

/-- An environment binds every input to a word of its kind. -/
def Assigns (env : Env) (inputs : List Input) : Prop :=
  ∀ input ∈ inputs, ∃ value, env input.name = some value ∧ input.kind.Admits value

/-- A circuit that keeps all the rules. -/
structure Circuit.WellFormed (circuit : Circuit) : Prop where
  distinct : (circuit.inputs.map (·.name)).Nodup
  admitted : ∀ input ∈ circuit.inputs, input.kind.Admits input.value
  wellKinded : circuit.root.HasKind circuit.outputKind
  declared : ∀ kind name, (kind, name) ∈ circuit.root.occurrences →
    ∃ input ∈ circuit.inputs, input.name = name ∧ input.kind = kind

/-- Inputs pass the check when they repeat no name, neither among themselves nor of those
seen before, and have words of their kinds. -/
theorem checkInputs_eq_ok {seen : List String} {inputs : List Input} {done : Unit} :
    checkInputs seen inputs = .ok done ↔
      (inputs.map (·.name)).Nodup ∧ (∀ input ∈ inputs, input.name ∉ seen) ∧
        ∀ input ∈ inputs, input.kind.Admits input.value := by
  induction inputs generalizing seen with
  | nil => simp [checkInputs]
  | cons input rest ih =>
      have admitted : ¬ (input.kind = .bool ∧ 1 < input.value) ↔ input.kind.Admits input.value := by
        cases input.kind with
        | field => simp [Kind.Admits]
        | bool => simpa [Kind.Admits] using @not_one_lt_iff input.value
      simp only [checkInputs, List.contains_iff_mem, Bool.and_eq_true, decide_eq_true_eq]
      split
      · rename_i repeated
        simp [repeated]
      · rename_i fresh
        split
        · rename_i outside
          have refused := mt admitted.mpr (not_not.mpr outside)
          simp [refused]
        · rename_i within
          have accepted := admitted.mp within
          simp only [ih, List.map_cons, List.nodup_cons, List.mem_map, List.mem_cons, forall_eq_or_imp,
            not_or, fresh, accepted, not_false_eq_true, true_and]
          constructor
          · rintro ⟨distinct, apart, rest⟩
            refine ⟨⟨?_, distinct⟩, fun other member => (apart other member).2, rest⟩
            rintro ⟨other, member, same⟩
            exact (apart other member).1 same
          · rintro ⟨⟨apart, distinct⟩, unseen, rest⟩
            exact ⟨distinct, fun other member => ⟨fun same => apart ⟨other, member, same⟩,
              unseen other member⟩, rest⟩

/-- Variables pass the check when each of them is declared with the kind it is used with. -/
theorem checkVariables_eq_ok {declared : String → Option Kind} {e : Expr} {done : Unit} :
    e.checkVariables declared = .ok done ↔
      ∀ kind name, (kind, name) ∈ e.occurrences → declared name = some kind := by
  induction e generalizing done with
  | const => simp [Expr.checkVariables, Expr.occurrences]
  | var kind name =>
      simp only [Expr.checkVariables, Expr.occurrences, List.mem_singleton, Prod.mk.injEq]
      cases found : declared name with
      | none =>
          simp only [reduceCtorEq, false_iff]
          intro h
          exact absurd (h kind name ⟨rfl, rfl⟩) (by simp [found])
      | some other =>
          by_cases same : other = kind
          · simp only [same, if_true, true_iff]
            rintro _ _ ⟨rfl, rfl⟩
            rw [found, same]
          · simp only [same, if_false, reduceCtorEq, false_iff]
            intro h
            exact same (Option.some.inj (found ▸ h kind name ⟨rfl, rfl⟩))
  | unary _ _ _ ih | cast _ _ ih => simp [Expr.checkVariables, Expr.occurrences, ih]
  | binary _ _ _ _ ihl ihr =>
      simp only [Expr.checkVariables, Expr.occurrences, bind_eq_ok, ihl, ihr, List.mem_append]
      constructor
      · rintro ⟨_, left, right⟩ kind name (used | used)
        · exact left kind name used
        · exact right kind name used
      · intro h
        exact ⟨(), fun kind name used => h kind name (.inl used),
          fun kind name used => h kind name (.inr used)⟩

/-- Among inputs of different names a name and a kind single out one. -/
theorem declaredKind_eq_some {inputs : List Input} (distinct : (inputs.map (·.name)).Nodup)
    {name : String} {kind : Kind} :
    declaredKind inputs name = some kind ↔
      ∃ input ∈ inputs, input.name = name ∧ input.kind = kind := by
  induction inputs with
  | nil => simp [declaredKind]
  | cons first rest ih =>
      simp only [List.map_cons, List.nodup_cons, List.mem_map, not_exists, not_and] at distinct
      by_cases same : first.name = name
      · simp only [declaredKind, List.find?_cons, same, beq_self_eq_true, Option.map_some,
          Option.some.injEq, List.mem_cons, exists_eq_or_imp, true_and]
        refine ⟨.inl, ?_⟩
        rintro (h | ⟨input, member, named, -⟩)
        · exact h
        · exact absurd (named.trans same.symm) (distinct.1 input member)
      · have step : declaredKind (first :: rest) name = declaredKind rest name := by
          simp [declaredKind, same]
        simp [step, ih distinct.2, same]

/-- A circuit is valid exactly when it is well formed. -/
theorem validate_eq_ok {circuit : Circuit} : circuit.validate = .ok () ↔ circuit.WellFormed := by
  have output : ∀ computed (done : Unit), circuit.expectOutput computed = .ok done ↔
      computed = circuit.outputKind := by
    intro computed _
    unfold Circuit.expectOutput
    split <;> simp [*]
  simp only [Circuit.validate, bind_eq_ok, checkInputs_eq_ok, Expr.checkKinds_eq_ok,
    checkVariables_eq_ok, output]
  constructor
  · rintro ⟨-, ⟨distinct, -, admitted⟩, computed, wellKinded, -, rfl, declared⟩
    exact ⟨distinct, admitted, wellKinded,
      fun kind name used => (declaredKind_eq_some distinct).mp (declared kind name used)⟩
  · rintro ⟨distinct, admitted, wellKinded, declared⟩
    exact ⟨(), ⟨distinct, by simp, admitted⟩, _, wellKinded, (), rfl,
      fun kind name used => (declaredKind_eq_some distinct).mpr (declared kind name used)⟩

namespace Circuit.WellFormed

variable {circuit : Circuit}

/-- Wherever the inputs have values the variables have. -/
theorem suits (h : circuit.WellFormed) {env : Env} (assigned : Assigns env circuit.inputs) :
    circuit.root.Suits env := by
  intro kind name used
  obtain ⟨input, member, rfl, rfl⟩ := h.declared kind name used
  exact assigned input member

/-- The recorded values are an assignment. -/
theorem assigns_env (h : circuit.WellFormed) : Assigns circuit.env circuit.inputs := by
  intro input member
  have reached : (circuit.inputs.reverse.find? fun other => other.name == input.name).isSome := by
    simpa using ⟨input, member, rfl⟩
  obtain ⟨other, found⟩ := Option.isSome_iff_exists.mp reached
  have same : other = input := by
    have named : other.name = input.name := by simpa using List.find?_some found
    exact List.inj_on_of_nodup_map h.distinct
      (List.mem_reverse.mp (List.mem_of_find?_eq_some found)) member named
  exact ⟨input.value, by simp [Circuit.env, lastValue, found, same], h.admitted input member⟩

theorem evaluate (h : circuit.WellFormed) :
    ∃ value, circuit.evaluate = .ok value ∧ circuit.outputKind.Admits value :=
  h.wellKinded.evaluate (h.suits h.assigns_env)

end Circuit.WellFormed

/-! ## One node after the other

The rules of kinds tie a node to its children by nothing but the kinds that they declare. So a tree
is well kinded when each of its nodes is in order by itself, and a circuit can be judged by its
nodes. -/

namespace Expr

/-- A node and its children declare the kinds that the signature of its operator gives, and a truth
value is written 0 or 1. -/
def KeepsSignature : Expr → Prop
  | .const kind value => kind = .bool → value = 0 ∨ value = 1
  | .var _ _ => True
  | .unary kind op operand => kind = op.resultKind ∧ operand.kind = op.operandKind
  | .binary kind op lhs rhs =>
    kind = op.resultKind ∧ lhs.kind = op.operandKind ∧ rhs.kind = op.operandKind
  | .cast kind operand => kind = .field ∧ operand.kind = .bool

theorem HasKind.keepsSignature {e : Expr} {kind : Kind} (h : e.HasKind kind) :
    e.KeepsSignature := by
  cases h with
  | const admitted => exact Kind.admits_iff.mp admitted
  | var => trivial
  | unary below => exact ⟨rfl, below.kind_eq⟩
  | binary left right => exact ⟨rfl, left.kind_eq, right.kind_eq⟩
  | cast below => exact ⟨rfl, below.kind_eq⟩

/-- A tree is well kinded when every node of it keeps to its signature. -/
theorem hasKind_of_nodes {e : Expr} (keeps : e.Everywhere KeepsSignature) : e.HasKind e.kind := by
  induction e with
  | const kind value => exact .const (Kind.admits_iff.mpr keeps.root)
  | var => exact .var
  | unary kind op operand ih =>
      obtain ⟨⟨rfl, below⟩, inside⟩ := everywhere_unary.mp keeps
      exact .unary (below ▸ ih inside)
  | binary kind op lhs rhs ihl ihr =>
      obtain ⟨⟨rfl, left, right⟩, inLeft, inRight⟩ := everywhere_binary.mp keeps
      exact .binary (left ▸ ihl inLeft) (right ▸ ihr inRight)
  | cast kind operand ih =>
      obtain ⟨⟨rfl, below⟩, inside⟩ := everywhere_cast.mp keeps
      exact .cast (below ▸ ih inside)

theorem hasKind_iff_nodes {e : Expr} {kind : Kind} :
    e.HasKind kind ↔ e.kind = kind ∧ e.Everywhere KeepsSignature := by
  constructor
  · intro h
    exact ⟨h.kind_eq, fun path node found => (h.at? found).keepsSignature⟩
  · rintro ⟨rfl, keeps⟩
    exact hasKind_of_nodes keeps

end Expr

namespace Circuit

/-- A circuit is valid exactly when its inputs have different names and those that are truth values
are 0 or 1, every node of its tree keeps to its signature, the root declares the kind of the output,
and every variable is declared as an input of its kind. Where a tree has a kind, it is the one that
the root declares, and every node of the tree has the kind that it declares. -/
theorem validate_nodewise :
    (∀ circuit : Circuit, circuit.validate = .ok () ↔
      (circuit.inputs.map (·.name)).Nodup ∧
      (∀ input ∈ circuit.inputs, input.kind = .bool → input.value = 0 ∨ input.value = 1) ∧
      circuit.root.Everywhere Expr.KeepsSignature ∧
      circuit.root.kind = circuit.outputKind ∧
      ∀ path kind name, circuit.root.at? path = some (.var kind name) →
        ∃ input ∈ circuit.inputs, input.name = name ∧ input.kind = kind) ∧
    ∀ (e : Expr) (kind : Kind), e.checkKinds = .ok kind →
      e.kind = kind ∧ e.Everywhere fun node => node.checkKinds = .ok node.kind := by
  constructor
  · intro circuit
    rw [validate_eq_ok]
    constructor
    · intro h
      obtain ⟨output, keeps⟩ := Expr.hasKind_iff_nodes.mp h.wellKinded
      refine ⟨h.distinct, fun input member isBool => ?_, keeps, output, fun path kind name found => ?_⟩
      · simpa [isBool, Kind.Admits] using h.admitted input member
      · exact h.declared kind name (Expr.mem_occurrences_iff.mpr ⟨path, found⟩)
    · rintro ⟨distinct, truths, keeps, output, declared⟩
      refine ⟨distinct, fun input member => ?_, Expr.hasKind_iff_nodes.mpr ⟨output, keeps⟩,
        fun kind name used => ?_⟩
      · exact Kind.admits_iff.mpr (truths input member)
      · obtain ⟨path, found⟩ := Expr.mem_occurrences_iff.mp used
        exact declared path kind name found
  · intro e kind accepted
    have wellKinded := Expr.checkKinds_eq_ok.mp accepted
    exact ⟨wellKinded.kind_eq,
      fun path node found => Expr.checkKinds_eq_ok.mpr (wellKinded.at? found)⟩

/-- A cast is accepted as a word, and refused where it declares a truth value. -/
theorem validate_nodewise_cast :
    let circuit := ofTree "seed" [⟨"b0", .bool, 1⟩] (.cast .field (.var .bool "b0"))
    let misdeclared := ofTree "seed" [⟨"b0", .bool, 1⟩] (.cast .bool (.var .bool "b0"))
    circuit.validate = .ok () ∧
      circuit.root.Everywhere Expr.KeepsSignature ∧
      (circuit.root.Everywhere fun node => node.checkKinds = .ok node.kind) ∧
      ¬ misdeclared.validate = .ok () := by
  intro circuit misdeclared
  have accepted : circuit.validate = .ok () := rfl
  have wellKinded : circuit.root.checkKinds = .ok .field := rfl
  refine ⟨accepted, ((validate_nodewise.1 circuit).mp accepted).2.2.1,
    (validate_nodewise.2 _ _ wellKinded).2, fun valid => ?_⟩
  have root := ((validate_nodewise.1 misdeclared).mp valid).2.2.1.root
  exact absurd root.1 (by decide)

end Circuit

end Metamorph
