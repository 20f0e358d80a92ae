import Metamorph.Proofs.Generate.Size
import Metamorph.Proofs.Guest.Layout

/-! # Generated modules are well scoped

A tree takes its variables from the record of inputs and calls nothing but the helpers, so that
the body of its function takes no field but those that its inputs are made of. What generation
names is a name in every module, and no two functions get the same one. -/

namespace Metamorph.Guest

/-- A term takes inputs from one list and calls functions of another. -/
def Term.Within (fields functions : List String) : Term → Prop
  | .literal _ => True
  | .input name => name ∈ fields
  | .neg operand => operand.Within fields functions
  | .wrapping _ receiver argument =>
    receiver.Within fields functions ∧ argument.Within fields functions
  | .call function first second =>
    function ∈ functions ∧ first.Within fields functions ∧ second.Within fields functions
  | .sign _ left right => left.Within fields functions ∧ right.Within fields functions
  | .toWord operand => operand.Within fields functions

/-- Wherever a name stands among tokens, one of the fields is taken from it. -/
def Takes (record : String) (fields : List String) (tokens : List Token) : Prop :=
  ∀ front back, tokens = front ++ .word record :: back →
    ∃ field ∈ fields, [.dot, .word field] <+: back

namespace Takes

variable {record : String} {fields : List String} {tokens tokens' : List Token}

theorem of_notMem (absent : Token.word record ∉ tokens) : Takes record fields tokens := by
  rintro front back rfl
  exact absurd (by simp) absent

theorem append (first : Takes record fields tokens) (second : Takes record fields tokens') :
    Takes record fields (tokens ++ tokens') := by
  intro front back same
  rcases List.append_eq_append_iff.mp same with ⟨middle, rfl, later⟩ | ⟨middle, rfl, later⟩
  · exact second middle back later
  · cases middle with
    | nil => exact second [] back later.symm
    | cons token middle =>
        obtain ⟨rfl, rfl⟩ := List.cons.inj later
        obtain ⟨field, listed, taken⟩ := first front middle rfl
        exact ⟨field, listed, taken.trans (List.prefix_append _ _)⟩

theorem cons {token : Token} (other : token ≠ .word record) (rest : Takes record fields tokens) :
    Takes record fields (token :: tokens) := by
  have first : Takes record fields [token] := of_notMem (by simpa using Ne.symm other)
  exact first.append rest

theorem access {field : String} (listed : field ∈ fields) (other : field ≠ record) :
    Takes record fields [.word record, .dot, .word field] := by
  intro front back same
  cases front with
  | nil =>
      obtain ⟨-, rfl⟩ := List.cons.inj same
      exact ⟨field, listed, List.prefix_refl _⟩
  | cons token front =>
      have later : Token.word record ∈ [.dot, .word field] := by
        rw [(List.cons.inj same).2]
        simp
      simp [Ne.symm other] at later

/-- So there is no access to a field but to one of these. -/
theorem mem_of_infix (h : Takes record fields tokens) {field : String}
    (accessed : [.word record, .dot, .word field] <:+: tokens) : field ∈ fields := by
  obtain ⟨front, back, rfl⟩ := accessed
  obtain ⟨other, listed, taken⟩ := h front (.dot :: .word field :: back) (by simp)
  obtain rfl : other = field := by simpa using taken
  exact listed

end Takes

variable {alphabet : Alphabet} {fields functions : List String}

/-- The tokens of a term that keeps to some fields keep to them. -/
theorem Reads.takes {level : Nat} {tokens : List Token} {t : Term}
    (reads : Reads alphabet level tokens t) (within : t.Within fields functions)
    (apart : "inputs" ∉ fields) (unnamed : "inputs" ∉ functions) :
    Takes "inputs" fields tokens := by
  -- The record is named where an input is read and nowhere else: no number is spelled like it, and
  -- nothing that is called has its name.
  induction reads with
  | @literal level word value number =>
      refine .of_notMem fun inside => ?_
      obtain rfl : "inputs" = word := by simpa using inside
      cases number
  | input identifier => exact .access within fun same => apart (same ▸ within)
  | paren _ ih => exact .append (.cons (by simp) (ih within)) (.of_notMem (by simp))
  | neg _ ih => exact .append (ih within) (.of_notMem (by simp))
  | wrapping method _ _ ihr iha =>
      have name : method.name ≠ "inputs" := by cases method <;> decide
      refine .append (.append (ihr within.1) ?_) (.of_notMem (by simp))
      exact .cons (by simp) (.cons (by simpa using name) (.cons (by simp) (iha within.2)))
  | @call _ function _ _ _ _ identifier _ _ iha ihb =>
      have name : function ≠ "inputs" := fun same => unnamed (same ▸ within.1)
      refine .append (.append ?_ (.cons (by simp) (ihb within.2.2))) (.of_notMem (by simp))
      exact .cons (by simpa using name) (.cons (by simp) (iha within.2.1))
  | cast _ _ ih => exact .append (ih within) (.of_notMem (by simp [castTokens]))
  | sign op _ _ _ _ ihl ihr =>
      exact .append (ihl within.1) (.cons (by simp) (ihr within.2))

/-- The name of a function that can be called. -/
def Item.functionName? : Item → Option String
  | .helper defined => some defined.name
  | .function name _ _ _ => some name
  | .entry name _ _ _ _ => some name
  | _ => none

end Metamorph.Guest

namespace Metamorph

open Guest

/-- The term of a tree keeps to the variables of the tree and to the helpers. -/
theorem Expr.within_toTerm {fields : List String} {e : Expr}
    (declared : ∀ name ∈ e.variableNames, name ∈ fields) :
    e.toTerm.Within fields (division.map (·.name)) := by
  induction e with
  | const => trivial
  | var _ name => exact declared name List.mem_cons_self
  | unary _ op operand ih =>
      have below := ih declared
      cases op with
      | neg => exact below
      | not => exact ⟨below, trivial⟩
  | binary _ op lhs rhs ihl ihr =>
      have left := ihl fun name used => declared name (List.mem_append_left _ used)
      have right := ihr fun name used => declared name (List.mem_append_right _ used)
      cases op with
      | div | rem => exact ⟨by decide, left, right⟩
      | _ => exact ⟨left, right⟩
  | cast _ operand ih => exact ih declared

/-! ## Names -/

theorem isDigit_notMem_keywords : ∀ keyword ∈ keywords, ∀ c ∈ keyword.toList,
    c.isDigit = false := by
  have all : keywords.all (fun keyword => keyword.toList.all fun c => !c.isDigit) = true := by
    decide +kernel
  simpa using all

/-- A name stays one when a number is put behind it, because no keyword has digits. -/
theorem Guest.IsName.numbered {stem : String} (h : IsName stem) (n : Nat) :
    IsName (stem ++ toString n) := by
  obtain ⟨c, rest, spelled, starts, continues, -⟩ := isIdentifier_iff.mp h
  have number : (toString n).toList = Nat.toDigits 10 n := by
    rw [Nat.toString_eq_repr, Nat.toList_repr]
  have whole : (stem ++ toString n).toList = c :: (rest ++ Nat.toDigits 10 n) := by
    rw [String.toList_append, spelled, number, List.cons_append]
  obtain ⟨d, inside⟩ : ∃ d, d ∈ Nat.toDigits 10 n := List.exists_mem_of_ne_nil _ (by simp)
  have digit := isDigit_of_mem_toDigits d inside
  -- The digit that is there now keeps the name from being the low line or a keyword.
  have listed : d ∈ (stem ++ toString n).toList := by simp [inside]
  refine isIdentifier_iff.mpr ⟨c, _, whole, starts, fun e member => ?_, fun same => ?_,
    fun keyword => ?_⟩
  · rcases List.mem_append.mp member with before | behind
    · exact continues e before
    · simp [Alphabet.ascii, Char.isAlphanum, isDigit_of_mem_toDigits e behind]
  · rw [same] at listed
    obtain rfl : d = '_' := by simpa using listed
    exact absurd digit (by decide)
  · exact absurd digit (by simp [isDigit_notMem_keywords _ keyword d listed])

theorem Shape.isName_inputNames (shape : Shape) : ∀ name ∈ shape.inputNames, IsName name := by
  intro name member
  have field : IsName "f" := by rfl
  have truth : IsName "b" := by rfl
  rcases List.mem_append.mp member with word | bool
  · obtain ⟨i, -, rfl⟩ := List.mem_map.mp word
    exact field.numbered i
  · obtain ⟨i, -, rfl⟩ := List.mem_map.mp bool
    exact truth.numbered i

theorem Shape.inputs_notMem_inputNames (shape : Shape) : "inputs" ∉ shape.inputNames := by
  intro member
  rcases List.mem_append.mp member with word | bool
  · obtain ⟨i, -, same⟩ := List.mem_map.mp word
    have heads := congrArg (·.toList.head?) same
    simp at heads
  · obtain ⟨i, -, same⟩ := List.mem_map.mp bool
    have heads := congrArg (·.toList.head?) same
    simp at heads

theorem Catalogue.names_oneLine {ρ : Type} [RandomSource ρ] :
    ∀ name ∈ (preserving ++ perturbing : List (Rule ρ)).map (·.name), '\n' ∉ name.toList := by
  rw [names_eq]
  decide +kernel

namespace Generator

variable {ρ : Type} [RandomSource ρ] {generator : Generator ρ} {budgets : Budgets}
  {iterative : Bool} {bundle : Bundle} {seed : Circuit} {variants : List Circuit}
  {counted : Nat → Prop}

theorem isName_variantName (number : Nat) : IsName (variantName number) := by
  have variant : IsName "variant_" := by rfl
  exact variant.numbered number

/-- The inputs of a bundle are named as its shape says. -/
theorem Yields.inputNames (h : generator.Yields counted budgets iterative bundle seed variants) :
    bundle.inputs.map (·.name) = generator.shape.inputNames := by
  obtain ⟨source, drawn⟩ := h.drawn
  rw [h.inputs_eq]
  exact drawn ▸ Shape.randomSeed_inputNames source

/-- The trees of a bundle have no variables but its inputs. -/
theorem Yields.variables_declared
    (h : generator.Yields counted budgets iterative bundle seed variants) {circuit : Circuit}
    (member : circuit ∈ bundle.circuits) {name : String}
    (used : name ∈ circuit.root.variableNames) : name ∈ bundle.inputs.map (·.name) := by
  obtain ⟨shared, -, wellFormed⟩ := h.shares member
  obtain ⟨input, declared, rfl⟩ := wellFormed.exists_input used
  exact List.mem_map_of_mem (shared ▸ declared)

/-- What a bundle is made of is fit for a module. -/
theorem Yields.presentable (h : generator.Yields counted budgets iterative bundle seed variants)
    (fromCatalogue : generator.rules.FromCatalogue) : Presentable bundle := by
  obtain ⟨source, drawn⟩ := h.drawn
  obtain ⟨-, seedName, -⟩ := drawn ▸ Shape.randomSeed_wellFormed source
  have unrecorded := (drawn ▸ randomSeed_untouched source).1
  have named : ∀ name ∈ bundle.inputs.map (·.name), IsName name := by
    rw [h.inputNames]
    exact generator.shape.isName_inputNames
  have each : ∀ circuit ∈ bundle.circuits, IsName circuit.name ∧
      ∀ rule ∈ circuit.rewrites, '\n' ∉ rule.toList := by
    intro circuit member
    rw [h.circuits] at member
    rcases List.mem_cons.mp member with rfl | later
    · refine ⟨?_, by simp [unrecorded]⟩
      rw [seedName]
      rfl
    · obtain ⟨-, number, steps, plans, -, descent⟩ := h.descends later
      have recorded : circuit.rewrites = plans.map (·.rewriting.rule.name) := by
        simp [descent.records.rewrites, unrecorded]
      refine ⟨descent.records.name ▸ isName_variantName _, ?_⟩
      rw [recorded]
      intro name listed
      obtain ⟨plan, used, rfl⟩ := List.mem_map.mp listed
      exact Catalogue.names_oneLine _
        (fromCatalogue.name_mem (descent.records.derivation.rule_mem plan used))
  exact {
    valid := fun circuit member => validate_eq_ok.mpr (h.shares member).2.2
    circuitNames := fun circuit member => (each circuit member).1
    inputNames := fun input member => named _ (List.mem_map_of_mem member)
    variableNames := fun circuit member name used => named name (h.variables_declared member used)
    oneLine := fun circuit member => (each circuit member).2 }

/-- No circuit is called like a function that every module has. -/
theorem Yields.names_apart (h : generator.Yields counted budgets iterative bundle seed variants)
    {name : String} (member : name ∈ bundle.names) :
    name ≠ "rv_div" ∧ name ≠ "rv_rem" ∧ name ≠ "run_all" := by
  obtain ⟨source, drawn⟩ := h.drawn
  obtain ⟨-, seedName, -⟩ := drawn ▸ Shape.randomSeed_wellFormed source
  rw [Bundle.names, h.circuits, List.map_cons, h.names, seedName, List.mem_cons] at member
  have head : name.toList.head? ≠ some 'r' := by
    rcases member with rfl | listed
    · simp [Shape.seedName]
    · obtain ⟨i, -, rfl⟩ := List.mem_map.mp listed
      simp [variantName]
  refine ⟨?_, ?_, ?_⟩ <;>
    · rintro rfl
      exact head (by rfl)

/-- No two functions of the module of a bundle have one name. -/
theorem Yields.functionNames_nodup
    (h : generator.Yields counted budgets iterative bundle seed variants) (alphabet : Alphabet) :
    ((bundleItems alphabet bundle).filterMap Item.functionName?).Nodup := by
  have names : (bundleItems alphabet bundle).filterMap Item.functionName? =
      "rv_div" :: "rv_rem" :: (bundle.names ++ ["run_all"]) := by
    have circuits : (bundle.circuits.map (circuitItem alphabet)).filterMap Item.functionName? =
        bundle.names := by
      rw [List.filterMap_map, Bundle.names, ← List.filterMap_eq_map]
      rfl
    rw [bundleItems, List.filterMap_append, List.filterMap_append, circuits]
    rfl
  have apart : ∀ name ∈ bundle.names, name ≠ "rv_div" ∧ name ≠ "rv_rem" ∧ name ≠ "run_all" :=
    fun name member => h.names_apart member
  have last : (bundle.names ++ ["run_all"]).Nodup :=
    h.names_nodup.append (List.nodup_singleton _) fun name member other =>
      (apart name member).2.2 (List.mem_singleton.mp other)
  rw [names, List.nodup_cons, List.nodup_cons, List.mem_cons, List.mem_append, List.mem_append]
  refine ⟨?_, ?_, last⟩
  · rintro (same | member | other)
    · exact absurd same (by decide)
    · exact (apart _ member).1 rfl
    · exact absurd other (by decide)
  · rintro (member | other)
    · exact (apart _ member).2.1 rfl
    · exact absurd other (by decide)

/-- For every bundle that is made with rules of the catalogue a module is written. It has the
expected value, a record of the inputs and a function that gives all of them their values; then
the helpers, a function for each circuit, whose body says the tree and takes fields of the record
only, and the function that calls each of these once, in order. No two fields and no two functions
have one name. -/
theorem emitBundle_wellScoped {s : ρ} (fromCatalogue : generator.rules.FromCatalogue)
    (made : ((generator.generate budgets iterative).run s).1 = .ok bundle) :
    ∃ text, emitBundle {} bundle = .ok text ∧ ∀ alphabet, ∃ items functions,
      items? alphabet text = some items ∧
      items =
        [.allowance, .constant "EXPECTED" bundle.expected,
          .record "Inputs" (bundle.inputs.map (·.name)),
          .recorded "Inputs" "recorded" (bundle.inputs.map fun input => (input.name, input.value)),
          .helper quotient, .helper remainder] ++
        functions ++
        [.entry "run_all" "inputs" "Inputs" bundle.size (bundle.names.map (·, "inputs"))] ∧
      List.Forall₂ (fun circuit function => ∃ body,
        function = .function circuit.name "inputs" "Inputs" body ∧
        Reads alphabet loosest body circuit.root.toTerm ∧
        ∀ field, [.word "inputs", .dot, .word field] <:+: body →
          field ∈ bundle.inputs.map (·.name)) bundle.circuits functions ∧
      (bundle.inputs.map (·.name)).Nodup ∧ (items.filterMap Item.functionName?).Nodup := by
  obtain ⟨seed, variants, yields⟩ := exists_yields made
  have presentable := yields.presentable fromCatalogue
  obtain ⟨text, emitted, read⟩ := presentable.items?_emitBundle
  refine ⟨text, emitted, fun alphabet => ⟨_, bundle.circuits.map (circuitItem alphabet),
    read alphabet, rfl, ?_, ?_, yields.functionNames_nodup alphabet⟩⟩
  · refine List.forall₂_map_right_iff.mpr (List.forall₂_same.mpr fun circuit member => ?_)
    have spells := presentable.spells alphabet member
    have declared : ∀ name ∈ circuit.root.variableNames, name ∈ bundle.inputs.map (·.name) :=
      fun name used => yields.variables_declared member used
    have apart : "inputs" ∉ bundle.inputs.map (·.name) := by
      rw [yields.inputNames]
      exact generator.shape.inputs_notMem_inputNames
    have takes := spells.reads.takes (Expr.within_toTerm declared) apart (by decide)
    exact ⟨_, rfl, spells.loose _, fun field accessed => takes.mem_of_infix accessed⟩
  · rw [yields.inputNames]
    exact Shape.inputNames_nodup

theorem emitBundle_wellScoped_chaCha : ∃ bundle,
    (((⟨.withPerturbing, {}⟩ : Generator ChaCha).generate ⟨⟨0, 100⟩, 5, 4⟩ true).run
      (ChaCha.ofSeed 7)).1 = .ok bundle ∧
    ∃ text items, emitBundle {} bundle = .ok text ∧ items? .ascii text = some items ∧
      (items.filterMap Item.functionName?).Nodup := by
  obtain ⟨bundle, made⟩ : ∃ bundle,
      (((⟨.withPerturbing, {}⟩ : Generator ChaCha).generate ⟨⟨0, 100⟩, 5, 4⟩ true).run
        (ChaCha.ofSeed 7)).1 = .ok bundle :=
    exists_eq_ok (by decide +kernel)
  obtain ⟨text, emitted, read⟩ :=
    emitBundle_wellScoped RuleSet.withPerturbing_fromCatalogue made
  obtain ⟨items, functions, known, -, -, -, distinct⟩ := read .ascii
  exact ⟨bundle, made, text, items, emitted, known, distinct⟩

end Generator

end Metamorph
