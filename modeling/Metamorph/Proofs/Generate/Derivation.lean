import Metamorph.Generate.Variant
import Metamorph.Proofs.Expr.Splice
import Metamorph.Proofs.Random.Choice

/-! # Derivations

A variant comes from its seed by a derivation: a list of plans, each carried out on the tree
that the plans before it left, and each honest there. In the iterative mode a plan is made
for that very tree. In the planned mode it is made for the seed, and the guard that compares
its node with the node in place makes it honest for the tree it is carried out on. -/

namespace Metamorph

variable {ρ : Type}

/-- What holds of everything that a rule builds holds of what it gives. -/
theorem Rule.apply_good {rule : Rule ρ} {values : Bounds UInt32} {e replacement : Expr} {s : ρ}
    {good : Expr → Prop}
    (h : Always (rule.build values e) fun result => ∀ r, result = some r → good r)
    (built : ((rule.apply values e).run s).1 = .ok (some replacement)) : good replacement := by
  have given : Meets (fun _ => True) (rule.apply values e) fun result =>
      ∀ r, result = some r → good r := by
    unfold Rule.apply
    split
    · exact Meets.pure (by simp)
    · split
      · exact fun _ => trivial
      · exact Meets.bind (Meets.lift h) fun result holds => Meets.pure (a := result) holds
  exact given.ok built replacement rfl

/-- A plan that a rule set stands by on a tree: it is made for the node at its path, and a
rule of the set that matches the node can give its replacement, of the same kind. -/
structure Plan.Honest (rules : RuleSet ρ) (values : Bounds UInt32) (root : Expr)
    (plan : Plan ρ) : Prop where
  found : root.at? plan.path = some plan.target
  member : plan.rewriting.rule ∈ rules.rules
  matched : plan.rewriting.rule.matchesTree plan.target = true
  built : ∃ s : ρ, ((plan.rewriting.rule.apply values plan.target).run s).1 =
    .ok (some plan.rewriting.replacement)
  sameKind : plan.rewriting.replacement.checkKinds = .ok plan.target.kind

/-- A tree is derived from another when honest plans are carried out in order. -/
inductive Derivation (rules : RuleSet ρ) (values : Bounds UInt32) (start : Expr) :
    List (Plan ρ) → Expr → Prop where
  | start : Derivation rules values start [] start
  | step {plans plan before after} (earlier : Derivation rules values start plans before)
      (honest : plan.Honest rules values before)
      (replaced : before.replaceAt? plan.path plan.rewriting.replacement = some after) :
      Derivation rules values start (plans ++ [plan]) after

/-- A circuit that a derivation leads to, with a record of the derivation. -/
structure Circuit.Records (rules : RuleSet ρ) (values : Bounds UInt32)
    (circuit start : Circuit) (plans : List (Plan ρ)) : Prop where
  derivation : Derivation rules values start.root plans circuit.root
  rewrites : circuit.rewrites = start.rewrites ++ plans.map (·.rewriting.rule.name)
  perturbed : circuit.perturbed =
    (start.perturbed || plans.any fun plan => plan.rewriting.rule.effect = .perturbing)
  name : circuit.name = start.name
  inputs : circuit.inputs = start.inputs
  outputKind : circuit.outputKind = start.outputKind

variable {rules : RuleSet ρ} {values : Bounds UInt32} {allowed : Error → Prop}

namespace Derivation

variable {start e : Expr} {plans : List (Plan ρ)}

/-- A plan that is carried out replaces the subtree it is made for. -/
theorem splice {before after : Expr} {plan : Plan ρ} (honest : plan.Honest rules values before)
    (replaced : before.replaceAt? plan.path plan.rewriting.replacement = some after) :
    Expr.Splice plan.target plan.rewriting.replacement plan.path before after :=
  Expr.splice_of_replaceAt? honest.found replaced

/-- Whatever the rules are, a derivation leads from well kinded trees to such of the same
kind, since ill kinded replacements are never planned. -/
theorem hasKind (h : Derivation rules values start plans e) {kind : Kind}
    (wellKinded : start.HasKind kind) : e.HasKind kind := by
  induction h with
  | start => exact wellKinded
  | step _ honest replaced ih =>
      exact (splice honest replaced).hasKind ih (Expr.checkKinds_eq_ok.mp honest.sameKind)

/-- A derivation uses rules of the set only. -/
theorem rule_mem (h : Derivation rules values start plans e) :
    ∀ plan ∈ plans, plan.rewriting.rule ∈ rules.rules := by
  induction h with
  | start => simp
  | step _ honest _ ih =>
      intro plan member
      rcases List.mem_append.mp member with earlier | last
      · exact ih plan earlier
      · rw [List.mem_singleton.mp last]
        exact honest.member

/-- What a plan is made for is well kinded when the tree is. -/
theorem target_hasKind {root : Expr} {plan : Plan ρ} (honest : plan.Honest rules values root)
    {kind : Kind} (wellKinded : root.HasKind kind) : plan.target.HasKind plan.target.kind := by
  obtain ⟨_, splice⟩ := Expr.exists_splice plan.rewriting.replacement honest.found
  exact splice.target_hasKind wellKinded

/-- No variable is new when no replacement has one that is. -/
theorem occurrences_subset (h : Derivation rules values start plans e) {kind : Kind}
    (wellKinded : start.HasKind kind)
    (closed : ∀ plan ∈ plans, ∀ root, plan.Honest rules values root → root.HasKind kind →
      plan.rewriting.replacement.occurrences ⊆ plan.target.occurrences) :
    e.occurrences ⊆ start.occurrences := by
  induction h with
  | start => exact List.Subset.refl _
  | @step plans plan before _ earlier honest replaced ih =>
      have last := closed plan (by simp) before honest (earlier.hasKind wellKinded)
      have others := ih fun plan member => closed plan (by simp [member])
      exact List.Subset.trans ((splice honest replaced).occurrences_subset last) others

end Derivation

theorem Expr.isOfKind_iff {e : Expr} {kind : Kind} :
    e.isOfKind kind = true ↔ e.checkKinds = .ok kind := by
  unfold isOfKind
  cases e.checkKinds with
  | ok found => simp
  | error => simp

namespace Circuit

variable {start circuit : Circuit} {plans : List (Plan ρ)} {plan : Plan ρ}

theorem records_start (rules : RuleSet ρ) (values : Bounds UInt32) (start : Circuit) :
    start.Records rules values start [] :=
  ⟨.start, by simp, by simp, rfl, rfl, rfl⟩

/-- A plan that is honest on some tree is carried out and recorded, or leaves no trace. -/
theorem Records.carryOut {root : Expr} (h : circuit.Records rules values start plans)
    (honest : plan.Honest rules values root) :
    (circuit.carryOut plan).Records rules values start plans ∨
      (circuit.carryOut plan).Records rules values start (plans ++ [plan]) := by
  unfold Circuit.carryOut
  split
  · rename_i found
    -- The guard has found the node in place, and nothing else of `honest` is about the tree.
    have current : plan.Honest rules values circuit.root := { honest with found := found }
    split
    · rename_i replaced
      refine .inr ⟨.step h.derivation current replaced, ?_, ?_, h.name, h.inputs, h.outputKind⟩
      · simp [h.rewrites]
      · simp [h.perturbed, Bool.or_assoc]
    · exact .inl h
  · exact .inl h

/-- Of plans that are carried out in order, some are recorded, in the same order. -/
theorem Records.foldl_carryOut {made : List (Plan ρ)} {root : Expr}
    (h : circuit.Records rules values start plans)
    (honest : ∀ plan ∈ made, plan.Honest rules values root) :
    ∃ more, more.Sublist made ∧
      (made.foldl Circuit.carryOut circuit).Records rules values start (plans ++ more) := by
  induction made generalizing plans circuit with
  | nil => exact ⟨[], .slnil, by simpa using h⟩
  | cons plan rest ih =>
      have laterHonest := fun p member => honest p (List.mem_cons_of_mem plan member)
      rw [List.foldl_cons]
      rcases h.carryOut (honest plan (by simp)) with dropped | recorded
      · obtain ⟨more, within, done⟩ := ih dropped laterHonest
        exact ⟨more, within.cons plan, done⟩
      · obtain ⟨more, within, done⟩ := ih recorded laterHonest
        exact ⟨plan :: more, within.cons_cons plan, by simpa using done⟩

end Circuit

variable [RandomSource ρ]

/-- The choices among some rules of a set, and the applications of them, fail with allowed
errors only. -/
structure RuleSet.Runs (allowed : Error → Prop) (rules : RuleSet ρ) (values : Bounds UInt32) :
    Prop where
  choice : ∀ candidates, candidates.Sublist rules.rules → candidates ≠ [] →
    Meets allowed (chooseWeighted (·.weight) candidates : Draw ρ (Rule ρ)) fun _ => True
  application : ∀ rule ∈ rules.rules, ∀ e, Meets allowed (rule.apply values e) fun _ => True

theorem RuleSet.runs_anyhow (rules : RuleSet ρ) (values : Bounds UInt32) :
    rules.Runs (fun _ => True) values :=
  ⟨fun _ _ _ => (Meets.drawn _).mono fun _ _ => trivial,
    fun _ _ _ => (Meets.drawn _).mono fun _ _ => trivial⟩

theorem tryRules_meets (runs : rules.Runs allowed values) {candidates : List (Rule ρ)}
    {target : Expr} {attempts : Nat} (within : candidates.Sublist rules.rules)
    (nonempty : candidates ≠ []) :
    Meets allowed (tryRules candidates values target attempts) fun result =>
      ∀ rewriting, result = some rewriting → rewriting.rule ∈ candidates ∧
        (∃ s : ρ, ((rewriting.rule.apply values target).run s).1 =
          .ok (some rewriting.replacement)) ∧
        rewriting.replacement.checkKinds = .ok target.kind := by
  induction attempts with
  | zero => exact Meets.pure (by simp)
  | succ attempts ih =>
      have choice := (runs.choice candidates within nonempty).and chooseWeighted_mem
      refine Meets.bind choice fun rule ⟨_, member⟩ => ?_
      have application := (runs.application rule (within.subset member) target).and
        (Meets.drawn _)
      refine Meets.bind application fun result ⟨_, s, built⟩ => ?_
      cases result with
      | none => exact ih
      | some replacement =>
          simp only
          split
          · rename_i sameKind
            refine Meets.pure fun rewriting found => ?_
            obtain rfl := Option.some.inj found
            exact ⟨member, ⟨s, built⟩, Expr.isOfKind_iff.mp sameKind⟩
          · exact ih

/-- A plan that is drawn for a tree is honest there. -/
theorem drawPlan_meets (runs : rules.Runs allowed values) {attempts : Nat} {root : Expr} :
    Meets allowed (drawPlan rules attempts values root) fun result =>
      ∀ plan, result = some plan → plan.Honest rules values root := by
  refine Meets.bind (Meets.lift (Always.drawn _)) fun path _ => ?_
  cases found : root.at? path with
  | none => exact Meets.pure (by simp)
  | some target =>
      have drawn : Meets allowed (rewriteOnce rules attempts values target) fun result =>
          ∀ rewriting, result = some rewriting →
            Plan.Honest rules values root ⟨path, target, rewriting⟩ := by
        unfold rewriteOnce
        split
        · exact Meets.pure (by simp)
        · rename_i nonempty
          have within : (rules.matching target).Sublist rules.rules := List.filter_sublist
          refine (tryRules_meets runs within nonempty).mono fun result holds rewriting made => ?_
          obtain ⟨member, built, sameKind⟩ := holds rewriting made
          obtain ⟨member, matched⟩ := List.mem_filter.mp member
          exact ⟨found, member, matched, built, sameKind⟩
      refine Meets.bind drawn fun result honest => ?_
      cases result with
      | none => exact Meets.pure (by simp)
      | some rewriting =>
          refine Meets.pure fun plan made => ?_
          obtain rfl := Option.some.inj made
          exact honest rewriting rfl

theorem drawPlans_meets (runs : rules.Runs allowed values) {attempts : Nat} {root : Expr}
    {steps : Nat} :
    Meets allowed (drawPlans rules attempts values root steps) fun made =>
      made.length ≤ steps ∧ ∀ plan ∈ made, plan.Honest rules values root := by
  induction steps with
  | zero => exact Meets.pure (by simp)
  | succ steps ih =>
      refine Meets.bind (drawPlan_meets runs) fun first honest => ?_
      refine Meets.bind ih fun rest ⟨short, others⟩ => Meets.pure ?_
      cases first with
      | none => exact ⟨by simpa using Nat.le_succ_of_le short, by simpa using others⟩
      | some plan => exact ⟨by simpa using short, by simpa using ⟨honest plan rfl, others⟩⟩

/-- Every step of the iterative mode carries out a plan made for the tree in place. -/
theorem rewriteIteratively_meets (runs : rules.Runs allowed values) {attempts steps : Nat}
    {start circuit : Circuit} {plans : List (Plan ρ)}
    (h : circuit.Records rules values start plans) :
    Meets allowed (rewriteIteratively rules attempts values steps circuit) fun variant =>
      ∃ more, more.length ≤ steps ∧ variant.Records rules values start (plans ++ more) := by
  induction steps generalizing circuit plans with
  | zero => exact Meets.pure ⟨[], by simpa using h⟩
  | succ steps ih =>
      refine Meets.bind (drawPlan_meets runs) fun result honest => ?_
      cases result with
      | none =>
          refine (ih h).mono fun variant ⟨more, short, done⟩ => ?_
          exact ⟨more, Nat.le_succ_of_le short, done⟩
      | some plan =>
          rcases h.carryOut (honest plan rfl) with dropped | recorded
          · refine (ih dropped).mono fun variant ⟨more, short, done⟩ => ?_
            exact ⟨more, Nat.le_succ_of_le short, done⟩
          · refine (ih recorded).mono fun variant ⟨more, short, done⟩ => ?_
            exact ⟨plan :: more, Nat.succ_le_succ short, by simpa using done⟩

/-- In the planned mode whatever is recorded was planned for the tree at the start. -/
theorem rewriteByPlans_meets (runs : rules.Runs allowed values) {attempts steps : Nat}
    {start : Circuit} :
    Meets allowed (rewriteByPlans rules attempts values steps start) fun variant =>
      ∃ plans, plans.length ≤ steps ∧ variant.Records rules values start plans ∧
        ∀ plan ∈ plans, start.root.at? plan.path = some plan.target := by
  refine Meets.bind (drawPlans_meets runs) fun made ⟨short, honest⟩ => Meets.pure ?_
  obtain ⟨plans, within, done⟩ :=
    (Circuit.records_start rules values start).foldl_carryOut honest
  exact ⟨plans, within.length_le.trans short, done,
    fun plan member => (honest plan (within.subset member)).found⟩

end Metamorph
