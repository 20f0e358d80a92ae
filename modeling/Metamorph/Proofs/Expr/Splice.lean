import Metamorph.Expr.Path
import Metamorph.Proofs.Expr.HasKind

/-! # Putting one subtree in the place of another

To read a tree at a path and to replace what is there are one descent. `Splice` is that
descent as a relation, so that what a replacement does to kinds, values and variables is
shown once for every shape of node on the way. What can be read at some path is a node of the
tree; what holds of every node is put together from the root and the children. -/

namespace Metamorph.Expr

attribute [local simp] Expr.at? Expr.replaceAt? children

theorem at?_nil (e : Expr) : e.at? [] = some e := by
  simp

/-- One tree becomes another by a replacement at the end of a path. -/
inductive Splice (target replacement : Expr) : Path → Expr → Expr → Prop where
  | root : Splice target replacement [] target replacement
  | unary {kind op path operand operand'} (below : Splice target replacement path operand operand') :
      Splice target replacement (0 :: path) (.unary kind op operand) (.unary kind op operand')
  | left {kind op path lhs lhs' rhs} (below : Splice target replacement path lhs lhs') :
      Splice target replacement (0 :: path) (.binary kind op lhs rhs) (.binary kind op lhs' rhs)
  | right {kind op path lhs rhs rhs'} (below : Splice target replacement path rhs rhs') :
      Splice target replacement (1 :: path) (.binary kind op lhs rhs) (.binary kind op lhs rhs')
  | cast {kind path operand operand'} (below : Splice target replacement path operand operand') :
      Splice target replacement (0 :: path) (.cast kind operand) (.cast kind operand')

theorem Splice.at? {target replacement path e e'} (h : Splice target replacement path e e') :
    e.at? path = some target := by
  induction h with
  | root => exact at?_nil _
  | unary _ ih | left _ ih | right _ ih | cast _ ih => simpa using ih

theorem Splice.replaceAt? {target replacement path e e'}
    (h : Splice target replacement path e e') : e.replaceAt? path replacement = some e' := by
  induction h with
  | root => simp
  | unary _ ih | left _ ih | right _ ih | cast _ ih => simp [ih]

/-- Where a tree can be read it can be replaced. -/
theorem exists_splice {target path e} (replacement : Expr) (found : e.at? path = some target) :
    ∃ e', Splice target replacement path e e' := by
  fun_induction Expr.at? e path with
  | case1 e =>
      obtain rfl : e = target := by simpa using found
      exact ⟨replacement, .root⟩
  | case2 kind op operand rest ih =>
      obtain ⟨operand', h⟩ := ih found
      exact ⟨_, .unary h⟩
  | case3 kind operand rest ih =>
      obtain ⟨operand', h⟩ := ih found
      exact ⟨_, .cast h⟩
  | case4 kind op lhs rhs rest ih =>
      obtain ⟨lhs', h⟩ := ih found
      exact ⟨_, .left h⟩
  | case5 kind op lhs rhs rest ih =>
      obtain ⟨rhs', h⟩ := ih found
      exact ⟨_, .right h⟩
  | case6 => simp at found

/-- A replacement is a splice at the subtree that was read. -/
theorem splice_of_replaceAt? {target replacement path e e'} (found : e.at? path = some target)
    (replaced : e.replaceAt? path replacement = some e') :
    Splice target replacement path e e' := by
  obtain ⟨other, h⟩ := exists_splice replacement found
  obtain rfl : other = e' := by simpa [h.replaceAt?] using replaced
  exact h

namespace Splice

variable {target replacement e e' : Expr} {path : Path}

/-- Every subtree of a well kinded tree is well kinded. -/
theorem target_hasKind (h : Splice target replacement path e e') {kind : Kind}
    (wellKinded : HasKind e kind) : HasKind target target.kind := by
  induction h generalizing kind with
  | root => exact wellKinded.kind_eq ▸ wellKinded
  | unary _ ih => exact ih wellKinded.of_unary
  | left _ ih => exact ih wellKinded.of_left
  | right _ ih => exact ih wellKinded.of_right
  | cast _ ih => exact ih wellKinded.of_cast

/-- A tree stays of its kind when a subtree gives way to one of the same kind. -/
theorem hasKind (h : Splice target replacement path e e') {kind : Kind}
    (wellKinded : HasKind e kind) (same : HasKind replacement target.kind) : HasKind e' kind := by
  induction h generalizing kind with
  | root => exact wellKinded.kind_eq ▸ same
  | unary _ ih =>
      cases wellKinded with
      | unary below => exact .unary (ih below)
  | left _ ih =>
      cases wellKinded with
      | binary left right => exact .binary (ih left) right
  | right _ ih =>
      cases wellKinded with
      | binary left right => exact .binary left (ih right)
  | cast _ ih =>
      cases wellKinded with
      | cast below => exact .cast (ih below)

/-- A tree keeps its value when a subtree gives way to one of the same value. -/
theorem evaluate (h : Splice target replacement path e e') {env : Env}
    (same : replacement.evaluate env = target.evaluate env) :
    e'.evaluate env = e.evaluate env := by
  induction h with
  | root => exact same
  | unary _ ih | left _ ih | right _ ih | cast _ ih => simp only [Expr.evaluate, ih]

/-- The variables of a subtree are variables of the tree. -/
theorem occurrences_target (h : Splice target replacement path e e') :
    target.occurrences ⊆ e.occurrences := by
  induction h with
  | root => exact List.Subset.refl _
  | unary _ ih | cast _ ih => exact ih
  | left _ ih => exact List.subset_append_of_subset_left _ ih
  | right _ ih => exact List.subset_append_of_subset_right _ ih

/-- No variable is new when the replacement has only variables of what it replaces. -/
theorem occurrences_subset (h : Splice target replacement path e e')
    (fewer : replacement.occurrences ⊆ target.occurrences) :
    e'.occurrences ⊆ e.occurrences := by
  induction h with
  | root => exact fewer
  | unary _ ih | cast _ ih => exact ih
  | left _ ih =>
      exact List.append_subset.mpr
        ⟨List.subset_append_of_subset_left _ ih, List.subset_append_right _ _⟩
  | right _ ih =>
      exact List.append_subset.mpr
        ⟨List.subset_append_left _ _, List.subset_append_of_subset_right _ ih⟩

/-- The constants of a subtree are constants of the tree. -/
theorem constants_target (h : Splice target replacement path e e') :
    target.constants ⊆ e.constants := by
  induction h with
  | root => exact List.Subset.refl _
  | unary _ ih | cast _ ih => exact ih
  | left _ ih => exact List.subset_append_of_subset_left _ ih
  | right _ ih => exact List.subset_append_of_subset_right _ ih

/-- A constant of the new tree stood in the old one or comes with the replacement. -/
theorem mem_constants (h : Splice target replacement path e e') {c : Kind × UInt32}
    (member : c ∈ e'.constants) : c ∈ e.constants ∨ c ∈ replacement.constants := by
  induction h with
  | root => exact .inr member
  | unary _ ih | cast _ ih => exact ih member
  | left _ ih =>
      rcases List.mem_append.mp member with left | right
      · exact (ih left).imp_left fun old => List.mem_append_left _ old
      · exact .inl (List.mem_append_right _ right)
  | right _ ih =>
      rcases List.mem_append.mp member with left | right
      · exact .inl (List.mem_append_left _ left)
      · exact (ih right).imp_left fun old => List.mem_append_right _ old

end Splice

/-- Every node of a well kinded tree is well kinded, and of the kind that it declares. -/
theorem HasKind.at? {e node : Expr} {kind : Kind} {path : Path} (h : HasKind e kind)
    (found : e.at? path = some node) : HasKind node node.kind := by
  obtain ⟨_, splice⟩ := exists_splice node found
  exact splice.target_hasKind h

theorem Suits.at? {e node : Expr} {path : Path} {env : Env} (suits : Suits env e)
    (found : e.at? path = some node) : Suits env node := by
  obtain ⟨_, splice⟩ := exists_splice node found
  exact suits.subset splice.occurrences_target

/-- The variables of a tree are its variable nodes. -/
theorem mem_occurrences_iff {e : Expr} {kind : Kind} {name : String} :
    (kind, name) ∈ e.occurrences ↔ ∃ path, e.at? path = some (.var kind name) := by
  constructor
  · intro used
    induction e with
    | const => simp [occurrences] at used
    | var =>
        obtain ⟨rfl, rfl⟩ := Prod.mk.inj (List.mem_singleton.mp used)
        exact ⟨[], at?_nil _⟩
    | unary _ _ _ ih | cast _ _ ih =>
        obtain ⟨path, found⟩ := ih used
        exact ⟨0 :: path, found⟩
    | binary _ _ _ _ ihl ihr =>
        rcases List.mem_append.mp used with left | right
        · obtain ⟨path, found⟩ := ihl left
          exact ⟨0 :: path, found⟩
        · obtain ⟨path, found⟩ := ihr right
          exact ⟨1 :: path, found⟩
  · rintro ⟨path, found⟩
    obtain ⟨_, splice⟩ := exists_splice (.var kind name) found
    exact splice.occurrences_target (List.mem_singleton.mpr rfl)

/-- Every constant node of a tree is among its constants. -/
theorem mem_constants_of_at? {e : Expr} {path : Path} {kind : Kind} {value : UInt32}
    (found : e.at? path = some (.const kind value)) : (kind, value) ∈ e.constants := by
  obtain ⟨_, splice⟩ := exists_splice (.const kind value) found
  exact splice.constants_target (List.mem_singleton.mpr rfl)

/-! ## All nodes of a tree -/

/-- The first step of a path leads to a child. -/
theorem at?_cons (e : Expr) (i : Nat) (rest : Path) :
    e.at? (i :: rest) = e.children[i]?.bind (·.at? rest) := by
  cases e <;> rcases i with _ | _ | i <;> rfl

/-- Every node of a tree has a property. -/
def Everywhere (good : Expr → Prop) (e : Expr) : Prop :=
  ∀ path node, e.at? path = some node → good node

variable {good : Expr → Prop} {e operand lhs rhs : Expr} {kind : Kind}

/-- A property holds everywhere when it holds at the root and everywhere below. -/
theorem everywhere_iff :
    e.Everywhere good ↔ good e ∧ ∀ child ∈ e.children, child.Everywhere good := by
  constructor
  · intro h
    refine ⟨h [] e e.at?_nil, fun child member path node found => ?_⟩
    obtain ⟨i, here⟩ := List.getElem?_of_mem member
    exact h (i :: path) node (by rw [at?_cons, here]; exact found)
  · rintro ⟨root, below⟩ path node found
    cases path with
    | nil =>
        obtain rfl : e = node := Option.some.inj (e.at?_nil.symm.trans found)
        exact root
    | cons i rest =>
        rw [at?_cons, Option.bind_eq_some_iff] at found
        obtain ⟨child, here, found⟩ := found
        exact below child (List.mem_of_getElem? here) rest node found

theorem Everywhere.root (h : e.Everywhere good) : good e := (everywhere_iff.mp h).1

@[simp] theorem everywhere_const {value : UInt32} :
    (Expr.const kind value).Everywhere good ↔ good (.const kind value) := by
  rw [everywhere_iff]
  simp

@[simp] theorem everywhere_var {name : String} :
    (Expr.var kind name).Everywhere good ↔ good (.var kind name) := by
  rw [everywhere_iff]
  simp

@[simp] theorem everywhere_unary {op : UnaryOp} :
    (Expr.unary kind op operand).Everywhere good ↔
      good (.unary kind op operand) ∧ operand.Everywhere good := by
  rw [everywhere_iff]
  simp

@[simp] theorem everywhere_binary {op : BinaryOp} :
    (Expr.binary kind op lhs rhs).Everywhere good ↔
      good (.binary kind op lhs rhs) ∧ lhs.Everywhere good ∧ rhs.Everywhere good := by
  rw [everywhere_iff]
  simp

@[simp] theorem everywhere_cast :
    (Expr.cast kind operand).Everywhere good ↔
      good (.cast kind operand) ∧ operand.Everywhere good := by
  rw [everywhere_iff]
  simp

end Metamorph.Expr
