import Metamorph.Proofs.Expr.Splice

/-! # The addresses of a tree

The list of the paths, the reading of a subtree and its replacement number the children of a node
alike: a path is listed exactly where it can be read, and there it can be replaced. The list goes
through the nodes in pre-order, in which a path comes before its extensions and these before the
paths to later children, and so do the constants and the variables. -/

namespace Metamorph

/-- Neither of two paths leads through the end of the other. -/
def Path.Apart (p q : Path) : Prop :=
  ¬ p <+: q ∧ ¬ q <+: p

namespace Path.Apart

variable {p q : Path} {i : Nat}

theorem symm (apart : Path.Apart p q) : Path.Apart q p := ⟨apart.2, apart.1⟩

theorem ne_nil (apart : Path.Apart p q) : p ≠ [] := by
  rintro rfl
  exact apart.1 List.nil_prefix

theorem of_cons (apart : Path.Apart (i :: p) (i :: q)) : Path.Apart p q :=
  ⟨fun leads => apart.1 (List.cons_prefix_cons.mpr ⟨rfl, leads⟩),
    fun leads => apart.2 (List.cons_prefix_cons.mpr ⟨rfl, leads⟩)⟩

end Path.Apart

namespace Expr

variable {e target : Expr} {path : Path}

/-! ## Reading and replacing -/

/-- A path in two parts is followed one part after the other. -/
theorem at?_append (e : Expr) (path rest : Path) :
    e.at? (path ++ rest) = (e.at? path).bind (·.at? rest) := by
  induction path generalizing e with
  | nil => rw [List.nil_append, at?_nil, Option.bind_some]
  | cons i path ih =>
      rw [List.cons_append, at?_cons, at?_cons]
      cases e.children[i]? with
      | none => rfl
      | some child => exact ih child

/-- Above the end of a path stand nodes that have children. -/
theorem at?_above {above rest : Path} {i : Nat} (found : e.at? (above ++ i :: rest) = some target) :
    ∃ node, e.at? above = some node ∧ node.isLeaf = false := by
  rw [at?_append, Option.bind_eq_some_iff] at found
  obtain ⟨node, here, below⟩ := found
  refine ⟨node, here, ?_⟩
  rw [at?_cons, Option.bind_eq_some_iff] at below
  obtain ⟨child, isChild, -⟩ := below
  cases node with
  | const | var => cases isChild
  | unary | binary | cast => rfl

/-- There is something to replace exactly where there is something to read. -/
theorem isSome_replaceAt? (e : Expr) (path : Path) (replacement : Expr) :
    (e.replaceAt? path replacement).isSome = (e.at? path).isSome := by
  fun_induction Expr.replaceAt? e path replacement with
  | case1 e => simp [at?_nil]
  | case2 kind op operand rest replacement ih => simpa [Expr.at?] using ih
  | case3 kind operand rest replacement ih => simpa [Expr.at?] using ih
  | case4 kind op lhs rhs rest replacement ih => simpa [Expr.at?] using ih
  | case5 kind op lhs rhs rest replacement ih => simpa [Expr.at?] using ih
  | case6 => simp_all [Expr.at?]

/-! ## The list of the paths -/

attribute [local simp] paths

theorem length_paths (e : Expr) : e.paths.length = e.size := by
  induction e with
  | const | var => rfl
  | unary _ _ _ ih | cast _ _ ih => simp [size, ih]
  | binary _ _ _ _ ihl ihr => simp [size, ihl, ihr]

/-- The paths that are listed are those that lead to a node. -/
theorem mem_paths_iff : path ∈ e.paths ↔ (e.at? path).isSome := by
  induction e generalizing path with
  | const | var => rcases path with _ | ⟨i, rest⟩ <;> simp [Expr.at?]
  | unary _ _ _ ih | cast _ _ ih =>
      rcases path with _ | ⟨_ | i, rest⟩ <;> simp [Expr.at?, ih]
  | binary _ _ _ _ ihl ihr =>
      rcases path with _ | ⟨_ | _ | i, rest⟩ <;> simp [Expr.at?, ihl, ihr]

/-- The paths increase, where a path is less than its extensions and these are less than the paths
to later children. -/
theorem pairwise_paths (e : Expr) : e.paths.Pairwise (· < ·) := by
  have below (i : Nat) {paths : List Path} (increasing : paths.Pairwise (· < ·)) :
      (paths.map (i :: ·)).Pairwise (· < ·) :=
    List.pairwise_map.mpr (increasing.imp fun less => List.cons_lt_cons_self.mpr less)
  have root (i : Nat) (paths : List Path) : ∀ path ∈ paths.map (i :: ·), [] < path := by
    intro path member
    obtain ⟨rest, -, rfl⟩ := List.mem_map.mp member
    exact List.nil_lt_cons _ _
  induction e with
  | const | var => simp
  | unary _ _ _ ih | cast _ _ ih =>
      exact List.pairwise_cons.mpr ⟨root 0 _, below 0 ih⟩
  | binary _ _ lhs rhs ihl ihr =>
      have across : ∀ left ∈ lhs.paths.map (0 :: ·), ∀ right ∈ rhs.paths.map (1 :: ·),
          left < right := by
        intro left memberLeft right memberRight
        obtain ⟨p, -, rfl⟩ := List.mem_map.mp memberLeft
        obtain ⟨q, -, rfl⟩ := List.mem_map.mp memberRight
        exact List.cons_lt_cons_iff.mpr (.inl Nat.zero_lt_one)
      refine List.pairwise_cons.mpr ⟨fun path member => ?_, ?_⟩
      · exact (List.mem_append.mp member).elim (root 0 _ path) (root 1 _ path)
      · exact List.pairwise_append.mpr ⟨below 0 ihl, below 1 ihr, across⟩

theorem nodup_paths (e : Expr) : e.paths.Nodup :=
  (pairwise_paths e).imp fun less => ne_of_lt less

/-! ## What stands along the paths -/

/-- The kind and the word of a constant. -/
def asConstant : Expr → Option (Kind × UInt32)
  | .const kind value => some (kind, value)
  | _ => none

/-- The name of a variable. -/
def asVariable : Expr → Option String
  | .var _ name => some name
  | _ => none

variable {α : Type} {read : Expr → Option α}

/-- What a reader of nodes finds at the ends of some paths, in their order. -/
def along (e : Expr) (read : Expr → Option α) (paths : List Path) : List α :=
  paths.filterMap fun path => (e.at? path).bind read

theorem along_append (e : Expr) (front back : List Path) :
    e.along read (front ++ back) = e.along read front ++ e.along read back :=
  List.filterMap_append

theorem along_root (e : Expr) (paths : List Path) :
    e.along read ([] :: paths) = (read e).toList ++ e.along read paths := by
  rw [along, List.filterMap_cons, at?_nil, Option.bind_some]
  cases read e <;> rfl

/-- Along paths that go on from a subtree there is what the subtree has there. -/
theorem along_below (found : e.at? path = some target) (paths : List Path) :
    e.along read (paths.map (path ++ ·)) = target.along read paths := by
  rw [along, List.filterMap_map, along]
  congr 1
  funext rest
  rw [Function.comp_apply, at?_append, found, Option.bind_some]

/-- What is collected from the root first and then from child to child stands along the paths. -/
theorem eq_along {collect : Expr → List α}
    (visits : ∀ e, collect e = (read e).toList ++ e.children.flatMap collect) (e : Expr) :
    collect e = e.along read e.paths := by
  have step (e child : Expr) (i : Nat) (isChild : e.at? [i] = some child) :
      e.along read (child.paths.map (i :: ·)) = child.along read child.paths :=
    along_below isChild child.paths
  induction e with
  | const | var =>
      rw [visits, paths, along_root]
      rfl
  | unary kind op operand ih =>
      rw [visits, paths, along_root, step _ operand 0 (at?_nil operand), ← ih]
      simp [children]
  | binary kind op lhs rhs ihl ihr =>
      rw [visits, paths, along_root, along_append, step _ lhs 0 (at?_nil lhs), ← ihl,
        step _ rhs 1 (at?_nil rhs), ← ihr]
      simp [children]
  | cast kind operand ih =>
      rw [visits, paths, along_root, step _ operand 0 (at?_nil operand), ← ih]
      simp [children]

theorem constants_eq_along (e : Expr) : e.constants = e.along asConstant e.paths := by
  refine eq_along (fun e => ?_) e
  cases e <;> simp [constants, asConstant, children]

theorem variableNames_eq_along (e : Expr) : e.variableNames = e.along asVariable e.paths := by
  refine eq_along (fun e => ?_) e
  cases e <;> simp [variableNames, asVariable, children]

end Expr

end Metamorph
