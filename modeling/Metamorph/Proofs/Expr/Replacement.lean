import Metamorph.Proofs.Expr.Addresses

/-! # What a replacement changes

A replacement at the end of a path changes what is read there and below, and nothing that is read
elsewhere. It can be taken back and overwritten, and it can be exchanged with a replacement at the
end of a path apart from the first. The paths, the constants and the variables below the end of the
path stand together, so that the list of each changes in one piece. The tree is of its kind exactly
if the replacement is of the kind of what it replaces, and has the same value if both have. -/

namespace Metamorph.Expr

variable {e e' e₁ e₂ target replacement other : Expr} {path : Path}

namespace Splice

/-! ## Replacements in a row -/

/-- A replacement is taken back by putting in again what was there. -/
theorem symm (h : Splice target replacement path e e') : Splice replacement target path e' e := by
  induction h with
  | root => exact .root
  | unary _ ih => exact .unary ih
  | left _ ih => exact .left ih
  | right _ ih => exact .right ih
  | cast _ ih => exact .cast ih

/-- A subtree in its own place changes nothing. -/
theorem eq_self (h : Splice target target path e e') : e' = e := by
  induction h with
  | root => rfl
  | unary _ ih | left _ ih | right _ ih | cast _ ih => rw [ih]

theorem itself (found : e.at? path = some target) : Splice target target path e e := by
  obtain ⟨e', h⟩ := exists_splice target found
  rwa [h.eq_self] at h

/-- Of two replacements at the end of one path the second counts. -/
theorem again (h : Splice target replacement path e e₁) (h' : Splice target other path e e₂) :
    Splice replacement other path e₁ e₂ := by
  induction h generalizing e₂ with
  | root =>
      cases h' with
      | root => exact .root
  | unary _ ih =>
      cases h' with
      | unary below => exact .unary (ih below)
  | left _ ih =>
      cases h' with
      | left below => exact .left (ih below)
  | right _ ih =>
      cases h' with
      | right below => exact .right (ih below)
  | cast _ ih =>
      cases h' with
      | cast below => exact .cast (ih below)

/-- Replacements at the ends of paths that are apart can be exchanged. -/
theorem join {target' replacement' : Expr} {path' : Path}
    (h : Splice target replacement path e e₁) (h' : Splice target' replacement' path' e e₂)
    (apart : path.Apart path') :
    ∃ both, Splice target' replacement' path' e₁ both ∧
      Splice target replacement path e₂ both := by
  induction h generalizing path' e₂ with
  | root => exact absurd rfl apart.ne_nil
  | unary _ ih =>
      cases h' with
      | root => exact absurd rfl apart.symm.ne_nil
      | unary below' =>
          obtain ⟨both, second, first⟩ := ih below' apart.of_cons
          exact ⟨_, .unary second, .unary first⟩
  | left below ih =>
      cases h' with
      | root => exact absurd rfl apart.symm.ne_nil
      | left below' =>
          obtain ⟨both, second, first⟩ := ih below' apart.of_cons
          exact ⟨_, .left second, .left first⟩
      | right below' => exact ⟨_, .right below', .left below⟩
  | right below ih =>
      cases h' with
      | root => exact absurd rfl apart.symm.ne_nil
      | left below' => exact ⟨_, .left below', .right below⟩
      | right below' =>
          obtain ⟨both, second, first⟩ := ih below' apart.of_cons
          exact ⟨_, .right second, .right first⟩
  | cast _ ih =>
      cases h' with
      | root => exact absurd rfl apart.symm.ne_nil
      | cast below' =>
          obtain ⟨both, second, first⟩ := ih below' apart.of_cons
          exact ⟨_, .cast second, .cast first⟩

/-! ## What is read elsewhere -/

/-- What could be read apart from the replacement can still be read. -/
theorem at?_of_apart {node : Expr} {q : Path} (h : Splice target replacement path e e')
    (apart : path.Apart q) (found : e.at? q = some node) : e'.at? q = some node := by
  obtain ⟨_, same⟩ := exists_splice node found
  obtain ⟨_, second, -⟩ := h.join same apart
  exact second.at?

theorem at?_apart {q : Path} (h : Splice target replacement path e e') (apart : path.Apart q) :
    e'.at? q = e.at? q :=
  Option.ext fun _ => ⟨h.symm.at?_of_apart apart, h.at?_of_apart apart⟩

/-- A reader that finds nothing in nodes with children sees no change but below the end of the
path. -/
theorem read_outside {α : Type} {read : Expr → Option α} {q : Path}
    (h : Splice target replacement path e e')
    (leaves : ∀ node, node.isLeaf = false → read node = none) (outside : ¬ path <+: q) :
    (e'.at? q).bind read = (e.at? q).bind read := by
  by_cases above : q <+: path
  · obtain ⟨rest, rfl⟩ := above
    cases rest with
    | nil => exact absurd (by simp) outside
    | cons i rest =>
        obtain ⟨node, here, inner⟩ := at?_above h.at?
        obtain ⟨node', here', inner'⟩ := at?_above h.symm.at?
        rw [here, here', Option.bind_some, Option.bind_some, leaves _ inner, leaves _ inner']
  · rw [h.at?_apart ⟨outside, above⟩]

end Splice

/-! ## Kinds -/

/-- A well kinded tree stays of its kind exactly when the replacement is of the kind of what it
replaces. -/
theorem Splice.hasKind_iff (h : Splice target replacement path e e') {kind : Kind}
    (wellKinded : HasKind e kind) : HasKind e' kind ↔ HasKind replacement target.kind := by
  refine ⟨fun after => ?_, h.hasKind wellKinded⟩
  induction h generalizing kind with
  | root => exact wellKinded.kind_eq ▸ after
  | unary _ ih => exact ih wellKinded.of_unary after.of_unary
  | left _ ih => exact ih wellKinded.of_left after.of_left
  | right _ ih => exact ih wellKinded.of_right after.of_right
  | cast _ ih => exact ih wellKinded.of_cast after.of_cast

/-- Below the root a replacement leaves the kind that the tree declares. -/
theorem Splice.kind_eq (h : Splice target replacement path e e') (below : path ≠ []) :
    e'.kind = e.kind := by
  cases h with
  | root => contradiction
  | unary | left | right | cast => rfl

/-- Where a subtree can be read it can be replaced. In a well kinded tree it is well kinded too, the
tree stays of its kind if the replacement has the kind of the subtree, and below the root it is well
kinded only then. Whatever the kinds, the tree keeps its outcome in every environment in which the
replacement has the outcome of the subtree. -/
theorem replacement_congruent (found : e.at? path = some target) (replacement : Expr) :
    ∃ e', e.replaceAt? path replacement = some e' ∧
      (∀ kind, e.checkKinds = .ok kind → target.checkKinds = .ok target.kind ∧
        (replacement.checkKinds = .ok target.kind → e'.checkKinds = .ok kind) ∧
        (path ≠ [] → (∃ kind', e'.checkKinds = .ok kind') →
          replacement.checkKinds = .ok target.kind)) ∧
      ∀ env, replacement.evaluate env = target.evaluate env →
        e'.evaluate env = e.evaluate env := by
  obtain ⟨e', splice⟩ := exists_splice replacement found
  refine ⟨e', splice.replaceAt?, fun kind accepted => ?_, fun env same => splice.evaluate same⟩
  simp only [checkKinds_eq_ok] at accepted ⊢
  refine ⟨accepted.at? found, (splice.hasKind_iff accepted).mpr, ?_⟩
  rintro below ⟨kind', after⟩
  -- Below the root both trees declare what their common root declares.
  have same : kind' = kind := by
    rw [← after.kind_eq, splice.kind_eq below, accepted.kind_eq]
  exact (splice.hasKind_iff accepted).mp (same ▸ after)

/-- A variable in a sum gives way to a comparison that is true where it is, and not to a word. -/
theorem replacement_congruent_comparison :
    let sum := BinaryOp.add.on (.var .field "f0") (.toField (.var .bool "b0"))
    let below := BinaryOp.lt.on (.var .field "f0") (.field 3)
    let env : Env := fun name => if name = "f0" then some 2 else if name = "b0" then some 1 else none
    sum.at? [1, 0] = some (.var .bool "b0") ∧
      (∃ e', sum.replaceAt? [1, 0] below = some e' ∧ e'.checkKinds = .ok .field ∧
        e'.evaluate env = sum.evaluate env) ∧
      ∃ e', sum.replaceAt? [1, 0] (.field 3) = some e' ∧ ¬ ∃ kind, e'.checkKinds = .ok kind := by
  intro sum below env
  have found : sum.at? [1, 0] = some (.var .bool "b0") := rfl
  obtain ⟨e', replaced, kinds, values⟩ := replacement_congruent found below
  obtain ⟨e'', replaced', kinds', -⟩ := replacement_congruent found (.field 3)
  refine ⟨found, ⟨e', replaced, (kinds .field rfl).2.1 rfl, values env rfl⟩, e'', replaced', ?_⟩
  intro accepted
  have ofTruth := (kinds' .field rfl).2.2 (by simp) accepted
  simp [checkKinds, field, kind] at ofTruth

/-! ## Lists along the paths -/

theorem asConstant_eq_none {node : Expr} (inner : node.isLeaf = false) : node.asConstant = none := by
  cases node with
  | const | var => cases inner
  | unary | binary | cast => rfl

theorem asVariable_eq_none {node : Expr} (inner : node.isLeaf = false) : node.asVariable = none := by
  cases node with
  | const | var => cases inner
  | unary | binary | cast => rfl

/-- The paths through the end of a path stand together, between the same others whatever is there. -/
theorem exists_paths_eq (found : e.at? path = some target) :
    ∃ before after, ∀ replacement e', Splice target replacement path e e' →
      e'.paths = before ++ replacement.paths.map (path ++ ·) ++ after := by
  fun_induction Expr.at? e path with
  | case1 e =>
      refine ⟨[], [], fun replacement e' splice => ?_⟩
      cases splice with
      | root => simp
  | case2 kind op operand rest ih =>
      obtain ⟨before, after, parts⟩ := ih found
      refine ⟨[] :: before.map (0 :: ·), after.map (0 :: ·), fun replacement e' splice => ?_⟩
      cases splice with
      | unary below => simp [paths, parts _ _ below]
  | case3 kind operand rest ih =>
      obtain ⟨before, after, parts⟩ := ih found
      refine ⟨[] :: before.map (0 :: ·), after.map (0 :: ·), fun replacement e' splice => ?_⟩
      cases splice with
      | cast below => simp [paths, parts _ _ below]
  | case4 kind op lhs rhs rest ih =>
      obtain ⟨before, after, parts⟩ := ih found
      refine ⟨[] :: before.map (0 :: ·), after.map (0 :: ·) ++ rhs.paths.map (1 :: ·),
        fun replacement e' splice => ?_⟩
      cases splice with
      | left below => simp [paths, parts _ _ below]
  | case5 kind op lhs rhs rest ih =>
      obtain ⟨before, after, parts⟩ := ih found
      refine ⟨[] :: (lhs.paths.map (0 :: ·) ++ before.map (1 :: ·)), after.map (1 :: ·),
        fun replacement e' splice => ?_⟩
      cases splice with
      | right below => simp [paths, parts _ _ below]
  | case6 => cases found

/-- A tree lists the paths, the constants and the variables of a part in one piece, between what `e`
has along the paths before and the paths after it. -/
structure Segment (e : Expr) (path : Path) (before after : List Path) (part whole : Expr) :
    Prop where
  paths : whole.paths = before ++ part.paths.map (path ++ ·) ++ after
  constants : whole.constants =
    e.along asConstant before ++ part.constants ++ e.along asConstant after
  names : whole.variableNames =
    e.along asVariable before ++ part.variableNames ++ e.along asVariable after

variable {before after : List Path}

/-- No path before or after the others goes through the end of the path. -/
theorem outside_of_paths_eq (found : e.at? path = some target)
    (parts : e.paths = before ++ target.paths.map (path ++ ·) ++ after) :
    ∀ q, q ∈ before ∨ q ∈ after → ¬ path <+: q := by
  rintro q member ⟨rest, rfl⟩
  have listed : path ++ rest ∈ e.paths := by
    rw [parts, List.append_assoc, List.mem_append, List.mem_append]
    exact member.imp_right .inr
  have inside : path ++ rest ∈ target.paths.map (path ++ ·) := by
    rw [mem_paths_iff, at?_append, found, Option.bind_some, ← mem_paths_iff] at listed
    exact List.mem_map_of_mem listed
  have distinct := nodup_paths e
  rw [parts, List.nodup_append, List.nodup_append] at distinct
  obtain ⟨⟨-, -, front⟩, -, back⟩ := distinct
  rcases member with earlier | later
  · exact front _ earlier _ inside rfl
  · exact back _ (List.mem_append_right _ inside) _ later rfl

/-- Along all paths of the new tree stands what stood in the old one before and after, and the
replacement in between, for a reader that finds nothing in nodes with children. -/
theorem Splice.along_paths {α : Type} {read : Expr → Option α}
    (h : Splice target replacement path e e')
    (leaves : ∀ node, node.isLeaf = false → read node = none)
    (parts : e.paths = before ++ target.paths.map (path ++ ·) ++ after)
    (parts' : e'.paths = before ++ replacement.paths.map (path ++ ·) ++ after) :
    e'.along read e'.paths =
      e.along read before ++ replacement.along read replacement.paths ++ e.along read after := by
  have outside := outside_of_paths_eq h.at? parts
  have first : e'.along read before = e.along read before :=
    List.filterMap_congr fun q member => h.read_outside leaves (outside q (.inl member))
  have last : e'.along read after = e.along read after :=
    List.filterMap_congr fun q member => h.read_outside leaves (outside q (.inr member))
  rw [parts', along_append, along_append, along_below h.symm.at?, first, last]

/-- Whatever stands at the end of a path has its lists in one piece between the same others. -/
theorem exists_segment (found : e.at? path = some target) :
    ∃ before after, ∀ replacement e', Splice target replacement path e e' →
      Segment e path before after replacement e' := by
  obtain ⟨before, after, parts⟩ := exists_paths_eq found
  have own := parts _ _ (Splice.itself found)
  refine ⟨before, after, fun replacement e' splice => ⟨parts _ _ splice, ?_, ?_⟩⟩
  · simpa only [constants_eq_along] using
      splice.along_paths (fun _ => asConstant_eq_none) own (parts _ _ splice)
  · simpa only [variableNames_eq_along] using
      splice.along_paths (fun _ => asVariable_eq_none) own (parts _ _ splice)

theorem Segment.size_eq {part whole : Expr} (h : Segment e path before after part whole) :
    whole.size = before.length + part.size + after.length := by
  rw [← length_paths, h.paths, List.length_append, List.length_append, List.length_map, length_paths]

/-! ## The laws of replacement -/

/-- What becomes of a tree by a replacement at the end of a path. -/
structure Exchange (e : Expr) (path : Path) (target replacement e' : Expr) : Prop where
  /-- The replacement is read at the end of the path, and its nodes are read below. -/
  reads : ∀ rest, e'.at? (path ++ rest) = replacement.at? rest
  unchanged : ∀ q, path.Apart q → e'.at? q = e.at? q
  /-- A second replacement there overwrites the first. -/
  overwritten : ∀ other, e'.replaceAt? path other = e.replaceAt? path other
  /-- A replacement elsewhere can come before or after. -/
  commutes : ∀ q ∈ e.paths, path.Apart q → ∀ other, ∃ e₂ both, e.replaceAt? q other = some e₂ ∧
    e'.replaceAt? q other = some both ∧ e₂.replaceAt? path replacement = some both
  size_le : target.size ≤ e.size
  size_eq : e'.size = e.size - target.size + replacement.size

theorem Splice.exchange (h : Splice target replacement path e e') :
    Exchange e path target replacement e' where
  reads rest := by rw [at?_append, h.symm.at?, Option.bind_some]
  unchanged q apart := h.at?_apart apart
  overwritten other := by
    obtain ⟨e₂, second⟩ := exists_splice other h.at?
    rw [second.replaceAt?, (h.again second).replaceAt?]
  commutes q member apart other := by
    obtain ⟨node, found⟩ := Option.isSome_iff_exists.mp (mem_paths_iff.mp member)
    obtain ⟨e₂, elsewhere⟩ := exists_splice other found
    obtain ⟨both, second, first⟩ := h.join elsewhere apart
    exact ⟨e₂, both, elsewhere.replaceAt?, second.replaceAt?, first.replaceAt?⟩
  size_le := by
    obtain ⟨before, after, segments⟩ := exists_segment h.at?
    have size := (segments _ _ (itself h.at?)).size_eq
    omega
  size_eq := by
    obtain ⟨before, after, segments⟩ := exists_segment h.at?
    have size := (segments _ _ (itself h.at?)).size_eq
    have size' := (segments _ _ h).size_eq
    omega

/-- The paths of a tree are as many as its nodes, no two alike and in pre-order; they are the paths at
whose ends something can be read, and those at whose ends something can be replaced. To replace a
subtree by itself changes nothing; any other replacement changes what is read there and below and
nothing apart from there, and takes the place of the subtree in the lists of paths, constants and
variables. -/
theorem addresses_coherent (e : Expr) :
    (e.paths.length = e.size ∧ e.paths.Nodup ∧ e.paths.Pairwise (· < ·) ∧
      ∀ path, (path ∈ e.paths ↔ (e.at? path).isSome) ∧
        ∀ replacement, path ∈ e.paths ↔ (e.replaceAt? path replacement).isSome) ∧
    ∀ path target, e.at? path = some target → e.replaceAt? path target = some e ∧
      ∃ before after, Segment e path before after target e ∧
        ∀ replacement, ∃ e', e.replaceAt? path replacement = some e' ∧
          Exchange e path target replacement e' ∧ Segment e path before after replacement e' := by
  refine ⟨⟨length_paths e, nodup_paths e, pairwise_paths e, fun path => ⟨mem_paths_iff, ?_⟩⟩, ?_⟩
  · intro replacement
    rw [isSome_replaceAt?, mem_paths_iff]
  · intro path target found
    have own := Splice.itself found
    obtain ⟨before, after, segments⟩ := exists_segment found
    refine ⟨own.replaceAt?, before, after, segments _ _ own, fun replacement => ?_⟩
    obtain ⟨e', splice⟩ := exists_splice replacement found
    exact ⟨e', splice.replaceAt?, splice.exchange, segments _ _ splice⟩

/-- The second operand of a sum gives way to a constant and is put back; the first one stays. -/
theorem addresses_coherent_sum :
    let truth := toField (.var .bool "b0")
    let sum := BinaryOp.add.on (.var .field "f0") truth
    sum.at? [1] = some truth ∧ ∃ e', sum.replaceAt? [1] (.field 5) = some e' ∧ e'.size = 3 ∧
      e'.at? [0] = sum.at? [0] ∧ e'.replaceAt? [1] truth = some sum := by
  intro truth sum
  have found : sum.at? [1] = some truth := rfl
  obtain ⟨same, before, after, -, replaced⟩ := (addresses_coherent sum).2 [1] truth found
  obtain ⟨e', here, exchange, -⟩ := replaced (.field 5)
  exact ⟨found, e', here, exchange.size_eq, exchange.unchanged [0] ⟨by decide, by decide⟩,
    (exchange.overwritten truth).trans same⟩

end Metamorph.Expr
