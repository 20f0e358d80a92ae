import Metamorph.Proofs.Random.ChaCha
import Metamorph.Proofs.Random.Choice
import Metamorph.Target.Basic

/-! # Labels by their names

What settings name is a set of labels: their order, repetitions and the blanks around a name do not
count, and labels come in the order of the vocabulary. The first setting that names nothing is
refused. An injection is picked among those that are named and known, so that two settings of a
target which name the same injections lead to the same draw. -/

namespace Metamorph

/-- A text without the blanks at its ends. -/
def Text.trimmed (text : String) : String :=
  String.ofList (Text.trim text.toList)

/-- Two lists of settings hold the same names, in whatever order and however often. -/
def SameNames (xs ys : List String) : Prop :=
  ∀ name, name ∈ xs.map Text.trimmed ↔ name ∈ ys.map Text.trimmed

namespace Vocabulary

variable {α : Type} {vocabulary : Vocabulary α} {settings : List String}

/-- The first setting that names no label. -/
def firstUnknown? (vocabulary : Vocabulary α) (settings : List String) : Option String :=
  settings.find? fun setting => Text.trimmed setting ∉ vocabulary.names

/-- The labels that settings name, in canonical order. -/
def named (vocabulary : Vocabulary α) (settings : List String) : List α :=
  vocabulary.labels.filter fun label => vocabulary.name label ∈ settings.map Text.trimmed

theorem firstUnknown?_eq_none :
    vocabulary.firstUnknown? settings = none ↔
      ∀ name ∈ settings.map Text.trimmed, name ∈ vocabulary.names := by
  simp [firstUnknown?]

/-! ## One name -/

/-- A name belongs to one label at most. -/
theorem find?_eq_some {name : String} {label : α} :
    vocabulary.find? name = some label ↔
      label ∈ vocabulary.labels ∧ vocabulary.name label = name := by
  constructor
  · intro found
    exact ⟨List.mem_of_find?_eq_some found, by simpa using List.find?_some found⟩
  · rintro ⟨member, rfl⟩
    cases found : vocabulary.find? (vocabulary.name label) with
    | none =>
        have missed := List.find?_eq_none.mp found label member
        simp at missed
    | some other =>
        have same : vocabulary.name other = vocabulary.name label := by
          simpa using List.find?_some found
        rw [List.inj_on_of_nodup_map vocabulary.nodup_names (List.mem_of_find?_eq_some found) member
          same]

theorem find?_eq_none {name : String} :
    vocabulary.find? name = none ↔ name ∉ vocabulary.names := by
  simp [find?, names]

/-- A setting is refused, or it names the label that it is read as. -/
theorem lookup_cases (vocabulary : Vocabulary α) (setting : String) :
    (Text.trimmed setting ∉ vocabulary.names ∧
      vocabulary.lookup setting = .error (.config (.unknownLabel setting))) ∨
    ∃ label, vocabulary.find? (Text.trimmed setting) = some label ∧
      Text.trimmed setting ∈ vocabulary.names ∧ vocabulary.lookup setting = .ok label := by
  cases found : vocabulary.find? (Text.trimmed setting) with
  | none =>
      refine .inl ⟨find?_eq_none.mp found, ?_⟩
      unfold Text.trimmed at found
      rw [lookup, found]
  | some label =>
      have known : Text.trimmed setting ∈ vocabulary.names := by
        rw [← (find?_eq_some.mp found).2]
        exact List.mem_map_of_mem (find?_eq_some.mp found).1
      refine .inr ⟨label, rfl, known, ?_⟩
      unfold Text.trimmed at found
      rw [lookup, found]

/-! ## All names -/

/-- The labels that settings name, one after the other. -/
def listed (vocabulary : Vocabulary α) (settings : List String) : List α :=
  settings.filterMap fun setting => vocabulary.find? (Text.trimmed setting)

theorem mem_listed {label : α} (isLabel : label ∈ vocabulary.labels) :
    label ∈ vocabulary.listed settings ↔
      vocabulary.name label ∈ settings.map Text.trimmed := by
  simp only [listed, List.mem_filterMap, find?_eq_some, isLabel, true_and, List.mem_map]
  exact exists_congr fun setting => and_congr_right fun _ => eq_comm

/-- Settings are looked up in order, up to the first that names no label. -/
theorem mapM_lookup_of_unknown {setting : String}
    (first : vocabulary.firstUnknown? settings = some setting) :
    settings.mapM vocabulary.lookup = .error (.config (.unknownLabel setting)) := by
  induction settings with
  | nil => cases first
  | cons next settings ih =>
      rw [firstUnknown?, List.find?_cons] at first
      rw [List.mapM_cons]
      rcases vocabulary.lookup_cases next with ⟨unknown, refused⟩ | ⟨label, -, known, looked⟩
      · obtain rfl : next = setting := by simpa [unknown] using first
        rw [refused]
        rfl
      · rw [looked, ih (by simpa [firstUnknown?, known] using first)]
        rfl

theorem mapM_lookup_of_known (known : vocabulary.firstUnknown? settings = none) :
    settings.mapM vocabulary.lookup = .ok (vocabulary.listed settings) := by
  induction settings with
  | nil => rfl
  | cons next settings ih =>
      rw [firstUnknown?, List.find?_cons] at known
      rcases vocabulary.lookup_cases next with ⟨unknown, -⟩ | ⟨label, found, isKnown, looked⟩
      · simp [unknown] at known
      · have later := ih (by simpa [firstUnknown?, isKnown] using known)
        have both : vocabulary.listed (next :: settings) = label :: vocabulary.listed settings :=
          List.filterMap_cons_some found
        rw [List.mapM_cons, looked, later, both]
        rfl

theorem nodup_labels (vocabulary : Vocabulary α) : vocabulary.labels.Nodup :=
  List.Nodup.of_map _ vocabulary.nodup_names

/-- The labels that are named depend on the names alone. -/
theorem named_congr {xs ys : List String} (same : SameNames xs ys) :
    vocabulary.named xs = vocabulary.named ys :=
  List.filter_congr fun label _ => decide_eq_decide.mpr (same (vocabulary.name label))

/-- Whether anything is unknown depends on the names alone. -/
theorem firstUnknown?_eq_none_congr {xs ys : List String} (same : SameNames xs ys) :
    vocabulary.firstUnknown? xs = none ↔ vocabulary.firstUnknown? ys = none := by
  rw [firstUnknown?_eq_none, firstUnknown?_eq_none]
  exact forall_congr' fun name => imp_congr_left (same name)

theorem ne_nil_of_mem_named {label : α} (member : label ∈ vocabulary.named settings) :
    settings ≠ [] := by
  rintro rfl
  simp [named] at member

/-- Nothing is named by known names only if there are none. -/
theorem eq_nil_of_named_eq_nil (known : vocabulary.firstUnknown? settings = none)
    (empty : vocabulary.named settings = []) : settings = [] := by
  rw [List.eq_nil_iff_forall_not_mem]
  intro setting member
  have named : Text.trimmed setting ∈ settings.map Text.trimmed := List.mem_map_of_mem member
  obtain ⟨label, isLabel, isName⟩ := List.mem_map.mp (firstUnknown?_eq_none.mp known _ named)
  have kept : label ∈ vocabulary.named settings :=
    List.mem_filter.mpr ⟨isLabel, by rw [isName]; exact decide_eq_true named⟩
  rw [empty] at kept
  cases kept

variable [DecidableEq α]

theorem parse_of_unknown {setting : String}
    (first : vocabulary.firstUnknown? settings = some setting) :
    vocabulary.parse settings = .error (.config (.unknownLabel setting)) := by
  rw [parse, mapM_lookup_of_unknown first]
  rfl

theorem parse_of_known (known : vocabulary.firstUnknown? settings = none) :
    vocabulary.parse settings = .ok (vocabulary.named settings) := by
  have kept : vocabulary.labels.filter (fun label => (vocabulary.listed settings).contains label) =
      vocabulary.named settings := by
    refine List.filter_congr fun label isLabel => ?_
    rw [List.contains_eq_mem]
    exact decide_eq_decide.mpr (mem_listed isLabel)
  rw [parse, mapM_lookup_of_known known, ← kept]
  rfl

theorem parse_eq_ok {labels : List α} : vocabulary.parse settings = .ok labels ↔
    vocabulary.firstUnknown? settings = none ∧ labels = vocabulary.named settings := by
  cases first : vocabulary.firstUnknown? settings with
  | some setting => simp [parse_of_unknown first]
  | none => simp [parse_of_known first, eq_comm]

theorem parse_eq_error {e : Error} : vocabulary.parse settings = .error e ↔
    ∃ setting, vocabulary.firstUnknown? settings = some setting ∧
      e = .config (.unknownLabel setting) := by
  cases first : vocabulary.firstUnknown? settings with
  | some setting => simp [parse_of_unknown first, eq_comm]
  | none => simp [parse_of_known first]

/-- Labels are read from the names alone. -/
theorem parse_congr {xs ys : List String} (same : SameNames xs ys) (labels : List α) :
    vocabulary.parse xs = .ok labels ↔ vocabulary.parse ys = .ok labels := by
  rw [parse_eq_ok, parse_eq_ok, firstUnknown?_eq_none_congr same, named_congr same]

/-- What becomes of settings that are read as labels: the named labels in canonical order and once
each if all names are known, and otherwise an error that quotes the first setting which is not. -/
structure Parses (vocabulary : Vocabulary α) (settings : List String)
    (outcome : Except Error (List α)) : Prop where
  succeeds : (∃ labels, outcome = .ok labels) ↔
    ∀ name ∈ settings.map Text.trimmed, name ∈ vocabulary.names
  refuses : ∀ e, outcome = .error e → ∃ fault setting, e = .config fault ∧
    vocabulary.firstUnknown? settings = some setting ∧
      fault.message = "unknown label '" ++ setting ++ "'"
  labels : ∀ labels, outcome = .ok labels → labels.Sublist vocabulary.labels ∧ labels.Nodup ∧
    ∀ label, label ∈ labels ↔
      label ∈ vocabulary.labels ∧ vocabulary.name label ∈ settings.map Text.trimmed

theorem parses (vocabulary : Vocabulary α) (settings : List String) :
    vocabulary.Parses settings (vocabulary.parse settings) where
  succeeds := by
    simp only [parse_eq_ok, exists_and_left, exists_eq, and_true, firstUnknown?_eq_none]
  refuses e refused := by
    obtain ⟨setting, first, rfl⟩ := parse_eq_error.mp refused
    exact ⟨_, setting, rfl, first, rfl⟩
  labels labels made := by
    obtain ⟨-, rfl⟩ := parse_eq_ok.mp made
    refine ⟨List.filter_sublist, vocabulary.nodup_labels.filter _, fun label => ?_⟩
    rw [named, List.mem_filter, decide_eq_true_iff]

end Vocabulary

/-! ## Injections -/

/-- Two draws from one state end in the same state, and in the same value if either has one. -/
def Draw.Agree {ρ α : Type} (first second : Except Error α × ρ) : Prop :=
  first.2 = second.2 ∧ ∀ a, first.1 = .ok a ↔ second.1 = .ok a

namespace Target

variable {ρ : Type} {target : Target} {settings : TargetSettings}

theorem injections_name (target : Target) (injection : Injection) :
    target.injections.name injection = injection.name := by
  cases target <;> rfl

/-- How the selection of an injection can end, given the state that it starts in. -/
inductive Selected (target : Target) (settings : TargetSettings) (s : ρ) :
    Except Error (Option Injection) × ρ → Prop where
  | off (off : settings.faultInjection = false) : Selected target settings s (.ok none, s)
  | nothing (empty : settings.enabledInjections = []) : Selected target settings s (.ok none, s)
  | refused {setting} (on : settings.faultInjection = true)
      (first : target.injections.firstUnknown? settings.enabledInjections = some setting) :
      Selected target settings s (.error (.config (.unknownLabel setting)), s)
  | drawn {injection last} (on : settings.faultInjection = true)
      (known : target.injections.firstUnknown? settings.enabledInjections = none)
      (member : injection ∈ target.injections.named settings.enabledInjections) :
      Selected target settings s (.ok (some injection), last)

/-- What becomes of the selection of an injection, given the states that it starts and ends in: none
where injection is off or nothing is enabled, an error where a name is unknown, one of the enabled
injections otherwise, and only in this case something is drawn. -/
structure Picks (target : Target) (settings : TargetSettings) (s : ρ)
    (result : Except Error (Option Injection) × ρ) : Prop where
  succeeds : (∃ choice, result.1 = .ok choice) ↔ settings.faultInjection = false ∨
    ∀ name ∈ settings.enabledInjections.map Text.trimmed, name ∈ target.injections.names
  refuses : ∀ e, result.1 = .error e → ∃ fault, e = .config fault
  nothing : result.1 = .ok none ↔
    settings.faultInjection = false ∨ settings.enabledInjections = []
  enabled : ∀ injection, result.1 = .ok (some injection) → injection ∈ target.injections.labels ∧
    injection.name ∈ settings.enabledInjections.map Text.trimmed
  untouched : settings.faultInjection = false ∨ settings.enabledInjections = [] ∨
    (∃ e, target.injections.parse settings.enabledInjections = .error e) → result.2 = s

namespace Selected

variable {s : ρ} {result : Except Error (Option Injection) × ρ}

theorem picks (h : Selected target settings s result) : target.Picks settings s result := by
  cases h with
  | off off => exact ⟨by simp [off], by simp, by simp [off], by simp, fun _ => rfl⟩
  | nothing empty => exact ⟨by simp [empty], by simp, by simp [empty], by simp, fun _ => rfl⟩
  | refused on first =>
      have unknown : ¬ ∀ name ∈ settings.enabledInjections.map Text.trimmed,
          name ∈ target.injections.names := by
        rw [← Vocabulary.firstUnknown?_eq_none, first]
        simp
      have nonempty : settings.enabledInjections ≠ [] := by
        intro empty
        simp [empty] at unknown
      refine ⟨by simpa [on] using unknown, ?_, by simp [on, nonempty], by simp, fun _ => rfl⟩
      rintro _ ⟨rfl⟩
      exact ⟨_, rfl⟩
  | drawn on known member =>
      have allKnown := Vocabulary.firstUnknown?_eq_none.mp known
      have nonempty := Vocabulary.ne_nil_of_mem_named member
      refine ⟨by simpa [on] using allKnown, by simp, by simp [on, nonempty], ?_, ?_⟩
      · rintro _ ⟨rfl⟩
        rw [Vocabulary.named, List.mem_filter, decide_eq_true_iff, injections_name] at member
        exact member
      · rintro (off | empty | ⟨e, refused⟩)
        · simp [on] at off
        · exact absurd empty nonempty
        · simp [Vocabulary.parse_of_known known] at refused

end Selected

variable [RandomSource ρ]

theorem run_selectInjection_off (off : settings.faultInjection = false) (s : ρ) :
    (target.selectInjection settings : Draw ρ _).run s = (.ok none, s) := by
  rw [selectInjection, if_neg (by simp [off])]
  rfl

theorem run_selectInjection_refused {e : Error} (on : settings.faultInjection = true)
    (refused : target.injections.parse settings.enabledInjections = .error e) (s : ρ) :
    (target.selectInjection settings : Draw ρ _).run s = (.error e, s) := by
  rw [selectInjection, if_pos on]
  apply Draw.run_bind_of_error
  rw [Draw.run_liftM, refused]

theorem run_selectInjection_nothing (on : settings.faultInjection = true)
    (made : target.injections.parse settings.enabledInjections = .ok []) (s : ρ) :
    (target.selectInjection settings : Draw ρ _).run s = (.ok none, s) := by
  rw [selectInjection, if_pos on, Draw.run_bind, Draw.run_liftM, made]
  rfl

/-- From labels that are enabled one is drawn. -/
theorem run_selectInjection_drawn {first : Injection} {rest : List Injection}
    (on : settings.faultInjection = true)
    (made : target.injections.parse settings.enabledInjections = .ok (first :: rest)) (s : ρ) :
    ∃ injection ∈ first :: rest, ∃ last,
      (target.selectInjection settings : Draw ρ _).run s = (.ok (some injection), last) := by
  refine ⟨_, drawItem_mem s, ((drawItem first rest : StateM ρ Injection).run s).2, ?_⟩
  rw [selectInjection, if_pos on, Draw.run_bind, Draw.run_liftM, made]
  rfl

theorem selected_selectInjection (target : Target) (settings : TargetSettings) (s : ρ) :
    Selected target settings s ((target.selectInjection settings : Draw ρ _).run s) := by
  cases on : settings.faultInjection with
  | false =>
      rw [run_selectInjection_off on]
      exact .off on
  | true =>
      cases first : target.injections.firstUnknown? settings.enabledInjections with
      | some setting =>
          rw [run_selectInjection_refused on (Vocabulary.parse_of_unknown first)]
          exact .refused on first
      | none =>
          have made := Vocabulary.parse_of_known first
          cases named : target.injections.named settings.enabledInjections with
          | nil =>
              rw [run_selectInjection_nothing on (named ▸ made)]
              exact .nothing (Vocabulary.eq_nil_of_named_eq_nil first named)
          | cons label labels =>
              obtain ⟨injection, member, last, run⟩ := run_selectInjection_drawn on (named ▸ made) s
              rw [run]
              exact .drawn on first (named ▸ member)

/-- Settings that differ in how they write the names of what is enabled lead to the same draw. -/
theorem agree_selectInjection {a b : TargetSettings}
    (only : b = { a with enabledInjections := b.enabledInjections })
    (same : SameNames a.enabledInjections b.enabledInjections) (target : Target) (s : ρ) :
    Draw.Agree ((target.selectInjection a : Draw ρ _).run s)
      ((target.selectInjection b : Draw ρ _).run s) := by
  have switch : b.faultInjection = a.faultInjection := by rw [only]
  cases on : a.faultInjection with
  | false =>
      rw [run_selectInjection_off on, run_selectInjection_off (switch.trans on)]
      exact ⟨rfl, fun _ => Iff.rfl⟩
  | true =>
      cases made : target.injections.parse a.enabledInjections with
      | ok labels =>
          rw [selectInjection, selectInjection, switch, made, (Vocabulary.parse_congr same _).mp made]
          exact ⟨rfl, fun _ => Iff.rfl⟩
      | error e =>
          cases made' : target.injections.parse b.enabledInjections with
          | ok labels =>
              rw [(Vocabulary.parse_congr same _).mpr made'] at made
              cases made
          | error e' =>
              rw [run_selectInjection_refused on made,
                run_selectInjection_refused (switch.trans on) made']
              exact ⟨rfl, by simp⟩

/-- Settings are read as labels by the names in them alone: exactly the named labels in canonical
order, or an error that quotes the first setting which names none. Whatever the source of randomness,
an injection is selected among those that are enabled, nothing is drawn where there is none to select,
and settings that differ only in how they write the enabled names select alike. -/
theorem selection_insensitive :
    (∀ {α : Type} [DecidableEq α] (vocabulary : Vocabulary α),
      (∀ settings, vocabulary.Parses settings (vocabulary.parse settings)) ∧
      ∀ xs ys, SameNames xs ys →
        ∀ labels, vocabulary.parse xs = .ok labels ↔ vocabulary.parse ys = .ok labels) ∧
    ∀ {ρ : Type} [RandomSource ρ] (target : Target) (s : ρ),
      (∀ settings, target.Picks settings s ((target.selectInjection settings : Draw ρ _).run s)) ∧
      ∀ a b : TargetSettings, b = { a with enabledInjections := b.enabledInjections } →
        SameNames a.enabledInjections b.enabledInjections →
          Draw.Agree ((target.selectInjection a : Draw ρ _).run s)
            ((target.selectInjection b : Draw ρ _).run s) := by
  constructor
  · intro α _ vocabulary
    exact ⟨vocabulary.parses, fun xs ys same labels => Vocabulary.parse_congr same labels⟩
  · intro ρ _ target s
    exact ⟨fun settings => (selected_selectInjection target settings s).picks,
      fun a b only same => agree_selectInjection only same target s⟩

/-- The order of two names, a repetition and the blanks make no difference. -/
theorem selection_insensitive_padded :
    let names := ["syscall", " memory_load "]
    let others := ["memory_load", "syscall\t", "syscall"]
    let a : TargetSettings := { faultInjection := true, enabledInjections := names }
    let b : TargetSettings := { a with enabledInjections := others }
    SameNames names others ∧
      (sp1.injections.parse names = .ok [.memoryLoad, .syscall] ↔
        sp1.injections.parse others = .ok [.memoryLoad, .syscall]) ∧
      Draw.Agree ((sp1.selectInjection a : Draw ChaCha _).run (ChaCha.ofSeed 11))
        ((sp1.selectInjection b : Draw ChaCha _).run (ChaCha.ofSeed 11)) ∧
      ∃ choice, ((sp1.selectInjection a : Draw ChaCha _).run (ChaCha.ofSeed 11)).1 = .ok choice := by
  intro names others a b
  have trimmed : names.map Text.trimmed = ["syscall", "memory_load"] := by decide +kernel
  have trimmed' : others.map Text.trimmed = ["memory_load", "syscall", "syscall"] := by
    decide +kernel
  have same : SameNames names others := by
    intro name
    rw [trimmed, trimmed']
    simp [or_comm]
  obtain ⟨reading, picking⟩ := selection_insensitive
  obtain ⟨picks, agree⟩ := picking sp1 (ChaCha.ofSeed 11)
  refine ⟨same, (reading sp1.injections).2 names others same _, agree a b rfl same, ?_⟩
  rw [(picks a).succeeds, trimmed]
  exact .inr (by decide)

end Target

end Metamorph
