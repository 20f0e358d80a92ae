import Mathlib
import Metamorph.Error
import Metamorph.Random.Source

/-! # What draws are sure to give

A draw always gives a good value when it does so from every state of the source. A draw that
may fail meets a contract when all its values are good and all its errors are allowed: with
every error allowed the contract is one of partial correctness, and with none it says that
the draw never fails. Contracts are put together along the steps of a draw. -/

namespace Metamorph

variable {ρ α β : Type}

/-- Two steps that may fail succeed together when each of them does. -/
theorem bind_eq_ok {ε : Type} {first : Except ε α} {next : α → Except ε β} {b : β} :
    first >>= next = .ok b ↔ ∃ a, first = .ok a ∧ next a = .ok b := by
  cases first with
  | ok a => simp [bind, Except.bind]
  | error e => simp [bind, Except.bind]

/-- An outcome that is seen to be a value. -/
theorem exists_eq_ok {ε : Type} {outcome : Except ε α} (h : outcome.toOption.isSome = true) :
    ∃ a, outcome = .ok a := by
  cases outcome with
  | ok a => exact ⟨a, rfl⟩
  | error e => simp [Except.toOption] at h

/-- Every value that can be drawn is good. -/
def Always (draw : StateM ρ α) (good : α → Prop) : Prop :=
  ∀ s, good (draw.run s).1

/-- What a contract asks of an outcome. -/
def Contract (allowed : Error → Prop) (good : α → Prop) : Except Error α → Prop
  | .ok a => good a
  | .error e => allowed e

/-- Every outcome of a draw is a good value or an allowed error. -/
def Meets (allowed : Error → Prop) (draw : Draw ρ α) (good : α → Prop) : Prop :=
  Always draw.run (Contract allowed good)

namespace Always

theorem pure {a : α} {good : α → Prop} (h : good a) : Always (pure a : StateM ρ α) good :=
  fun _ => h

theorem bind {first : StateM ρ α} {next : α → StateM ρ β} {middle : α → Prop}
    {good : β → Prop} (h : Always first middle) (rest : ∀ a, middle a → Always (next a) good) :
    Always (first >>= next) good := by
  intro s
  exact rest _ (h s) (first.run s).2

theorem mono {draw : StateM ρ α} {good better : α → Prop} (h : Always draw better)
    (weaker : ∀ a, better a → good a) : Always draw good :=
  fun s => weaker _ (h s)

/-- Nothing is known of a draw but that it comes from some state. -/
theorem drawn (draw : StateM ρ α) : Always draw fun a => ∃ s, a = (draw.run s).1 :=
  fun s => ⟨s, rfl⟩

theorem mapM {draw : α → StateM ρ β} {good : α → β → Prop} (items : List α)
    (h : ∀ a ∈ items, Always (draw a) (good a)) :
    Always (items.mapM draw) (List.Forall₂ good items) := by
  induction items with
  | nil => exact pure .nil
  | cons a rest ih =>
      rw [List.mapM_cons]
      refine bind (h a (by simp)) fun b hb => ?_
      refine bind (ih fun a member => h a (by simp [member])) fun bs hbs => ?_
      exact pure (.cons hb hbs)

end Always

namespace Meets

variable {allowed : Error → Prop}

theorem pure {a : α} {good : α → Prop} (h : good a) :
    Meets allowed (pure a : Draw ρ α) good :=
  Always.pure h

theorem bind {first : Draw ρ α} {next : α → Draw ρ β} {middle : α → Prop} {good : β → Prop}
    (h : Meets allowed first middle) (rest : ∀ a, middle a → Meets allowed (next a) good) :
    Meets allowed (first >>= next) good := by
  unfold Meets
  rw [ExceptT.run_bind]
  refine Always.bind h fun outcome holds => ?_
  cases outcome with
  | ok a => exact rest a holds
  | error e => exact Always.pure holds

theorem mono {draw : Draw ρ α} {good better : α → Prop} (h : Meets allowed draw better)
    (weaker : ∀ a, better a → good a) : Meets allowed draw good := by
  refine Always.mono h fun outcome holds => ?_
  cases outcome with
  | ok a => exact weaker a holds
  | error e => exact holds

/-- Where every error is allowed, a value is good when it can be drawn. -/
theorem drawn (draw : Draw ρ α) :
    Meets (fun _ => True) draw fun a => ∃ s, (draw.run s).1 = .ok a := by
  intro s
  cases made : (StateT.run draw.run s).1 with
  | ok a => exact ⟨s, made⟩
  | error e => trivial

/-- Values have two properties when they have each, and the errors are those of one. -/
theorem and {draw : Draw ρ α} {good better : α → Prop} (h : Meets allowed draw good)
    (also : Meets (fun _ => True) draw better) :
    Meets allowed draw fun a => good a ∧ better a := by
  intro s
  have first := h s
  have second := also s
  cases made : (StateT.run draw.run s).1 with
  | ok a =>
      rw [made] at first second
      exact ⟨first, second⟩
  | error e =>
      rw [made] at first
      exact first

/-- A draw that cannot fail. -/
theorem lift {draw : StateM ρ α} {good : α → Prop} (h : Always draw good) :
    Meets allowed (liftM draw : Draw ρ α) good :=
  Always.bind h fun _ holds => Always.pure holds

/-- A check that draws nothing. -/
theorem check {outcome : Except Error α} {good : α → Prop} (h : Contract allowed good outcome) :
    Meets allowed (liftM outcome : Draw ρ α) good :=
  Always.pure h

theorem mapM {draw : α → Draw ρ β} {good : α → β → Prop} (items : List α)
    (h : ∀ a ∈ items, Meets allowed (draw a) (good a)) :
    Meets allowed (items.mapM draw) (List.Forall₂ good items) := by
  induction items with
  | nil => exact pure .nil
  | cons a rest ih =>
      rw [List.mapM_cons]
      refine bind (h a (by simp)) fun b hb => ?_
      refine bind (ih fun a member => h a (by simp [member])) fun bs hbs => ?_
      exact pure (.cons hb hbs)

/-- The value of a draw that was made is good. -/
theorem ok {draw : Draw ρ α} {good : α → Prop} (h : Meets allowed draw good) {s : ρ} {a : α}
    (made : (draw.run s).1 = .ok a) : good a := by
  have holds := h s
  rw [show (StateT.run draw.run s).1 = .ok a from made] at holds
  exact holds

/-- A draw that is allowed no error gives a value. -/
theorem exists_ok {draw : Draw ρ α} {good : α → Prop} (h : Meets (fun _ => False) draw good)
    (s : ρ) : ∃ a, (draw.run s).1 = .ok a ∧ good a := by
  have holds := h s
  cases made : (draw.run s).1 with
  | ok a => exact ⟨a, rfl, h.ok made⟩
  | error e =>
      rw [show (StateT.run draw.run s).1 = .error e from made] at holds
      exact holds.elim

end Meets

/-! ## Draws in a row -/

namespace Draw

theorem run_bind (first : Draw ρ α) (next : α → Draw ρ β) (s : ρ) :
    (first >>= next).run s = match first.run s with
      | (.ok a, middle) => (next a).run middle
      | (.error e, middle) => (.error e, middle) := by
  change ExceptT.bindCont next (first.run s).1 (first.run s).2 = _
  obtain ⟨outcome, middle⟩ := first.run s
  cases outcome <;> rfl

theorem run_bind_of_error {first : Draw ρ α} {next : α → Draw ρ β} {s last : ρ} {e : Error}
    (refused : first.run s = (.error e, last)) : (first >>= next).run s = (.error e, last) := by
  rw [run_bind, refused]

theorem run_bind_of_ok {first : Draw ρ α} {next : α → Draw ρ β} {s middle : ρ} {a : α}
    (made : first.run s = (.ok a, middle)) : (first >>= next).run s = (next a).run middle := by
  rw [run_bind, made]

/-- Two draws in a row give a value when each does, the second from where the first has left the
source. -/
theorem run_bind_eq_ok {first : Draw ρ α} {next : α → Draw ρ β} {s last : ρ} {b : β} :
    (first >>= next).run s = (.ok b, last) ↔
      ∃ a middle, first.run s = (.ok a, middle) ∧ (next a).run middle = (.ok b, last) := by
  rw [run_bind]
  obtain ⟨outcome, middle⟩ := first.run s
  cases outcome with
  | ok a =>
      constructor
      · intro made
        exact ⟨a, middle, rfl, made⟩
      · rintro ⟨_, _, same, made⟩
        cases same
        exact made
  | error e =>
      constructor
      · intro made
        cases made
      · rintro ⟨_, _, same, -⟩
        cases same

/-- A draw goes on in the same way when it does so after every value that it can give. -/
theorem bind_congr {first : Draw ρ α} {next other : α → Draw ρ β} {given : α → Prop}
    (gives : Meets (fun _ => True) first given) (alike : ∀ a, given a → next a = other a) :
    first >>= next = first >>= other := by
  refine ExceptT.ext (StateT.ext fun s => ?_)
  change (first >>= next).run s = (first >>= other).run s
  rw [run_bind, run_bind]
  cases made : first.run s with
  | mk outcome middle =>
      cases outcome with
      | ok a =>
          have same := alike a (gives.ok (congrArg Prod.fst made))
          exact congrArg (fun draw : Draw ρ β => draw.run middle) same
      | error e => rfl

/-- A check draws nothing. -/
theorem run_liftM (outcome : Except Error α) (s : ρ) :
    (liftM outcome : Draw ρ α).run s = (outcome, s) := rfl

theorem run_check {outcome : Except Error α} {s last : ρ} {a : α} :
    (liftM outcome : Draw ρ α).run s = (.ok a, last) ↔ outcome = .ok a ∧ last = s := by
  rw [run_liftM, Prod.mk.injEq, eq_comm (a := s)]

theorem run_lift {draw : StateM ρ α} {s last : ρ} {a : α} :
    (liftM draw : Draw ρ α).run s = (.ok a, last) ↔ draw.run s = (a, last) := by
  change (Except.ok (draw.run s).1, (draw.run s).2) = _ ↔ _
  obtain ⟨drawn, middle⟩ := draw.run s
  constructor
  · intro made
    cases made
    rfl
  · intro made
    cases made
    rfl

end Draw

end Metamorph
