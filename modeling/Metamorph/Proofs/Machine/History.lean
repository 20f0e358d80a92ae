import Mathlib.Tactic.Common
import Metamorph.Machine.Procedure

/-! # Histories of procedures

What a procedure asks and what it is replied is its history. A whole run comes to a value; what
was asked up to some moment of a run is a beginning of it. The history of two procedures in a row
is that of the first, and behind it that of the second if the first comes to its end. -/

namespace Metamorph

/-- A request with the reply to it. -/
structure Exchange (I : Interface) where
  action : I.Action
  reply : I.Reply action

namespace Procedure

variable {I : Interface} {α β : Type}

/-- A procedure has a history and comes to a value. -/
inductive Runs : Procedure I α → List (Exchange I) → α → Prop where
  | done (value : α) : Runs (.done value) [] value
  | ask {action : I.Action} {next : I.Reply action → Procedure I α} {reply : I.Reply action}
      {history : List (Exchange I)} {value : α} (rest : Runs (next reply) history value) :
      Runs (.ask action next) (⟨action, reply⟩ :: history) value

/-- The history of a procedure begins in this way. -/
inductive Passes : Procedure I α → List (Exchange I) → Prop where
  | start (procedure : Procedure I α) : Passes procedure []
  | ask {action : I.Action} {next : I.Reply action → Procedure I α} {reply : I.Reply action}
      {history : List (Exchange I)} (rest : Passes (next reply) history) :
      Passes (.ask action next) (⟨action, reply⟩ :: history)

variable {history : List (Exchange I)} {value : α}

@[simp]
theorem runs_done {given : α} : Runs (.done given : Procedure I α) history value ↔
    history = [] ∧ value = given := by
  constructor
  · rintro ⟨⟩
    exact ⟨rfl, rfl⟩
  · rintro ⟨rfl, rfl⟩
    exact .done _

@[simp]
theorem runs_ask {action : I.Action} {next : I.Reply action → Procedure I α} :
    Runs (.ask action next) history value ↔
      ∃ reply rest, history = ⟨action, reply⟩ :: rest ∧ Runs (next reply) rest value := by
  constructor
  · rintro ⟨⟩
    exact ⟨_, _, rfl, ‹_›⟩
  · rintro ⟨reply, rest, rfl, run⟩
    exact .ask run

@[simp]
theorem passes_done {given : α} : Passes (.done given : Procedure I α) history ↔ history = [] := by
  constructor
  · rintro ⟨⟩
    rfl
  · rintro rfl
    exact .start _

@[simp]
theorem passes_ask {action : I.Action} {next : I.Reply action → Procedure I α} :
    Passes (.ask action next) history ↔
      history = [] ∨ ∃ reply rest, history = ⟨action, reply⟩ :: rest ∧ Passes (next reply) rest := by
  constructor
  · rintro ⟨⟩
    · exact .inl rfl
    · exact .inr ⟨_, _, rfl, ‹_›⟩
  · rintro (rfl | ⟨reply, rest, rfl, run⟩)
    · exact .start _
    · exact .ask run

/-- A whole run is a beginning of itself. -/
theorem Runs.passes {procedure : Procedure I α} (run : Runs procedure history value) :
    Passes procedure history := by
  induction run with
  | done value => exact .start _
  | ask rest ih => exact .ask ih

theorem runs_bind {first : Procedure I α} {next : α → Procedure I β} {result : β} :
    Runs (first.bind next) history result ↔ ∃ front value back, history = front ++ back ∧
      Runs first front value ∧ Runs (next value) back result := by
  induction first generalizing history with
  | done value => simp [bind]
  | ask action go ih =>
    simp only [bind, runs_ask, ih]
    constructor
    · rintro ⟨reply, _, rfl, front, value, back, rfl, run, later⟩
      exact ⟨⟨action, reply⟩ :: front, value, back, rfl, ⟨reply, front, rfl, run⟩, later⟩
    · rintro ⟨_, value, back, rfl, ⟨reply, front, rfl, run⟩, later⟩
      exact ⟨reply, front ++ back, rfl, front, value, back, rfl, run, later⟩

/-- A procedure that may fail goes on after a value only. -/
theorem runs_exceptT_bind {ε : Type} {work : ExceptT ε (Procedure I) α}
    {next : α → ExceptT ε (Procedure I) β} {result : Except ε β} :
    (work >>= next).run.Runs history result ↔
      (∃ e, work.run.Runs history (.error e) ∧ result = .error e) ∨
      ∃ front a back, history = front ++ back ∧ work.run.Runs front (.ok a) ∧
        (next a).run.Runs back result := by
  refine runs_bind.trans ?_
  constructor
  · rintro ⟨front, outcome, back, rfl, run, later⟩
    cases outcome with
    | ok a => exact .inr ⟨front, a, back, rfl, run, later⟩
    | error e =>
      obtain ⟨rfl, rfl⟩ := runs_done.mp later
      rw [List.append_nil]
      exact .inl ⟨e, run, rfl⟩
  · rintro (⟨e, run, rfl⟩ | ⟨front, a, back, rfl, run, later⟩)
    · exact ⟨history, .error e, [], by rw [List.append_nil], run, .done _⟩
    · exact ⟨front, .ok a, back, rfl, run, later⟩

theorem passes_bind {first : Procedure I α} {next : α → Procedure I β} :
    Passes (first.bind next) history ↔ Passes first history ∨
      ∃ front value back, history = front ++ back ∧ Runs first front value ∧
        Passes (next value) back := by
  induction first generalizing history with
  | done value =>
    have start : Passes (next value) [] := .start _
    constructor
    · intro passes
      exact .inr ⟨[], value, history, rfl, .done value, passes⟩
    · rintro (passes | ⟨_, _, back, rfl, ⟨⟩, passes⟩)
      · rwa [passes_done.mp passes]
      · exact passes
  | ask action go ih =>
    simp only [bind, passes_ask, ih]
    constructor
    · rintro (rfl | ⟨reply, _, rfl, passes | ⟨front, value, back, rfl, run, passes⟩⟩)
      · exact .inl (.inl rfl)
      · exact .inl (.inr ⟨reply, _, rfl, passes⟩)
      · exact .inr ⟨⟨action, reply⟩ :: front, value, back, rfl, .ask run, passes⟩
    · rintro ((rfl | ⟨reply, rest, rfl, passes⟩) | ⟨_, value, back, rfl, run, passes⟩)
      · exact .inl rfl
      · exact .inr ⟨reply, rest, rfl, .inl passes⟩
      · obtain ⟨reply, front, rfl, rest⟩ := runs_ask.mp run
        exact .inr ⟨reply, front ++ back, rfl, .inr ⟨front, value, back, rfl, rest, passes⟩⟩

/-- The history with a partner that remembers nothing, and the value. -/
def transcript (partner : (action : I.Action) → I.Reply action) :
    Procedure I α → List (Exchange I) × α
  | .done value => ([], value)
  | .ask action next =>
    let (history, value) := (next (partner action)).transcript partner
    (⟨action, partner action⟩ :: history, value)

theorem runs_transcript (partner : (action : I.Action) → I.Reply action)
    (procedure : Procedure I α) :
    Runs procedure (procedure.transcript partner).1 (procedure.transcript partner).2 := by
  induction procedure with
  | done value => exact .done value
  | ask action next ih => exact .ask (ih (partner action))

end Procedure

end Metamorph
