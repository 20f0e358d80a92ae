import Metamorph.Campaign.Run
import Metamorph.Proofs.Machine.History

/-! # Histories of work on a machine

Work comes to a value or to an error. What it goes on with after an error is nothing, unless the
error is taken for a value. -/

namespace Metamorph

namespace Machine

/-- What was asked of a machine, with its replies. -/
abbrev History : Type :=
  List (Exchange interface)

/-- A machine without any program of its own that has room for everything and leaves it to
somebody else what becomes of commands with a limit. -/
def roomy (run : Command → Except Refusal (Option Ending)) : (action : Action) → Reply action
  | .isPresent _ => false
  | .createFolders _ => .ok ()
  | .write _ _ => .ok ()
  | .append _ _ => .ok ()
  | .launch _ => .error .notFound
  | .launchWithin _ command => run command
  | .now => "2024-01-01T00:00:00Z"

end Machine

namespace Work

open Machine (History)

variable {α β : Type} {history : History} {work : Work α} {result : Except Error α}

/-- Work has a history and comes to a value or an error. -/
def Runs (work : Work α) (history : History) (result : Except Error α) : Prop :=
  Procedure.Runs work.run history result

/-- The history of work begins in this way. -/
def Passes (work : Work α) (history : History) : Prop :=
  Procedure.Passes work.run history

theorem Runs.passes (run : work.Runs history result) : work.Passes history :=
  Procedure.Runs.passes run

/-- What work asks for on a machine that remembers nothing. -/
def historyOn (machine : (action : Machine.Action) → Machine.Reply action) (work : Work α) :
    History :=
  (@Procedure.transcript Machine.interface _ machine work.run).1

/-- What work comes to on such a machine. -/
def resultOn (machine : (action : Machine.Action) → Machine.Reply action) (work : Work α) :
    Except Error α :=
  (@Procedure.transcript Machine.interface _ machine work.run).2

theorem runs_on (machine : (action : Machine.Action) → Machine.Reply action) (work : Work α) :
    work.Runs (work.historyOn machine) (work.resultOn machine) :=
  @Procedure.runs_transcript Machine.interface _ machine work.run

theorem passes_nil (work : Work α) : work.Passes [] :=
  .start _

@[simp]
theorem runs_pure {a : α} :
    (pure a : Work α).Runs history result ↔ history = [] ∧ result = .ok a :=
  Procedure.runs_done

@[simp]
theorem passes_pure {a : α} : (pure a : Work α).Passes history ↔ history = [] :=
  Procedure.passes_done

@[simp]
theorem runs_throw {e : Error} :
    (throw e : Work α).Runs history result ↔ history = [] ∧ result = .error e :=
  Procedure.runs_done

@[simp]
theorem passes_throw {e : Error} : (throw e : Work α).Passes history ↔ history = [] :=
  Procedure.passes_done

/-- What is known beforehand asks for nothing. -/
@[simp]
theorem runs_mk_pure {known : Except Error α} :
    Runs (ExceptT.mk (pure known)) history result ↔ history = [] ∧ result = known :=
  Procedure.runs_done

@[simp]
theorem passes_mk_pure {known : Except Error α} :
    Passes (ExceptT.mk (pure known)) history ↔ history = [] :=
  Procedure.passes_done

theorem runs_bind {next : α → Work β} {result : Except Error β} :
    (work >>= next).Runs history result ↔
      (∃ e, work.Runs history (.error e) ∧ result = .error e) ∨
      ∃ front a back, history = front ++ back ∧ work.Runs front (.ok a) ∧
        (next a).Runs back result :=
  Procedure.runs_exceptT_bind

theorem runs_bind_ok {next : α → Work β} {b : β} :
    (work >>= next).Runs history (.ok b) ↔
      ∃ front a back, history = front ++ back ∧ work.Runs front (.ok a) ∧
        (next a).Runs back (.ok b) := by
  simp [runs_bind]

theorem passes_bind {next : α → Work β} :
    (work >>= next).Passes history ↔ work.Passes history ∨
      ∃ front a back, history = front ++ back ∧ work.Runs front (.ok a) ∧
        (next a).Passes back := by
  refine Procedure.passes_bind.trans ?_
  constructor
  · rintro (passes | ⟨front, outcome, back, rfl, run, later⟩)
    · exact .inl passes
    · cases outcome with
      | ok a => exact .inr ⟨front, a, back, rfl, run, later⟩
      | error e =>
        obtain rfl := Procedure.passes_done.mp later
        rw [List.append_nil]
        exact .inl run.passes
  · rintro (passes | ⟨front, a, back, rfl, run, later⟩)
    · exact .inl passes
    · exact .inr ⟨front, .ok a, back, rfl, run, later⟩

@[simp]
theorem runs_ask {action : Machine.Action} {result : Except Error (Machine.Reply action)} :
    (ask action).Runs history result ↔
      ∃ reply, history = [⟨action, reply⟩] ∧ result = .ok reply := by
  have single : (ask action).run = .ask action fun reply => .done (.ok reply) := rfl
  rw [Runs, single, Procedure.runs_ask]
  constructor
  · rintro ⟨reply, rest, rfl, run⟩
    obtain ⟨rfl, rfl⟩ := Procedure.runs_done.mp run
    exact ⟨reply, rfl, rfl⟩
  · rintro ⟨reply, rfl, rfl⟩
    exact ⟨reply, [], rfl, .done _⟩

@[simp]
theorem passes_ask {action : Machine.Action} :
    (ask action).Passes history ↔ history = [] ∨ ∃ reply, history = [⟨action, reply⟩] := by
  have single : (ask action).run = .ask action fun reply => .done (.ok reply) := rfl
  rw [Passes, single, Procedure.passes_ask]
  simp

theorem runs_ask_bind {action : Machine.Action} {next : Machine.Reply action → Work α} :
    (ask action >>= next).Runs history result ↔
      ∃ reply back, history = ⟨action, reply⟩ :: back ∧ (next reply).Runs back result := by
  simp [runs_bind]

theorem passes_ask_bind {action : Machine.Action} {next : Machine.Reply action → Work α} :
    (ask action >>= next).Passes history ↔
      history = [] ∨ ∃ reply back, history = ⟨action, reply⟩ :: back ∧
        (next reply).Passes back := by
  rw [passes_bind]
  simp only [passes_ask, runs_ask]
  constructor
  · rintro ((rfl | ⟨reply, rfl⟩) | ⟨_, _, back, rfl, ⟨reply, rfl, ⟨⟩⟩, passes⟩)
    · exact .inl rfl
    · exact .inr ⟨reply, [], rfl, passes_nil _⟩
    · exact .inr ⟨_, back, rfl, passes⟩
  · rintro (rfl | ⟨reply, back, rfl, passes⟩)
    · exact .inl (.inl rfl)
    · exact .inr ⟨[⟨action, reply⟩], reply, back, rfl, ⟨reply, rfl, rfl⟩, passes⟩

theorem orFail_eq (reply : Except Refusal α) :
    orFail reply = ExceptT.mk (pure (reply.mapError .io)) := by
  cases reply <;> rfl

variable {path : String} {bytes : List UInt8}

@[simp]
theorem runs_createFolders {result : Except Error Unit} :
    (createFolders path).Runs history result ↔
      ∃ reply, history = [⟨.createFolders path, reply⟩] ∧ result = reply.mapError .io := by
  refine (@runs_ask_bind _ _ _ (.createFolders path) _).trans ?_
  simp [orFail_eq]

@[simp]
theorem passes_createFolders : (createFolders path).Passes history ↔
    history = [] ∨ ∃ reply, history = [⟨.createFolders path, reply⟩] := by
  refine (@passes_ask_bind _ _ (.createFolders path) _).trans ?_
  simp [orFail_eq]

@[simp]
theorem runs_write {result : Except Error Unit} : (write path bytes).Runs history result ↔
    ∃ reply, history = [⟨.write path bytes, reply⟩] ∧ result = reply.mapError .io := by
  refine (@runs_ask_bind _ _ _ (.write path bytes) _).trans ?_
  simp [orFail_eq]

@[simp]
theorem passes_write : (write path bytes).Passes history ↔
    history = [] ∨ ∃ reply, history = [⟨.write path bytes, reply⟩] := by
  refine (@passes_ask_bind _ _ (.write path bytes) _).trans ?_
  simp [orFail_eq]

@[simp]
theorem runs_append {result : Except Error Unit} : (append path bytes).Runs history result ↔
    ∃ reply, history = [⟨.append path bytes, reply⟩] ∧ result = reply.mapError .io := by
  refine (@runs_ask_bind _ _ _ (.append path bytes) _).trans ?_
  simp [orFail_eq]

end Work

namespace Campaign

open Machine (History)

variable {α : Type} {history : History} {work : Work α}

/-- The errors of work may be renamed; its values and what it asks for stay. -/
@[simp]
theorem runs_onOutput_ok {a : α} :
    (onOutput work).Runs history (.ok a) ↔ work.Runs history (.ok a) := by
  refine Procedure.runs_bind.trans ?_
  constructor
  · rintro ⟨front, inner, back, rfl, run, later⟩
    split at later
    · obtain ⟨-, ⟨⟩⟩ := Procedure.runs_done.mp later
    · obtain ⟨rfl, rfl⟩ := Procedure.runs_done.mp later
      rwa [List.append_nil]
  · intro run
    exact ⟨history, .ok a, [], by rw [List.append_nil], run, .done _⟩

@[simp]
theorem passes_onOutput : (onOutput work).Passes history ↔ work.Passes history := by
  refine Procedure.passes_bind.trans ?_
  constructor
  · rintro (passes | ⟨front, inner, back, rfl, run, later⟩)
    · exact passes
    · have nothing : back = [] := by
        split at later <;> exact Procedure.passes_done.mp later
      rw [nothing, List.append_nil]
      exact Work.Runs.passes run
  · exact .inl

/-- Attempted work cannot fail. -/
@[simp]
theorem runs_attempt {result : Except Error (Option α)} :
    (attempt work).Runs history result ↔
      ∃ inner, work.Runs history inner ∧ result = .ok inner.toOption := by
  refine Procedure.runs_bind.trans ?_
  constructor
  · rintro ⟨front, inner, back, rfl, run, later⟩
    cases inner <;>
      obtain ⟨rfl, rfl⟩ := Procedure.runs_done.mp later <;>
      exact ⟨_, by rwa [List.append_nil], rfl⟩
  · rintro ⟨inner, run, rfl⟩
    refine ⟨history, inner, [], by rw [List.append_nil], run, ?_⟩
    cases inner <;> exact .done _

end Campaign

end Metamorph
