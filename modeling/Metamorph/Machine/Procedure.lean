/-! # Procedures

A procedure is a finite conversation: it asks a partner for one thing after the other, may
decide what to ask next by the replies, and comes to a value. What can be asked is fixed by
an interface, and any partner that gives replies can carry a procedure out. -/

namespace Metamorph

/-- What can be asked of a partner, and what it replies to each request. -/
structure Interface where
  Action : Type
  Reply : Action → Type

/-- A conversation through an interface that comes to a value. -/
inductive Procedure (I : Interface) (α : Type) where
  /-- Nothing more is asked. -/
  | done (value : α)
  /-- Ask for an action and go on with the reply. -/
  | ask (action : I.Action) (next : I.Reply action → Procedure I α)

namespace Procedure

variable {I : Interface} {α β : Type}

/-- Ask for one action, whose reply is the value. -/
def perform (action : I.Action) : Procedure I (I.Reply action) :=
  .ask action .done

/-- Go on after a procedure with what its value decides. -/
def bind (first : Procedure I α) (next : α → Procedure I β) : Procedure I β :=
  match first with
  | .done value => next value
  | .ask action go => .ask action fun reply => (go reply).bind next

instance : Monad (Procedure I) where
  pure := .done
  bind := .bind

/-- To come to the same value adds nothing. -/
theorem bind_done (procedure : Procedure I α) : procedure.bind .done = procedure := by
  induction procedure with
  | done value => rfl
  | ask action next ih => exact congrArg (ask action) (funext ih)

/-- Three procedures in a row may be split at either joint. -/
theorem bind_bind {γ : Type} (first : Procedure I α) (next : α → Procedure I β)
    (last : β → Procedure I γ) :
    (first.bind next).bind last = first.bind fun value => (next value).bind last := by
  induction first with
  | done value => rfl
  | ask action go ih => exact congrArg (ask action) (funext ih)

instance : LawfulMonad (Procedure I) :=
  LawfulMonad.mk' _ bind_done (fun _ _ => rfl) bind_bind

/-- Carry out a procedure with a partner. -/
def carryOut {m : Type → Type} [Monad m] (partner : (action : I.Action) → m (I.Reply action)) :
    Procedure I α → m α
  | .done value => pure value
  | .ask action next => do
    let reply ← partner action
    (next reply).carryOut partner

end Procedure

end Metamorph
