import Metamorph.Proofs.Machine.Work

/-! # What a procedure may ask for

A procedure keeps to some requests if it asks for no others, whatever is replied. One that is
carried out by a partner keeps to what the partner asks for on its behalf. -/

namespace Metamorph

namespace Procedure

variable {I J : Interface} {α β : Type}

/-- Whatever is replied, only allowed requests are made. -/
inductive Asks (allowed : I.Action → Prop) : Procedure I α → Prop where
  | done (value : α) : Asks allowed (.done value)
  | ask {action : I.Action} {next : I.Reply action → Procedure I α} (now : allowed action)
      (later : ∀ reply, Asks allowed (next reply)) : Asks allowed (.ask action next)

namespace Asks

variable {allowed wider : I.Action → Prop} {procedure : Procedure I α}

theorem bind {next : α → Procedure I β} (first : procedure.Asks allowed)
    (rest : ∀ value, (next value).Asks allowed) : (procedure.bind next).Asks allowed := by
  induction first with
  | done value => exact rest value
  | ask now _ ih => exact .ask now ih

theorem mono (asks : procedure.Asks allowed) (weaker : ∀ action, allowed action → wider action) :
    procedure.Asks wider := by
  induction asks with
  | done value => exact .done value
  | ask now _ ih => exact .ask (weaker _ now) ih

theorem of_passes {history : List (Exchange I)} (asks : procedure.Asks allowed)
    (passes : procedure.Passes history) : ∀ exchange ∈ history, allowed exchange.action := by
  induction passes with
  | start procedure => simp
  | ask rest ih =>
    cases asks with
    | ask now later => exact List.forall_mem_cons.mpr ⟨now, ih (later _)⟩

theorem carryOut {partner : (action : I.Action) → Procedure J (I.Reply action)}
    {also : J.Action → Prop} (asks : procedure.Asks allowed)
    (served : ∀ action, allowed action → (partner action).Asks also) :
    (procedure.carryOut partner).Asks also := by
  induction asks with
  | done value => exact .done value
  | ask now _ ih => exact (served _ now).bind ih

/-! Procedures that may fail. -/

variable {work : ExceptT Error (Procedure I) α}

theorem pure {value : α} : (Pure.pure value : ExceptT Error (Procedure I) α).run.Asks allowed :=
  .done _

theorem throw {e : Error} : (throw e : ExceptT Error (Procedure I) α).run.Asks allowed :=
  .done _

/-- What is known beforehand asks for nothing. -/
theorem known {outcome : Except Error α} :
    (ExceptT.mk (Pure.pure outcome) : ExceptT Error (Procedure I) α).run.Asks allowed :=
  .done _

theorem run_bind {next : α → ExceptT Error (Procedure I) β} (first : work.run.Asks allowed)
    (rest : ∀ value, (next value).run.Asks allowed) : (work >>= next).run.Asks allowed := by
  refine first.bind fun outcome => ?_
  cases outcome with
  | ok value => exact rest value
  | error e => exact .done _

/-- What is decided beforehand asks for nothing, and only a value goes on. -/
theorem decided_bind {outcome : Except Error α} {next : α → ExceptT Error (Procedure I) β}
    (rest : ∀ value, outcome = .ok value → (next value).run.Asks allowed) :
    ((liftM outcome : ExceptT Error (Procedure I) α) >>= next).run.Asks allowed := by
  cases outcome with
  | ok value => exact rest value rfl
  | error e => exact .done _

theorem lift_perform {action : I.Action} (now : allowed action) :
    (ExceptT.lift (Procedure.perform action) : ExceptT Error (Procedure I) _).run.Asks allowed :=
  .ask now fun _ => .done _

end Asks

end Procedure

open Procedure (Asks)

variable {α : Type} {allowed : Machine.Action → Prop} {work : Work α}

namespace Work

theorem asks_ask {action : Machine.Action} (now : allowed action) :
    (ask action).run.Asks allowed :=
  .lift_perform now

theorem asks_orFail {reply : Except Refusal α} : (orFail reply).run.Asks allowed := by
  rw [orFail_eq]
  exact .known

theorem asks_createFolders {path : String} (now : allowed (.createFolders path)) :
    (createFolders path).run.Asks allowed :=
  .run_bind (asks_ask now) fun _ => asks_orFail

theorem asks_write {path : String} {bytes : List UInt8} (now : allowed (.write path bytes)) :
    (write path bytes).run.Asks allowed :=
  .run_bind (asks_ask now) fun _ => asks_orFail

theorem asks_append {path : String} {bytes : List UInt8} (now : allowed (.append path bytes)) :
    (append path bytes).run.Asks allowed :=
  .run_bind (asks_ask now) fun _ => asks_orFail

end Work

theorem Campaign.asks_attempt (asks : work.run.Asks allowed) :
    (attempt work).run.Asks allowed := by
  refine Asks.bind asks fun outcome => ?_
  cases outcome <;> exact .done _

theorem Campaign.asks_onOutput (asks : work.run.Asks allowed) :
    (onOutput work).run.Asks allowed := by
  refine Asks.bind asks fun outcome => ?_
  split <;> exact .done _

end Metamorph
