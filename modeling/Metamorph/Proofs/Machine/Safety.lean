import Metamorph.Proofs.Machine.Asks

/-! # Safety of work

What is known of a machine changes with every exchange, by a relation that says what an exchange
may do. Work is safe if, from states of some kind, every state that it passes through is a good
one, whatever is replied, and if it comes to a value then this value and the state fit together.
Nothing more is asked of work that fails, so that safety holds wherever a run breaks off. -/

namespace Metamorph

open Machine (History)

variable {σ α β : Type} {step : σ → Exchange Machine.interface → σ → Prop}

/-- A history may lead from one state to another. -/
inductive Leads (step : σ → Exchange Machine.interface → σ → Prop) : σ → History → σ → Prop where
  | refl (s : σ) : Leads step s [] s
  | head {s t u : σ} {exchange : Exchange Machine.interface} {history : History}
      (first : step s exchange t) (rest : Leads step t history u) :
      Leads step s (exchange :: history) u

variable {s t : σ} {history : History}

@[simp]
theorem leads_nil : Leads step s [] t ↔ t = s := by
  constructor
  · rintro ⟨⟩
    rfl
  · rintro rfl
    exact .refl _

@[simp]
theorem leads_cons {exchange : Exchange Machine.interface} :
    Leads step s (exchange :: history) t ↔
      ∃ middle, step s exchange middle ∧ Leads step middle history t := by
  constructor
  · rintro ⟨⟩
    exact ⟨_, ‹_›, ‹_›⟩
  · rintro ⟨middle, first, rest⟩
    exact .head first rest

theorem leads_append {front back : History} :
    Leads step s (front ++ back) t ↔
      ∃ middle, Leads step s front middle ∧ Leads step middle back t := by
  induction front generalizing s with
  | nil => simp
  | cons exchange front ih =>
    simp only [List.cons_append, leads_cons, ih]
    constructor
    · rintro ⟨next, first, middle, front, back⟩
      exact ⟨middle, ⟨next, first, front⟩, back⟩
    · rintro ⟨middle, ⟨next, first, front⟩, back⟩
      exact ⟨next, first, middle, front, back⟩

namespace Work

/-- From every state with `before`, work keeps to states with `within`, and its values come with
`after`. -/
def Safe (step : σ → Exchange Machine.interface → σ → Prop) (within before : σ → Prop)
    (work : Work α) (after : α → σ → Prop) : Prop :=
  ∀ ⦃s : σ⦄ ⦃history : History⦄ ⦃t : σ⦄, before s → Leads step s history t →
    (work.Passes history → within t) ∧ ∀ a, work.Runs history (.ok a) → after a t

namespace Safe

variable {within before : σ → Prop} {after : α → σ → Prop} {work : Work α}

theorem pure {a : α} (inside : ∀ s, before s → within s) (fits : ∀ s, before s → after a s) :
    Safe step within before (pure a) after := by
  intro s history t given leads
  constructor
  · intro passes
    rw [passes_pure.mp passes, leads_nil] at leads
    exact leads ▸ inside s given
  · intro b run
    obtain ⟨rfl, same⟩ := runs_pure.mp run
    obtain rfl := Except.ok.inj same
    rw [leads_nil] at leads
    exact leads ▸ fits s given

/-- What fails at once asks for nothing. -/
theorem throw {e : Error} (inside : ∀ s, before s → within s) :
    Safe step within before (throw e : Work α) after := by
  intro s history t given leads
  constructor
  · intro passes
    rw [passes_throw.mp passes, leads_nil] at leads
    exact leads ▸ inside s given
  · intro b run
    cases (runs_throw.mp run).2

theorem known {outcome : Except Error α} (inside : ∀ s, before s → within s)
    (fits : ∀ a, outcome = .ok a → ∀ s, before s → after a s) :
    Safe step within before (ExceptT.mk (Pure.pure outcome)) after := by
  cases outcome with
  | ok a => exact Safe.pure inside (fits a rfl)
  | error e => exact Safe.throw inside

theorem bind {middle : α → σ → Prop} {next : α → Work β} {finish : β → σ → Prop}
    (first : Safe step within before work middle)
    (rest : ∀ a, Safe step within (middle a) (next a) finish) :
    Safe step within before (work >>= next) finish := by
  intro s history t given leads
  constructor
  · intro passes
    obtain passes | ⟨front, a, back, rfl, run, passes⟩ := passes_bind.mp passes
    · exact (first given leads).1 passes
    · obtain ⟨u, toMiddle, onward⟩ := leads_append.mp leads
      exact (rest a ((first given toMiddle).2 a run) onward).1 passes
  · intro b run
    obtain ⟨front, a, back, rfl, run, later⟩ := runs_bind_ok.mp run
    obtain ⟨u, toMiddle, onward⟩ := leads_append.mp leads
    exact (rest a ((first given toMiddle).2 a run) onward).2 b later

/-- One request is safe if each reply to it is. -/
theorem ask {action : Machine.Action} {after : Machine.Reply action → σ → Prop}
    (inside : ∀ s, before s → within s)
    (each : ∀ s reply t, before s → step s ⟨action, reply⟩ t → within t ∧ after reply t) :
    Safe step within before (ask action) after := by
  intro s history t given leads
  constructor
  · intro passes
    obtain rfl | ⟨reply, rfl⟩ := passes_ask.mp passes
    · rw [leads_nil] at leads
      exact leads ▸ inside s given
    · obtain ⟨u, first, rest⟩ := leads_cons.mp leads
      rw [leads_nil] at rest
      exact rest ▸ (each s reply u given first).1
  · intro b run
    obtain ⟨reply, rfl, same⟩ := runs_ask.mp run
    obtain rfl := Except.ok.inj same
    obtain ⟨u, first, rest⟩ := leads_cons.mp leads
    rw [leads_nil] at rest
    exact rest ▸ (each s b u given first).2

/-- A request whose refusal is an error. -/
theorem ask_orFail {action : Machine.Action} (known : Machine.Reply action → Except Refusal α)
    (inside : ∀ s, before s → within s)
    (each : ∀ s reply t, before s → step s ⟨action, reply⟩ t →
      within t ∧ ∀ a, known reply = .ok a → after a t) :
    Safe step within before (do orFail (known (← Work.ask action))) after := by
  have asked : Safe step within before (Work.ask action) fun reply t =>
      within t ∧ ∀ a, known reply = .ok a → after a t :=
    ask inside fun s reply t given first =>
      have both := each s reply t given first
      ⟨both.1, both⟩
  refine bind asked fun reply => ?_
  rw [orFail_eq]
  refine Safe.known (fun s given => given.1) fun a same s given => given.2 a ?_
  cases answer : known reply with
  | ok b =>
    rw [answer] at same
    obtain rfl := Except.ok.inj same
    rfl
  | error why =>
    rw [answer] at same
    cases same

variable {path : String} {bytes : List UInt8} {done : Unit → σ → Prop}

theorem write (inside : ∀ s, before s → within s)
    (each : ∀ s reply t, before s → step s ⟨.write path bytes, reply⟩ t →
      within t ∧ ∀ u, reply = .ok u → done u t) :
    Safe step within before (Work.write path bytes) done :=
  @ask_orFail _ _ _ _ _ _ (.write path bytes) (fun reply => reply) inside each

theorem append (inside : ∀ s, before s → within s)
    (each : ∀ s reply t, before s → step s ⟨.append path bytes, reply⟩ t →
      within t ∧ ∀ u, reply = .ok u → done u t) :
    Safe step within before (Work.append path bytes) done :=
  @ask_orFail _ _ _ _ _ _ (.append path bytes) (fun reply => reply) inside each

theorem mono {inner outer : σ → Prop} {earlier : σ → Prop} {later : α → σ → Prop}
    (safe : Safe step inner before work after) (stronger : ∀ s, earlier s → before s)
    (inside : ∀ s, inner s → outer s) (weaker : ∀ a s, after a s → later a s) :
    Safe step outer earlier work later := by
  intro s history t given leads
  have known := safe (stronger s given) leads
  exact ⟨fun passes => inside t (known.1 passes), fun a run => weaker a t (known.2 a run)⟩

theorem widen {inner outer : σ → Prop} (safe : Safe step inner before work after)
    (inside : ∀ s, inner s → outer s) : Safe step outer before work after :=
  safe.mono (fun _ given => given) inside fun _ _ given => given

/-- What is known of no state in particular is known for good. -/
theorem of_and {known : Prop} (safe : known → Safe step within before work after) :
    Safe step within (fun s => before s ∧ known) work after :=
  fun _ _ _ given leads => safe given.2 given.1 leads

/-- What is known of the values of work is known in the end. -/
theorem and_runs {also : α → Prop} (safe : Safe step within before work after)
    (sure : ∀ history a, work.Runs history (.ok a) → also a) :
    Safe step within before work fun a s => after a s ∧ also a :=
  fun _ history _ given leads =>
    ⟨(safe given leads).1, fun a run => ⟨(safe given leads).2 a run, sure history a run⟩⟩

/-- Work that asks for nothing that can disturb what is known leaves it as it is. -/
theorem of_asks {quiet : Machine.Action → Prop} {known : σ → Prop} (asks : work.run.Asks quiet)
    (kept : ∀ s exchange t, quiet exchange.action → known s → step s exchange t → known t) :
    Safe step known known work fun _ => known := by
  have stays {history : History} {s t : σ} (leads : Leads step s history t) :
      (∀ exchange ∈ history, quiet exchange.action) → known s → known t := by
    induction leads with
    | refl s => exact fun _ given => given
    | head first rest ih =>
      intro calm given
      obtain ⟨now, later⟩ := List.forall_mem_cons.mp calm
      exact ih later (kept _ _ _ now given first)
  intro s history t given leads
  exact ⟨fun passes => stays leads (asks.of_passes passes) given,
    fun a run => stays leads (asks.of_passes run.passes) given⟩

theorem onOutput (safe : Safe step within before work after) :
    Safe step within before (Campaign.onOutput work) after := by
  intro s history t given leads
  have known := safe given leads
  exact ⟨fun passes => known.1 (Campaign.passes_onOutput.mp passes),
    fun a run => known.2 a (Campaign.runs_onOutput_ok.mp run)⟩

end Safe

end Work

end Metamorph
