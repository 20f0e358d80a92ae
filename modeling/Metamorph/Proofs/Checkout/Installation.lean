import Mathlib.Data.List.Induction
import Metamorph.Checkout.Install
import Metamorph.Proofs.Machine.Disk

/-! # What installing does to a checkout

Hooks that are called for are looked up before the checkout is touched, then the repository is
asked for one action, and last of all the hooks are written. A registry is known by what was
registered, in order: of several hooks under one key the last ones count. What the repository does
with the files is its own affair; of what is done by installing itself one file is all that can
change. -/

namespace Metamorph

namespace Registry

/-- Hooks that are put under a key of a target. -/
structure Registration where
  target : Target
  key : String
  hooks : HookModule
  deriving Repr

/-- What is left when hooks are put into a registry one after the other. -/
def ofRegistrations (registrations : List Registration) : Registry :=
  registrations.foldl (fun registry r => registry.register r.target r.key r.hooks) {}

variable {registrations : List Registration} {target : Target} {key : String}

/-- Nothing was put under a key of a target. -/
def Unregistered (registrations : List Registration) (target : Target) (key : String) : Prop :=
  ∀ r ∈ registrations, (r.target, r.key) ≠ (target, key)

/-- The hooks that were put last under a key of a target. -/
def lastUnder (registrations : List Registration) (target : Target) (key : String) :
    Option HookModule :=
  (registrations.filter fun r => (r.target, r.key) = (target, key)).getLast?.map (·.hooks)

theorem lastUnder_eq_none :
    lastUnder registrations target key = none ↔ Unregistered registrations target key := by
  simp [lastUnder, Unregistered]

theorem find?_register (registry : Registry) (r : Registration) :
    (registry.register r.target r.key r.hooks).find? target key =
      if (r.target, r.key) = (target, key) then some r.hooks else registry.find? target key := by
  unfold find? register
  by_cases same : (r.target, r.key) = (target, key)
  · simp [same]
  · have others : ∀ entry : (Target × String) × HookModule,
        (!decide (entry.1 = (r.target, r.key)) && decide (entry.1 = (target, key))) =
          decide (entry.1 = (target, key)) := by
      intro entry
      by_cases found : entry.1 = (target, key)
      · simp [found, Ne.symm same]
      · simp [found]
    simp [same, List.find?_filter, others]

/-- A key leads to what was put under it last. -/
theorem find?_ofRegistrations :
    (ofRegistrations registrations).find? target key = lastUnder registrations target key := by
  induction registrations using List.reverseRecOn with
  | nil => rfl
  | append_singleton registrations r ih =>
      have registered : ofRegistrations (registrations ++ [r]) =
          (ofRegistrations registrations).register r.target r.key r.hooks := by
        simp [ofRegistrations]
      rw [registered, find?_register, ih, lastUnder, lastUnder, List.filter_append]
      by_cases same : (r.target, r.key) = (target, key)
      · have last : [r].filter (fun r => (r.target, r.key) = (target, key)) = [r] :=
          List.filter_cons_of_pos (decide_eq_true same)
        rw [last, if_pos same, List.getLast?_concat, Option.map_some]
      · have other : [r].filter (fun r => (r.target, r.key) = (target, key)) = [] :=
          List.filter_cons_of_neg (fun found => same (of_decide_eq_true found))
        rw [other, if_neg same, List.append_nil]

end Registry

namespace Checkout

/-- What an exchange may do to the files. The repository may do anything. Making folders changes no
file, and writing changes the file that it is about, which may hold anything after a failure. -/
def Change (before : Disk) : Exchange interface → Disk → Prop
  | ⟨.createFolders _, _⟩, after => after = before
  | ⟨.write path bytes, .ok _⟩, after => after = Function.update before path (some bytes)
  | ⟨.write path _, .error _⟩, after => ∀ other, other ≠ path → after other = before other
  | _, _ => True

/-- The files may change from one state to another in the course of a history. -/
inductive Alters : Disk → List (Exchange interface) → Disk → Prop where
  | refl (disk : Disk) : Alters disk [] disk
  | head {before middle after : Disk} {exchange : Exchange interface}
      {history : List (Exchange interface)} (first : Change before exchange middle)
      (rest : Alters middle history after) : Alters before (exchange :: history) after

namespace Alters

variable {before after : Disk} {exchange : Exchange interface}
  {history back : List (Exchange interface)}

@[simp]
theorem nil_iff : Alters before [] after ↔ after = before := by
  constructor
  · rintro ⟨⟩
    rfl
  · rintro rfl
    exact .refl _

@[simp]
theorem cons_iff : Alters before (exchange :: history) after ↔
    ∃ middle, Change before exchange middle ∧ Alters middle history after := by
  constructor
  · rintro ⟨⟩
    exact ⟨_, ‹_›, ‹_›⟩
  · rintro ⟨middle, first, rest⟩
    exact .head first rest

theorem append_iff : Alters before (history ++ back) after ↔
    ∃ middle, Alters before history middle ∧ Alters middle back after := by
  induction history generalizing before with
  | nil => simp
  | cons exchange history ih =>
      simp only [List.cons_append, cons_iff, ih]
      constructor
      · rintro ⟨first, change, middle, front, rest⟩
        exact ⟨middle, ⟨first, change, front⟩, rest⟩
      · rintro ⟨middle, ⟨first, change, front⟩, rest⟩
        exact ⟨first, change, middle, front, rest⟩

end Alters

variable {α : Type} {history : List (Exchange interface)}

theorem runs_ask_bind {action : Action} {next : Reply action → Work α} {result : Except Error α} :
    (ask action >>= next).run.Runs history result ↔
      ∃ reply back, history = ⟨action, reply⟩ :: back ∧ (next reply).run.Runs back result := by
  have asks : (ask action >>= next).run = .ask action fun reply => (next reply).run := rfl
  rw [asks, Procedure.runs_ask]

/-- A reply that is an error ends the work, and any other is passed over. -/
theorem runs_orFail_bind {reply : Except Error Unit} {next : Unit → Work α}
    {result : Except Error α} :
    (orFail reply >>= next).run.Runs history result ↔
      (∃ e, reply = .error e ∧ history = [] ∧ result = .error e) ∨
        reply = .ok () ∧ (next ()).run.Runs history result := by
  cases reply with
  | ok done =>
      have passes : (orFail (.ok done) >>= next).run = (next ()).run := rfl
      simp [passes]
  | error e =>
      have ends : (orFail (.error e) >>= next).run = .done (.error e) := rfl
      simp [ends]

theorem runs_return {a : α} {result : Except Error α} :
    (pure a : Work α).run.Runs history result ↔ history = [] ∧ result = .ok a :=
  Procedure.runs_done

theorem runs_orFail_return {reply : Except Error Unit} {a : α} {result : Except Error α} :
    (orFail reply >>= fun _ => pure a : Work α).run.Runs history result ↔
      history = [] ∧ result = reply.map fun _ => a := by
  rw [runs_orFail_bind, runs_return]
  cases reply with
  | ok done => simp [Except.map]
  | error e => simp [Except.map]

end Checkout

namespace InstallRequest

open Checkout (interface Alters)

/-- The one action that the repository is asked for, with its outcome: a checkout that is there is
reset, and one that is missing is cloned. -/
def switched (request : InstallRequest) (present : Bool) (outcome : Except Error Unit) :
    Exchange interface :=
  if present then ⟨.reset request.path request.revision, outcome⟩
  else ⟨.clone request.path request.remoteUrl request.revision, outcome⟩

variable {request : InstallRequest} {registry : Registry} {hooks : HookModule}
  {history : List (Exchange interface)}

theorem of_runs_switch {result : Except Error Bool} (run : request.switch.run.Runs history result) :
    ∃ present outcome,
      history = [⟨.isRepository request.path, present⟩, request.switched present outcome] ∧
        result = outcome.map fun _ => !present := by
  obtain ⟨present, _, rfl, switches⟩ := Checkout.runs_ask_bind.mp run
  cases present with
  | true =>
      rw [if_pos rfl] at switches
      obtain ⟨outcome, _, rfl, ends⟩ := Checkout.runs_ask_bind.mp switches
      obtain ⟨rfl, rfl⟩ := Checkout.runs_orFail_return.mp ends
      exact ⟨true, outcome, rfl, rfl⟩
  | false =>
      rw [if_neg Bool.false_ne_true] at switches
      obtain ⟨outcome, _, rfl, ends⟩ := Checkout.runs_ask_bind.mp switches
      obtain ⟨rfl, rfl⟩ := Checkout.runs_orFail_return.mp ends
      exact ⟨false, outcome, rfl, rfl⟩

/-- Where the hooks of a request belong. -/
def hooksPath (request : InstallRequest) (hooks : HookModule) : String :=
  inside request.path hooks.path

theorem of_runs_writeHooks {result : Except Error String}
    (run : (request.writeHooks hooks).run.Runs history result) :
    (∃ e, history = [⟨.createFolders (folderOf (request.hooksPath hooks)), .error e⟩] ∧
      result = .error e) ∨
    ∃ written, history = [⟨.createFolders (folderOf (request.hooksPath hooks)), .ok ()⟩,
        ⟨.write (request.hooksPath hooks) (Text.utf8 hooks.text), written⟩] ∧
      result = written.map fun _ => request.hooksPath hooks := by
  obtain ⟨made, _, rfl, makes⟩ := Checkout.runs_ask_bind.mp run
  rcases Checkout.runs_orFail_bind.mp makes with ⟨e, rfl, rfl, rfl⟩ | ⟨rfl, writes⟩
  · exact .inl ⟨e, rfl, rfl⟩
  · obtain ⟨written, _, rfl, ends⟩ := Checkout.runs_ask_bind.mp writes
    obtain ⟨rfl, rfl⟩ := Checkout.runs_orFail_return.mp ends
    exact .inr ⟨written, rfl, rfl⟩

/-! ## Installing -/

variable {registrations : List Registry.Registration}

open Registry (ofRegistrations Unregistered lastUnder)

/-- Hooks are called for only if faults are to be injected, and then they have to be there. -/
theorem hooks_cases (request : InstallRequest) (registrations : List Registry.Registration) :
    (request.faultInjection = true ∧
      Unregistered registrations request.target request.revision ∧
      request.hooks (ofRegistrations registrations) =
        .error (.unsupportedRevision request.target.name request.revision)) ∨
    ∃ called, request.hooks (ofRegistrations registrations) = .ok called ∧
      (request.faultInjection = false → called = none) ∧
      (request.faultInjection = true → ∃ hooks, called = some hooks ∧
        lastUnder registrations request.target request.revision = some hooks) := by
  unfold hooks Registry.lookup
  rw [Registry.find?_ofRegistrations]
  cases request.faultInjection with
  | false => exact .inr ⟨none, rfl, fun _ => rfl, fun on => absurd on Bool.false_ne_true⟩
  | true =>
      cases found : lastUnder registrations request.target request.revision with
      | none => exact .inl ⟨rfl, Registry.lastUnder_eq_none.mp found, rfl⟩
      | some hooks =>
          exact .inr ⟨some hooks, rfl, fun off => absurd off.symm Bool.false_ne_true,
            fun _ => ⟨hooks, rfl, rfl⟩⟩

/-- What is left to do when it is known which hooks are called for. -/
theorem install_eq {called : Option HookModule} (found : request.hooks registry = .ok called) :
    request.install registry = do
      let cloned ← request.switch
      match called with
      | none => return ⟨cloned, none⟩
      | some hooks => return ⟨cloned, some (← request.writeHooks hooks)⟩ := by
  unfold install
  rw [found]
  rfl

/-- What a run asks for behind the action of the repository. -/
theorem of_runs_install {result : Except Error InstallReport} {called : Option HookModule}
    (found : request.hooks registry = .ok called)
    (run : (request.install registry).run.Runs history result) :
    ∃ present outcome own,
      history = [⟨.isRepository request.path, present⟩, request.switched present outcome] ++ own ∧
      ((∃ e, outcome = .error e ∧ own = [] ∧ result = .error e) ∨
        outcome = .ok () ∧ match called with
          | none => own = [] ∧ result = .ok ⟨!present, none⟩
          | some hooks => ∃ written, (request.writeHooks hooks).run.Runs own written ∧
              result = written.map fun path => ⟨!present, some path⟩) := by
  rw [install_eq found] at run
  rcases Procedure.runs_exceptT_bind.mp run with
    ⟨e, fails, rfl⟩ | ⟨front, cloned, own, rfl, switches, rest⟩
  · obtain ⟨present, outcome, rfl, same⟩ := of_runs_switch fails
    refine ⟨present, outcome, [], by simp, .inl ⟨e, ?_, rfl, rfl⟩⟩
    cases outcome <;> cases same
    rfl
  · obtain ⟨present, outcome, rfl, same⟩ := of_runs_switch switches
    refine ⟨present, outcome, own, rfl, .inr ?_⟩
    cases outcome with
    | error e => cases same
    | ok done =>
        obtain rfl : cloned = !present := Except.ok.inj same
        refine ⟨rfl, ?_⟩
        cases called with
        | none => exact Checkout.runs_return.mp rest
        | some hooks =>
            rcases Procedure.runs_exceptT_bind.mp rest with
              ⟨e, fails, rfl⟩ | ⟨front, path, back, rfl, writes, returns⟩
            · exact ⟨.error e, fails, rfl⟩
            · obtain ⟨rfl, rfl⟩ := Checkout.runs_return.mp returns
              exact ⟨.ok path, by rwa [List.append_nil], rfl⟩

/-- Hooks that are called for are written if nothing is refused. -/
theorem runs_install (found : request.hooks registry = .ok (some hooks)) (present : Bool) :
    (request.install registry).run.Runs
      [⟨.isRepository request.path, present⟩, request.switched present (.ok ()),
        ⟨.createFolders (folderOf (request.hooksPath hooks)), .ok ()⟩,
        ⟨.write (request.hooksPath hooks) (Text.utf8 hooks.text), .ok ()⟩]
      (.ok ⟨!present, some (request.hooksPath hooks)⟩) := by
  rw [install_eq found]
  cases present with
  | true => exact .ask (.ask (.ask (.ask (.done _))))
  | false => exact .ask (.ask (.ask (.ask (.done _))))

/-- What installing does once the repository has done its part: hooks are written into one file,
with the folders around it, and are there in full if nothing is refused. -/
structure Outfits (request : InstallRequest) (hooks : HookModule) (present : Bool)
    (own : List (Exchange interface)) (switched after : Disk)
    (result : Except Error InstallReport) : Prop where
  asked : (∃ e, own = [⟨.createFolders (folderOf (request.hooksPath hooks)), .error e⟩] ∧
      result = .error e) ∨
    ∃ written, own = [⟨.createFolders (folderOf (request.hooksPath hooks)), .ok ()⟩,
        ⟨.write (request.hooksPath hooks) (Text.utf8 hooks.text), written⟩] ∧
      result = written.map fun _ => ⟨!present, some (request.hooksPath hooks)⟩
  elsewhere : ∀ path, path ≠ request.hooksPath hooks → after path = switched path
  inPlace : ∀ report, result = .ok report →
    after (request.hooksPath hooks) = some (Text.utf8 hooks.text)

theorem outfits_of_runs {present : Bool} {own : List (Exchange interface)}
    {switched after : Disk} {written : Except Error String}
    (run : (request.writeHooks hooks).run.Runs own written) (alters : Alters switched own after) :
    request.Outfits hooks present own switched after
      (written.map fun path => ⟨!present, some path⟩) := by
  rcases of_runs_writeHooks run with ⟨e, rfl, rfl⟩ | ⟨outcome, rfl, rfl⟩
  · obtain ⟨middle, made, rest⟩ := Alters.cons_iff.mp alters
    obtain rfl := Alters.nil_iff.mp rest
    obtain rfl : after = switched := made
    exact ⟨.inl ⟨e, rfl, rfl⟩, fun _ _ => rfl, fun report given => by cases given⟩
  · obtain ⟨middle, made, rest⟩ := Alters.cons_iff.mp alters
    obtain rfl : middle = switched := made
    obtain ⟨_, changed, done⟩ := Alters.cons_iff.mp rest
    obtain rfl := Alters.nil_iff.mp done
    cases outcome with
    | ok u =>
        obtain rfl : after = Function.update middle _ _ := changed
        refine ⟨.inr ⟨.ok u, rfl, rfl⟩, fun path other => ?_, fun _ _ => ?_⟩
        · rw [Function.update_of_ne other]
        · rw [Function.update_self]
    | error e => exact ⟨.inr ⟨.error e, rfl, rfl⟩, changed, fun report given => by cases given⟩

/-- Hooks that were never registered are missed before anything is asked for. Otherwise the
repository does one thing: it resets what is there or clones what is missing, at the revision that
is asked for. If it fails or if no faults are to be injected, nothing else is done; and if it does
not, the hooks that were registered last are written into their file, and into no other. -/
theorem install_effects {result : Except Error InstallReport} {before after : Disk}
    (run : (request.install (ofRegistrations registrations)).run.Runs history result)
    (alters : Alters before history after) :
    (request.faultInjection = true → Unregistered registrations request.target request.revision →
      result = .error (.unsupportedRevision request.target.name request.revision) ∧
        history = [] ∧ after = before) ∧
    ((request.faultInjection = true →
        ¬ Unregistered registrations request.target request.revision) →
      ∃ present outcome own switched,
        history = [⟨.isRepository request.path, present⟩, request.switched present outcome] ++ own ∧
        Alters before [⟨.isRepository request.path, present⟩, request.switched present outcome]
          switched ∧
        (∀ e, outcome = .error e → own = [] ∧ after = switched ∧ result = .error e) ∧
        (outcome = .ok () → request.faultInjection = false →
          own = [] ∧ after = switched ∧ result = .ok ⟨!present, none⟩) ∧
        (outcome = .ok () → request.faultInjection = true → ∃ hooks,
          lastUnder registrations request.target request.revision = some hooks ∧
          request.Outfits hooks present own switched after result)) := by
  rcases hooks_cases request registrations with
    ⟨on, unregistered, missed⟩ | ⟨called, found, whenOff, whenOn⟩
  · -- The hooks are looked up before anything is asked for.
    have ends : (request.install (ofRegistrations registrations)).run =
        .done (.error (.unsupportedRevision request.target.name request.revision)) := by
      unfold install
      rw [missed]
      rfl
    rw [ends, Procedure.runs_done] at run
    obtain ⟨rfl, rfl⟩ := run
    exact ⟨fun _ _ => ⟨rfl, rfl, Alters.nil_iff.mp alters⟩,
      fun registered => absurd unregistered (registered on)⟩
  · have known : request.faultInjection = true →
        ¬ Unregistered registrations request.target request.revision := by
      intro on unregistered
      obtain ⟨hooks, -, last⟩ := whenOn on
      cases last.symm.trans (Registry.lastUnder_eq_none.mpr unregistered)
    refine ⟨fun on unregistered => absurd unregistered (known on), fun _ => ?_⟩
    obtain ⟨present, outcome, own, rfl, rest⟩ := of_runs_install found run
    obtain ⟨switched, front, back⟩ := Alters.append_iff.mp alters
    refine ⟨present, outcome, own, switched, rfl, front, ?_⟩
    rcases rest with ⟨e, rfl, rfl, rfl⟩ | ⟨rfl, rest⟩
    · obtain rfl := Alters.nil_iff.mp back
      refine ⟨?_, ?_, ?_⟩
      · rintro _ ⟨⟩
        exact ⟨rfl, rfl, rfl⟩
      · rintro ⟨⟩
      · rintro ⟨⟩
    · refine ⟨?_, fun _ off => ?_, fun _ on => ?_⟩
      · rintro e ⟨⟩
      · obtain rfl := whenOff off
        obtain ⟨rfl, rfl⟩ := rest
        exact ⟨rfl, Alters.nil_iff.mp back, rfl⟩
      · obtain ⟨hooks, rfl, last⟩ := whenOn on
        obtain ⟨written, writes, rfl⟩ := rest
        exact ⟨hooks, last, outfits_of_runs writes back⟩

/-- Of two modules under one name it is the second that is written, whatever that name stands for
with another target. -/
theorem install_effects_registered_twice :
    let older : HookModule := ⟨"src/hooks.rs", "older"⟩
    let newer : HookModule := ⟨"src/hooks.rs", "newer"⟩
    let request : InstallRequest := ⟨.sp1, "sp1", "remote", "dev", true⟩
    let registrations : List Registry.Registration :=
      [⟨.sp1, "dev", older⟩, ⟨.sp1, "dev", newer⟩, ⟨.jolt, "dev", older⟩]
    let path := request.hooksPath newer
    ∃ history after,
      (request.install (ofRegistrations registrations)).run.Runs history
        (.ok ⟨true, some path⟩) ∧
      Alters (fun _ => none) history after ∧
      after path = some (Text.utf8 "newer") := by
  intro older newer request registrations path
  have last : lastUnder registrations .sp1 "dev" = some newer := by decide +kernel
  have found : request.hooks (ofRegistrations registrations) = .ok (some newer) := by
    rcases hooks_cases request registrations with ⟨-, missing, -⟩ | ⟨called, found, -, whenOn⟩
    · cases last.symm.trans (Registry.lastUnder_eq_none.mpr missing)
    · obtain ⟨hooks, rfl, same⟩ := whenOn rfl
      rw [found, Option.some.inj (last.symm.trans same)]
  have run := runs_install found false
  have alters : Alters (fun _ => none)
      [⟨.isRepository "sp1", false⟩, request.switched false (.ok ()),
        ⟨.createFolders (folderOf path), .ok ()⟩, ⟨.write path (Text.utf8 "newer"), .ok ()⟩]
      (Function.update (fun _ => none) path (some (Text.utf8 "newer"))) := by
    refine Alters.cons_iff.mpr ⟨fun _ => none, trivial, ?_⟩
    refine Alters.cons_iff.mpr ⟨fun _ => none, trivial, ?_⟩
    exact .head rfl (.head rfl (.refl _))
  refine ⟨_, _, run, alters, ?_⟩
  have registered : ¬ Unregistered registrations .sp1 "dev" := by
    rw [← Registry.lastUnder_eq_none, last]
    exact Option.some_ne_none newer
  obtain ⟨present, outcome, own, _, asked, -, -, -, ends⟩ :=
    (install_effects run alters).2 fun _ => registered
  obtain ⟨rfl, switches, -⟩ : false = present ∧ _ := by simpa using asked
  obtain rfl : .ok () = outcome := by simpa [switched] using switches
  obtain ⟨hooks, same, outfits⟩ := ends rfl rfl
  obtain rfl := Option.some.inj (last.symm.trans same)
  exact outfits.inPlace _ rfl

end InstallRequest

end Metamorph
