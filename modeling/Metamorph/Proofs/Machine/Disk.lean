import Metamorph.Proofs.Machine.Safety

/-! # Files of a machine

A machine that writes does so as it is asked, and what it adds to a file it adds as a whole or not
at all. Commands do what they like, but for some files that they leave alone. -/

namespace Metamorph

open Machine (Action History)

/-- What is in the files of a machine. -/
abbrev Disk : Type :=
  String → Option (List UInt8)

namespace Disk

/-- What becomes of the files in an exchange, where commands keep some files as they are. A file
that could not be written may hold anything. -/
def Change (kept : String → Prop) (before : Disk) : Exchange Machine.interface → Disk → Prop
  | ⟨.write path bytes, .ok _⟩, after => after = Function.update before path (some bytes)
  | ⟨.write path _, .error _⟩, after => ∀ other, other ≠ path → after other = before other
  | ⟨.append path bytes, .ok _⟩, after =>
    after = Function.update before path (some ((before path).getD [] ++ bytes))
  | ⟨.launch _, _⟩, after => ∀ path, kept path → after path = before path
  | ⟨.launchWithin _ _, _⟩, after => ∀ path, kept path → after path = before path
  | _, after => after = before

variable {kept : String → Prop} {before after : Disk} {exchange : Exchange Machine.interface}
  {path : String}

/-- Files change only where a request is about them, or by commands. -/
theorem Change.unchanged (change : Change kept before exchange after) (isKept : kept path)
    (elsewhere : ∀ other bytes, exchange.action = .write other bytes ∨
      exchange.action = .append other bytes → other ≠ path) : after path = before path := by
  obtain ⟨action, reply⟩ := exchange
  cases action with
  | write other bytes =>
    have differs := elsewhere other bytes (.inl rfl)
    cases reply with
    | ok u => rw [show after = _ from change, Function.update_of_ne differs.symm]
    | error why => exact change path differs.symm
  | append other bytes =>
    have differs := elsewhere other bytes (.inr rfl)
    cases reply with
    | ok u => rw [show after = _ from change, Function.update_of_ne differs.symm]
    | error why => rw [show after = before from change]
  | launch command => exact change path isKept
  | launchWithin seconds command => exact change path isKept
  | _ => rw [show after = before from change]

/-- A file that is kept stays as it is where no request is about it. -/
theorem eq_of_leads {history : History} (leads : Leads (Change kept) before history after)
    (isKept : kept path) (elsewhere : ∀ exchange ∈ history, ∀ other bytes,
      exchange.action = .write other bytes ∨ exchange.action = .append other bytes →
        other ≠ path) : after path = before path := by
  induction leads with
  | refl disk => rfl
  | head first rest ih =>
    obtain ⟨now, later⟩ := List.forall_mem_cons.mp elsewhere
    rw [ih later, first.unchanged isKept now]

/-- The files after a history in which commands touch no file and nothing is done that is refused. -/
def play : Disk → History → Disk
  | disk, [] => disk
  | disk, ⟨.write path bytes, .ok _⟩ :: history =>
    play (Function.update disk path (some bytes)) history
  | disk, ⟨.append path bytes, .ok _⟩ :: history =>
    play (Function.update disk path (some ((disk path).getD [] ++ bytes))) history
  | disk, _ :: history => play disk history

theorem leads_play (disk : Disk) (history : History) :
    Leads (Change kept) disk history (disk.play history) := by
  induction history generalizing disk with
  | nil => exact .refl disk
  | cons exchange history ih =>
    obtain ⟨action, reply⟩ := exchange
    cases action with
    | write path bytes =>
      cases reply with
      | ok u => exact .head rfl (ih _)
      | error why => exact .head (fun _ _ => rfl) (ih disk)
    | append path bytes => cases reply <;> exact .head rfl (ih _)
    | launch command => exact .head (fun _ _ => rfl) (ih disk)
    | launchWithin seconds command => exact .head (fun _ _ => rfl) (ih disk)
    | _ => exact .head rfl (ih disk)

end Disk

end Metamorph
