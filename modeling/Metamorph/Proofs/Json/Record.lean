import Metamorph.Json.Record
import Mathlib.Data.List.Nodup

/-! # Records that are read from what they are written as

An object whose keys are the names of a record, each once, gives the values in order. Lists and
words come back as they were. -/

namespace Metamorph.Json

variable {names : List String} {fields : List (String × Json)}

/-- A name that only one field has gives its value. -/
theorem field?_of_mem (once : (fields.map Prod.fst).Nodup) {name : String} {value : Json}
    (member : (name, value) ∈ fields) : field? fields name = some (some value) := by
  have only : fields.filter (fun field => field.1 == name) = [(name, value)] := by
    induction fields with
    | nil => cases member
    | cons field fields ih =>
      obtain ⟨fresh, once⟩ := List.nodup_cons.mp once
      obtain rfl | member := List.mem_cons.mp member
      · have others : fields.filter (fun field => field.1 == name) = [] := by
          rw [List.filter_eq_nil_iff]
          intro other found same
          exact fresh (List.mem_map.mpr ⟨other, found, eq_of_beq same⟩)
        simp [others]
      · have differs : field.1 ≠ name := fun same =>
          fresh (same ▸ List.mem_map_of_mem member)
        rw [List.filter_cons_of_neg (by simpa using differs)]
        exact ih once member
  rw [field?, only]

/-- Some of the fields are found by their names. -/
theorem objectFields?_names (once : (fields.map Prod.fst).Nodup) {part : List (String × Json)}
    (within : ∀ field ∈ part, field ∈ fields) :
    objectFields? (part.map Prod.fst) fields = some (part.map fun field => some field.2) := by
  induction part with
  | nil => rfl
  | cons field others ih =>
    obtain ⟨member, within⟩ := List.forall_mem_cons.mp within
    have found := ih within
    simp only [objectFields?] at found ⊢
    simp [field?_of_mem once member, found]

/-- An object with the names of a record as its keys is that record. -/
theorem record?_object (named : fields.map Prod.fst = names) (once : names.Nodup) :
    (Json.object fields).record? names = some (fields.map fun field => some field.2) := by
  subst named
  exact objectFields?_names once fun _ member => member

theorem namedRecord?_object (named : fields.map Prod.fst = names) (once : names.Nodup) :
    (Json.object fields).namedRecord? names = some (fields.map fun field => some field.2) :=
  record?_object named once

theorem list?_list {α : Type} {write : α → Json} {read : Json → Option α}
    (reads : ∀ a, read (write a) = some a) (as : List α) :
    (Json.list write as).list? read = some as := by
  induction as with
  | nil => rfl
  | cons a as ih =>
    simp only [list, list?] at ih ⊢
    simp [reads, ih]

theorem string?_text (s : String) : (Json.text s).string? = some s :=
  rfl

theorem word32?_nat (word : UInt32) : (Json.nat word.toNat).word32? = some word := by
  have small : word.toNat < UInt32.size := word.toNat_lt
  simp [nat, word32?, natBelow?, small]

end Metamorph.Json
