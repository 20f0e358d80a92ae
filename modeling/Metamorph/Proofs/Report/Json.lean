import Metamorph.Proofs.Json.Record
import Metamorph.Proofs.Json.RoundTrip
import Metamorph.Report.Outcome

/-! # The JSON of outcomes

Outcomes, with the panics of a crash, are read from the JSON that they are written as, and this
JSON is exact. -/

namespace Metamorph

namespace Json

theorem optional?_optional {α : Type} {write : α → Json} {read : Json → Option α}
    (reads : ∀ a, read (write a) = some a) (some_ne_null : ∀ a, write a ≠ .null) (a : Option α) :
    (optional write a).optional? read = some a := by
  cases a with
  | none => rfl
  | some a =>
    rw [optional, optional?, reads, Option.map_some]
    exact some_ne_null a

theorem exact_optional {α : Type} {write : α → Json} (each : ∀ a, (write a).Exact)
    (a : Option α) : (optional write a).Exact := by
  cases a with
  | none => trivial
  | some a => exact each a

theorem exact_text (s : String) : (text s).Exact :=
  trivial

end Json

theorem Location.ofJson?_toJson (location : Location) :
    Location.ofJson? location.toJson = some location := by
  rw [toJson, ofJson?, Json.record?_object (by rfl) (by decide)]
  simp [Json.required?, Json.string?_text, Json.word32?_nat]

theorem Location.exact_toJson (location : Location) : location.toJson.Exact :=
  ⟨trivial, Json.exact_nat location.line, Json.exact_nat location.column, trivial⟩

theorem Panic.ofJson?_toJson (panic : Panic) : Panic.ofJson? panic.toJson = some panic := by
  have location := Json.optional?_optional Location.ofJson?_toJson (fun _ => nofun) panic.location
  have thread := Json.optional?_optional Json.string?_text (fun _ => nofun) panic.thread
  rw [toJson, ofJson?, Json.record?_object (by rfl) (by decide)]
  simp [Json.required?, Json.defaulted?, Json.string?_text, location, thread]

theorem Panic.exact_toJson (panic : Panic) : panic.toJson.Exact :=
  ⟨trivial, Json.exact_optional Location.exact_toJson _, Json.exact_optional Json.exact_text _,
    trivial⟩

namespace Outcome

theorem ofJson?_tagged {name : String} {detail : Json} :
    ofJson? (tagged name detail) = ofDetail? Stage.ofJson? name (some detail) := by
  rw [tagged, ofJson?, Json.record?_object (by rfl) (by decide)]
  rfl

theorem ofJson?_toJson (outcome : Outcome) : ofJson? outcome.toJson = some outcome := by
  cases outcome with
  | passed => rfl
  | mismatch expected actual =>
    rw [toJson, ofJson?_tagged, ofDetail?, Json.namedRecord?_object (by rfl) (by decide)]
    simp [Json.required?, Json.word32?_nat]
  | crashed panics raw =>
    rw [toJson, ofJson?_tagged, ofDetail?, Json.namedRecord?_object (by rfl) (by decide)]
    simp [Json.required?, Json.string?_text, Json.list?_list Panic.ofJson?_toJson]
  | timedOut stage => cases stage <;> rfl
  | buildFailed log =>
    rw [toJson, ofJson?_tagged, ofDetail?, Json.namedRecord?_object (by rfl) (by decide)]
    simp [Json.required?, Json.string?_text]

theorem exact_toJson (outcome : Outcome) : outcome.toJson.Exact := by
  cases outcome with
  | passed => exact ⟨trivial, trivial⟩
  | mismatch expected actual =>
    exact ⟨trivial, ⟨Json.exact_nat expected, Json.exact_nat actual, trivial⟩, trivial⟩
  | crashed panics raw =>
    exact ⟨trivial, ⟨Json.exact_list Panic.exact_toJson panics, trivial, trivial⟩, trivial⟩
  | timedOut stage => exact ⟨trivial, trivial, trivial⟩
  | buildFailed log => exact ⟨trivial, ⟨trivial, trivial⟩, trivial⟩

end Outcome

end Metamorph
