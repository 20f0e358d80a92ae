import Metamorph.Proofs.Json.RoundTrip
import Metamorph.Proofs.Text.Lines

/-! # The compact form of JSON

The compact form is read back as the pretty one is. It is one line, because what would end a line
is escaped inside strings and does not occur outside of them. -/

namespace Metamorph.Json

variable {value : Json}

mutual
theorem Exact.readsBack_compact :
    ∀ value : Json, value.Exact → ReadsBack value (writeCompact value)
  | .null, _ => readsBack_null
  | .bool _, _ => readsBack_bool
  | .number (.whole _), exact => readsBack_number exact.1 exact.2
  | .text _, _ => readsBack_text
  | .array [], _ => readsBack_array_nil
  | .array (item :: items), exact =>
    ReadsBack.array blank_nil (Exact.readsBack_compact item exact.1)
      (ExactItems.readsItems_compact items exact.2)
  | .object [], _ => readsBack_object_nil
  | .object ((_, value) :: fields), exact =>
    ReadsBack.object blank_nil blank_nil (Exact.readsBack_compact value exact.1)
      (ExactFields.readsFields_compact fields exact.2)

theorem ExactItems.readsItems_compact :
    ∀ items : List Json, ExactItems items → ReadsItems items (compactItems items)
  | [], _ => readsItems_nil blank_nil
  | item :: items, exact =>
    ReadsItems.cons blank_nil (Exact.readsBack_compact item exact.1)
      (ExactItems.readsItems_compact items exact.2)

theorem ExactFields.readsFields_compact :
    ∀ fields : List (String × Json), ExactFields fields →
      ReadsFields fields (compactFields fields)
  | [], _ => readsFields_nil blank_nil
  | (_, value) :: fields, exact =>
    ReadsFields.cons blank_nil blank_nil (Exact.readsBack_compact value exact.1)
      (ExactFields.readsFields_compact fields exact.2)
end

theorem parse?_compact (exact : value.Exact) : parse? value.compact = some value := by
  have reads := Exact.readsBack_compact value exact
  rw [parse?, compact, String.toList_ofList]
  exact reads.ofChars? reads.deep

/-- Nothing in a text ends a line. -/
def StaysInLine (text : List Char) : Prop :=
  ∀ c ∈ text, c ≠ '\n' ∧ c ≠ '\r'

theorem staysInLine_cons {c : Char} {text : List Char} :
    StaysInLine (c :: text) ↔ (c ≠ '\n' ∧ c ≠ '\r') ∧ StaysInLine text :=
  List.forall_mem_cons

theorem staysInLine_append {text tail : List Char} :
    StaysInLine (text ++ tail) ↔ StaysInLine text ∧ StaysInLine tail :=
  List.forall_mem_append

theorem staysInLine_escapedChar (c : Char) : StaysInLine (escapedChar c) := by
  unfold escapedChar
  split_ifs
  all_goals simp [StaysInLine, *]

theorem staysInLine_writeText (s : String) : StaysInLine (writeText s) := by
  intro c member
  simp only [writeText, List.mem_append, List.mem_cons, List.mem_flatMap, List.not_mem_nil,
    or_false] at member
  obtain (rfl | ⟨d, -, inside⟩) | rfl := member
  · decide
  · exact staysInLine_escapedChar d c inside
  · decide

theorem staysInLine_writeNumber (n : Int) : StaysInLine (writeNumber (.whole n)) := by
  have digits (m : Nat) : StaysInLine (Nat.toDigits 10 m) := by
    intro c member
    have digit := Nat.isDigit_of_mem_toDigits (by decide) (by decide) member
    constructor <;> (rintro rfl; exact absurd digit (by decide))
  cases n with
  | ofNat n => exact digits n
  | negSucc n => exact staysInLine_cons.mpr ⟨by decide, digits (n + 1)⟩

mutual
theorem Exact.staysInLine : ∀ value : Json, value.Exact → StaysInLine (writeCompact value)
  | .null, _ => by simp [writeCompact, writeScalar, StaysInLine]
  | .bool b, _ => by cases b <;> simp [writeCompact, writeScalar, StaysInLine]
  | .number (.whole n), _ => staysInLine_writeNumber n
  | .text s, _ => staysInLine_writeText s
  | .array [], _ => by simp [writeCompact, StaysInLine]
  | .array (item :: items), exact => by
    have first := Exact.staysInLine item exact.1
    have others := ExactItems.staysInLine items exact.2
    simp [writeCompact, staysInLine_cons, staysInLine_append, first, others]
  | .object [], _ => by simp [writeCompact, StaysInLine]
  | .object ((key, value) :: fields), exact => by
    have first := Exact.staysInLine value exact.1
    have others := ExactFields.staysInLine fields exact.2
    simp [writeCompact, staysInLine_cons, staysInLine_append, staysInLine_writeText, first, others]

theorem ExactItems.staysInLine :
    ∀ items : List Json, ExactItems items → StaysInLine (compactItems items)
  | [], _ => by simp [compactItems, StaysInLine]
  | item :: items, exact => by
    have first := Exact.staysInLine item exact.1
    have others := ExactItems.staysInLine items exact.2
    simp [compactItems, staysInLine_cons, staysInLine_append, first, others]

theorem ExactFields.staysInLine :
    ∀ fields : List (String × Json), ExactFields fields → StaysInLine (compactFields fields)
  | [], _ => by simp [compactFields, StaysInLine]
  | (key, value) :: fields, exact => by
    have first := Exact.staysInLine value exact.1
    have others := ExactFields.staysInLine fields exact.2
    simp [compactFields, staysInLine_cons, staysInLine_append, staysInLine_writeText, first,
      others]
end

theorem isLine_compact (exact : value.Exact) : Text.IsLine value.compact.toList := by
  have stays := Exact.staysInLine value exact
  rw [compact, String.toList_ofList]
  refine ⟨fun feed => (stays _ feed).1 rfl, fun ends => ?_⟩
  exact (stays _ (List.mem_of_getLast? ends)).2 rfl

end Metamorph.Json
