import Mathlib
import Metamorph.Proofs.Text.Lines
import Metamorph.Target.Settings

/-! # Durations as texts

A duration text says hours, minutes and seconds in this order, each by its letter and digits. A field
ends where no digit follows, and what follows is the letter of a later unit or nothing, so there is
one way only to part a text into its fields. The reader keeps every number on its way below 64 bits.
No number on the way exceeds the total, so that it refuses a text for its size only where the total
is too large. -/

namespace Metamorph

/-- A field of a duration and how it is written: nothing, or the letter of its unit and digits from
0 to 9. -/
inductive IsDurationField (unit : Char) : Option (List Char) → List Char → Prop where
  | absent : IsDurationField unit none []
  | present {digits} (nonempty : digits ≠ []) (numeric : ∀ c ∈ digits, c.isDigit = true) :
      IsDurationField unit (some digits) (unit :: digits)

/-- The number that a field says. -/
def durationCount : Option (List Char) → Nat
  | none => 0
  | some digits => Nat.ofDigitChars 10 digits 0

/-- The texts that say a number of seconds, and that number. At least one field is there. -/
inductive SaysDuration : List Char → Nat → Prop where
  | fields {hours minutes seconds h m s} (hourly : IsDurationField 'h' hours h)
      (minutely : IsDurationField 'm' minutes m) (secondly : IsDurationField 's' seconds s)
      (spoken : ¬ (hours = none ∧ minutes = none ∧ seconds = none)) :
      SaysDuration (h ++ m ++ s)
        (3600 * durationCount hours + 60 * durationCount minutes + durationCount seconds)

/-! ## Fields -/

variable {unit : Char} {digits : Option (List Char)} {field rest input : List Char}

theorem readDurationField_append (isField : IsDurationField unit digits field)
    (stops : ∀ c ∈ rest.head?, c ≠ unit ∧ c.isDigit = false) :
    readDurationField unit (field ++ rest) = (digits, rest) := by
  cases isField with
  | absent =>
      cases rest with
      | nil => rfl
      | cons c rest => simp [readDurationField, (stops c rfl).1]
  | @present digits nonempty numeric =>
      obtain ⟨taken, dropped⟩ := Text.takeWhile_run numeric fun c first => (stops c first).2
      simp [readDurationField, taken, dropped, nonempty]

theorem isDurationField_of_read (read : readDurationField unit input = (digits, rest)) :
    ∃ field, IsDurationField unit digits field ∧ input = field ++ rest := by
  unfold readDurationField at read
  split at read
  · obtain ⟨rfl, rfl⟩ := Prod.mk.inj read
    exact ⟨[], .absent, rfl⟩
  · rename_i c behind
    dsimp only at read
    split at read
    · rename_i here
      obtain ⟨rfl, rfl⟩ := Prod.mk.inj read
      simp only [Bool.and_eq_true, decide_eq_true_eq, Bool.not_eq_true', List.isEmpty_eq_false_iff]
        at here
      obtain ⟨rfl, nonempty⟩ := here
      exact ⟨_, .present nonempty fun d => List.mem_takeWhile_imp, by simp⟩
    · obtain ⟨rfl, rfl⟩ := Prod.mk.inj read
      exact ⟨[], .absent, rfl⟩

/-- What a field begins with. -/
theorem IsDurationField.head (isField : IsDurationField unit digits field) :
    ∀ c ∈ field.head?, c = unit := by
  cases isField with
  | absent => simp
  | present => simp [eq_comm]

/-! ## Numbers -/

theorem fitting?_eq_some {count n : Nat} :
    fitting? count = some n ↔ count = n ∧ count < UInt64.size := by
  unfold fitting?
  split
  · rename_i fits
    simp [fits]
  · rename_i large
    simp [large]

/-- Where the sum fits, so do the count of the field and its seconds. -/
theorem addDurationField?_eq {total scale : Nat} (fits : total < UInt64.size) (positive : 0 < scale) :
    addDurationField? total (digits, scale) = fitting? (total + scale * durationCount digits) := by
  cases digits with
  | none => simp [addDurationField?, durationCount, fitting?, fits]
  | some digits =>
      have count : durationCount (some digits) = Text.digitsValue digits :=
        (Text.digitsValue_eq digits).symm
      have most := Nat.le_mul_of_pos_right (Text.digitsValue digits) positive
      rw [count, Nat.mul_comm scale]
      apply Option.ext
      intro n
      simp only [addDurationField?, Option.bind_eq_bind, Option.bind_eq_some_iff, fitting?_eq_some]
      constructor
      · rintro ⟨_, ⟨rfl, _⟩, _, ⟨rfl, _⟩, rfl, small⟩
        exact ⟨rfl, small⟩
      · rintro ⟨rfl, small⟩
        exact ⟨_, ⟨rfl, by omega⟩, _, ⟨rfl, by omega⟩, rfl, small⟩

/-- The fields are added up, and only the total decides whether that succeeds. -/
theorem foldlM_addDurationField? {total : Nat} (fits : total < UInt64.size)
    {fields : List (Option (List Char) × Nat)} (positive : ∀ field ∈ fields, 0 < field.2) :
    fields.foldlM addDurationField? total =
      fitting? (total + (fields.map fun field => field.2 * durationCount field.1).sum) := by
  induction fields generalizing total with
  | nil => simp [fitting?, fits]
  | cons field fields ih =>
      obtain ⟨first, others⟩ := List.forall_mem_cons.mp positive
      rw [List.foldlM_cons, addDurationField?_eq fits first, List.map_cons, List.sum_cons,
        ← Nat.add_assoc]
      by_cases small : total + field.2 * durationCount field.1 < UInt64.size
      · have added := fitting?_eq_some.mpr ⟨rfl, small⟩
        rw [added, Option.bind_eq_bind, Option.bind_some, ih small others]
      · have refused : fitting? (total + field.2 * durationCount field.1) = none := if_neg small
        rw [refused, Option.bind_eq_bind, Option.bind_none, eq_comm]
        exact if_neg (by omega)

/-! ## Texts -/

variable {text : String} {n : Nat}

/-- A text that says a number of seconds is read, if that number fits in 64 bits. -/
theorem SaysDuration.parseDuration?_eq (said : SaysDuration text.toList n) :
    parseDuration? text = fitting? n := by
  generalize input : text.toList = written at said
  obtain @⟨hours, minutes, seconds, h, m, s, hourly, minutely, secondly, spoken⟩ := said
  -- behind each field stands the letter of a later one, or nothing
  have behind : ∀ c ∈ s.head?, c = 's' := secondly.head
  have later : ∀ c ∈ (m ++ s).head?, c = 'm' ∨ c = 's' := by
    intro c first
    rw [List.head?_append, Option.mem_def, Option.or_eq_some_iff] at first
    rcases first with first | ⟨-, first⟩
    · exact .inl (minutely.head c first)
    · exact .inr (behind c first)
  have readHours : readDurationField 'h' (h ++ m ++ s) = (hours, m ++ s) := by
    rw [List.append_assoc]
    refine readDurationField_append hourly fun c first => ?_
    rcases later c first with rfl | rfl <;> decide
  have readMinutes : readDurationField 'm' (m ++ s) = (minutes, s) := by
    refine readDurationField_append minutely fun c first => ?_
    rw [behind c first]
    decide
  have readSeconds : readDurationField 's' (s ++ []) = (seconds, []) :=
    readDurationField_append secondly (by simp)
  rw [List.append_nil] at readSeconds
  have some_field : (hours.isSome || minutes.isSome || seconds.isSome) = true := by
    cases hours <;> cases minutes <;> cases seconds <;> simp_all
  simp only [parseDuration?, input, readHours, readMinutes, readSeconds, some_field,
    List.isEmpty_nil, Bool.and_self, if_true]
  rw [foldlM_addDurationField? (by decide) (by simp)]
  simp [Nat.add_assoc]

/-- A text that is read says a number of seconds. -/
theorem exists_saysDuration (read : parseDuration? text = some n) :
    ∃ total, SaysDuration text.toList total := by
  rcases readHours : readDurationField 'h' text.toList with ⟨hours, afterHours⟩
  rcases readMinutes : readDurationField 'm' afterHours with ⟨minutes, afterMinutes⟩
  rcases readSeconds : readDurationField 's' afterMinutes with ⟨seconds, rest⟩
  simp only [parseDuration?, readHours, readMinutes, readSeconds, Option.ite_none_right_eq_some,
    Bool.and_eq_true, List.isEmpty_iff] at read
  obtain ⟨⟨rfl, some_field⟩, -⟩ := read
  obtain ⟨h, hourly, whole⟩ := isDurationField_of_read readHours
  obtain ⟨m, minutely, rfl⟩ := isDurationField_of_read readMinutes
  obtain ⟨s, secondly, rfl⟩ := isDurationField_of_read readSeconds
  have spoken : ¬ (hours = none ∧ minutes = none ∧ seconds = none) := by
    rintro ⟨rfl, rfl, rfl⟩
    simp at some_field
  rw [whole, List.append_nil, ← List.append_assoc]
  exact ⟨_, .fields hourly minutely secondly spoken⟩

theorem parseDuration?_eq_some :
    parseDuration? text = some n ↔ SaysDuration text.toList n ∧ n ≤ 2 ^ 64 - 1 := by
  have size : UInt64.size = 2 ^ 64 := rfl
  constructor
  · intro read
    obtain ⟨total, said⟩ := exists_saysDuration read
    rw [said.parseDuration?_eq, fitting?_eq_some] at read
    obtain ⟨rfl, small⟩ := read
    exact ⟨said, by omega⟩
  · rintro ⟨said, small⟩
    rw [said.parseDuration?_eq, fitting?_eq_some]
    exact ⟨rfl, by omega⟩

/-- A duration text is read as the seconds that it says, if they fit in 64 bits, and a timeout lasts
as long. Every other text is refused, and a timeout that has it lasts as long as the default. -/
theorem Timeout.resolve_text (text : String) (fallback : Nat) :
    (∀ n, parseDuration? text = some n ↔ SaysDuration text.toList n ∧ n ≤ 2 ^ 64 - 1) ∧
      (∀ n, SaysDuration text.toList n → n ≤ 2 ^ 64 - 1 →
        (Timeout.text text).resolve fallback = n) ∧
      ((¬ ∃ n, SaysDuration text.toList n ∧ n ≤ 2 ^ 64 - 1) →
        parseDuration? text = none ∧ (Timeout.text text).resolve fallback = fallback) := by
  refine ⟨fun n => parseDuration?_eq_some, fun n said small => ?_, fun unsaid => ?_⟩
  · have read := parseDuration?_eq_some.mpr ⟨said, small⟩
    simp [Timeout.resolve, read]
  · have refused : parseDuration? text = none := by
      rw [Option.eq_none_iff_forall_ne_some]
      intro n read
      exact unsaid ⟨n, parseDuration?_eq_some.mp read⟩
    simp [Timeout.resolve, refused]

/-- The most seconds that a text can say, and a text that says one more. -/
theorem Timeout.resolve_text_largest :
    (SaysDuration "h5124095576030431m0s15".toList (2 ^ 64 - 1) ∧
      (Timeout.text "h5124095576030431m0s15").resolve 600 = 2 ^ 64 - 1) ∧
    ((¬ ∃ n, SaysDuration "h5124095576030431m0s16".toList n ∧ n ≤ 2 ^ 64 - 1) ∧
      (Timeout.text "h5124095576030431m0s16").resolve 600 = 600) := by
  have largest : SaysDuration "h5124095576030431m0s15".toList (2 ^ 64 - 1) :=
    (parseDuration?_eq_some.mp (by decide : parseDuration? "h5124095576030431m0s15" = some _)).1
  have larger : ¬ ∃ n, SaysDuration "h5124095576030431m0s16".toList n ∧ n ≤ 2 ^ 64 - 1 := by
    rintro ⟨n, said⟩
    have read := parseDuration?_eq_some.mpr said
    have refused : parseDuration? "h5124095576030431m0s16" = none := by decide
    rw [refused] at read
    cases read
  exact ⟨⟨largest, (Timeout.resolve_text _ 600).2.1 _ largest le_rfl⟩,
    larger, ((Timeout.resolve_text _ 600).2.2 larger).2⟩

end Metamorph
