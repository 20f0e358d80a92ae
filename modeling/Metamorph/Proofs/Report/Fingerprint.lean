import Metamorph.Proofs.Report.RoundTrip

/-! # What fingerprints tell apart

A fingerprint is the location of a panic, a bar, and the message with its numbers masked, one behind
the other and nothing quoted: the file and the message may hold bars, colons and question marks too.
A masked message has no digit, and a location ends in one, so the last digit of a fingerprint is the
end of the location, and where there is no digit there is no location. Within a location the last two
colons are those in front of its numbers. -/

namespace Metamorph

open Text (isDecimalDigit maskDigits)
open Report

/-- A text and what it becomes when every longest run of decimal digits is replaced by one number
sign. -/
inductive Masked : List Char → List Char → Prop where
  | nil : Masked [] []
  | plain {c rest masked} (other : isDecimalDigit c = false) (later : Masked rest masked) :
      Masked (c :: rest) (c :: masked)
  | run {digits rest masked} (numeral : IsNumeral digits) (ends : EndsDigits rest)
      (later : Masked rest masked) : Masked (digits ++ rest) ('#' :: masked)

/-! ## Masks -/

variable {text masked digits rest : List Char}

theorem startsWithDigit_eq_false : Text.startsWithDigit rest = false ↔ EndsDigits rest := by
  cases rest with
  | nil => simp [Text.startsWithDigit, EndsDigits]
  | cons c rest => simp [Text.startsWithDigit, EndsDigits]

theorem maskDigits_append (numeral : IsNumeral digits) (ends : EndsDigits rest) :
    maskDigits (digits ++ rest) = '#' :: maskDigits rest := by
  obtain ⟨nonempty, all⟩ := numeral
  induction digits with
  | nil => contradiction
  | cons c digits ih =>
      obtain ⟨digit, others⟩ := List.forall_mem_cons.mp all
      rw [List.cons_append, maskDigits, if_pos digit]
      cases digits with
      | nil => simp [startsWithDigit_eq_false.mpr ends]
      | cons d digits =>
          have goes : Text.startsWithDigit (d :: digits ++ rest) = true := others d (by simp)
          rw [if_pos goes]
          exact ih (by simp) others

theorem Masked.eq (h : Masked text masked) : maskDigits text = masked := by
  induction h with
  | nil => rfl
  | plain other _ ih => rw [maskDigits, other, if_neg (by decide), ih]
  | run numeral ends _ ih => rw [maskDigits_append numeral ends, ih]

/-- One more digit in front of a run belongs to it. -/
theorem Masked.digit {c : Char} (digit : isDecimalDigit c = true)
    (goes : Text.startsWithDigit rest = true) (h : Masked rest masked) :
    Masked (c :: rest) masked := by
  cases h with
  | nil => simp [Text.startsWithDigit] at goes
  | plain other _ => simp [Text.startsWithDigit, other] at goes
  | @run digits rest masked numeral ends later =>
      have longer : IsNumeral (c :: digits) := ⟨by simp, by simpa [digit] using numeral.2⟩
      exact .run longer ends later

theorem masked_maskDigits (text : List Char) : Masked text (maskDigits text) := by
  induction text with
  | nil => exact .nil
  | cons c rest ih =>
      rw [maskDigits]
      split
      · rename_i digit
        split
        · rename_i goes
          exact ih.digit digit goes
        · rename_i stops
          have ends : EndsDigits rest := startsWithDigit_eq_false.mp (by simpa using stops)
          exact @Masked.run [c] _ _ ⟨by simp, by simpa using digit⟩ ends ih
      · rename_i other
        exact .plain (by simpa using other) ih

/-- Nothing is left of the digits. -/
theorem Masked.plain_of_mem (h : Masked text masked) : ∀ c ∈ masked, isDecimalDigit c = false := by
  induction h with
  | nil => simp
  | plain other _ ih => exact List.forall_mem_cons.mpr ⟨other, ih⟩
  | run _ _ _ ih => exact List.forall_mem_cons.mpr ⟨by decide, ih⟩

/-! ## Where a text is cut -/

/-- Two ways to cut a text are the same if both cut it behind its last character of a kind. -/
theorem eq_of_append_eq_append {p : Char → Bool} {front front' back back' : List Char}
    (same : front ++ back = front' ++ back') (last : ∃ c ∈ front.getLast?, p c = true)
    (last' : ∃ c ∈ front'.getLast?, p c = true) (none : ∀ c ∈ back, p c = false)
    (none' : ∀ c ∈ back', p c = false) : front = front' ∧ back = back' := by
  -- what lies between the cuts ends in a character of the kind, and is part of a back
  have apart {front back middle : List Char} (last : ∃ c ∈ (front ++ middle).getLast?, p c = true)
      (none : ∀ c ∈ middle ++ back, p c = false) : middle = [] := by
    by_contra filled
    obtain ⟨c, ends, kind⟩ := last
    rw [List.getLast?_append_of_ne_nil _ filled] at ends
    simp [none c (List.mem_append_left _ (List.mem_of_getLast? ends))] at kind
  rcases List.append_eq_append_iff.mp same with ⟨middle, rfl, rfl⟩ | ⟨middle, rfl, rfl⟩
  · obtain rfl := apart last' none
    simp
  · obtain rfl := apart last none'
    simp

theorem eq_of_append_colon {front front' digits digits' : List Char}
    (same : front ++ ':' :: digits = front' ++ ':' :: digits') (numeral : IsNumeral digits)
    (numeral' : IsNumeral digits') : front = front' ∧ digits = digits' := by
  have noColon {digits : List Char} (numeral : IsNumeral digits) :
      ∀ c ∈ digits, (c == ':') = false := by
    intro c member
    rw [beq_eq_false_iff_ne]
    rintro rfl
    exact List.count_eq_zero.mp numeral.count_colon member
  have cut : front ++ [':'] = front' ++ [':'] ∧ digits = digits' :=
    eq_of_append_eq_append (by simpa using same) (by simp) (by simp) (noColon numeral)
      (noColon numeral')
  exact ⟨List.append_cancel_right cut.1, cut.2⟩

/-! ## Locations -/

namespace Location

theorem toList_display_eq (location : Location) : location.display.toList =
    (location.file.toList ++ ':' :: (toString location.line).toList) ++
      ':' :: (toString location.column).toList := by
  simp [display]

theorem word_injective {word word' : UInt32}
    (same : (toString word).toList = (toString word').toList) : word = word' := by
  have read := Text.word32OfDigits?_word word
  rw [same, Text.word32OfDigits?_word] at read
  exact (Option.some.inj read).symm

/-- The text of a location tells its file and its numbers, whatever the file is. -/
theorem display_injective {a b : Location} (same : a.display.toList = b.display.toList) : a = b := by
  rw [toList_display_eq, toList_display_eq] at same
  obtain ⟨fronts, columns⟩ := eq_of_append_colon same (isNumeral_word _) (isNumeral_word _)
  obtain ⟨files, lines⟩ := eq_of_append_colon fronts (isNumeral_word _) (isNumeral_word _)
  cases a
  cases b
  simp only [mk.injEq]
  exact ⟨String.toList_inj.mp files, word_injective lines, word_injective columns⟩

theorem last_display (location : Location) :
    ∃ c ∈ location.display.toList.getLast?, isDecimalDigit c = true := by
  obtain ⟨nonempty, all⟩ := isNumeral_word location.column
  refine ⟨(toString location.column).toList.getLast nonempty, ?_, all _ (List.getLast_mem nonempty)⟩
  rw [toList_display_eq, List.getLast?_append_of_ne_nil _ (by simp), List.getLast?_cons,
    List.getLast?_eq_some_getLast nonempty]
  rfl

end Location

/-! ## Fingerprints -/

namespace Panic

theorem toList_fingerprint (panic : Panic) : panic.fingerprint.toList =
    (panic.location.elim "?" Location.display).toList ++ '|' :: maskDigits panic.message.toList := by
  cases located : panic.location <;> simp [fingerprint, located]

/-- Behind the location a fingerprint has no digit. -/
theorem noDigit_behind (message : List Char) :
    ∀ c ∈ '|' :: maskDigits message, isDecimalDigit c = false :=
  List.forall_mem_cons.mpr ⟨by decide, (masked_maskDigits message).plain_of_mem⟩

/-- A fingerprint with a location differs from every one without. -/
theorem fingerprint_ne {p q : Panic} {location : Location} (absent : p.location = none)
    (located : q.location = some location) : p.fingerprint.toList ≠ q.fingerprint.toList := by
  intro same
  rw [toList_fingerprint, toList_fingerprint, absent, located, Option.elim_none,
    Option.elim_some] at same
  obtain ⟨c, last, digit⟩ := location.last_display
  have member : c ∈ "?".toList ++ '|' :: maskDigits p.message.toList := by
    rw [same]
    exact List.mem_append_left _ (List.mem_of_getLast? last)
  have plain : isDecimalDigit c = false := by
    rcases List.mem_append.mp member with mark | behind
    · obtain rfl : c = '?' := by simpa using mark
      decide
    · exact noDigit_behind _ c behind
  rw [plain] at digit
  cases digit

theorem of_fingerprint_eq {p q : Panic} (same : p.fingerprint.toList = q.fingerprint.toList) :
    p.location = q.location ∧ maskDigits p.message.toList = maskDigits q.message.toList := by
  cases first : p.location with
  | none =>
      cases second : q.location with
      | none =>
          rw [toList_fingerprint, toList_fingerprint, first, second] at same
          exact ⟨rfl, by simpa using same⟩
      | some location => exact absurd same (fingerprint_ne first second)
  | some location =>
      cases second : q.location with
      | none => exact absurd same.symm (fingerprint_ne second first)
      | some location' =>
          rw [toList_fingerprint, toList_fingerprint, first, second] at same
          obtain ⟨places, messages⟩ := eq_of_append_eq_append same location.last_display
            location'.last_display (noDigit_behind _) (noDigit_behind _)
          exact ⟨by rw [Location.display_injective places], List.cons_injective messages⟩

/-- Two panics have one fingerprint exactly if they have the same location, or both have none, and
their messages are the same but for their numbers. The thread does not matter. -/
theorem fingerprint_eq_iff (p q : Panic) :
    (p.fingerprint = q.fingerprint ↔ p.location = q.location ∧
      ∃ masked, Masked p.message.toList masked ∧ Masked q.message.toList masked) ∧
    ∀ thread, ({ p with thread := thread } : Panic).fingerprint = p.fingerprint := by
  refine ⟨?_, fun thread => rfl⟩
  rw [← String.toList_inj]
  constructor
  · intro same
    obtain ⟨located, messages⟩ := of_fingerprint_eq same
    exact ⟨located, _, masked_maskDigits _, messages ▸ masked_maskDigits _⟩
  · rintro ⟨located, masked, first, second⟩
    rw [toList_fingerprint, toList_fingerprint, located, first.eq, second.eq]

end Panic

end Metamorph
