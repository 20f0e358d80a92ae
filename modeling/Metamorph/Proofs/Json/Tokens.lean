import Mathlib
import Metamorph.Json.Printer
import Metamorph.Json.Reader

/-! # Strings and numbers in JSON text

What is written as a string is read as its text, whatever characters it holds and whatever follows
the closing quote. What is written as a whole number is read as that number, if it is one of 64
bits and what follows does not go on with it. -/

namespace Metamorph.Json

/-- What may stand behind a number without being taken for a part of it. -/
def EndsNumber (rest : List Char) : Prop :=
  ∀ c ∈ rest.head?, c.isDigit = false ∧ c ≠ '.' ∧ c ≠ 'e' ∧ c ≠ 'E'

theorem endsNumber_nil : EndsNumber [] := by
  simp [EndsNumber]

theorem endsNumber_cons {c : Char} {rest : List Char} :
    EndsNumber (c :: rest) ↔ c.isDigit = false ∧ c ≠ '.' ∧ c ≠ 'e' ∧ c ≠ 'E' := by
  simp [EndsNumber]

/-! ## Strings -/

theorem hexValue_digitChar : ∀ d < 16, hexValue (Nat.digitChar d) = some d := by
  decide

/-- The escape of a control character is read as that character. -/
theorem readUnicode_control {c : Char} (small : c.toNat < 0x20) (rest : List Char) :
    readUnicode ('0' :: '0' :: Nat.digitChar (c.toNat / 16) :: Nat.digitChar (c.toNat % 16) ::
      rest) = some (some c, rest) := by
  have high := hexValue_digitChar (c.toNat / 16) (by omega)
  have low := hexValue_digitChar (c.toNat % 16) (by omega)
  have zero : hexValue '0' = some 0 := rfl
  have code : c.toNat / 16 * 16 + c.toNat % 16 = c.toNat := by omega
  have plain : isHighHalf c.toNat = false ∧ isLowHalf c.toNat = false := by
    simp [isHighHalf, isLowHalf]
    omega
  simp [readUnicode, readHex, high, low, zero, code, plain]

/-- A character stands for itself, or for itself behind a backslash and a code. -/
theorem escapedChar_cases (c : Char) :
    (escapedChar c = [c] ∧ c ≠ '"' ∧ c ≠ '\\' ∧ ¬ c.toNat < 0x20) ∨
      ∃ code, escapedChar c = '\\' :: code ∧
        ∀ rest, readEscape (code ++ rest) = some (some c, rest) := by
  have ofCode {n : Nat} (code : c.toNat = n) : Char.ofNat n = c := by
    rw [← code, Char.ofNat_toNat]
  unfold escapedChar
  split_ifs with quote backslash newLine carriageReturn tab backspace formFeed control
  · exact .inr ⟨_, rfl, fun _ => by simp [readEscape, quote]⟩
  · exact .inr ⟨_, rfl, fun _ => by simp [readEscape, backslash]⟩
  · exact .inr ⟨_, rfl, fun _ => by simp [readEscape, newLine]⟩
  · exact .inr ⟨_, rfl, fun _ => by simp [readEscape, carriageReturn]⟩
  · exact .inr ⟨_, rfl, fun _ => by simp [readEscape, tab]⟩
  · exact .inr ⟨_, rfl, fun _ => by simpa [readEscape] using ofCode backspace⟩
  · exact .inr ⟨_, rfl, fun _ => by simpa [readEscape] using ofCode formFeed⟩
  · exact .inr ⟨_, rfl, readUnicode_control control⟩
  · exact .inl ⟨rfl, quote, backslash, control⟩

/-- One step of the reader takes what stands for one character. -/
theorem readText_escapedChar (fuel : Nat) (c : Char) (rest : List Char) :
    readText (fuel + 1) (escapedChar c ++ rest) =
      (readText fuel rest).map fun (cs, rest) => (pushFront (some c) cs, rest) := by
  obtain ⟨plain, notQuote, notBackslash, notControl⟩ | ⟨code, escaped, read⟩ := escapedChar_cases c
  · simp only [plain, List.cons_append, List.nil_append, readText, notControl, if_false]
    rw [Option.map_eq_bind]
    rfl
  · simp only [escaped, List.cons_append, readText, read]
    rw [Option.map_eq_bind]
    rfl

/-- A string is read up to its closing quote. -/
theorem readText_escaped (cs rest : List Char) {fuel : Nat} (enough : cs.length < fuel) :
    readText fuel (cs.flatMap escapedChar ++ '"' :: rest) = some (some cs, rest) := by
  induction cs generalizing fuel with
  | nil =>
    obtain _ | fuel := fuel
    · contradiction
    · rfl
  | cons c cs ih =>
    obtain _ | fuel := fuel
    · contradiction
    · rw [List.flatMap_cons, List.append_assoc, readText_escapedChar,
        ih (Nat.lt_of_succ_lt_succ enough)]
      rfl

theorem length_le_length_escaped (cs : List Char) :
    cs.length ≤ (cs.flatMap escapedChar).length := by
  induction cs with
  | nil => simp
  | cons c cs ih =>
    obtain ⟨plain, -⟩ | ⟨code, escaped, -⟩ := escapedChar_cases c
    · simpa [plain] using ih
    · simp only [List.flatMap_cons, List.length_append, List.length_cons, escaped]
      omega

/-! ## Numbers -/

theorem le_ofDigitChars (word : Nat) (digits : List Char) :
    word ≤ Nat.ofDigitChars 10 digits word := by
  induction digits generalizing word with
  | nil => simp
  | cons c digits ih =>
    rw [Nat.ofDigitChars_cons]
    exact Nat.le_trans (by omega) (ih _)

/-- Digits whose number fits in a word are all taken. -/
theorem scanDigits_append {word : Nat} {digits rest : List Char}
    (allDigits : ∀ c ∈ digits, c.isDigit = true) (ends : EndsNumber rest)
    (fits : Nat.ofDigitChars 10 digits word < 2 ^ 64) :
    scanDigits word (digits ++ rest) =
      ⟨Nat.ofDigitChars 10 digits word, digits.length, 0, rest⟩ := by
  induction digits generalizing word with
  | nil =>
    cases rest with
    | nil => rfl
    | cons c rest => simp [scanDigits, endsNumber_cons.mp ends]
  | cons c digits ih =>
    rw [List.forall_mem_cons] at allDigits
    rw [Nat.ofDigitChars_cons] at fits ⊢
    have next : 10 * word + (c.toNat - '0'.toNat) = word * 10 + Text.digitValue c := by
      rw [Text.digitValue]
      omega
    rw [next] at fits ⊢
    have small : word * 10 + Text.digitValue c < UInt64.size :=
      Nat.lt_of_le_of_lt (le_ofDigitChars _ _) fits
    simp only [List.cons_append, scanDigits, allDigits.1, if_pos, small, ih allDigits.2 fits,
      List.length_cons]

/-- The first character of a number is a digit. -/
theorem exists_head_toDigits (n : Nat) :
    ∃ c cs, Nat.toDigits 10 n = c :: cs ∧ c.isDigit = true := by
  obtain ⟨c, cs, digits⟩ := List.exists_cons_of_ne_nil (Nat.toDigits_ne_nil (n := n) (b := 10))
  exact ⟨c, cs, digits, Nat.isDigit_of_mem_toDigits (by decide) (by decide)
    (digits ▸ List.mem_cons_self)⟩

/-- Only zero begins with the digit zero. -/
theorem head?_toDigits {n : Nat} (positive : n ≠ 0) : (Nat.toDigits 10 n).head? ≠ some '0' := by
  induction n using Nat.strongRecOn with
  | ind n ih =>
    by_cases small : n < 10
    · rw [Nat.toDigits_of_lt_base small]
      simpa using positive
    · rw [Nat.toDigits_of_base_le (by decide) (by omega)]
      have front := ih (n / 10) (by omega) (by omega)
      obtain ⟨c, cs, digits, -⟩ := exists_head_toDigits (n / 10)
      rw [digits] at front ⊢
      exact front

/-- Without point and exponent a number is whole. -/
theorem readFraction_whole {word taken : Nat} {rest : List Char} (ends : EndsNumber rest) :
    readFraction false ⟨word, taken, 0, rest⟩ = some (some (.whole word), rest) := by
  unfold readFraction
  split <;> simp_all [endsNumber_cons]

/-- Of a negative number the digits are those of its size. -/
theorem readFraction_negative {word taken : Nat} {rest : List Char} (ends : EndsNumber rest)
    (positive : word ≠ 0) (small : word ≤ 2 ^ 63) :
    readFraction true ⟨word, taken, 0, rest⟩ = some (some (.whole (-word)), rest) := by
  unfold readFraction
  split <;> simp_all [endsNumber_cons]

/-- The digits of a number give that number, however it goes on. -/
theorem readUnsigned_toDigits (negative : Bool) {n : Nat} {rest : List Char}
    (fits : n < 2 ^ 64) (ends : EndsNumber rest) :
    readUnsigned negative (Nat.toDigits 10 n ++ rest) =
      readFraction negative ⟨n, (Nat.toDigits 10 n).length, 0, rest⟩ := by
  by_cases zero : n = 0
  · subst zero
    cases rest with
    | nil => rfl
    | cons c rest => simp [Nat.toDigits_zero, readUnsigned, endsNumber_cons.mp ends]
  · have scan := @scanDigits_append 0 (Nat.toDigits 10 n) rest
      (fun _ => Nat.isDigit_of_mem_toDigits (by decide) (by decide)) ends
    rw [Nat.ofDigitChars_ten_toDigits] at scan
    rw [← scan fits]
    obtain ⟨c, cs, digits, digit⟩ := exists_head_toDigits n
    have notZero : c ≠ '0' := by simpa [digits] using head?_toDigits zero
    simp [digits, readUnsigned, notZero, digit]

/-- Whole numbers of 64 bits are read as they were written. -/
theorem readNumber_writeNumber {n : Int} {rest : List Char} (least : -2 ^ 63 ≤ n)
    (greatest : n < 2 ^ 64) (ends : EndsNumber rest) :
    readNumber (writeNumber (.whole n) ++ rest) = some (some (.whole n), rest) := by
  cases n with
  | ofNat n =>
    have fits : (n : Int) < 2 ^ 64 := greatest
    have unsigned : readNumber (Nat.toDigits 10 n ++ rest) =
        readUnsigned false (Nat.toDigits 10 n ++ rest) := by
      obtain ⟨c, cs, digits, digit⟩ := exists_head_toDigits n
      rw [digits, List.cons_append, readNumber]
      rintro rest ⟨⟩
      exact absurd digit (by decide)
    rw [writeNumber, unsigned, readUnsigned_toDigits false (by omega) ends,
      readFraction_whole ends]
    rfl
  | negSucc n =>
    rw [writeNumber, List.cons_append, readNumber, readUnsigned_toDigits true (by omega) ends,
      readFraction_negative ends (by omega) (by omega)]
    rfl

end Metamorph.Json
