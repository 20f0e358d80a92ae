import Metamorph.Proofs.Text.Lines
import Metamorph.Report.Panic

/-! # What the readers of headers find

The reader of a place stops at the shortest file. Everything behind the file is colons and digits
up to the end of the line, so that the number of colons tells where the file ends, however many
colons and digits it holds itself. The reader of a message stops at the last apostrophe with comma
and blank that a place follows; behind the separator proper there is none if the file has none. -/

namespace Metamorph

namespace Text

theorem after?_eq_some {marker input rest : List Char} :
    after? marker input = some rest ↔ input = marker ++ rest := by
  induction marker generalizing input with
  | nil => simp [after?, eq_comm]
  | cons m marker ih =>
    cases input with
    | nil => simp [after?]
    | cons c input =>
      by_cases same : m = c
      · simp [after?, same, ih]
      · simp [after?, same, Ne.symm same]

theorem leftmost?_of_eq_some {α : Type} {read : List Char → Option α} {input : List Char} {a : α}
    (found : read input = some a) : leftmost? read input = some a := by
  cases input with
  | nil => exact found
  | cons c rest => simp [leftmost?, found]

theorem leftmost?_eq_none {α : Type} {read : List Char → Option α} {input : List Char} :
    leftmost? read input = none ↔ ∀ rest, rest <:+ input → read rest = none := by
  induction input with
  | nil => simp [leftmost?]
  | cons c input ih =>
    cases here : read (c :: input) with
    | none => simp [leftmost?, here, ih, List.suffix_cons_iff]
    | some a =>
      simp only [leftmost?, here, reduceCtorEq, false_iff, not_forall]
      exact ⟨c :: input, List.suffix_rfl, by simp [here]⟩

end Text

namespace Report

open Text (isDecimalDigit isBlank isBlankText)

/-- Digits, of which there is one at least. -/
def IsNumeral (digits : List Char) : Prop :=
  digits ≠ [] ∧ ∀ c ∈ digits, isDecimalDigit c = true

/-- What does not go on with a number. -/
def EndsDigits (rest : List Char) : Prop :=
  ∀ c ∈ rest.head?, isDecimalDigit c = false

theorem IsNumeral.count_colon {digits : List Char} (h : IsNumeral digits) :
    digits.count ':' = 0 := by
  refine List.count_eq_zero.mpr fun member => ?_
  have digit := h.2 ':' member
  revert digit
  decide

/-! ## Places -/

theorem readNumber?_append {digits rest : List Char} (numeral : IsNumeral digits)
    (ends : EndsDigits rest) : readNumber? (':' :: (digits ++ rest)) = some (digits, rest) := by
  obtain ⟨taken, dropped⟩ := Text.takeWhile_run numeral.2 ends
  simp [readNumber?, taken, dropped, numeral.1]

theorem readNumber?_eq_some {input digits rest : List Char}
    (read : readNumber? input = some (digits, rest)) :
    IsNumeral digits ∧ input = ':' :: (digits ++ rest) := by
  unfold readNumber? at read
  split at read
  · rename_i input
    dsimp only at read
    split at read
    · cases read
    · rename_i some_digit
      obtain ⟨rfl, rfl⟩ := Prod.mk.inj (Option.some.inj read)
      exact ⟨⟨by simpa using some_digit, fun c => List.mem_takeWhile_imp⟩, by simp⟩
  · cases read

variable {ends : List Char → Bool} {file line column tail input : List Char}

/-- Line and column as they stand in a header, with what is behind them. -/
def coordinates (line column tail : List Char) : List Char :=
  ':' :: (line ++ ':' :: (column ++ tail))

theorem readCoordinates?_coordinates (numbered : IsNumeral line) (also : IsNumeral column)
    (stops : EndsDigits tail) (closed : ends tail = true) :
    readCoordinates? ends (coordinates line column tail) = some (line, column) := by
  have colon : EndsDigits (':' :: (column ++ tail)) := by
    rintro c ⟨⟩
    decide
  simp [readCoordinates?, coordinates, readNumber?_append numbered colon,
    readNumber?_append also stops, closed]

theorem readCoordinates?_eq_some (read : readCoordinates? ends input = some (line, column)) :
    ∃ tail, ends tail = true ∧ IsNumeral line ∧ IsNumeral column ∧
      input = coordinates line column tail := by
  simp only [readCoordinates?, Option.bind_eq_bind, Option.bind_eq_some_iff, Prod.exists,
    Option.ite_none_right_eq_some, Option.some.injEq, Prod.mk.injEq] at read
  obtain ⟨_, middle, first, _, tail, second, closed, rfl, rfl⟩ := read
  obtain ⟨numbered, rfl⟩ := readNumber?_eq_some first
  obtain ⟨also, rfl⟩ := readNumber?_eq_some second
  exact ⟨tail, closed, numbered, also, rfl⟩

/-- The ends of a header that are allowed have as many colons as this one. -/
def Closes (ends : List Char → Bool) (tail : List Char) : Prop :=
  ends tail = true ∧ EndsDigits tail ∧ ∀ other, ends other = true → other.count ':' = tail.count ':'

theorem closes_endsInColon : Closes endsInColon [':'] := by
  refine ⟨rfl, by rintro c ⟨⟩; decide, fun other closed => ?_⟩
  unfold endsInColon at closed
  split at closed
  · rename_i blanks
    have none : blanks.count ':' = 0 := by
      refine List.count_eq_zero.mpr fun member => ?_
      have blank := List.all_eq_true.mp closed ':' member
      revert blank
      decide
    simp [none]
  · cases closed

theorem closes_isBlankText : Closes isBlankText [] := by
  refine ⟨rfl, by rintro c ⟨⟩, fun blanks closed => ?_⟩
  refine List.count_eq_zero.mpr fun member => ?_
  have blank := List.all_eq_true.mp closed ':' member
  revert blank
  decide

/-- In front of coordinates there are no others: they would have a colon too many. -/
theorem readCoordinates?_early (closes : Closes ends tail) (numbered : IsNumeral line)
    (also : IsNumeral column) (file_nonempty : file ≠ []) :
    readCoordinates? ends (file ++ coordinates line column tail) = none := by
  rw [Option.eq_none_iff_forall_ne_some]
  rintro ⟨early, later⟩ read
  obtain ⟨other, closed, first, second, same⟩ := readCoordinates?_eq_some read
  obtain ⟨c, file, rfl⟩ := List.exists_cons_of_ne_nil file_nonempty
  have colon : c = ':' := (List.cons.inj same).1
  have colons := congrArg (List.count ':') same
  simp [coordinates, List.count_append, colon, closes.2.2 other closed, numbered.count_colon,
    also.count_colon, first.count_colon, second.count_colon] at colons
  omega

/-- The file of a place is all that stands in front of its coordinates. -/
theorem readPlace?_coordinates (closes : Closes ends tail) (numbered : IsNumeral line)
    (also : IsNumeral column) (file_nonempty : file ≠ []) :
    readPlace? ends (file ++ coordinates line column tail) = some ⟨file, line, column⟩ := by
  induction file with
  | nil => contradiction
  | cons c file ih =>
    cases file with
    | nil =>
      have read := readCoordinates?_coordinates numbered also closes.2.1 closes.1
      simp [readPlace?, read]
    | cons d file =>
      have early := readCoordinates?_early closes numbered also (List.cons_ne_nil d file)
      rw [List.cons_append, readPlace?, early, ih (List.cons_ne_nil d file)]
      rfl

theorem readPlace?_eq_some {place : Place} (read : readPlace? ends input = some place) :
    ∃ tail, ends tail = true ∧ IsNumeral place.line ∧ IsNumeral place.column ∧
      input = place.file ++ coordinates place.line place.column tail := by
  induction input generalizing place with
  | nil => cases read
  | cons c rest ih =>
    rw [readPlace?] at read
    split at read
    · rename_i line column found
      cases read
      obtain ⟨tail, closed, numbered, also, rfl⟩ := readCoordinates?_eq_some found
      exact ⟨tail, closed, numbered, also, rfl⟩
    · obtain ⟨place, found, rfl⟩ := Option.map_eq_some_iff.mp read
      obtain ⟨tail, closed, numbered, also, same⟩ := ih found
      exact ⟨tail, closed, numbered, also, by simp [← same]⟩

/-- A header whose place comes last does not end in a colon. -/
theorem getLast?_of_readPlace? {place : Place}
    (read : readPlace? isBlankText input = some place) : input.getLast? ≠ some ':' := by
  obtain ⟨blanks, closed, -, also, rfl⟩ := readPlace?_eq_some read
  have digits : place.column.getLast? ≠ some ':' := fun last => by
    have digit := also.2 ':' (List.mem_of_getLast? last)
    revert digit
    decide
  obtain ⟨c, last⟩ := Option.ne_none_iff_exists'.mp (mt List.getLast?_eq_none_iff.mp also.1)
  cases ends : blanks.getLast? with
  | none => simpa [coordinates, List.getLast?_append, List.getLast?_cons, ends, last] using digits
  | some blank =>
    have space := List.all_eq_true.mp closed blank (List.mem_of_getLast? ends)
    simp only [coordinates, List.getLast?_append, List.getLast?_cons, ends]
    rintro ⟨⟩
    revert space
    decide

/-! ## Messages -/

theorem readMessage?_eq_some {message : List Char} {place : Place}
    (read : readMessage? input = some (message, place)) :
    ∃ rest, input = message ++ "', ".toList ++ rest ∧
      readPlace? isBlankText rest = some place := by
  induction input generalizing message with
  | nil => cases read
  | cons c input ih =>
    rw [readMessage?] at read
    split at read
    · rename_i message place later
      cases read
      obtain ⟨rest, rfl, found⟩ := ih later
      exact ⟨rest, rfl, found⟩
    · simp only [Option.bind_eq_bind, Option.bind_eq_some_iff, Option.pure_def, Option.some.injEq,
        Prod.mk.injEq, Text.after?_eq_some] at read
      obtain ⟨rest, separated, place, found, rfl, rfl⟩ := read
      exact ⟨rest, separated, found⟩

/-- A message goes up to the last separator. -/
theorem readMessage?_append {rest : List Char} {place : Place} (alone : ¬ "', ".toList <:+: rest)
    (found : readPlace? isBlankText rest = some place) (message : List Char) :
    readMessage? (message ++ "', ".toList ++ rest) = some (message, place) := by
  induction message with
  | nil =>
    have later : readMessage? (", ".toList ++ rest) = none := by
      rw [Option.eq_none_iff_forall_ne_some]
      rintro ⟨message, other⟩ read
      obtain ⟨behind, same, -⟩ := readMessage?_eq_some read
      have within : "', ".toList <:+: ", ".toList ++ rest := same ▸ ⟨message, behind, rfl⟩
      -- the separator begins with an apostrophe, which is neither the comma nor the blank
      have later : "', ".toList <:+: rest := by simpa [List.infix_cons_iff] using within
      exact alone later
    have separated : Text.after? "', ".toList ('\'' :: (", ".toList ++ rest)) = some rest :=
      Text.after?_eq_some.mpr rfl
    have whole : [] ++ "', ".toList ++ rest = '\'' :: (", ".toList ++ rest) := rfl
    simp only [whole, readMessage?, later, separated, Option.bind_eq_bind, Option.bind_some, found,
      Option.pure_def]
  | cons c message ih =>
    rw [List.cons_append, List.cons_append, readMessage?, ih]

/-! ## Headers -/

theorem readThread?_named {name words : List Char} (plain : '\'' ∉ name)
    (quoted : words.head? = some '\'') (rest : List Char) :
    readThread? words ("thread '".toList ++ name ++ words ++ rest) = some (name, rest) := by
  obtain ⟨words, rfl⟩ := List.head?_eq_some_iff.mp quoted
  have inside : ∀ c ∈ name, decide (c ≠ '\'') = true := fun c member =>
    decide_eq_true fun same => plain (same ▸ member)
  have behind : Text.after? ('\'' :: words) ('\'' :: (words ++ rest)) = some rest :=
    Text.after?_eq_some.mpr rfl
  have start := Text.after?_eq_some.mpr
    (rfl : "thread '".toList ++ (name ++ ('\'' :: words ++ rest)) = _)
  simp only [List.append_assoc, readThread?, start, Option.bind_eq_bind, Option.bind_some]
  obtain ⟨taken, dropped⟩ := @Text.takeWhile_run _ _ ('\'' :: words ++ rest) inside (by simp)
  simp only [taken, dropped]
  simp [behind]

/-- A line without the words of a guest is none of its headers. -/
theorem leftmost?_readGuest? {line : List Char} (absent : ¬ "Guest panicked: ".toList <:+: line) :
    Text.leftmost? readGuest? line = none := by
  rw [Text.leftmost?_eq_none]
  intro rest suffix
  rw [Option.eq_none_iff_forall_ne_some]
  intro message read
  obtain ⟨text, found, -⟩ := Option.map_eq_some_iff.mp read
  have begins : "Guest panicked: ".toList <+: rest := ⟨text, (Text.after?_eq_some.mp found).symm⟩
  exact absent (begins.isInfix.trans suffix.isInfix)

/-- A header with its message in apostrophes ends as the place in it does. -/
theorem readInline?_eq_some {line thread message : List Char} {place : Place}
    (read : readInline? line = some (thread, message, place)) :
    ∃ rest, rest <:+ line ∧ readPlace? Text.isBlankText rest = some place := by
  simp only [readInline?, readThread?, Option.bind_eq_bind, Option.bind_eq_some_iff, Option.pure_def,
    Option.some.injEq, Prod.mk.injEq, Prod.exists, Text.after?_eq_some] at read
  obtain ⟨_, _, ⟨inner, rfl, _, words, -, rfl⟩, said, _, read, -, -, rfl⟩ := read
  obtain ⟨rest, rfl, found⟩ := readMessage?_eq_some read
  refine ⟨rest, ?_, found⟩
  have inside : rest <:+ "' panicked at '".toList ++ (said ++ "', ".toList ++ rest) :=
    (List.suffix_append (said ++ "', ".toList) rest).trans (List.suffix_append ..)
  rw [← words] at inside
  exact (inside.trans (List.dropWhile_suffix _)).trans (List.suffix_append ..)

/-- A line that ends in a colon has its message elsewhere. -/
theorem leftmost?_readInline? {line : List Char} (colon : line.getLast? = some ':') :
    Text.leftmost? readInline? line = none := by
  rw [Text.leftmost?_eq_none]
  intro suffix within
  rw [Option.eq_none_iff_forall_ne_some]
  rintro ⟨thread, message, place⟩ read
  obtain ⟨rest, ends, found⟩ := readInline?_eq_some read
  obtain ⟨front, rfl⟩ := ends.trans within
  have nonempty : rest ≠ [] := by
    rintro rfl
    cases found
  rw [List.getLast?_append_of_ne_nil _ nonempty] at colon
  exact getLast?_of_readPlace? found colon

end Report

end Metamorph
