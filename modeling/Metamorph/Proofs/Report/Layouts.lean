import Metamorph.Proofs.Report.Headers
import Metamorph.Proofs.Text.Lines

/-! # Which lines are headers

The three layouts of headers as words that stand somewhere in a line, without the order in which they
are tried and without the file and message that the reader settles for. The reader finds a header in
exactly the lines that have one. Blanks around a line matter for one layout only: the words of a guest
end in a blank, and a line that ends with them loses it. -/

namespace Metamorph.Report

open Text (isDecimalDigit isBlank isBlankText)

/-- The text of a place, with a file that is not empty, and behind it the end of a line. -/
inductive IsPlaced (ends : List Char → Bool) : List Char → Prop where
  | place {file line column tail} (named : file ≠ []) (numbered : IsNumeral line)
      (also : IsNumeral column) (closed : ends tail = true) :
      IsPlaced ends (file ++ coordinates line column tail)

/-- Lines with a header in one of the three layouts. -/
inductive IsHeader : List Char → Prop where
  | guest {front message} : IsHeader (front ++ ("Guest panicked: ".toList ++ message))
  | inline {front thread message place} (plain : '\'' ∉ thread)
      (placed : IsPlaced isBlankText place) :
      IsHeader (front ++ ("thread '".toList ++ thread ++ "' panicked at '".toList ++
        (message ++ "', ".toList ++ place)))
  | ahead {front place} (placed : IsPlaced endsInColon place) :
      IsHeader (front ++ ("panicked at ".toList ++ place))

/-! ## What the readers find -/

variable {ends : List Char → Bool} {input line : List Char}

theorem exists_of_leftmost? {α : Type} {read : List Char → Option α} {a : α}
    (found : Text.leftmost? read input = some a) :
    ∃ front rest, input = front ++ rest ∧ read rest = some a := by
  induction input with
  | nil => exact ⟨[], [], rfl, found⟩
  | cons c input ih =>
      rw [Text.leftmost?] at found
      split at found
      · rename_i here
        exact ⟨[], c :: input, rfl, here.trans found⟩
      · obtain ⟨front, rest, rfl, read⟩ := ih found
        exact ⟨c :: front, rest, rfl, read⟩

theorem isSome_leftmost? {α : Type} {read : List Char → Option α} :
    (Text.leftmost? read input).isSome = true ↔
      ∃ front rest, input = front ++ rest ∧ (read rest).isSome = true := by
  constructor
  · intro found
    obtain ⟨a, found⟩ := Option.isSome_iff_exists.mp found
    obtain ⟨front, rest, split, here⟩ := exists_of_leftmost? found
    exact ⟨front, rest, split, Option.isSome_iff_exists.mpr ⟨a, here⟩⟩
  · rintro ⟨front, rest, rfl, here⟩
    rw [← Option.ne_none_iff_isSome] at here ⊢
    exact fun none => here (Text.leftmost?_eq_none.mp none rest (List.suffix_append front rest))

/-- The end of a header does not go on with a number. -/
theorem endsDigits_of_endsInColon {tail : List Char} (closed : endsInColon tail = true) :
    EndsDigits tail := by
  unfold endsInColon at closed
  split at closed
  · rintro c ⟨⟩
    decide
  · cases closed

theorem endsDigits_of_isBlankText {tail : List Char} (closed : isBlankText tail = true) :
    EndsDigits tail :=
  fun c first => Text.isDecimalDigit_of_isBlank
    (List.all_eq_true.mp closed c (List.mem_of_mem_head? first))

theorem file_of_readPlace? {place : Place} (read : readPlace? ends input = some place) :
    place.file ≠ [] := by
  cases input with
  | nil => cases read
  | cons c rest =>
      rw [readPlace?] at read
      split at read
      · cases read
        simp
      · obtain ⟨later, -, rfl⟩ := Option.map_eq_some_iff.mp read
        simp

/-- A place is read wherever there is one. The file that is read may be a shorter one. -/
theorem isSome_readPlace? (stops : ∀ tail, ends tail = true → EndsDigits tail) :
    (readPlace? ends input).isSome = true ↔ IsPlaced ends input := by
  constructor
  · intro found
    obtain ⟨place, read⟩ := Option.isSome_iff_exists.mp found
    have named := file_of_readPlace? read
    obtain ⟨tail, closed, numbered, also, rfl⟩ := readPlace?_eq_some read
    exact .place named numbered also closed
  · rintro ⟨named, numbered, also, closed⟩
    rename_i file line column tail
    induction file with
    | nil => contradiction
    | cons c file ih =>
        cases early : readCoordinates? ends (file ++ coordinates line column tail) with
        | some found => simp [readPlace?, early]
        | none =>
            have more : file ≠ [] := by
              rintro rfl
              simp [readCoordinates?_coordinates numbered also (stops tail closed) closed] at early
            simpa [readPlace?, early] using ih more

theorem isSome_readMessage?_cons {c : Char} {rest : List Char} :
    (readMessage? (c :: rest)).isSome = true ↔ (readMessage? rest).isSome = true ∨
      ∃ place, c :: rest = "', ".toList ++ place ∧ (readPlace? isBlankText place).isSome = true := by
  rw [readMessage?]
  cases readMessage? rest with
  | some found => simp only [Option.isSome_some, true_or]
  | none =>
      simp only [Option.isSome_none, Bool.false_eq_true, false_or, ← Text.after?_eq_some,
        Option.bind_eq_bind, Option.isSome_bind, Option.any_eq_true, Option.pure_def,
        Option.isSome_some, ← Option.isSome_iff_exists, and_true]

theorem isSome_readMessage? : (readMessage? input).isSome = true ↔
    ∃ message place, IsPlaced isBlankText place ∧ input = message ++ "', ".toList ++ place := by
  have reads (place : List Char) :
      (readPlace? isBlankText place).isSome = true ↔ IsPlaced isBlankText place :=
    isSome_readPlace? fun _ => endsDigits_of_isBlankText
  constructor
  · intro found
    obtain ⟨⟨message, place⟩, read⟩ := Option.isSome_iff_exists.mp found
    obtain ⟨rest, rfl, behind⟩ := readMessage?_eq_some read
    exact ⟨message, rest, (reads rest).mp (Option.isSome_iff_exists.mpr ⟨_, behind⟩), rfl⟩
  · rintro ⟨message, place, placed, rfl⟩
    induction message with
    | nil => exact isSome_readMessage?_cons.mpr (.inr ⟨place, rfl, (reads place).mpr placed⟩)
    | cons c message ih => exact isSome_readMessage?_cons.mpr (.inl ih)

theorem readThread?_eq_some {words name rest : List Char}
    (read : readThread? words input = some (name, rest)) :
    '\'' ∉ name ∧ input = "thread '".toList ++ name ++ words ++ rest := by
  simp only [readThread?, Option.bind_eq_bind, Option.bind_eq_some_iff, Option.pure_def,
    Option.some.injEq, Prod.mk.injEq, Text.after?_eq_some] at read
  obtain ⟨inner, rfl, _, behind, rfl, rfl⟩ := read
  refine ⟨fun quote => by simpa using List.mem_takeWhile_imp quote, ?_⟩
  rw [List.append_assoc, List.append_assoc, ← behind, List.takeWhile_append_dropWhile]

theorem isSome_readInline? : (readInline? input).isSome = true ↔
    ∃ thread message place, '\'' ∉ thread ∧ IsPlaced isBlankText place ∧
      input = "thread '".toList ++ thread ++ "' panicked at '".toList ++
        (message ++ "', ".toList ++ place) := by
  constructor
  · intro found
    obtain ⟨⟨thread, message, place⟩, read⟩ := Option.isSome_iff_exists.mp found
    simp only [readInline?, Option.bind_eq_bind, Option.bind_eq_some_iff, Prod.exists] at read
    obtain ⟨_, rest, start, _, _, said, -⟩ := read
    obtain ⟨plain, rfl⟩ := readThread?_eq_some start
    obtain ⟨message, place, placed, rfl⟩ :=
      isSome_readMessage?.mp (Option.isSome_iff_exists.mpr ⟨_, said⟩)
    exact ⟨_, message, place, plain, placed, rfl⟩
  · rintro ⟨thread, message, place, plain, placed, rfl⟩
    obtain ⟨⟨said, found⟩, read⟩ := Option.isSome_iff_exists.mp
      (isSome_readMessage?.mpr ⟨message, place, placed, rfl⟩)
    have start := @readThread?_named thread "' panicked at '".toList plain rfl
      (message ++ "', ".toList ++ place)
    simp only [readInline?, start, read, Option.bind_eq_bind, Option.bind_some, Option.pure_def,
      Option.isSome_some]

/-- A header whose message is ahead, with or without a thread, is one without a thread somewhere in
the line. -/
theorem isSome_leftmost?_readAhead? : (Text.leftmost? readAhead? input).isSome = true ↔
    ∃ front place, IsPlaced endsInColon place ∧
      input = front ++ ("panicked at ".toList ++ place) := by
  have reads (place : List Char) :
      (readPlace? endsInColon place).isSome = true ↔ IsPlaced endsInColon place :=
    isSome_readPlace? fun _ => endsDigits_of_endsInColon
  rw [isSome_leftmost?]
  constructor
  · rintro ⟨front, rest, rfl, found⟩
    unfold readAhead? at found
    split at found
    · rename_i thread place start
      obtain ⟨-, rfl⟩ := readThread?_eq_some start
      rw [Option.isSome_map] at found
      refine ⟨front ++ ("thread '".toList ++ thread ++ "' ".toList), place, (reads place).mp found, ?_⟩
      have words : "' panicked at ".toList = "' ".toList ++ "panicked at ".toList := rfl
      simp only [words, List.append_assoc]
    · obtain ⟨place, start, found⟩ : ∃ place, rest = "panicked at ".toList ++ place ∧
          (readPlace? endsInColon place).isSome = true := by
        simpa only [Option.bind_eq_bind, Option.isSome_bind, Option.any_eq_true, Option.pure_def,
          Option.isSome_some, ← Option.isSome_iff_exists, and_true, Text.after?_eq_some] using found
      exact ⟨front, place, (reads place).mp found, by rw [start]⟩
  · rintro ⟨front, place, placed, rfl⟩
    refine ⟨front, _, rfl, ?_⟩
    have noThread : readThread? "' panicked at ".toList ("panicked at ".toList ++ place) = none := rfl
    have words := Text.after?_eq_some.mpr (rfl : "panicked at ".toList ++ place = _)
    obtain ⟨found, read⟩ := Option.isSome_iff_exists.mp ((reads place).mpr placed)
    simp only [readAhead?, noThread, words, read, Option.bind_eq_bind, Option.bind_some,
      Option.pure_def, Option.isSome_some]

theorem isSome_leftmost?_readGuest? : (Text.leftmost? readGuest? input).isSome = true ↔
    ∃ front message, input = front ++ ("Guest panicked: ".toList ++ message) := by
  have reads (rest : List Char) : (readGuest? rest).isSome = true ↔
      ∃ message, rest = "Guest panicked: ".toList ++ message := by
    rw [readGuest?, Option.isSome_map, Option.isSome_iff_exists]
    simp only [Text.after?_eq_some]
  simp only [isSome_leftmost?, reads]
  constructor
  · rintro ⟨front, _, rfl, message, rfl⟩
    exact ⟨front, message, rfl⟩
  · rintro ⟨front, message, rfl⟩
    exact ⟨front, _, rfl, message, rfl⟩

/-- The order in which the layouts are tried does not matter to whether there is a header. -/
theorem isSome_ofLine?_cases : (Header.ofLine? line).isSome = true ↔
    (Text.leftmost? readGuest? line).isSome = true ∨
      (Text.leftmost? readInline? line).isSome = true ∨
        (Text.leftmost? readAhead? line).isSome = true := by
  unfold Header.ofLine?
  cases Text.leftmost? readGuest? line with
  | some message =>
      cases ahead : Text.leftmost? readAhead? message <;> simp [ahead]
  | none =>
      cases Text.leftmost? readInline? line with
      | some found => simp
      | none => simp

/-- The reader finds a header in exactly the lines that have one. -/
theorem isSome_ofLine? : (Header.ofLine? line).isSome = true ↔ IsHeader line := by
  rw [isSome_ofLine?_cases, isSome_leftmost?_readGuest?, isSome_leftmost?,
    isSome_leftmost?_readAhead?]
  constructor
  · rintro (⟨front, message, rfl⟩ | ⟨front, rest, rfl, read⟩ | ⟨front, place, placed, rfl⟩)
    · exact .guest
    · obtain ⟨thread, message, place, plain, placed, rfl⟩ := isSome_readInline?.mp read
      exact .inline plain placed
    · exact .ahead placed
  · rintro (_ | ⟨plain, placed⟩ | placed)
    · exact .inl ⟨_, _, rfl⟩
    · exact .inr (.inl ⟨_, _, rfl, isSome_readInline?.mpr ⟨_, _, _, plain, placed, rfl⟩⟩)
    · exact .inr (.inr ⟨_, _, placed, rfl⟩)

/-! ## Headers without the blanks around them -/

/-- The end of a header is blanks behind an end that is none. -/
def ClosesFirmly (ends : List Char → Bool) : Prop :=
  ∀ tail, ends tail = true → ∃ closing blanks, tail = closing ++ blanks ∧
    isBlankText blanks = true ∧ ends closing = true ∧ ∀ c ∈ closing.getLast?, isBlank c = false

theorem closesFirmly_endsInColon : ClosesFirmly endsInColon := by
  intro tail closed
  unfold endsInColon at closed
  split at closed
  · rename_i blanks
    exact ⟨[':'], blanks, rfl, closed, rfl, by rintro c ⟨⟩; decide⟩
  · cases closed

theorem closesFirmly_isBlankText : ClosesFirmly isBlankText :=
  fun tail closed => ⟨[], tail, rfl, closed, rfl, by simp⟩

/-- A place loses only blanks at its end. -/
theorem IsPlaced.exists_core {place : List Char} (firmly : ClosesFirmly ends)
    (placed : IsPlaced ends place) :
    ∃ core blanks, place = core ++ blanks ∧ isBlankText blanks = true ∧ IsPlaced ends core ∧
      core ≠ [] ∧ ∀ c ∈ core.getLast?, isBlank c = false := by
  obtain @⟨file, line, column, tail, named, numbered, also, closed⟩ := placed
  obtain ⟨closing, blanks, rfl, blank, closes, last⟩ := firmly tail closed
  refine ⟨file ++ coordinates line column closing, blanks, by simp [coordinates], blank,
    .place named numbered also closes, by simp [named], ?_⟩
  -- behind the column there is the end of the header or nothing
  have digits : ∀ c ∈ column.getLast?, isBlank c = false := fun c ends =>
    Text.isBlank_of_isDecimalDigit (also.2 c (List.mem_of_getLast? ends))
  have ending : (file ++ coordinates line column closing).getLast? = (column ++ closing).getLast? := by
    have front : file ++ coordinates line column closing =
        (file ++ ':' :: line ++ [':']) ++ (column ++ closing) := by simp [coordinates]
    rw [front, List.getLast?_append_of_ne_nil _ (by simp [also.1])]
  rw [ending]
  by_cases empty : closing = []
  · simpa [empty] using digits
  · rwa [List.getLast?_append_of_ne_nil _ empty]

/-- A guest's header with a message is still there without the blanks around it. -/
theorem isHeader_trim_guest {front message : List Char} (said : ¬ isBlankText message = true) :
    IsHeader (Text.trim (front ++ ("Guest panicked: ".toList ++ message))) := by
  obtain ⟨blanks, blank, split⟩ := Text.exists_trimEnd_append message
  have filled : Text.trimEnd message ≠ [] := mt Text.trimEnd_eq_nil.mp said
  have last : ∀ c ∈ ("Guest panicked: ".toList ++ Text.trimEnd message).getLast?,
      isBlank c = false := by
    rw [List.getLast?_append_of_ne_nil _ filled]
    exact Text.getLast?_trimEnd message
  obtain ⟨front', trimmed⟩ := Text.exists_trim_append (by simp) (by simp [isBlank]) last blank front
  rw [split, ← List.append_assoc, ← List.append_assoc, List.append_assoc front, trimmed]
  exact .guest

/-- Without the blanks around it a line has still its header, unless that is the words of a guest with
only blanks behind them. -/
theorem IsHeader.trim (header : IsHeader line) : IsHeader (Text.trim line) ∨
    ∃ front blanks, isBlankText blanks = true ∧
      line = front ++ ("Guest panicked: ".toList ++ blanks) := by
  cases header with
  | @guest front message =>
      by_cases blank : isBlankText message = true
      · exact .inr ⟨front, message, blank, rfl⟩
      · exact .inl (isHeader_trim_guest blank)
  | @inline front thread message place plain placed =>
      obtain ⟨core, blanks, rfl, blank, kept, filled, last⟩ :=
        placed.exists_core closesFirmly_isBlankText
      obtain ⟨front', trimmed⟩ := @Text.exists_trim_append
        (("thread '".toList ++ thread ++ "' panicked at '".toList ++ (message ++ "', ".toList)) ++ core)
        blanks (by simp) (by simp [isBlank]) (by rwa [List.getLast?_append_of_ne_nil _ filled]) blank
        front
      left
      simp only [List.append_assoc] at trimmed ⊢
      rw [trimmed]
      simpa only [List.append_assoc] using @IsHeader.inline front' thread message core plain kept
  | @ahead front place placed =>
      obtain ⟨core, blanks, rfl, blank, kept, filled, last⟩ :=
        placed.exists_core closesFirmly_endsInColon
      obtain ⟨front', trimmed⟩ := @Text.exists_trim_append ("panicked at ".toList ++ core) blanks
        (by simp) (by simp [isBlank]) (by rwa [List.getLast?_append_of_ne_nil _ filled]) blank front
      left
      rw [← List.append_assoc, ← List.append_assoc, List.append_assoc front, trimmed]
      exact .ahead kept

/-- A header that the blanks around it belong to is that of a guest without a message. -/
theorem ofLine?_of_not_trim (header : IsHeader line) (lost : ¬ IsHeader (Text.trim line)) :
    Header.ofLine? line = some (.bare []) := by
  obtain ⟨front, blanks, -, same⟩ := header.trim.resolve_left lost
  obtain ⟨message, guest⟩ := Option.isSome_iff_exists.mp
    (isSome_leftmost?_readGuest?.mpr ⟨front, blanks, same⟩)
  obtain ⟨front', rest, rfl, read⟩ := exists_of_leftmost? guest
  obtain ⟨text, words, rfl⟩ := Option.map_eq_some_iff.mp read
  obtain rfl := Text.after?_eq_some.mp words
  have blank : isBlankText text = true := by
    by_contra said
    exact lost (isHeader_trim_guest said)
  rw [Text.trimEnd_eq_nil.mpr blank] at guest
  simp only [Header.ofLine?, guest]
  rfl

end Metamorph.Report
