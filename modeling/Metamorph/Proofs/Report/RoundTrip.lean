import Metamorph.Proofs.Report.Headers
import Metamorph.Proofs.Text.Lines

/-! # Panic reports survive reading

Reports in the three layouts, printed one after the other, are read back as the panics that they
report, in order and with every part as it was. Of a report whose message is on a line of its own
the reader looks one line ahead; that line is its message, or else the header of the next report,
which is not taken for one. -/

namespace Metamorph

open Report

/-- A panic as a program reports it. -/
inductive PanicReport where
  /-- The message has a line of its own, if there is one. -/
  | current (thread : Option String) (location : Location) (message : String)
  | legacy (thread : String) (location : Location) (message : String)
  | guest (message : String)
  deriving DecidableEq, Repr

namespace PanicReport

/-- What the first line says before the place. -/
def opening : Option String → String
  | none => "panicked at "
  | some thread => "thread '" ++ thread ++ "' panicked at "

/-- The first line of a report. -/
def header : PanicReport → String
  | current thread location _ => opening thread ++ location.display ++ ":"
  | legacy thread location message =>
    "thread '" ++ thread ++ "' panicked at '" ++ message ++ "', " ++ location.display
  | guest message => "Guest panicked: " ++ message

-- The equations of `header` are derived here, ahead of the proofs that open it.
attribute [local grind =] header

/-- The lines after the first one. -/
def details : PanicReport → List String
  | current _ _ message => if message = "" then [] else [message]
  | _ => []

/-- The lines of a report. -/
def lines (report : PanicReport) : List String :=
  report.header :: report.details

/-- The panic that is reported. -/
def panic : PanicReport → Panic
  | current thread location message => ⟨message, some location, thread⟩
  | legacy thread location message => ⟨message, some location, some thread⟩
  | guest message => ⟨message, none, none⟩

/-- The name of a thread and of a file, on one line, that a header can hold. -/
structure Placed (thread : Option String) (location : Location) : Prop where
  thread : ∀ name ∈ thread, '\n' ∉ name.toList ∧ '\'' ∉ name.toList
  file : '\n' ∉ location.file.toList ∧ location.file ≠ ""

/-- A report whose parts do not pretend to be parts of another one. -/
def Readable (report : PanicReport) : Prop :=
  match report with
  | current thread location message =>
    Placed thread location ∧ ¬ "Guest panicked: ".toList <:+: report.header.toList ∧
      '\n' ∉ message.toList ∧ (message ≠ "" → Text.trim message.toList = message.toList ∧
        ¬ "note:".toList <+: message.toList ∧ Header.ofLine? message.toList = none)
  | legacy thread location message =>
    Placed (some thread) location ∧ ¬ "Guest panicked: ".toList <:+: report.header.toList ∧
      '\n' ∉ message.toList ∧ ¬ "', ".toList <:+: location.file.toList
  | guest message =>
    message ≠ "" ∧ '\n' ∉ message.toList ∧ Text.trimEnd message.toList = message.toList ∧
      Text.leftmost? readAhead? message.toList = none

end PanicReport

/-! ## Numbers and places -/

theorem toList_word (word : UInt32) : (toString word).toList = Nat.toDigits 10 word.toNat := by
  have asNat : toString word = toString word.toNat := rfl
  rw [asNat, Nat.toString_eq_ofList_toDigits, String.toList_ofList]

theorem isDigit_of_mem_word {word : UInt32} {c : Char} (member : c ∈ (toString word).toList) :
    c.isDigit = true := by
  rw [toList_word] at member
  exact Nat.isDigit_of_mem_toDigits (by decide) (by decide) member

theorem isNumeral_word (word : UInt32) : IsNumeral (toString word).toList := by
  refine ⟨?_, fun c member => ?_⟩
  · rw [toList_word]
    exact Nat.toDigits_ne_nil
  · simp [Text.isDecimalDigit, isDigit_of_mem_word member]

theorem Text.word32OfDigits?_word (word : UInt32) :
    word32OfDigits? (toString word).toList = some word := by
  have value : digitsValue (toString word).toList = word.toNat := by
    rw [digitsValue_eq, toList_word, Nat.ofDigitChars_ten_toDigits]
  have digits : (toString word).toList.all Char.isDigit = true :=
    List.all_eq_true.mpr fun c => isDigit_of_mem_word
  have small : word.toNat < UInt32.size := word.toNat_lt
  simp [word32OfDigits?, value, digits, small]

namespace Location

/-- A location as a header has it. -/
def place (location : Location) : Report.Place :=
  ⟨location.file.toList, (toString location.line).toList, (toString location.column).toList⟩

theorem ofPlace?_place (location : Location) : ofPlace? location.place = some location := by
  simp [ofPlace?, place, Text.word32OfDigits?_word]

theorem toList_display (location : Location) (tail : List Char) :
    location.display.toList ++ tail = location.place.file ++
      coordinates location.place.line location.place.column tail := by
  simp [display, place, coordinates]

theorem readPlace?_display {location : Location} (named : location.file ≠ "")
    {ends : List Char → Bool} {tail : List Char} (closes : Closes ends tail) :
    readPlace? ends (location.display.toList ++ tail) = some location.place := by
  rw [toList_display]
  refine readPlace?_coordinates closes (isNumeral_word _) (isNumeral_word _) fun empty => named ?_
  rwa [place, String.toList_eq_nil_iff] at empty

/-- The end of a message that stands in the text of a location stands in its file: there are only
digits and colons behind it. -/
theorem infix_of_infix_display {location : Location}
    (within : "', ".toList <:+: location.display.toList) :
    "', ".toList <:+: location.file.toList := by
  have text := location.toList_display []
  rw [List.append_nil] at text
  rw [text, List.infix_append_iff] at within
  obtain within | within | ⟨front, back, whole, inside, behind⟩ := within
  · exact within
  · have quote : '\'' ∈ coordinates location.place.line location.place.column [] :=
      within.subset (by decide)
    simp only [coordinates, List.append_nil, List.mem_cons, List.mem_append] at quote
    obtain colon | digit | colon | digit := quote
    · exact absurd colon (by decide)
    · exact absurd (isDigit_of_mem_word digit) (by decide)
    · exact absurd colon (by decide)
    · exact absurd (isDigit_of_mem_word digit) (by decide)
  · cases back with
    | nil =>
      rw [whole, List.append_nil]
      exact inside.isInfix
    | cons c back =>
      have colon : c = ':' := (List.cons_prefix_cons.mp behind).1
      have outside : ':' ∉ "', ".toList := by decide
      refine absurd ?_ outside
      rw [whole, colon]
      simp

end Location

/-! ## Headers -/

namespace PanicReport

variable {thread : Option String} {location : Location} {message : String}

theorem toList_header_current : (current thread location message).header.toList =
    (opening thread).toList ++ (location.display.toList ++ [':']) := by
  simp [header]

theorem toList_header_legacy (thread : String) :
    (legacy thread location message).header.toList =
      "thread '".toList ++ thread.toList ++ "' panicked at '".toList ++
        (message.toList ++ "', ".toList ++ location.display.toList) := by
  simp [header]

theorem readAhead?_current (message : String) (placed : Placed thread location) :
    readAhead? (current thread location message).header.toList =
      some (thread.map String.toList, location.place) := by
  have place := Location.readPlace?_display placed.file.2 closes_endsInColon
  rw [toList_header_current]
  cases thread with
  | none =>
    have start : readThread? "' panicked at ".toList
        ("panicked at ".toList ++ (location.display.toList ++ [':'])) = none := rfl
    have words : Text.after? "panicked at ".toList
        ("panicked at ".toList ++ (location.display.toList ++ [':'])) =
          some (location.display.toList ++ [':']) := Text.after?_eq_some.mpr rfl
    simp only [opening, readAhead?, start, words, place, Option.bind_eq_bind, Option.bind_some]
    rfl
  | some thread =>
    have named := @readThread?_named thread.toList "' panicked at ".toList
      (placed.thread thread rfl).2 rfl (location.display.toList ++ [':'])
    have opens : (opening (some thread)).toList =
        "thread '".toList ++ thread.toList ++ "' panicked at ".toList := by simp [opening]
    simp only [opens, readAhead?, named, place]
    rfl

theorem ofLine?_current (placed : Placed thread location)
    (noGuest : ¬ "Guest panicked: ".toList <:+: (current thread location message).header.toList) :
    Header.ofLine? (current thread location message).header.toList =
      some (.ahead (thread.map String.toList) location.place) := by
  have colon : (current thread location message).header.toList.getLast? = some ':' := by
    rw [toList_header_current, ← List.append_assoc, List.getLast?_concat]
  have ahead := Text.leftmost?_of_eq_some (readAhead?_current message placed)
  simp only [Header.ofLine?, leftmost?_readGuest? noGuest, leftmost?_readInline? colon, ahead,
    Option.map_some]

theorem ofLine?_legacy {thread : String} (placed : Placed (some thread) location)
    (noGuest : ¬ "Guest panicked: ".toList <:+: (legacy thread location message).header.toList)
    (alone : ¬ "', ".toList <:+: location.file.toList) :
    Header.ofLine? (legacy thread location message).header.toList =
      some (.inline thread.toList message.toList location.place) := by
  have inline : readInline? (legacy thread location message).header.toList =
      some (thread.toList, message.toList, location.place) := by
    have named := @readThread?_named thread.toList "' panicked at '".toList
      (placed.thread thread rfl).2 rfl (message.toList ++ "', ".toList ++ location.display.toList)
    have place := Location.readPlace?_display placed.file.2 closes_isBlankText
    rw [List.append_nil] at place
    have said := readMessage?_append (mt Location.infix_of_infix_display alone) place
      message.toList
    rw [toList_header_legacy]
    simp only [readInline?, named, said, Option.bind_eq_bind, Option.bind_some]
    rfl
  simp only [Header.ofLine?, leftmost?_readGuest? noGuest, Text.leftmost?_of_eq_some inline]

theorem ofLine?_guest (trimmed : Text.trimEnd message.toList = message.toList)
    (noHeader : Text.leftmost? readAhead? message.toList = none) :
    Header.ofLine? (guest message).header.toList = some (.bare message.toList) := by
  have said : readGuest? (guest message).header.toList = some message.toList := by
    have words : Text.after? "Guest panicked: ".toList (guest message).header.toList =
        some message.toList := Text.after?_eq_some.mpr (by simp [header])
    rw [readGuest?, words, Option.map_some, trimmed]
  simp only [Header.ofLine?, Text.leftmost?_of_eq_some said, noHeader]

theorem isSome_ofLine? {report : PanicReport} (readable : report.Readable) :
    (Header.ofLine? report.header.toList).isSome = true := by
  cases report with
  | current thread location message =>
    obtain ⟨placed, noGuest, -⟩ := readable
    rw [ofLine?_current placed noGuest, Option.isSome_some]
  | legacy thread location message =>
    obtain ⟨placed, noGuest, -, alone⟩ := readable
    rw [ofLine?_legacy placed noGuest alone, Option.isSome_some]
  | guest message =>
    obtain ⟨-, -, trimmed, noHeader⟩ := readable
    rw [ofLine?_guest trimmed noHeader, Option.isSome_some]

/-! ## Lines -/

theorem head?_header (report : PanicReport) :
    ∀ c ∈ report.header.toList.head?, Text.isBlank c = false := by
  cases report with
  | current thread location message => cases thread <;> simp [header, opening, Text.isBlank]
  | legacy thread location message => simp [header, Text.isBlank]
  | guest message => simp [header, Text.isBlank]

theorem getLast?_header {report : PanicReport} (readable : report.Readable) :
    ∀ c ∈ report.header.toList.getLast?, Text.isBlank c = false := by
  cases report with
  | current thread location message =>
    rw [toList_header_current, ← List.append_assoc, List.getLast?_concat]
    rintro c ⟨⟩
    decide
  | legacy thread location message =>
    have numeral := isNumeral_word location.column
    obtain ⟨c, last⟩ := Option.ne_none_iff_exists'.mp (mt List.getLast?_eq_none_iff.mp numeral.1)
    have digit := numeral.2 c (List.mem_of_getLast? last)
    have text := location.toList_display []
    rw [List.append_nil] at text
    simp [header, text, coordinates, Location.place, List.getLast?_append, List.getLast?_cons,
      last, Text.isBlank_of_isDecimalDigit digit]
  | guest message =>
    obtain ⟨nonempty, -, trimmed, -⟩ := readable
    have front : (guest message).header.toList = "Guest panicked: ".toList ++ message.toList := by
      simp [header]
    rw [front, List.getLast?_append_of_ne_nil _ (mt String.toList_eq_nil_iff.mp nonempty)]
    exact Text.trimEnd_eq_self.mp trimmed

theorem trim_header {report : PanicReport} (readable : report.Readable) :
    Text.trim report.header.toList = report.header.toList :=
  Text.trim_eq_self report.head?_header (getLast?_header readable)

theorem not_mem_display {location : Location} (plain : '\n' ∉ location.file.toList) :
    '\n' ∉ location.display.toList := by
  have text := location.toList_display []
  rw [List.append_nil] at text
  rw [text]
  simp only [coordinates, List.append_nil, List.mem_append, List.mem_cons, not_or]
  have word (word : UInt32) : '\n' ∉ (toString word).toList := fun member =>
    absurd (isDigit_of_mem_word member) (by decide)
  exact ⟨plain, by decide, word _, by decide, word _⟩

theorem not_mem_header {report : PanicReport} (readable : report.Readable) :
    '\n' ∉ report.header.toList := by
  cases report with
  | current thread location message =>
    obtain ⟨placed, -⟩ := readable
    have place := not_mem_display placed.file.1
    cases thread with
    | none => simp [header, opening, place]
    | some thread => simp [header, opening, place, (placed.thread thread rfl).1]
  | legacy thread location message =>
    obtain ⟨placed, -, plain, -⟩ := readable
    simp [header, not_mem_display placed.file.1, (placed.thread thread rfl).1, plain]
  | guest message =>
    obtain ⟨-, plain, -⟩ := readable
    simp [header, plain]

theorem isLine_of_mem {report : PanicReport} (readable : report.Readable) {line : String}
    (member : line ∈ report.lines) : Text.IsLine line.toList := by
  obtain rfl | member := List.mem_cons.mp member
  · exact Text.isLine_of_last (not_mem_header readable) (getLast?_header readable)
  · cases report with
    | current thread location message =>
      obtain ⟨-, -, plain, free⟩ := readable
      by_cases empty : message = ""
      · simp [details, empty] at member
      · obtain rfl : line = message := by simpa [details, empty] using member
        exact Text.isLine_of_last plain (Text.getLast?_of_trim (free empty).1)
    | legacy thread location message => cases member
    | guest message => cases member

/-! ## Messages on the next line -/

/-- A header is not taken for the message of the header in front of it. -/
theorem messageOf?_header {report : PanicReport} (readable : report.Readable) :
    messageOf? report.header.toList = none := by
  simp [messageOf?, trim_header readable, isSome_ofLine? readable]

theorem messageOf?_message (nonempty : message ≠ "")
    (trimmed : Text.trim message.toList = message.toList)
    (noNote : ¬ "note:".toList <+: message.toList)
    (noHeader : Header.ofLine? message.toList = none) :
    messageOf? message.toList = some message.toList := by
  have plain : Text.after? "note:".toList message.toList = none := by
    rw [Option.eq_none_iff_forall_ne_some]
    intro rest found
    exact noNote ⟨rest, (Text.after?_eq_some.mp found).symm⟩
  have filled : message.toList.isEmpty = false := by
    simpa using nonempty
  simp only [messageOf?, trimmed, plain, noHeader, filled]
  rfl

theorem panicOf_place (thread : Option String) (location : Location) (message : String) :
    panicOf (thread.map String.toList) location.place message.toList =
      ⟨message, some location, thread⟩ := by
  simp [panicOf, Location.ofPlace?_place, Function.comp_def]

theorem panicsOfLines_lines {reports : List PanicReport}
    (readable : ∀ report ∈ reports, report.Readable) :
    panicsOfLines ((reports.flatMap lines).map String.toList) = reports.map panic := by
  induction reports with
  | nil => rfl
  | cons report reports ih =>
    obtain ⟨first, others⟩ := List.forall_mem_cons.mp readable
    have rest := ih others
    rw [List.flatMap_cons, List.map_append, lines, List.map_cons, List.cons_append, List.map_cons]
    cases report with
    | current thread location message =>
      obtain ⟨placed, noGuest, -, free⟩ := first
      rw [panicsOfLines, ofLine?_current placed noGuest]
      by_cases empty : message = ""
      · -- the line behind the header, if there is one, is the next header
        have silent : (current thread location message).details = [] := if_pos empty
        have bare := panicOf_place thread location message
        rw [empty, String.toList_empty] at bare
        rw [silent, List.map_nil, List.nil_append, panic, empty, ← bare]
        cases reports with
        | nil => rfl
        | cons next reports =>
          have ahead := messageOf?_header (others next List.mem_cons_self)
          rw [List.flatMap_cons, List.map_append, lines, List.map_cons, List.cons_append] at rest ⊢
          simp only [ahead, rest]
      · obtain ⟨trimmed, noNote, noHeader⟩ := free empty
        have own := messageOf?_message empty trimmed noNote noHeader
        simp [details, empty, panic, own, panicOf_place, rest]
    | legacy thread location message =>
      obtain ⟨placed, noGuest, -, alone⟩ := first
      have whole := panicOf_place (some thread) location message
      rw [panicsOfLines, ofLine?_legacy placed noGuest alone]
      simp [details, panic, rest, ← whole]
    | guest message =>
      obtain ⟨-, -, trimmed, noHeader⟩ := first
      rw [panicsOfLines, ofLine?_guest trimmed noHeader]
      simp [details, panic, rest]

/-- Reports in any number and mixture of layouts are read back as what they report. -/
theorem panics_ofLines {reports : List PanicReport}
    (readable : ∀ report ∈ reports, report.Readable) :
    panics (Text.ofLines (reports.flatMap lines)) = reports.map panic := by
  have areLines : ∀ line ∈ reports.flatMap lines, Text.IsLine line.toList := by
    intro line member
    obtain ⟨report, reported, inside⟩ := List.mem_flatMap.mp member
    exact isLine_of_mem (readable report reported) inside
  rw [panics, Text.lines_ofLines areLines, panicsOfLines_lines readable]

/-- A message that is missing, a file with numbers in it, and messages that look like a place and
like the end of a message. -/
theorem panics_mixed_layouts :
    panics (Text.ofLines ["thread 'main' panicked at C:/a:1:2.rs:3:4:",
        "panicked at src/lib.rs:7:9:", "see lib.rs:5:6: off by 1",
        "thread 'w' panicked at 'got ', x.rs:1:2 here', y.rs:30:40", "Guest panicked: fault at 5:6"]) =
      [⟨"", some ⟨"C:/a:1:2.rs", 3, 4⟩, some "main"⟩,
        ⟨"see lib.rs:5:6: off by 1", some ⟨"src/lib.rs", 7, 9⟩, none⟩,
        ⟨"got ', x.rs:1:2 here", some ⟨"y.rs", 30, 40⟩, some "w"⟩,
        ⟨"fault at 5:6", none, none⟩] := by
  refine @panics_ofLines [current (some "main") ⟨"C:/a:1:2.rs", 3, 4⟩ "",
    current none ⟨"src/lib.rs", 7, 9⟩ "see lib.rs:5:6: off by 1",
    legacy "w" ⟨"y.rs", 30, 40⟩ "got ', x.rs:1:2 here", guest "fault at 5:6"] ?_
  simp only [List.forall_mem_cons, List.not_mem_nil, false_imp_iff, implies_true, and_true]
  refine ⟨⟨⟨by simp, by simp⟩, by decide +kernel, by simp, by simp⟩, ?_, ?_, ?_⟩
  · exact ⟨⟨by simp, by simp⟩, by decide +kernel, by simp, fun _ => by decide +kernel⟩
  · exact ⟨⟨by simp, by simp⟩, by decide +kernel, by simp, by decide +kernel⟩
  · exact ⟨by simp, by simp, by decide +kernel, by decide +kernel⟩

end PanicReport

end Metamorph
