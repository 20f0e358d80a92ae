import Metamorph.Proofs.Report.Layouts

/-! # Which lines get a record

Every line with a header has one record, in order of appearance, and no other line has any. There is
one exception: behind a header that waits for its message, a header that is none without the blanks
around it is taken for that message. It is the header of a guest without a message. -/

namespace Metamorph.Report

open Text (isBlankText)

/-- The panic of a header, given the message that the next line holds for it. -/
def Header.panic (said : Option (List Char)) : Header → Panic
  | .ahead thread place => panicOf thread place (said.getD [])
  | .inline thread message place => panicOf (some thread) place message
  | .bare message => ⟨String.ofList message, none, none⟩

/-- The line of a header whose message is on the next line. -/
def AwaitsMessage (line : List Char) : Prop :=
  ∃ thread place, Header.ofLine? line = some (.ahead thread place)

/-- The header that is taken for the message of the header in front of it. -/
structure IsLost (before : Option (List Char)) (line : List Char) : Prop where
  awaited : ∃ header ∈ before, AwaitsMessage header
  header : IsHeader line
  trimmed : ¬ IsHeader (Text.trim line)
  noNote : ¬ "note:".toList <+: Text.trim line

/-- The line in front of one of the lines. -/
def lineBefore (before : Option (List Char)) (lines : List (List Char)) : Nat → Option (List Char)
  | 0 => before
  | i + 1 => lines[i]?

/-- The records are those of the headers among the lines, from the first to the last, without the lost
ones. Each has what its line says and, if it waits for a message, what the next line holds. -/
structure Reports (before : Option (List Char)) (lines : List (List Char)) (places : List Nat)
    (records : List Panic) : Prop where
  ordered : places.Pairwise (· < ·)
  complete : ∀ i, i ∈ places ↔
    ∃ line, lines[i]? = some line ∧ IsHeader line ∧ ¬ IsLost (lineBefore before lines i) line
  told : List.Forall₂ (fun i record => ∃ line header, lines[i]? = some line ∧
    Header.ofLine? line = some header ∧
    record = header.panic (lines[i + 1]?.bind messageOf?)) places records

variable {before : Option (List Char)} {line next message : List Char} {rest : List (List Char)}
  {places : List Nat} {records : List Panic} {header : Header}

/-! ## The line behind a header -/

theorem IsHeader.trim_ne_nil (header : IsHeader line) : Text.trim line ≠ [] := by
  intro nothing
  have blank := List.all_eq_true.mp (Text.isBlankText_of_trim nothing) 'p'
  have member : 'p' ∈ line := by
    cases header <;> simp
  exact absurd (blank member) (by decide)

theorem messageOf?_eq_none : messageOf? line = none ↔
    Text.trim line = [] ∨ "note:".toList <+: Text.trim line ∨ IsHeader (Text.trim line) := by
  have note : (Text.after? "note:".toList (Text.trim line)).isSome = true ↔
      "note:".toList <+: Text.trim line := by
    simp only [Option.isSome_iff_exists, Text.after?_eq_some, List.IsPrefix,
      eq_comm (a := Text.trim line)]
  rw [← isSome_ofLine?, ← note, messageOf?]
  simp only [ite_eq_left_iff, reduceCtorEq, imp_false, not_not, Bool.or_eq_true, List.isEmpty_iff,
    or_assoc]

/-- The next line is a header that is not lost, if it holds no message. -/
theorem not_isLost_of_messageOf? (none : messageOf? next = none) : ¬ IsLost before next := by
  intro lost
  rcases messageOf?_eq_none.mp none with nothing | note | header
  · exact lost.header.trim_ne_nil nothing
  · exact lost.noNote note
  · exact lost.trimmed header

theorem not_isLost_of_not_awaits (settled : ¬ AwaitsMessage line) : ¬ IsLost (some line) next := by
  rintro ⟨⟨_, ⟨⟩, awaits⟩, -, -, -⟩
  exact settled awaits

/-- A line that holds a message is no header or a lost one. -/
theorem isLost_of_messageOf? (awaits : AwaitsMessage line)
    (holds : messageOf? next = some message) (header : IsHeader next) :
    IsLost (some line) next := by
  have kept := mt messageOf?_eq_none.mpr (Option.ne_none_iff_exists'.mpr ⟨message, holds⟩)
  rw [not_or, not_or] at kept
  exact ⟨⟨line, rfl, awaits⟩, header, kept.2.2, kept.2.1⟩

/-- What is taken for a message waits for none itself. -/
theorem not_awaits_of_messageOf? (holds : messageOf? next = some message) :
    ¬ AwaitsMessage next := by
  rintro ⟨thread, place, ahead⟩
  have header : IsHeader next := isSome_ofLine?.mp (Option.isSome_iff_exists.mpr ⟨_, ahead⟩)
  have trimmed : ¬ IsHeader (Text.trim next) := fun kept => by
    rw [messageOf?_eq_none.mpr (.inr (.inr kept))] at holds
    cases holds
  rw [ofLine?_of_not_trim header trimmed] at ahead
  cases ahead

/-! ## One header after the other -/

/-- What the line behind a header holds for it. -/
def saidNext (rest : List (List Char)) : Option (List Char) :=
  rest.head?.bind messageOf?

/-- The lines that are left when a header and its message are read. -/
def Header.behind (rest : List (List Char)) : Header → List (List Char)
  | .ahead _ _ => if (saidNext rest).isSome then rest.tail else rest
  | _ => rest

theorem Header.length_behind (header : Header) (rest : List (List Char)) :
    (header.behind rest).length ≤ rest.length := by
  cases header with
  | ahead thread place =>
      rw [behind]
      split <;> simp
  | inline | bare => exact le_rfl

theorem panicsOfLines_of_none (found : Header.ofLine? line = none) :
    panicsOfLines (line :: rest) = panicsOfLines rest := by
  rw [panicsOfLines, found]

theorem panicsOfLines_of_some (found : Header.ofLine? line = some header) :
    panicsOfLines (line :: rest) =
      header.panic (saidNext rest) :: panicsOfLines (header.behind rest) := by
  rw [panicsOfLines, found]
  cases header with
  | ahead thread place =>
      cases rest with
      | nil => rfl
      | cons next rest =>
          cases holds : messageOf? next <;> simp [Header.behind, saidNext, Header.panic, holds]
  | inline | bare => rfl

/-! ## One line more -/

/-- Behind a line in front, the places are one further. -/
theorem Reports.mem_succ_iff (reports : Reports (some line) rest places records) (i : Nat) :
    i + 1 ∈ places.map (· + 1) ↔ ∃ found, (line :: rest)[i + 1]? = some found ∧ IsHeader found ∧
      ¬ IsLost (lineBefore before (line :: rest) (i + 1)) found := by
  have same : lineBefore before (line :: rest) (i + 1) = lineBefore (some line) rest i := by
    cases i <;> rfl
  simp only [List.mem_map, Nat.add_right_cancel_iff, exists_eq_right, List.getElem?_cons_succ, same]
  exact reports.complete i

theorem Reports.told_cons (reports : Reports (some line) rest places records) :
    List.Forall₂ (fun i record => ∃ found header, (line :: rest)[i]? = some found ∧
      Header.ofLine? found = some header ∧
      record = header.panic ((line :: rest)[i + 1]?.bind messageOf?))
      (places.map (· + 1)) records :=
  List.forall₂_map_left_iff.mpr reports.told

/-- A line without a record. -/
theorem Reports.cons_plain (reports : Reports (some line) rest places records)
    (plain : IsHeader line → IsLost before line) :
    Reports before (line :: rest) (places.map (· + 1)) records where
  ordered := List.pairwise_map.mpr (reports.ordered.imp Nat.succ_lt_succ)
  complete
    | 0 => by simpa [lineBefore] using plain
    | i + 1 => reports.mem_succ_iff i
  told := reports.told_cons

/-- A line with a record. -/
theorem Reports.cons_header (reports : Reports (some line) rest places records)
    (found : Header.ofLine? line = some header) (kept : ¬ IsLost before line) :
    Reports before (line :: rest) (0 :: places.map (· + 1))
      (header.panic (rest.head?.bind messageOf?) :: records) where
  ordered := List.pairwise_cons.mpr ⟨by simp, List.pairwise_map.mpr
    (reports.ordered.imp Nat.succ_lt_succ)⟩
  complete
    | 0 => by
        have isHeader := isSome_ofLine?.mp (Option.isSome_iff_exists.mpr ⟨header, found⟩)
        simp [lineBefore, isHeader, kept]
    | i + 1 => by
        rw [← reports.mem_succ_iff i]
        simp
  told := .cons ⟨line, header, rfl, found, by simp [List.head?_eq_getElem?]⟩ reports.told_cons

/-! ## All lines -/

/-- Reading line after line gives these records, if the first line is not the message of a header in
front of it. -/
theorem exists_reports (before : Option (List Char)) (lines : List (List Char))
    (first : ∀ line ∈ lines.head?, ¬ IsLost before line) :
    ∃ places, Reports before lines places (panicsOfLines lines) := by
  match lines with
  | [] => exact ⟨[], .nil, by simp, .nil⟩
  | line :: rest =>
      have kept := first line rfl
      -- whatever comes behind a line that waits for no message
      have settled (calm : ¬ AwaitsMessage line) :
          ∃ places, Reports (some line) rest places (panicsOfLines rest) :=
        exists_reports (some line) rest fun next _ => not_isLost_of_not_awaits calm
      cases found : Header.ofLine? line with
      | none =>
          have plain : ¬ IsHeader line := by simp [← isSome_ofLine?, found]
          obtain ⟨places, reports⟩ := settled (by simp [AwaitsMessage, found])
          rw [panicsOfLines_of_none found]
          exact ⟨_, reports.cons_plain fun header => absurd header plain⟩
      | some header =>
          have behind : ∃ places,
              Reports (some line) rest places (panicsOfLines (header.behind rest)) := by
            cases header with
            | inline | bare => exact settled (by simp [AwaitsMessage, found])
            | ahead thread place =>
                cases rest with
                | nil => exact ⟨[], .nil, by simp, .nil⟩
                | cons next rest =>
                    have said : saidNext (next :: rest) = messageOf? next := rfl
                    rw [Header.behind, said]
                    cases holds : messageOf? next with
                    | none =>
                        exact exists_reports (some line) (next :: rest) fun _ same =>
                          Option.some.inj same ▸ not_isLost_of_messageOf? holds
                    | some message =>
                        obtain ⟨places, reports⟩ := exists_reports (some next) rest fun _ _ =>
                          not_isLost_of_not_awaits (not_awaits_of_messageOf? holds)
                        have awaits : AwaitsMessage line := ⟨thread, place, found⟩
                        exact ⟨_, reports.cons_plain (isLost_of_messageOf? awaits holds)⟩
          obtain ⟨places, reports⟩ := behind
          rw [panicsOfLines_of_some found]
          exact ⟨_, reports.cons_header found kept⟩
termination_by lines.length

/-- The records of a text are one for each of its headers in order of appearance, but for those that
are taken for the message of the header in front of them. Only the words of a guest with nothing but
blanks behind them are lost in this way. -/
theorem panics_attributed (text : String) :
    (∃ places, Reports none (Text.lines text.toList) places (panics text)) ∧
      ∀ before line, IsLost before line → ∃ front blanks, isBlankText blanks = true ∧
        line = front ++ ("Guest panicked: ".toList ++ blanks) := by
  constructor
  · refine exists_reports none _ fun line _ lost => ?_
    obtain ⟨_, ⟨⟩, -⟩ := lost.awaited
  · intro before line lost
    exact lost.header.trim.resolve_left lost.trimmed

/-- A guest's words without a message are lost behind a header that waits for its message. -/
theorem panics_attributed_wordless :
    IsLost (some "panicked at a:1:1:".toList) "Guest panicked: ".toList ∧
      ∃ front blanks, isBlankText blanks = true ∧
        "Guest panicked: ".toList = front ++ ("Guest panicked: ".toList ++ blanks) := by
  have lost : IsLost (some "panicked at a:1:1:".toList) "Guest panicked: ".toList :=
    { awaited := ⟨_, rfl, none, ⟨['a'], ['1'], ['1']⟩, by decide⟩
      header := isSome_ofLine?.mp (by decide)
      trimmed := by
        rw [← isSome_ofLine?]
        decide
      noNote := by decide }
  exact ⟨lost, (panics_attributed "panicked at a:1:1:\nGuest panicked: \n").2 _ _ lost⟩

/-- A text with two lines, both of them headers, and one record: the second header is taken for the
message of the first. -/
theorem panics_header_lost :
    let text := "panicked at a:1:1:\nGuest panicked: \n"
    Text.lines text.toList = ["panicked at a:1:1:".toList, "Guest panicked: ".toList] ∧
      (∀ line ∈ Text.lines text.toList, IsHeader line) ∧
      panics text = [⟨"Guest panicked:", some ⟨"a", 1, 1⟩, none⟩] := by
  refine ⟨by decide, fun line member => isSome_ofLine?.mp ?_, by decide⟩
  revert line
  decide

end Metamorph.Report
