import Metamorph.Proofs.Report.Attribution
import Metamorph.Report.Verdict

/-! # Panics of joined texts

Two texts with an empty line between them report the panics of the first and then those of the second.
A header at the end of the first text finds an empty line and not its message, and what stands in front
of the empty line is read as if it stood alone: a line feed more ends its last line, and a carriage
return that goes with it is a blank at the end of a line, where no layout looks. The output and the
errors of a run are joined in this way if the output ends in a line feed. -/

namespace Metamorph.Report

open Text (isDecimalDigit isBlank isBlankText)

/-! ## Carriage returns at the end of a line -/

variable {line input : List Char}

theorem after?_append_singleton {marker : List Char} {c : Char} (foreign : c ∉ marker) :
    Text.after? marker (input ++ [c]) = (Text.after? marker input).map (· ++ [c]) := by
  induction marker generalizing input with
  | nil => rfl
  | cons m marker ih =>
      rw [List.mem_cons, not_or] at foreign
      cases input with
      | nil => simp [Text.after?, Ne.symm foreign.1]
      | cons d input =>
          by_cases same : m = d
          · simp [Text.after?, same, ih foreign.2]
          · simp [Text.after?, same]

/-- A reader that a character at the end of its input makes no difference to. -/
def Overlooks {α : Type} (c : Char) (read : List Char → α) : Prop :=
  ∀ input, read (input ++ [c]) = read input

theorem Overlooks.leftmost? {α : Type} {c : Char} {read : List Char → Option α}
    (h : Overlooks c read) : Overlooks c (Text.leftmost? read) := by
  intro input
  induction input with
  | nil =>
      have alone : read [c] = read [] := h []
      simp only [List.nil_append, Text.leftmost?, alone]
      cases read [] <;> rfl
  | cons d input ih =>
      have same : read (d :: (input ++ [c])) = read (d :: input) := h (d :: input)
      rw [List.cons_append, Text.leftmost?, same, Text.leftmost?, ih]

theorem overlooks_isBlankText : Overlooks '\r' isBlankText := by
  intro input
  have blank : isBlank '\r' = true := by decide
  simp [isBlankText, blank]

theorem overlooks_endsInColon : Overlooks '\r' endsInColon := by
  intro input
  cases input with
  | nil => decide
  | cons c input =>
      by_cases colon : c = ':'
      · subst colon
        exact overlooks_isBlankText input
      · simp [endsInColon, colon]

theorem readNumber?_append_return : readNumber? (input ++ ['\r']) =
    (readNumber? input).map fun (digits, rest) => (digits, rest ++ ['\r']) := by
  cases input with
  | nil => decide
  | cons c input =>
      by_cases colon : c = ':'
      · subst colon
        have noDigit : isDecimalDigit '\r' = false := Text.isDecimalDigit_of_isBlank (by decide)
        obtain ⟨taken, dropped⟩ := Text.takeWhile_append_stop noDigit input []
        simp only [List.cons_append, readNumber?, taken, dropped]
        split <;> simp
      · simp [readNumber?, colon]

variable {ends : List Char → Bool}

theorem overlooks_readCoordinates? (closed : Overlooks '\r' ends) :
    Overlooks '\r' (readCoordinates? ends) := by
  intro input
  simp only [readCoordinates?, readNumber?_append_return, Option.bind_eq_bind, Option.bind_map,
    Function.comp_def, closed _]

theorem overlooks_readPlace? (closed : Overlooks '\r' ends) : Overlooks '\r' (readPlace? ends) := by
  intro input
  induction input with
  | nil =>
      have nothing : readCoordinates? ends [] = none := rfl
      simp [readPlace?, nothing]
  | cons c input ih =>
      rw [List.cons_append, readPlace?, readPlace?, overlooks_readCoordinates? closed input, ih]

/-- The name of a thread ends at an apostrophe, and without one there is no thread. -/
theorem readThread?_append_return {words : List Char} (nonempty : words ≠ []) (plain : '\r' ∉ words) :
    readThread? words (input ++ ['\r']) =
      (readThread? words input).map fun (name, rest) => (name, rest ++ ['\r']) := by
  have start : Text.after? "thread '".toList (input ++ ['\r']) = _ :=
    after?_append_singleton (by decide)
  rw [readThread?, readThread?, start]
  cases Text.after? "thread '".toList input with
  | none => rfl
  | some rest =>
      simp only [Option.map_some, Option.bind_eq_bind, Option.bind_some]
      cases quoted : rest.dropWhile (· ≠ '\'') with
      | nil =>
          have still : (rest ++ ['\r']).dropWhile (· ≠ '\'') = [] := by
            rw [List.dropWhile_append, quoted]
            rfl
          have nothing : Text.after? words [] = none := by
            cases words with
            | nil => contradiction
            | cons w words => rfl
          rw [still, nothing]
          rfl
      | cons c behind =>
          have dropped : (rest ++ ['\r']).dropWhile (· ≠ '\'') = c :: behind ++ ['\r'] := by
            rw [List.dropWhile_append, quoted]
            rfl
          -- the name is not all that is left
          have shorter : (rest.takeWhile (· ≠ '\'')).length ≠ rest.length := by
            have whole := congrArg List.length (@List.takeWhile_append_dropWhile _ (· ≠ '\'') rest)
            rw [quoted, List.length_append, List.length_cons] at whole
            omega
          rw [dropped, List.takeWhile_append, if_neg shorter, after?_append_singleton plain]
          cases Text.after? words (c :: behind) <;> rfl

theorem overlooks_readAhead? : Overlooks '\r' readAhead? := by
  intro input
  have place := overlooks_readPlace? overlooks_endsInColon
  have thread : readThread? "' panicked at ".toList (input ++ ['\r']) = _ :=
    readThread?_append_return (by decide) (by decide)
  have start : Text.after? "panicked at ".toList (input ++ ['\r']) = _ :=
    after?_append_singleton (by decide)
  rw [readAhead?, readAhead?, thread, start]
  cases readThread? "' panicked at ".toList input with
  | some found => simp only [Option.map_some, place _]
  | none =>
      simp only [Option.map_none, Option.bind_eq_bind, Option.bind_map, Function.comp_def, place _]

theorem overlooks_readMessage? : Overlooks '\r' readMessage? := by
  intro input
  have place := overlooks_readPlace? overlooks_isBlankText
  induction input with
  | nil => decide
  | cons c input ih =>
      have separator : Text.after? "', ".toList (c :: input ++ ['\r']) = _ :=
        after?_append_singleton (by decide)
      rw [List.cons_append] at separator
      rw [List.cons_append, readMessage?, readMessage?, ih, separator]
      simp only [Option.bind_eq_bind, Option.bind_map, Function.comp_def, place _]

theorem overlooks_readInline? : Overlooks '\r' readInline? := by
  intro input
  have thread : readThread? "' panicked at '".toList (input ++ ['\r']) = _ :=
    readThread?_append_return (by decide) (by decide)
  rw [readInline?, readInline?, thread]
  simp only [Option.bind_eq_bind, Option.bind_map, Function.comp_def, overlooks_readMessage? _]

theorem overlooks_readGuest? : Overlooks '\r' readGuest? := by
  intro input
  have start : Text.after? "Guest panicked: ".toList (input ++ ['\r']) = _ :=
    after?_append_singleton (by decide)
  have trimmed (rest : List Char) : Text.trimEnd (rest ++ ['\r']) = Text.trimEnd rest :=
    Text.trimEnd_append (by decide) rest
  rw [readGuest?, readGuest?, start, Option.map_map]
  simp only [Function.comp_def, trimmed]

/-- A carriage return at the end of a line changes nothing of its header. -/
theorem overlooks_ofLine? : Overlooks '\r' Header.ofLine? := by
  intro line
  rw [Header.ofLine?, Header.ofLine?, overlooks_readGuest?.leftmost? line,
    overlooks_readInline?.leftmost? line, overlooks_readAhead?.leftmost? line]

theorem overlooks_messageOf? : Overlooks '\r' messageOf? := by
  intro line
  rw [messageOf?, messageOf?, Text.trim_append (by decide)]

/-! ## Lines that are read alike -/

variable {lines lines' : List (List Char)}

/-- Lines that the reader does not tell apart, be it as headers or as messages. -/
def ReadAlike (line line' : List Char) : Prop :=
  Header.ofLine? line = Header.ofLine? line' ∧ messageOf? line = messageOf? line'

theorem saidNext_congr (alike : List.Forall₂ ReadAlike lines lines') :
    saidNext lines = saidNext lines' := by
  cases alike with
  | nil => rfl
  | cons first _ => exact first.2

theorem Header.behind_alike (alike : List.Forall₂ ReadAlike lines lines') (header : Header) :
    List.Forall₂ ReadAlike (header.behind lines) (header.behind lines') := by
  cases header with
  | inline | bare => exact alike
  | ahead thread place =>
      rw [behind, behind, saidNext_congr alike]
      split
      · cases alike with
        | nil => exact .nil
        | cons _ others => exact others
      · exact alike

theorem panicsOfLines_congr {lines lines' : List (List Char)}
    (alike : List.Forall₂ ReadAlike lines lines') : panicsOfLines lines = panicsOfLines lines' := by
  cases alike with
  | nil => rfl
  | @cons line line' rest rest' first others =>
      cases found : Header.ofLine? line with
      | none =>
          rw [panicsOfLines_of_none found, panicsOfLines_of_none (first.1 ▸ found),
            panicsOfLines_congr others]
      | some header =>
          have shorter := header.length_behind rest
          rw [panicsOfLines_of_some found, panicsOfLines_of_some (first.1 ▸ found),
            saidNext_congr others, panicsOfLines_congr (header.behind_alike others)]
termination_by lines.length

/-! ## An empty line -/

theorem messageOf?_nil : messageOf? [] = none := by decide

theorem saidNext_append (front back : List (List Char)) :
    saidNext (front ++ [] :: back) = saidNext front := by
  cases front with
  | nil => exact messageOf?_nil
  | cons line front => rfl

theorem Header.behind_append (header : Header) (front back : List (List Char)) :
    header.behind (front ++ [] :: back) = header.behind front ++ [] :: back := by
  cases header with
  | inline | bare => rfl
  | ahead thread place =>
      rw [behind, behind, saidNext_append]
      cases front with
      | nil => rfl
      | cons line front => split <;> rfl

/-- Nothing is read across an empty line. -/
theorem panicsOfLines_append (front back : List (List Char)) :
    panicsOfLines (front ++ [] :: back) = panicsOfLines front ++ panicsOfLines back := by
  match front with
  | [] => exact panicsOfLines_of_none (by decide)
  | line :: front =>
      rw [List.cons_append]
      cases found : Header.ofLine? line with
      | none =>
          rw [panicsOfLines_of_none found, panicsOfLines_of_none found, panicsOfLines_append front]
      | some header =>
          have shorter := header.length_behind front
          rw [panicsOfLines_of_some found, panicsOfLines_of_some found, saidNext_append,
            header.behind_append, panicsOfLines_append (header.behind front), List.cons_append]
termination_by front.length

/-! ## Texts -/

theorem readAlike_return (line : List Char) : ReadAlike (line ++ ['\r']) line :=
  ⟨overlooks_ofLine? line, overlooks_messageOf? line⟩

/-- A line feed more at the end of a text adds no panic and takes none away. -/
theorem panicsOfLines_newline (text : List Char) :
    panicsOfLines (Text.lines (text ++ ['\n'])) = panicsOfLines (Text.lines text) := by
  rcases Text.lines_concat_newline text with same | more | ⟨front, line, split, short⟩
  · rw [same]
  · rw [more, panicsOfLines_append]
    exact List.append_nil _
  · rw [split, short, eq_comm]
    have unchanged : List.Forall₂ ReadAlike front front :=
      List.forall₂_same.mpr fun _ _ => ⟨rfl, rfl⟩
    exact panicsOfLines_congr (List.rel_append unchanged (.cons (readAlike_return line) .nil))

theorem panics_append (a b : String) : panics (a ++ "\n\n" ++ b) = panics a ++ panics b := by
  have parts : (a ++ "\n\n" ++ b).toList = a.toList ++ '\n' :: ('\n' :: b.toList) := by simp
  have second : Text.lines ('\n' :: b.toList) = [] :: Text.lines b.toList := by rw [Text.lines]
  rw [panics, parts, Text.lines_append_newline, second, panicsOfLines_append, panicsOfLines_newline]
  rfl

theorem panicsOfLines_eq_nil (noHeader : ∀ line ∈ lines, Header.ofLine? line = none) :
    panicsOfLines lines = [] := by
  induction lines with
  | nil => rfl
  | cons line rest ih =>
      obtain ⟨first, others⟩ := List.forall_mem_cons.mp noHeader
      rw [panicsOfLines_of_none first, ih others]

/-- Blanks report nothing. -/
theorem panics_of_isBlankText {text : String} (blank : isBlankText text.toList = true) :
    panics text = [] := by
  apply panicsOfLines_eq_nil
  intro line isLine
  have blankLine : isBlankText line = true := List.all_eq_true.mpr fun c member =>
    List.all_eq_true.mp blank c (Text.mem_of_mem_lines isLine member)
  have nothing : Text.trim line = [] := Text.trim_append blankLine []
  rw [← Option.not_isSome_iff_eq_none, isSome_ofLine?]
  exact fun header => header.trim_ne_nil nothing

theorem panics_joinStreams {stdout : String} (stderr : String)
    (closed : isBlankText stdout.toList = true ∨ ['\n'] <:+ stdout.toList) :
    panics (joinStreams stdout stderr) = panics stdout ++ panics stderr := by
  unfold joinStreams
  split
  · rename_i blank
    rw [panics_of_isBlankText blank, List.append_nil]
  · split
    · rename_i blank
      rw [panics_of_isBlankText blank, List.nil_append]
    · rename_i filled
      obtain ⟨front, ends⟩ := closed.resolve_left filled
      obtain rfl : stdout = String.ofList front ++ "\n" := by
        rw [← String.toList_inj, ← ends]
        simp
      have joined : String.ofList front ++ "\n" ++ "\n" ++ stderr =
          String.ofList front ++ "\n\n" ++ stderr := by
        simp [← String.toList_inj]
      have once : panics (String.ofList front ++ "\n") = panics (String.ofList front) := by
        simpa [panics] using panicsOfLines_newline front
      rw [joined, panics_append, once]

/-- A run that failed has the panics of its output and then those of its errors, if the output is blank
or ends in a line feed. So have any two texts with an empty line between them. -/
theorem failure_panics (expected : UInt32) (stdout stderr : String) :
    (isBlankText stdout.toList = true ∨ ['\n'] <:+ stdout.toList →
      (Observation.exited false stdout stderr).outcome expected =
        .crashed (panics stdout ++ panics stderr) (joinStreams stdout stderr)) ∧
    ∀ a b : String, panics (a ++ "\n\n" ++ b) = panics a ++ panics b := by
  refine ⟨fun closed => ?_, panics_append⟩
  rw [← panics_joinStreams stderr closed]
  rfl

/-- An output that ends in a header, and errors whose first line is not its message. -/
theorem failure_panics_header_last :
    let stdout := "thread 'a' panicked at a.rs:1:1:\r\n"
    let stderr := "boom\nGuest panicked: late\r\n"
    ['\n'] <:+ stdout.toList ∧
      panics stdout = [⟨"", some ⟨"a.rs", 1, 1⟩, some "a"⟩] ∧
      panics stderr = [⟨"late", none, none⟩] ∧
      (Observation.exited false stdout stderr).outcome 0 =
        .crashed (panics stdout ++ panics stderr) (joinStreams stdout stderr) := by
  have ends : ['\n'] <:+ "thread 'a' panicked at a.rs:1:1:\r\n".toList := by decide
  exact ⟨ends, by decide, by decide, (failure_panics 0 _ _).1 (.inr ends)⟩

end Metamorph.Report
