import Mathlib
import Metamorph.Text.Basic

/-! # Runs of characters, lines and blanks

A run of characters of a kind ends where the first one of another kind stands. A text that is made of
lines has these lines again, if none of them holds a line feed or ends in a carriage return, which the
line feed behind it would take along. Trimming leaves what begins and ends with characters that are not
blank. -/

namespace Metamorph.Text

/-! ## Runs of characters -/

/-- A run of characters of a kind goes as far as what comes behind it is not of that kind. -/
theorem takeWhile_run {p : Char → Bool} {run rest : List Char} (all : ∀ c ∈ run, p c = true)
    (stops : ∀ c ∈ rest.head?, p c = false) :
    (run ++ rest).takeWhile p = run ∧ (run ++ rest).dropWhile p = rest := by
  rw [List.takeWhile_append_of_pos all, List.dropWhile_append_of_pos all]
  cases rest with
  | nil => simp
  | cons c rest => simp [stops c rfl]

/-- A maximal run ends at a character that is not of its kind. -/
theorem takeWhile_append_stop {p : Char → Bool} {c : Char} (stop : p c = false)
    (front rest : List Char) : (front ++ c :: rest).takeWhile p = front.takeWhile p ∧
      (front ++ c :: rest).dropWhile p = front.dropWhile p ++ c :: rest := by
  induction front with
  | nil => simp [stop]
  | cons d front ih =>
      rw [List.cons_append, List.takeWhile_cons, List.takeWhile_cons, List.dropWhile_cons,
        List.dropWhile_cons, ih.1, ih.2]
      cases p d <;> simp

/-! ## Digits -/

theorem digitsValue_eq (digits : List Char) :
    digitsValue digits = Nat.ofDigitChars 10 digits 0 := by
  rw [digitsValue, Nat.ofDigitChars]
  congr 1
  funext n c
  rw [digitValue, Nat.mul_comm]

/-! ## Lines -/

-- The equations of `lines` are derived here, ahead of the proofs that open it.
attribute [local grind =] lines

/-- A line that stays one line when it is written. -/
def IsLine (line : List Char) : Prop :=
  '\n' ∉ line ∧ line.getLast? ≠ some '\r'

/-- A character goes to the first line unless it is an end of line. -/
theorem lines_cons {c : Char} {rest : List Char} (inside : c ≠ '\n')
    (kept : c = '\r' → rest.head? ≠ some '\n') : lines (c :: rest) = consToFirst c (lines rest) := by
  rw [lines]
  · rintro rfl
    contradiction
  · rintro next rfl rfl
    exact kept rfl rfl

/-- The first line of a text is cut off at its line feed. -/
theorem lines_append {line : List Char} (isLine : IsLine line) (rest : List Char) :
    lines (line ++ '\n' :: rest) = line :: lines rest := by
  induction line with
  | nil => rfl
  | cons c line ih =>
    obtain ⟨noFeed, noReturn⟩ := isLine
    rw [List.mem_cons, not_or] at noFeed
    have inside : c ≠ '\n' := fun same => noFeed.1 same.symm
    cases line with
    | nil =>
      have plain : c ≠ '\r' := by simpa using noReturn
      rw [List.singleton_append, lines_cons inside fun same => absurd same plain]
      rfl
    | cons d line =>
      have later : d ≠ '\n' := fun same => noFeed.2 (same ▸ List.mem_cons_self)
      rw [List.cons_append, lines_cons inside fun _ => by simpa using later,
        ih ⟨noFeed.2, by simpa using noReturn⟩]
      rfl

theorem consToFirst_append {c : Char} {front : List (List Char)} (nonempty : front ≠ [])
    (back : List (List Char)) : consToFirst c (front ++ back) = consToFirst c front ++ back := by
  obtain ⟨line, front, rfl⟩ := List.exists_cons_of_ne_nil nonempty
  rfl

theorem lines_ne_nil {text : List Char} (nonempty : text ≠ []) : lines text ≠ [] := by
  fun_cases lines text with
  | case1 => contradiction
  | case2 => simp
  | case3 => simp
  | case4 c rest => cases lines rest <;> simp [consToFirst]

/-- Nothing behind a line feed belongs to a line in front of it. -/
theorem lines_append_newline (front rest : List Char) :
    lines (front ++ '\n' :: rest) = lines (front ++ ['\n']) ++ lines rest := by
  fun_induction lines front with
  | case1 => rfl
  | case2 front ih => simp only [List.cons_append, lines, ih]
  | case3 front ih => simp only [List.cons_append, lines, ih]
  | case4 c front inside other ih =>
    by_cases taken : c = '\r' ∧ front = []
    · obtain ⟨rfl, rfl⟩ := taken
      rfl
    · have kept (behind : List Char) : c = '\r' → (front ++ '\n' :: behind).head? ≠ some '\n' := by
        intro isReturn first
        obtain ⟨d, front, rfl⟩ := List.exists_cons_of_ne_nil fun empty => taken ⟨isReturn, empty⟩
        obtain rfl : d = '\n' := by simpa using first
        exact other front isReturn rfl
      have isCode : c ≠ '\n' := fun same => inside same
      rw [List.cons_append, List.cons_append, lines_cons isCode (kept rest),
        lines_cons isCode (kept []), ih, consToFirst_append (lines_ne_nil (by simp))]

/-- A text without a line feed is one line. -/
theorem lines_of_noNewline {line : List Char} (nonempty : line ≠ []) (plain : '\n' ∉ line) :
    lines line = [line] := by
  induction line with
  | nil => contradiction
  | cons c line ih =>
    rw [List.mem_cons, not_or] at plain
    have inside : c ≠ '\n' := fun same => plain.1 same.symm
    have kept : c = '\r' → line.head? ≠ some '\n' := fun _ first =>
      plain.2 (List.mem_of_mem_head? first)
    rw [lines_cons inside kept]
    cases line with
    | nil => rfl
    | cons d line => rw [ih (by simp) plain.2, consToFirst]

/-- The line feed at the end of a line takes one carriage return along. -/
theorem lines_return {line : List Char} (plain : '\n' ∉ line) :
    lines (line ++ ['\r'] ++ ['\n']) = [line] := by
  induction line with
  | nil => rfl
  | cons c line ih =>
    rw [List.mem_cons, not_or] at plain
    have inside : c ≠ '\n' := fun same => plain.1 same.symm
    have kept : c = '\r' → (line ++ ['\r'] ++ ['\n']).head? ≠ some '\n' := by
      intro _ first
      cases line with
      | nil => cases first
      | cons d line =>
        obtain rfl : d = '\n' := by simpa using first
        exact plain.2 List.mem_cons_self
    rw [List.cons_append, List.cons_append, lines_cons inside kept, ih plain.2, consToFirst]

/-- A text is what its last line feed ends, and a text without any behind it. -/
theorem exists_last_line (text : List Char) : ∃ front last, text = front ++ last ∧
    '\n' ∉ last ∧ ∀ rest, lines (front ++ rest) = lines front ++ lines rest := by
  induction text using List.reverseRecOn with
  | nil => exact ⟨[], [], rfl, by simp, fun rest => rfl⟩
  | append_singleton text c ih =>
    by_cases newline : c = '\n'
    · subst newline
      refine ⟨text ++ ['\n'], [], by simp, by simp, fun rest => ?_⟩
      rw [List.append_assoc, List.singleton_append, lines_append_newline]
    · obtain ⟨front, last, rfl, plain, parts⟩ := ih
      exact ⟨front, last ++ [c], by simp, by simp [plain, Ne.symm newline], parts⟩

/-- A line feed more at the end changes no line, adds an empty one, or takes along the carriage return
that the last line ends in. -/
theorem lines_concat_newline (text : List Char) :
    lines (text ++ ['\n']) = lines text ∨ lines (text ++ ['\n']) = lines text ++ [[]] ∨
      ∃ front line, lines text = front ++ [line ++ ['\r']] ∧
        lines (text ++ ['\n']) = front ++ [line] := by
  obtain ⟨front, last, rfl, plain, parts⟩ := exists_last_line text
  rw [List.append_assoc, parts, parts]
  rcases List.eq_nil_or_concat' last with rfl | ⟨line, c, rfl⟩
  · exact .inr (.inl (by simp [lines]))
  · by_cases isReturn : c = '\r'
    · subst isReturn
      have taken := @lines_return line (by simpa using plain)
      exact .inr (.inr ⟨lines front, line, by rw [lines_of_noNewline (by simp) plain], by rw [taken]⟩)
    · have isLine : IsLine (line ++ [c]) := ⟨plain, by simpa using isReturn⟩
      left
      rw [lines_append isLine, lines_of_noNewline (by simp) plain]
      rfl

/-- The lines of a text hold nothing that the text does not hold. -/
theorem mem_of_mem_lines {text line : List Char} {c : Char} (isLine : line ∈ lines text)
    (member : c ∈ line) : c ∈ text := by
  fun_induction lines text generalizing line with
  | case1 => cases isLine
  | case2 rest ih =>
    rcases List.mem_cons.mp isLine with rfl | later
    · cases member
    · exact List.mem_cons_of_mem _ (ih later member)
  | case3 rest ih =>
    rcases List.mem_cons.mp isLine with rfl | later
    · cases member
    · exact List.mem_cons_of_mem _ (List.mem_cons_of_mem _ (ih later member))
  | case4 d rest _ _ ih =>
    cases found : lines rest with
    | nil =>
      obtain rfl : line = [d] := by simpa [found, consToFirst] using isLine
      exact List.mem_cons.mpr (.inl (List.mem_singleton.mp member))
    | cons first others =>
      rw [found, consToFirst] at isLine
      rcases List.mem_cons.mp isLine with rfl | later
      · rcases List.mem_cons.mp member with rfl | inside
        · exact List.mem_cons_self
        · exact List.mem_cons_of_mem _ (ih (found ▸ List.mem_cons_self) inside)
      · exact List.mem_cons_of_mem _ (ih (found ▸ List.mem_cons_of_mem _ later) member)

theorem ofLines_singleton (line : String) : ofLines [line] = line ++ "\n" := by
  simp [ofLines]

theorem ofLines_append (front back : List String) :
    ofLines (front ++ back) = ofLines front ++ ofLines back := by
  simp [ofLines]

theorem toList_ofLines (texts : List String) :
    (ofLines texts).toList = texts.flatMap fun text => text.toList ++ ['\n'] := by
  simp [ofLines, List.flatMap_map]

theorem lines_ofLines {texts : List String} (areLines : ∀ text ∈ texts, IsLine text.toList) :
    lines (ofLines texts).toList = texts.map String.toList := by
  rw [toList_ofLines]
  induction texts with
  | nil => rfl
  | cons text texts ih =>
    obtain ⟨first, others⟩ := List.forall_mem_cons.mp areLines
    rw [List.flatMap_cons, List.append_assoc, List.singleton_append, lines_append first,
      ih others, List.map_cons]

/-! ## Blanks -/

/-- The codes of the characters that are blank. -/
def blankCodes : List Nat :=
  [9, 10, 11, 12, 13, 0x20, 0x85, 0xA0, 0x1680, 0x2000, 0x2001, 0x2002, 0x2003, 0x2004, 0x2005,
    0x2006, 0x2007, 0x2008, 0x2009, 0x200A, 0x2028, 0x2029, 0x202F, 0x205F, 0x3000]

theorem mem_blankCodes {c : Char} (blank : isBlank c = true) : c.toNat ∈ blankCodes := by
  simp only [isBlank, Bool.or_eq_true, Bool.and_eq_true, decide_eq_true_eq, beq_iff_eq] at blank
  simp only [blankCodes, List.mem_cons, List.not_mem_nil, or_false]
  omega

/-- No script has a digit that is blank. -/
theorem isDecimalDigit_of_isBlank {c : Char} (blank : isBlank c = true) :
    isDecimalDigit c = false := by
  have apart : ∀ code ∈ blankCodes, (digitZeros.any fun first =>
      first ≤ code && code < first + 10) = false ∧ ¬ (48 ≤ code ∧ code ≤ 57) := by decide
  obtain ⟨noScript, noAscii⟩ := apart c.toNat (mem_blankCodes blank)
  rw [isDecimalDigit, noScript, Bool.or_false, Bool.eq_false_iff]
  exact fun digit => noAscii (Char.isDigit_iff_toNat.mp digit)

theorem isBlank_of_isDecimalDigit {c : Char} (digit : isDecimalDigit c = true) :
    isBlank c = false := by
  rw [Bool.eq_false_iff]
  intro blank
  simp [isDecimalDigit_of_isBlank blank] at digit

/-! ## The end of a text -/

theorem trimEnd_eq_rdropWhile (text : List Char) : trimEnd text = text.rdropWhile isBlank := rfl

theorem trimEnd_eq_self {text : List Char} :
    trimEnd text = text ↔ ∀ c ∈ text.getLast?, isBlank c = false := by
  rw [trimEnd_eq_rdropWhile, List.rdropWhile_eq_self_iff]
  cases text with
  | nil => simp
  | cons c text => simp [List.getLast?_eq_some_getLast]

theorem trimEnd_eq_nil {text : List Char} : trimEnd text = [] ↔ isBlankText text = true := by
  rw [trimEnd_eq_rdropWhile, List.rdropWhile_eq_nil_iff, isBlankText, List.all_eq_true]

theorem trimEnd_append {blanks : List Char} (blank : isBlankText blanks = true)
    (text : List Char) : trimEnd (text ++ blanks) = trimEnd text := by
  have all : ∀ c ∈ blanks.reverse, isBlank c = true := fun c member =>
    List.all_eq_true.mp blank c (List.mem_reverse.mp member)
  rw [trimEnd, List.reverse_append, List.dropWhile_append_of_pos all, trimEnd]

/-- Only blanks are taken from the end, and all of them. -/
theorem exists_trimEnd_append (text : List Char) :
    ∃ blanks, isBlankText blanks = true ∧ text = trimEnd text ++ blanks := by
  refine ⟨text.rtakeWhile isBlank, List.all_eq_true.mpr fun c => List.mem_rtakeWhile_imp, ?_⟩
  rw [trimEnd_eq_rdropWhile, List.rdropWhile_append_rtakeWhile]

theorem getLast?_trimEnd (text : List Char) :
    ∀ c ∈ (trimEnd text).getLast?, isBlank c = false := by
  rw [← trimEnd_eq_self]
  exact List.rdropWhile_idempotent isBlank text

/-! ## Both ends -/

theorem trim_append {blanks : List Char} (blank : isBlankText blanks = true) (text : List Char) :
    trim (text ++ blanks) = trim text := by
  rw [trim, trim, List.dropWhile_append]
  split
  · rename_i nothing
    have all : blanks.dropWhile isBlank = [] :=
      List.dropWhile_eq_nil_iff.mpr (List.all_eq_true.mp blank)
    rw [List.isEmpty_iff.mp nothing, all]
  · exact trimEnd_append blank _

theorem trim_eq_self {text : List Char} (first : ∀ c ∈ text.head?, isBlank c = false)
    (last : ∀ c ∈ text.getLast?, isBlank c = false) : trim text = text := by
  have kept : text.dropWhile isBlank = text := by
    cases text with
    | nil => rfl
    | cons c text => simp [first c rfl]
  rw [trim, kept, trimEnd_eq_self.mpr last]

theorem getLast?_of_trim {text : List Char} (trimmed : trim text = text) :
    ∀ c ∈ text.getLast?, isBlank c = false := by
  rw [← trimmed, trim]
  exact getLast?_trimEnd _

/-- Nothing is left of a blank text only. -/
theorem isBlankText_of_trim {text : List Char} (nothing : trim text = []) :
    isBlankText text = true := by
  rw [trim, trimEnd_eq_nil, isBlankText, List.all_eq_true] at nothing
  rw [isBlankText, List.all_eq_true]
  intro c member
  rw [← List.takeWhile_append_dropWhile (p := isBlank) (l := text), List.mem_append] at member
  exact member.elim List.mem_takeWhile_imp (nothing c)

theorem exists_dropWhile_append {core : List Char} (nonempty : core ≠ [])
    (first : ∀ c ∈ core.head?, isBlank c = false) (front : List Char) :
    ∃ front', (front ++ core).dropWhile isBlank = front' ++ core := by
  induction front with
  | nil =>
      obtain ⟨c, core, rfl⟩ := List.exists_cons_of_ne_nil nonempty
      exact ⟨[], by simp [first c rfl]⟩
  | cons c front ih =>
      cases blank : isBlank c with
      | true => simpa [blank] using ih
      | false => exact ⟨c :: front, by simp [blank]⟩

/-- What stands in a text between characters that are not blank, and behind it only blanks, is still
there at the end of the trimmed text. -/
theorem exists_trim_append {core blanks : List Char} (nonempty : core ≠ [])
    (first : ∀ c ∈ core.head?, isBlank c = false) (last : ∀ c ∈ core.getLast?, isBlank c = false)
    (blank : isBlankText blanks = true) (front : List Char) :
    ∃ front', trim (front ++ core ++ blanks) = front' ++ core := by
  have filled : core ++ blanks ≠ [] := by simp [nonempty]
  have starts : ∀ c ∈ (core ++ blanks).head?, isBlank c = false := by
    rwa [List.head?_append_of_ne_nil _ nonempty]
  obtain ⟨front', kept⟩ := exists_dropWhile_append filled starts front
  refine ⟨front', ?_⟩
  rw [trim, List.append_assoc, kept, ← List.append_assoc, trimEnd_append blank, trimEnd_eq_self]
  rwa [List.getLast?_append_of_ne_nil _ nonempty]

/-- A text that does not end in a blank stays a line. -/
theorem isLine_of_last {line : List Char} (plain : '\n' ∉ line)
    (last : ∀ c ∈ line.getLast?, isBlank c = false) : IsLine line := by
  refine ⟨plain, fun ends => ?_⟩
  exact absurd (last '\r' ends) (by decide)

end Metamorph.Text
