import Mathlib
import Metamorph.Proofs.Report.Headers
import Metamorph.Proofs.Text.Lines
import Metamorph.Report.Verdict

/-! # Verdicts on a run

The verdict on a run that ended is that of the line that says a value last. It is found among the lines
with digits of any script, and read if its digits are from 0 to 9. If they are, the verdict is the one
that the lines with digits from 0 to 9 give, whatever else the guest wrote. -/

namespace Metamorph

/-- Digits are a word if they are from 0 to 9 and denote one. -/
theorem Text.word32OfDigits?_eq_some {digits : List Char} {word : UInt32} :
    word32OfDigits? digits = some word ↔
      (∀ c ∈ digits, c.isDigit = true) ∧ digitsValue digits = word.toNat := by
  simp only [word32OfDigits?, Bool.and_eq_true, List.all_eq_true, decide_eq_true_eq,
    Option.ite_none_right_eq_some, Option.some.injEq, and_assoc]
  refine and_congr_right fun _ => ⟨?_, fun value => ?_⟩
  · rintro ⟨fits, rfl⟩
    exact (UInt32.toNat_ofNat_of_lt fits).symm
  · exact ⟨value ▸ word.toNat_lt, by rw [value]; exact UInt32.ofNat_toNat⟩

namespace Report

open Text (isBlank isBlankText isDecimalDigit digitsValue)

/-- A line that says a value: its digits, of the given kind, behind the word for it, with blanks around
them and nothing else. -/
inductive SaysDigits (digit : Char → Bool) : List Char → List Char → Prop where
  | value {front middle digits back} (blankFront : isBlankText front = true)
      (blankMiddle : isBlankText middle = true) (nonempty : digits ≠ [])
      (all : ∀ c ∈ digits, digit c = true) (blankBack : isBlankText back = true) :
      SaysDigits digit digits (front ++ ("output:".toList ++ (middle ++ (digits ++ back))))

/-- The digits of the last line that says a value. -/
def SaysLast (digit : Char → Bool) (stdout : String) (digits : List Char) : Prop :=
  ∃ (i : Nat) (line : List Char), (Text.lines stdout.toList)[i]? = some line ∧
    SaysDigits digit digits line ∧
    ∀ j later other, i < j → (Text.lines stdout.toList)[j]? = some later →
      ¬ SaysDigits digit other later

/-- The last line that says a value in the digits of any script has digits from 0 to 9 only. -/
def SaysPlainly (stdout : String) : Prop :=
  ∀ digits, SaysLast isDecimalDigit stdout digits → ∀ c ∈ digits, c.isDigit = true

/-! ## One line -/

variable {digit : Char → Bool} {line digits : List Char} {stdout : String}

theorem SaysDigits.all (said : SaysDigits digit digits line) : ∀ c ∈ digits, digit c = true := by
  obtain ⟨-, -, -, all, -⟩ := said
  exact all

theorem SaysDigits.decimal (fits : ∀ c, digit c = true → isDecimalDigit c = true)
    (said : SaysDigits digit digits line) : SaysDigits isDecimalDigit digits line := by
  obtain ⟨front, middle, nonempty, all, back⟩ := said
  exact .value front middle nonempty (fun c member => fits c (all c member)) back

theorem SaysDigits.plain (said : SaysDigits isDecimalDigit digits line)
    (plain : ∀ c ∈ digits, c.isDigit = true) : SaysDigits Char.isDigit digits line := by
  obtain ⟨front, middle, nonempty, -, back⟩ := said
  exact .value front middle nonempty plain back

theorem isDecimalDigit_of_isDigit (c : Char) (digit : c.isDigit = true) :
    isDecimalDigit c = true := by
  simp [isDecimalDigit, digit]

theorem outputDigits?_eq_some :
    outputDigits? line = some digits ↔ SaysDigits isDecimalDigit digits line := by
  constructor
  · intro read
    simp only [outputDigits?, Option.bind_eq_bind, Option.bind_eq_some_iff, Text.after?_eq_some,
      Option.ite_none_right_eq_some, Bool.and_eq_true, Bool.not_eq_true', List.isEmpty_eq_false_iff,
      Option.some.injEq] at read
    obtain ⟨rest, word, ⟨nonempty, blank⟩, rfl⟩ := read
    have blanks (text : List Char) : isBlankText (text.takeWhile isBlank) = true :=
      List.all_eq_true.mpr fun c => List.mem_takeWhile_imp
    have whole := SaysDigits.value (blanks line) (blanks rest) nonempty
      (fun c => List.mem_takeWhile_imp) blank
    rwa [List.takeWhile_append_dropWhile, List.takeWhile_append_dropWhile, ← word,
      List.takeWhile_append_dropWhile] at whole
  · rintro ⟨blankFront, blankMiddle, nonempty, all, blankBack⟩
    rename_i front middle back
    obtain ⟨-, start⟩ := @Text.takeWhile_run isBlank front
      ("output:".toList ++ (middle ++ (digits ++ back))) (List.all_eq_true.mp blankFront)
      (by simp [isBlank])
    have numeral : ∀ c ∈ (digits ++ back).head?, isBlank c = false := by
      intro c first
      rw [List.head?_append_of_ne_nil _ nonempty] at first
      exact Text.isBlank_of_isDecimalDigit (all c (List.mem_of_mem_head? first))
    obtain ⟨-, number⟩ := Text.takeWhile_run (List.all_eq_true.mp blankMiddle) numeral
    have stops : ∀ c ∈ back.head?, isDecimalDigit c = false := fun c first =>
      Text.isDecimalDigit_of_isBlank (List.all_eq_true.mp blankBack c (List.mem_of_mem_head? first))
    obtain ⟨taken, dropped⟩ := Text.takeWhile_run all stops
    have words := Text.after?_eq_some.mpr
      (rfl : "output:".toList ++ (middle ++ (digits ++ back)) = _)
    have filled : digits.isEmpty = false := List.isEmpty_eq_false_iff.mpr nonempty
    simp only [outputDigits?, start, words, number, Option.bind_eq_bind, Option.bind_some,
      taken, dropped, filled, blankBack, Bool.not_false, Bool.and_self, if_true]

theorem SaysDigits.unique (fits : ∀ c, digit c = true → isDecimalDigit c = true)
    {other : List Char} (said : SaysDigits digit digits line) (also : SaysDigits digit other line) :
    digits = other := by
  have first := outputDigits?_eq_some.mpr (said.decimal fits)
  have second := outputDigits?_eq_some.mpr (also.decimal fits)
  exact Option.some.inj (first.symm.trans second)

/-! ## The last line -/

theorem SaysLast.unique (fits : ∀ c, digit c = true → isDecimalDigit c = true)
    {other : List Char} (last : SaysLast digit stdout digits)
    (also : SaysLast digit stdout other) : digits = other := by
  obtain ⟨i, line, here, said, silent⟩ := last
  obtain ⟨j, line', there, said', silent'⟩ := also
  rcases Nat.lt_trichotomy i j with before | rfl | behind
  · exact absurd said' (silent j line' other before there)
  · cases here.symm.trans there
    exact said.unique fits said'
  · exact absurd said (silent' i line digits behind here)

/-- The digits that the search from the end finds. -/
def lastDigits? (stdout : String) : Option (List Char) :=
  (Text.lines stdout.toList).reverse.findSome? outputDigits?

theorem saysLast_of_lastDigits? (found : lastDigits? stdout = some digits) :
    SaysLast isDecimalDigit stdout digits := by
  obtain ⟨after, line, before, split, read, silent⟩ := List.findSome?_eq_some_iff.mp found
  have lines : Text.lines stdout.toList = before.reverse ++ line :: after.reverse := by
    rw [← List.reverse_reverse (Text.lines stdout.toList), split]
    simp
  refine ⟨before.reverse.length, line, by simp [lines], outputDigits?_eq_some.mp read, ?_⟩
  intro j later other behind there said
  obtain ⟨k, rfl⟩ := Nat.exists_eq_add_of_lt behind
  have member : later ∈ after.reverse := by
    rw [lines, Nat.add_assoc, List.getElem?_append_right (Nat.le_add_right ..),
      Nat.add_sub_cancel_left, List.getElem?_cons_succ] at there
    exact List.mem_of_getElem? there
  have none := silent later (List.mem_reverse.mp member)
  rw [outputDigits?_eq_some.mpr said] at none
  cases none

/-- Where a line says a value, there is a last one with digits of any script. -/
theorem SaysLast.exists_last (fits : ∀ c, digit c = true → isDecimalDigit c = true)
    (last : SaysLast digit stdout digits) : ∃ other, lastDigits? stdout = some other := by
  obtain ⟨i, line, here, said, -⟩ := last
  rw [← Option.isSome_iff_exists, lastDigits?, List.findSome?_isSome_iff]
  have read := outputDigits?_eq_some.mpr (said.decimal fits)
  exact ⟨line, List.mem_reverse.mpr (List.mem_of_getElem? here), by simp [read]⟩

/-- The search from the end finds the last line that says a value. -/
theorem lastDigits?_eq_some :
    lastDigits? stdout = some digits ↔ SaysLast isDecimalDigit stdout digits := by
  refine ⟨saysLast_of_lastDigits?, fun last => ?_⟩
  obtain ⟨other, found⟩ := last.exists_last fun _ => id
  rw [found, (saysLast_of_lastDigits? found).unique (fun _ => id) last]

theorem guestOutput?_eq_some {word : UInt32} : guestOutput? stdout = some word ↔
    ∃ digits, SaysLast isDecimalDigit stdout digits ∧ (∀ c ∈ digits, c.isDigit = true) ∧
      digitsValue digits = word.toNat := by
  have search : guestOutput? stdout = (lastDigits? stdout).bind Text.word32OfDigits? := rfl
  simp only [search, Option.bind_eq_some_iff, lastDigits?_eq_some, Text.word32OfDigits?_eq_some]

theorem SaysLast.plain (last : SaysLast isDecimalDigit stdout digits)
    (plain : ∀ c ∈ digits, c.isDigit = true) : SaysLast Char.isDigit stdout digits := by
  obtain ⟨i, line, here, said, silent⟩ := last
  exact ⟨i, line, here, said.plain plain, fun j line other behind there also =>
    silent j line other behind there (also.decimal isDecimalDigit_of_isDigit)⟩

/-- Lines with other digits do not matter unless one of them is the last. -/
theorem SaysPlainly.saysLast_iff (plainly : SaysPlainly stdout) :
    SaysLast Char.isDigit stdout digits ↔ SaysLast isDecimalDigit stdout digits := by
  refine ⟨fun last => ?_, fun last => last.plain (plainly digits last)⟩
  obtain ⟨other, found⟩ := last.exists_last isDecimalDigit_of_isDigit
  have any := saysLast_of_lastDigits? found
  rwa [last.unique isDecimalDigit_of_isDigit (any.plain (plainly other any))]

/-- What is read off the output of a guest is the value that its last line says. -/
theorem SaysPlainly.guestOutput?_eq_some (plainly : SaysPlainly stdout) {word : UInt32} :
    guestOutput? stdout = some word ↔
      ∃ digits, SaysLast Char.isDigit stdout digits ∧ digitsValue digits = word.toNat := by
  simp only [Report.guestOutput?_eq_some, plainly.saysLast_iff]
  exact exists_congr fun digits => and_congr_right fun last =>
    and_iff_right (plainly digits last)

/-- Nothing is read if no line says a value, or the last one says a value that is too large. -/
theorem SaysPlainly.guestOutput?_eq_none (plainly : SaysPlainly stdout) :
    guestOutput? stdout = none ↔ (¬ ∃ digits, SaysLast Char.isDigit stdout digits) ∨
      ∃ digits, SaysLast Char.isDigit stdout digits ∧ UInt32.size ≤ digitsValue digits := by
  rw [Option.eq_none_iff_forall_ne_some]
  constructor
  · intro nothing
    by_cases spoken : ∃ digits, SaysLast Char.isDigit stdout digits
    · obtain ⟨digits, last⟩ := spoken
      refine .inr ⟨digits, last, Nat.le_of_not_lt fun fits => ?_⟩
      refine nothing (UInt32.ofNat (digitsValue digits)) (plainly.guestOutput?_eq_some.mpr ?_)
      exact ⟨digits, last, (UInt32.toNat_ofNat_of_lt fits).symm⟩
    · exact .inl spoken
  · rintro nothing word read
    obtain ⟨digits, last, value⟩ := plainly.guestOutput?_eq_some.mp read
    rcases nothing with silent | ⟨other, also, large⟩
    · exact silent ⟨digits, last⟩
    · obtain rfl := last.unique isDecimalDigit_of_isDigit also
      exact absurd word.toNat_lt (Nat.not_lt.mpr (value ▸ large))

/-! ## The verdict -/

section

variable {expected : UInt32} {success : Bool} {stderr : String}

attribute [local simp] Observation.outcome classify

theorem exited_eq_passed : (Observation.exited success stdout stderr).outcome expected = .passed ↔
    success = true ∧ guestOutput? stdout = some expected := by
  cases success with
  | false => simp
  | true =>
      cases read : guestOutput? stdout with
      | none => simp [read]
      | some word => by_cases same : word = expected <;> simp [read, same]

theorem exited_eq_mismatch {stated actual : UInt32} :
    (Observation.exited success stdout stderr).outcome expected = .mismatch stated actual ↔
      success = true ∧ stated = expected ∧ actual ≠ expected ∧
        guestOutput? stdout = some actual := by
  cases success with
  | false => simp
  | true =>
      cases read : guestOutput? stdout with
      | none => simp [read]
      | some word =>
          by_cases same : word = expected
          · simp [read, same, eq_comm]
          · simp only [Observation.outcome, read, classify, same, if_false, Outcome.mismatch.injEq,
              true_and, Option.some.injEq]
            constructor
            · rintro ⟨rfl, rfl⟩
              exact ⟨rfl, same, rfl⟩
            · rintro ⟨rfl, -, rfl⟩
              exact ⟨rfl, rfl⟩

theorem exited_eq_crashed {found : List Panic} {raw : String} :
    (Observation.exited success stdout stderr).outcome expected = .crashed found raw ↔
      (success = false ∨ guestOutput? stdout = none) ∧ raw = joinStreams stdout stderr ∧
        found = panics raw := by
  have text : Outcome.crashed (panics (joinStreams stdout stderr)) (joinStreams stdout stderr) =
      .crashed found raw ↔ raw = joinStreams stdout stderr ∧ found = panics raw := by
    rw [Outcome.crashed.injEq]
    constructor
    · rintro ⟨rfl, rfl⟩
      exact ⟨rfl, rfl⟩
    · rintro ⟨rfl, rfl⟩
      exact ⟨rfl, rfl⟩
  cases success with
  | false => simpa using text
  | true =>
      cases read : guestOutput? stdout with
      | none => simpa [read] using text
      | some word => by_cases same : word = expected <;> simp [read, same]

end

/-- The verdict on a run that ended, from the last of the lines that say a value with digits from 0
to 9. -/
structure Judged (expected : UInt32) (success : Bool) (stdout raw : String) (outcome : Outcome) :
    Prop where
  passed : outcome = .passed ↔ success = true ∧
    ∃ digits, SaysLast Char.isDigit stdout digits ∧ digitsValue digits = expected.toNat
  mismatch : ∀ stated actual, outcome = .mismatch stated actual ↔
    success = true ∧ stated = expected ∧ actual ≠ expected ∧
      ∃ digits, SaysLast Char.isDigit stdout digits ∧ digitsValue digits = actual.toNat
  crashed : ∀ found text, outcome = .crashed found text ↔
    (success = false ∨ (¬ ∃ digits, SaysLast Char.isDigit stdout digits) ∨
      ∃ digits, SaysLast Char.isDigit stdout digits ∧ UInt32.size ≤ digitsValue digits) ∧
      text = raw ∧ found = panics text

/-- A guest whose last value is in digits from 0 to 9 is judged by that value, and nothing else that it
writes matters if the value is a word. A last value in other digits is a crash. -/
theorem exited_judged (expected : UInt32) (success : Bool) (stdout stderr : String) :
    (SaysPlainly stdout → Judged expected success stdout (joinStreams stdout stderr)
      ((Observation.exited success stdout stderr).outcome expected)) ∧
    (∀ digits stdout' stderr', SaysPlainly stdout → SaysPlainly stdout' →
      SaysLast Char.isDigit stdout digits → SaysLast Char.isDigit stdout' digits →
      digitsValue digits < UInt32.size →
      (Observation.exited true stdout' stderr').outcome expected =
        (Observation.exited true stdout stderr).outcome expected) ∧
    (¬ SaysPlainly stdout → (Observation.exited success stdout stderr).outcome expected =
      .crashed (panics (joinStreams stdout stderr)) (joinStreams stdout stderr)) := by
  refine ⟨fun plainly => ⟨?_, fun stated actual => ?_, fun found text => ?_⟩, ?_, ?_⟩
  · rw [exited_eq_passed, plainly.guestOutput?_eq_some]
  · rw [exited_eq_mismatch, plainly.guestOutput?_eq_some]
  · rw [exited_eq_crashed, plainly.guestOutput?_eq_none]
  · intro digits stdout' stderr' plainly plainly' last last' fits
    have value := (UInt32.toNat_ofNat_of_lt fits).symm
    have read := plainly.guestOutput?_eq_some.mpr ⟨digits, last, value⟩
    have read' := plainly'.guestOutput?_eq_some.mpr ⟨digits, last', value⟩
    simp only [Observation.outcome, read, read']
  · intro foreign
    rw [exited_eq_crashed]
    refine ⟨.inr (Option.eq_none_iff_forall_ne_some.mpr fun word read => foreign ?_), rfl, rfl⟩
    obtain ⟨digits, last, plain, -⟩ := guestOutput?_eq_some.mp read
    intro other also
    rwa [also.unique (fun _ => id) last]

/-- A run that says its expected value, once alone and once behind other lines, and one that says it in
the digits of another script. -/
theorem exited_judged_three :
    (SaysPlainly "output: 3\n" ∧
      Judged 3 true "output: 3\n" "output: 3\n" ((Observation.exited true "output: 3\n" "").outcome 3)) ∧
    (SaysPlainly "output: 4\nready\n output:3 \nbye\n" ∧
      (Observation.exited true "output: 4\nready\n output:3 \nbye\n" "").outcome 3 =
        (Observation.exited true "output: 3\n" "").outcome 3) ∧
    (¬ SaysPlainly "output: \u0663\n" ∧
      (Observation.exited true "output: \u0663\n" "").outcome 3 = .crashed [] "output: \u0663\n") := by
  have plainly {stdout : String} (read : lastDigits? stdout = some ['3']) : SaysPlainly stdout := by
    intro digits last
    obtain rfl := Option.some.inj (read.symm.trans (lastDigits?_eq_some.mpr last))
    simp
  have alone : lastDigits? "output: 3\n" = some ['3'] := by decide
  have among : lastDigits? "output: 4\nready\n output:3 \nbye\n" = some ['3'] := by
    decide +kernel
  have foreign : ¬ SaysPlainly "output: \u0663\n" := by
    intro plainly
    have last := lastDigits?_eq_some.mp
      (by decide +kernel : lastDigits? "output: \u0663\n" = some ['\u0663'])
    exact absurd (plainly _ last '\u0663' List.mem_cons_self) (by decide)
  have last {stdout : String} (read : lastDigits? stdout = some ['3']) :
      SaysLast Char.isDigit stdout ['3'] := (lastDigits?_eq_some.mp read).plain (by simp)
  refine ⟨⟨plainly alone, (exited_judged 3 true "output: 3\n" "").1 (plainly alone)⟩, ⟨plainly among, ?_⟩,
    foreign, ?_⟩
  · exact (exited_judged 3 true "output: 3\n" "").2.1 ['3'] _ "" (plainly alone) (plainly among)
      (last alone) (last among) (by decide)
  · exact (exited_judged 3 true "output: \u0663\n" "").2.2 foreign

/-- The last line that says a value with digits from 0 to 9 says the expected one, yet the run counts as
a crash: a line with a digit of another script comes behind. -/
theorem exited_expected_crashed :
    let stdout := "output: 3\noutput: \u0663\n"
    SaysLast Char.isDigit stdout ['3'] ∧ digitsValue ['3'] = 3 ∧
      (Observation.exited true stdout "").outcome 3 = .crashed [] stdout := by
  refine ⟨⟨0, "output: 3".toList, by decide, ?_, ?_⟩, by decide, by decide⟩
  · exact @SaysDigits.value Char.isDigit [] [' '] ['3'] [] rfl rfl (by simp) (by simp) rfl
  · intro j later other behind there said
    have lines : Text.lines "output: 3\noutput: \u0663\n".toList =
        ["output: 3".toList, "output: \u0663".toList] := by decide
    have same : later = "output: \u0663".toList := by
      rw [lines] at there
      match j, behind with
      | 1, _ => simpa [eq_comm] using there
      | j + 2, _ => simp at there
    subst same
    have foreign : outputDigits? "output: \u0663".toList = some ['\u0663'] := by
      decide +kernel
    obtain rfl := Option.some.inj (foreign.symm.trans
      (outputDigits?_eq_some.mpr (said.decimal isDecimalDigit_of_isDigit)))
    exact absurd (said.all '\u0663' List.mem_cons_self) (by decide)

end Report

end Metamorph
