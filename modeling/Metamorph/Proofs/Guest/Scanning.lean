import Metamorph.Proofs.Guest.Tokens
import Metamorph.Proofs.Text.Lines

/-! # The tokens of whole modules

A module has comments between its lines, and marks that no expression has. A text is scanned
piece by piece: at the end of a line always, and elsewhere at a character that goes on with no
token before it, if no comment has begun. -/

namespace Metamorph.Guest

open Text (takeWhile_append_stop)

namespace Token

/-- The tokens of a module that are one character and never part of a longer one. -/
def alone? (c : Char) : Option Token :=
  if c = ';' then some (.mark ";") else single? c

/-- The token of a module that a run of characters is. -/
def ofModuleRun? (run : String) : Option Token :=
  if ["=", "!"].contains run then some (.mark run) else ofRun? run

end Token

variable (alphabet : Alphabet)

/-- The tokens of the text of a module, in which a comment goes on to the end of its line. -/
def scan : List Char → Option (List Token)
  | [] => some []
  | c :: rest =>
    if c.isWhitespace then scan rest
    else if c = '/' ∧ rest.head? = some '/' then scan (rest.dropWhile (· != '\n'))
    else match Token.alone? c with
    | some token => (scan rest).map (token :: ·)
    | none =>
      if alphabet.starts c || c.isDigit then
        (scan (rest.dropWhile alphabet.continues)).map
          (.word (.ofList (c :: rest.takeWhile alphabet.continues)) :: ·)
      else
        (Token.ofModuleRun? (.ofList ((c :: rest).takeWhile Token.isPart))).bind fun token =>
          (scan (rest.dropWhile Token.isPart)).map (token :: ·)
termination_by cs => cs.length
decreasing_by
  all_goals simp only [List.length_cons]
  · omega
  · exact Nat.lt_succ_of_le (List.dropWhile_sublist _).length_le
  · omega
  · exact Nat.lt_succ_of_le (List.dropWhile_sublist _).length_le
  · exact Nat.lt_succ_of_le (List.dropWhile_sublist _).length_le

-- The equations of `scan` are derived here, ahead of the proofs that open it.
attribute [local grind =] scan

variable {alphabet}

@[simp]
theorem scan_nil : scan alphabet [] = some [] := by
  rw [scan]

theorem scan_whitespace {c : Char} (rest : List Char) (blank : c.isWhitespace = true) :
    scan alphabet (c :: rest) = scan alphabet rest := by
  rw [scan, if_pos blank]

theorem scan_comment {c : Char} {rest : List Char}
    (comment : c = '/' ∧ rest.head? = some '/') :
    scan alphabet (c :: rest) = scan alphabet (rest.dropWhile (· != '\n')) := by
  have visible : ¬ c.isWhitespace = true := by rw [comment.1]; decide
  rw [scan, if_neg visible, if_pos comment]

section

variable {c : Char} {rest : List Char} (visible : ¬ c.isWhitespace = true)
  (code : ¬ (c = '/' ∧ rest.head? = some '/'))

include visible code

theorem scan_alone {token : Token} (alone : Token.alone? c = some token) :
    scan alphabet (c :: rest) = (scan alphabet rest).map (token :: ·) := by
  rw [scan, if_neg visible, if_neg code]
  simp only [alone]

theorem scan_word (part : Token.alone? c = none)
    (starts : (alphabet.starts c || c.isDigit) = true) :
    scan alphabet (c :: rest) = (scan alphabet (rest.dropWhile alphabet.continues)).map
      (.word (.ofList (c :: rest.takeWhile alphabet.continues)) :: ·) := by
  rw [scan, if_neg visible, if_neg code]
  simp only [part, starts, if_true]

theorem scan_run (part : Token.alone? c = none)
    (other : ¬ (alphabet.starts c || c.isDigit) = true) :
    scan alphabet (c :: rest) =
      (Token.ofModuleRun? (.ofList ((c :: rest).takeWhile Token.isPart))).bind fun token =>
        (scan alphabet (rest.dropWhile Token.isPart)).map (token :: ·) := by
  rw [scan, if_neg visible, if_neg code]
  simp only [part, other, Bool.false_eq_true, if_false]

end

/-! ## Cutting a text into pieces -/

/-- A character behind a text goes on with none of its tokens and is in none of its comments. -/
structure Separates (alphabet : Alphabet) (front : List Char) (c : Char) : Prop where
  word : alphabet.continues c = false
  others : c = '\n' ∨ ('/' ∉ front ∧ Token.isPart c = false) ∨ ∀ d ∈ front, Token.isPart d = false

theorem Separates.mono {front part : List Char} {c : Char} (h : Separates alphabet front c)
    (fewer : part ⊆ front) : Separates alphabet part c where
  word := h.word
  others := by
    rcases h.others with feed | ⟨noComment, noPart⟩ | noParts
    · exact .inl feed
    · exact .inr (.inl ⟨fun inside => noComment (fewer inside), noPart⟩)
    · exact .inr (.inr fun d inside => noParts d (fewer inside))

theorem Separates.newline (front : List Char) : Separates alphabet front '\n' :=
  ⟨Alphabet.continues_eq_false (by decide) (by decide), .inl rfl⟩

/-- Only a line feed separates a comment from what follows. -/
theorem Separates.newline_of_mem {front : List Char} {c : Char}
    (h : Separates alphabet front c) (slash : '/' ∈ front) : c = '\n' := by
  rcases h.others with feed | ⟨noComment, -⟩ | noParts
  · exact feed
  · exact absurd slash noComment
  · exact absurd (noParts '/' slash) (by decide)

/-- No run of signs goes on across a separator, unless it is no run. -/
theorem Separates.part {front : List Char} {c d : Char} (h : Separates alphabet (d :: front) c) :
    Token.isPart c = false ∨ Token.isPart d = false := by
  rcases h.others with rfl | ⟨-, noPart⟩ | noParts
  · exact .inl rfl
  · exact .inl noPart
  · exact .inr (noParts d List.mem_cons_self)

/-- What is separated from a text makes no comment of it. -/
theorem Separates.code {front rest : List Char} {c d : Char}
    (h : Separates alphabet (d :: front) c) (code : ¬ (d = '/' ∧ front.head? = some '/')) :
    ¬ (d = '/' ∧ (front ++ c :: rest).head? = some '/') := by
  rintro ⟨rfl, slash⟩
  cases front with
  | nil =>
      obtain rfl := h.newline_of_mem List.mem_cons_self
      simp at slash
  | cons e front => exact code ⟨rfl, slash⟩

/-- A token in front of what two texts have together is in front of what the first one has. -/
theorem map_cons_bind (first second : Option (List Token)) (token : Token) :
    (first.bind fun tokens => second.map (tokens ++ ·)).map (token :: ·) =
      (first.map (token :: ·)).bind fun tokens => second.map (tokens ++ ·) := by
  cases first with
  | none => rfl
  | some tokens => cases second <;> rfl

/-- Where a text is separated from what follows, each has its own tokens. -/
theorem scan_append {front : List Char} {c : Char} (separates : Separates alphabet front c)
    (rest : List Char) : scan alphabet (front ++ c :: rest) =
      (scan alphabet front).bind fun tokens =>
        (scan alphabet (c :: rest)).map (tokens ++ ·) := by
  -- Along the scanner: blank, comment, token of one character, word, run of signs. Where there is a
  -- comment the separator is a line feed, which ends it if nothing before does.
  induction front using scan.induct alphabet with
  | case1 => simp
  | case2 d front blank ih =>
      rw [List.cons_append, scan_whitespace _ blank, scan_whitespace _ blank,
        ih (separates.mono (List.subset_cons_self d front))]
  | case3 d front visible comment ih =>
      obtain rfl : c = '\n' := separates.newline_of_mem (comment.1 ▸ List.mem_cons_self)
      have also : d = '/' ∧ (front ++ '\n' :: rest).head? = some '/' := by
        simp [List.head?_append, comment]
      obtain ⟨-, dropped⟩ := @takeWhile_append_stop (· != '\n') '\n' (by decide) front rest
      rw [List.cons_append, scan_comment comment, scan_comment also, dropped,
        ih (.newline _)]
  | case4 d front visible code token alone ih =>
      rw [List.cons_append, scan_alone visible code alone,
        scan_alone visible (separates.code code) alone,
        ih (separates.mono (List.subset_cons_self d front))]
      exact map_cons_bind _ _ token
  | case5 d front visible code alone starts ih =>
      obtain ⟨taken, dropped⟩ := takeWhile_append_stop separates.word front rest
      rw [List.cons_append, scan_word visible code alone starts,
        scan_word visible (separates.code code) alone starts, taken, dropped,
        ih (separates.mono fun e inside =>
          List.mem_cons_of_mem d ((List.dropWhile_sublist _).subset inside))]
      exact map_cons_bind _ _ _
  | case6 d front visible code alone other ih =>
      rw [List.cons_append, scan_run visible code alone other,
        scan_run visible (separates.code code) alone other]
      rcases separates.part with noPart | noRun
      · obtain ⟨taken, -⟩ := takeWhile_append_stop noPart (d :: front) rest
        obtain ⟨-, dropped⟩ := takeWhile_append_stop noPart front rest
        rw [← List.cons_append, taken, dropped, ih (separates.mono fun e inside =>
          List.mem_cons_of_mem d ((List.dropWhile_sublist _).subset inside))]
        cases Token.ofModuleRun? (.ofList ((d :: front).takeWhile Token.isPart)) with
        | none => rfl
        | some token => exact map_cons_bind _ _ token
      · simp only [List.takeWhile_cons, noRun, Bool.false_eq_true, if_false]
        rfl

/-! ## Texts and their tokens -/

/-- A run of signs that an expression may have is the same in a module. -/
theorem Token.ofModuleRun?_of_ofRun? {run : String} {token : Token}
    (known : ofRun? run = some token) : ofModuleRun? run = some token := by
  unfold ofModuleRun?
  split
  · rename_i other
    rw [List.contains_iff_mem] at other
    fin_cases other <;> cases known
  · exact known

theorem Token.ofRun?_comment (rest : List Char) :
    ofRun? (.ofList ('/' :: '/' :: rest)) = none := by
  simp [ofRun?, Sign.ofText?, Sign.all, Sign.text, String.ext_iff]

/-- What an expression is cut into it is cut into in a module, where it begins no comment. -/
theorem scan_of_lex {cs : List Char} {tokens : List Token} (cut : lex alphabet cs = some tokens) :
    scan alphabet cs = some tokens := by
  induction cs using lex.induct alphabet generalizing tokens with
  | case1 => rwa [scan_nil, ← lex_nil]
  | case2 c rest blank ih =>
      rw [lex, if_pos blank] at cut
      rw [scan_whitespace rest blank, ih cut]
  | case3 c rest visible token single ih =>
      rw [lex_single rest (by simpa using visible) single] at cut
      obtain ⟨later, after, rfl⟩ := Option.map_eq_some_iff.mp cut
      have code : ¬ (c = '/' ∧ rest.head? = some '/') := by
        rintro ⟨rfl, -⟩
        cases single
      have alone : Token.alone? c = some token := by
        rw [Token.alone?, if_neg, single]
        rintro rfl
        cases single
      rw [scan_alone visible code alone, ih after]
      rfl
  | case4 c rest visible single starts ih =>
      rw [lex] at cut
      simp only [visible, single, starts, if_true, Bool.false_eq_true, if_false] at cut
      obtain ⟨later, after, rfl⟩ := Option.map_eq_some_iff.mp cut
      have code : ¬ (c = '/' ∧ rest.head? = some '/') := by
        rintro ⟨rfl, -⟩
        simp [alphabet.starts_ascii] at starts
      have part : Token.alone? c = none := by
        rw [Token.alone?, if_neg, single]
        rintro rfl
        simp [alphabet.starts_ascii] at starts
      rw [scan_word visible code part starts, ih after]
      rfl
  | case5 c rest visible single other ih =>
      rw [lex] at cut
      simp only [visible, single, other, Bool.false_eq_true, if_false] at cut
      obtain ⟨token, known, cut⟩ := Option.bind_eq_some_iff.mp cut
      obtain ⟨later, after, rfl⟩ := Option.map_eq_some_iff.mp cut
      have code : ¬ (c = '/' ∧ rest.head? = some '/') := by
        rintro ⟨rfl, slash⟩
        obtain ⟨rest, rfl⟩ := List.head?_eq_some_iff.mp slash
        have comment := Token.ofRun?_comment (rest.takeWhile Token.isPart)
        cases comment.symm.trans known
      have part : Token.alone? c = none := by
        rw [Token.alone?, if_neg, single]
        rintro rfl
        cases known
      rw [scan_run visible code part other, Token.ofModuleRun?_of_ofRun? known, Option.bind_some,
        ih after]
      rfl

/-- All tables scan a text of ASCII in the same way. -/
theorem scan_ascii {cs : List Char} (ascii : ∀ c ∈ cs, c.toNat < 128) :
    scan alphabet cs = scan .ascii cs := by
  induction cs using scan.induct alphabet with
  | case1 => rw [scan_nil, scan_nil]
  | case2 c rest blank ih =>
      rw [scan_whitespace rest blank, scan_whitespace rest blank,
        ih fun d member => ascii d (List.mem_cons_of_mem c member)]
  | case3 c rest visible comment ih =>
      rw [scan_comment comment, scan_comment comment, ih fun d member =>
        ascii d (List.mem_cons_of_mem c ((List.dropWhile_sublist _).subset member))]
  | case4 c rest visible code token alone ih =>
      rw [scan_alone visible code alone, scan_alone visible code alone,
        ih fun d member => ascii d (List.mem_cons_of_mem c member)]
  | case5 c rest visible code part starts ih =>
      have others : ∀ d ∈ rest, d.toNat < 128 := fun d member =>
        ascii d (List.mem_cons_of_mem c member)
      have same : alphabet.starts c = Alphabet.ascii.starts c :=
        alphabet.starts_ascii c (ascii c List.mem_cons_self)
      obtain ⟨taken, dropped⟩ := @takeWhile_ascii alphabet _ others
      rw [scan_word visible code part starts, scan_word visible code part (same ▸ starts),
        ih fun d member => others d ((List.dropWhile_sublist _).subset member), taken, dropped]
  | case6 c rest visible code part other ih =>
      have others : ∀ d ∈ rest, d.toNat < 128 := fun d member =>
        ascii d (List.mem_cons_of_mem c member)
      have same : alphabet.starts c = Alphabet.ascii.starts c :=
        alphabet.starts_ascii c (ascii c List.mem_cons_self)
      rw [scan_run visible code part other, scan_run visible code part (same ▸ other),
        ih fun d member => others d ((List.dropWhile_sublist _).subset member)]

/-- The characters of a module have these tokens and no others. -/
def Scans (alphabet : Alphabet) (cs : List Char) (tokens : List Token) : Prop :=
  scan alphabet cs = some tokens

namespace Scans

variable {front rest : List Char} {c : Char} {tokens tokens' : List Token}

theorem append (first : Scans alphabet front tokens) (separates : Separates alphabet front c)
    (second : Scans alphabet (c :: rest) tokens') :
    Scans alphabet (front ++ c :: rest) (tokens ++ tokens') := by
  rw [Scans, scan_append separates, first, second]
  rfl

theorem blank (h : Scans alphabet rest tokens) : Scans alphabet (' ' :: rest) tokens := by
  rwa [Scans, scan_whitespace rest (by decide)]

theorem blanks (h : Scans alphabet rest tokens) (count : Nat) :
    Scans alphabet (List.replicate count ' ' ++ rest) tokens := by
  induction count with
  | zero => exact h
  | succ count ih => exact ih.blank

/-- How a text of ASCII is cut can be computed with any table. -/
theorem fixed {text : String} (ascii : text.toList.all (fun c => c.toNat < 128) = true)
    (cut : scan .ascii text.toList = some tokens) : Scans alphabet text.toList tokens := by
  rwa [Scans, scan_ascii (by simpa using ascii)]

/-- Nothing is seen of a comment. -/
theorem comment {text : String} (marked : ['/', '/'] <+: text.toList)
    (oneLine : '\n' ∉ text.toList) : Scans alphabet text.toList [] := by
  obtain ⟨rest, spelled⟩ := marked
  rw [← spelled] at oneLine ⊢
  have all : ('/' :: rest).dropWhile (· != '\n') = [] := by
    rw [List.dropWhile_eq_nil_iff]
    intro d inside
    exact bne_iff_ne.mpr fun same => oneLine (List.mem_cons_of_mem _ (same ▸ inside))
  exact (scan_comment ⟨rfl, rfl⟩).trans ((congrArg (scan alphabet) all).trans scan_nil)

/-- A plain text is one word. -/
theorem plain {word : String} (isPlain : isPlain word = true) :
    Scans alphabet word.toList [.word word] := by
  have cut : lex alphabet (word.toList ++ []) = _ :=
    isWord_of_isPlain isPlain [] (by simp [Parted])
  rw [List.append_nil] at cut
  exact scan_of_lex (cut.trans (by simp))

end Scans

/-- A text that ends a line has these tokens, whatever follows it. -/
def Prints (alphabet : Alphabet) (text : String) (tokens : List Token) : Prop :=
  ∀ rest tokens', Scans alphabet rest tokens' →
    Scans alphabet (text.toList ++ rest) (tokens ++ tokens')

namespace Prints

variable {text text' : String} {tokens tokens' : List Token}

theorem scans (h : Prints alphabet text tokens) : Scans alphabet text.toList tokens := by
  have whole := h [] [] scan_nil
  rwa [List.append_nil, List.append_nil] at whole

theorem append (first : Prints alphabet text tokens) (second : Prints alphabet text' tokens') :
    Prints alphabet (text ++ text') (tokens ++ tokens') := by
  intro rest later scans
  rw [String.toList_append, List.append_assoc, List.append_assoc]
  exact first _ _ (second rest later scans)

theorem line (h : Scans alphabet text.toList tokens) : Prints alphabet (text ++ "\n") tokens := by
  intro rest later scans
  rw [String.toList_append, List.append_assoc]
  refine h.append (.newline _) ?_
  rwa [Scans, scan_whitespace _ (by decide)]

theorem join {texts : List String} {parts : List (List Token)}
    (h : List.Forall₂ (Prints alphabet) texts parts) :
    Prints alphabet (String.join texts) parts.flatten := by
  induction h with
  | nil => exact fun rest later scans => scans
  | cons first _ ih =>
      rw [String.join_cons]
      exact first.append ih

theorem joinMap {α : Type} {write : α → String} {spell : α → List Token} {listed : List α}
    (each : ∀ a ∈ listed, Prints alphabet (write a) (spell a)) :
    Prints alphabet (String.join (listed.map write)) (listed.flatMap spell) := by
  rw [List.flatMap_def]
  exact join (List.forall₂_map_left_iff.mpr
    (List.forall₂_map_right_iff.mpr (List.forall₂_same.mpr each)))

/-- The tokens of lines are those of one line after the other. -/
theorem ofLines {texts : List String} {parts : List (List Token)}
    (h : List.Forall₂ (fun text tokens => Scans alphabet text.toList tokens) texts parts) :
    Prints alphabet (Text.ofLines texts) parts.flatten :=
  join (List.forall₂_map_left_iff.mpr (h.imp fun _ _ scans => line scans))

theorem map {α : Type} {write : α → String} {spell : α → List Token} {listed : List α}
    (each : ∀ a ∈ listed, Scans alphabet (write a).toList (spell a)) :
    Prints alphabet (Text.ofLines (listed.map write)) (listed.flatMap spell) := by
  rw [Text.ofLines, List.map_map]
  exact joinMap fun a member => line (each a member)

end Prints

end Metamorph.Guest
