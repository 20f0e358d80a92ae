import Mathlib
import Metamorph.Proofs.Text.Lines

/-! # The words and signs of a guest program

How a compiler cuts the text of a program into tokens. Which characters beyond ASCII
belong to words is left open: a table of letters only has to agree with the letters, the
digits and the low line of ASCII. -/

namespace Metamorph.Guest

/-- A table of the characters that words are made of. -/
structure Alphabet where
  /-- Whether a word may begin with a character. -/
  starts : Char → Bool
  /-- Whether a word may go on with a character. -/
  continues : Char → Bool
  starts_ascii : ∀ c, c.toNat < 128 → starts c = (c.isAlpha || c == '_')
  continues_ascii : ∀ c, c.toNat < 128 → continues c = (c.isAlphanum || c == '_')
  continues_of_starts : ∀ c, starts c = true → continues c = true

/-- The table that has no letters but those of ASCII. -/
def Alphabet.ascii : Alphabet where
  starts c := c.isAlpha || c == '_'
  continues c := c.isAlphanum || c == '_'
  starts_ascii _ _ := rfl
  continues_ascii _ _ := rfl
  continues_of_starts c h := by
    simp only [Char.isAlphanum, Bool.or_eq_true] at h ⊢
    exact h.imp_left Or.inl

/-- The signs that stand between two operands. -/
inductive Sign where
  | bitAnd | bitXor | bitOr
  | eq | ne | lt | le | gt | ge
  deriving DecidableEq

namespace Sign

def all : List Sign := [.bitAnd, .bitXor, .bitOr, .eq, .ne, .lt, .le, .gt, .ge]

def text : Sign → String
  | .bitAnd => "&"
  | .bitXor => "^"
  | .bitOr => "|"
  | .eq => "=="
  | .ne => "!="
  | .lt => "<"
  | .le => "<="
  | .gt => ">"
  | .ge => ">="

def ofText? (text : String) : Option Sign :=
  all.find? (·.text == text)

end Sign

/-- The tokens of a program; names and numbers are both words. -/
inductive Token where
  | word (text : String)
  | sign (op : Sign)
  | opening | closing | comma | dot
  /-- Any other punctuation. -/
  | mark (text : String)
  deriving DecidableEq

namespace Token

/-- The tokens that are one character and never part of a longer one. -/
def single? : Char → Option Token
  | '(' => some .opening
  | ')' => some .closing
  | ',' => some .comma
  | '.' => some .dot
  | '\x7b' => some (.mark "\x7b")
  | '\x7d' => some (.mark "\x7d")
  | '[' => some (.mark "[")
  | ']' => some (.mark "]")
  | '#' => some (.mark "#")
  | _ => none

/-- The characters that longer punctuation is made of. -/
def isPart (c : Char) : Bool :=
  ['&', '^', '|', '=', '!', '<', '>', '-', '+', '*', '/', '%', ':'].contains c

/-- The token that a run of such characters is. -/
def ofRun? (run : String) : Option Token :=
  match Sign.ofText? run with
  | some op => some (.sign op)
  | none => if [":", "::", "->", "/", "%"].contains run then some (.mark run) else none

end Token

variable (alphabet : Alphabet)

/-- The tokens of a text, if it has no others. A word and a sign are as long as they can be. -/
def lex : List Char → Option (List Token)
  | [] => some []
  | c :: rest =>
    if c.isWhitespace then lex rest
    else match Token.single? c with
    | some token => (lex rest).map (token :: ·)
    | none =>
      if alphabet.starts c || c.isDigit then
        (lex (rest.dropWhile alphabet.continues)).map
          (.word (.ofList (c :: rest.takeWhile alphabet.continues)) :: ·)
      else
        (Token.ofRun? (.ofList ((c :: rest).takeWhile Token.isPart))).bind fun token =>
          (lex (rest.dropWhile Token.isPart)).map (token :: ·)
termination_by cs => cs.length
decreasing_by
  all_goals simp only [List.length_cons]
  · omega
  · omega
  · exact Nat.lt_succ_of_le (List.dropWhile_sublist _).length_le
  · exact Nat.lt_succ_of_le (List.dropWhile_sublist _).length_le

-- The equations of `lex` are derived here, ahead of the proofs that open it.
attribute [local grind =] lex

/-- The words of the language that cannot be names. -/
def keywords : List String :=
  ["as", "break", "const", "continue", "crate", "else", "enum", "extern", "false", "fn", "for",
    "if", "impl", "in", "let", "loop", "match", "mod", "move", "mut", "pub", "ref", "return",
    "self", "Self", "static", "struct", "super", "trait", "true", "type", "unsafe", "use",
    "where", "while", "async", "await", "dyn", "abstract", "become", "box", "do", "final",
    "macro", "override", "priv", "typeof", "unsized", "virtual", "yield", "try"]

/-- Whether a text is a name: one word that begins as words do and is not taken. -/
def isIdentifier (name : String) : Bool :=
  match name.toList with
  | [] => false
  | c :: rest =>
    alphabet.starts c && rest.all alphabet.continues && name != "_" && !keywords.contains name

/-- A text with which no word before it goes on. -/
def Parted (rest : List Char) : Prop :=
  ∀ c ∈ rest.head?, alphabet.continues c = false

variable {alphabet}

theorem parted_cons {c : Char} {rest : List Char} :
    Parted alphabet (c :: rest) ↔ alphabet.continues c = false := by
  simp [Parted]

theorem isIdentifier_iff {name : String} : isIdentifier alphabet name = true ↔
    ∃ c rest, name.toList = c :: rest ∧ alphabet.starts c = true ∧
      (∀ d ∈ rest, alphabet.continues d = true) ∧ name ≠ "_" ∧ name ∉ keywords := by
  unfold isIdentifier
  split
  · rename_i spelled
    simp [spelled]
  · rename_i c rest spelled
    simp [spelled, and_assoc]

theorem toNat_lt_of_part {c : Char} (part : (c.isAlphanum || c == '_') = true) : c.toNat < 128 := by
  simp only [Char.isAlphanum, Char.isAlpha, Char.isUpper, Char.isLower, Char.isDigit,
    Bool.or_eq_true, Bool.and_eq_true, decide_eq_true_eq, beq_iff_eq, UInt32.le_iff_toNat_le,
    ge_iff_le] at part
  have same : c.toNat = c.val.toNat := rfl
  have upper : 'Z'.val.toNat = 90 := rfl
  have lower : 'z'.val.toNat = 122 := rfl
  have digit : '9'.val.toNat = 57 := rfl
  rcases part with ((⟨-, below⟩ | ⟨-, below⟩) | ⟨-, below⟩) | rfl
  · omega
  · omega
  · omega
  · decide

/-- The characters between words are ASCII, so that no table takes them for letters. -/
theorem Alphabet.continues_eq_false {c : Char} (ascii : c.toNat < 128)
    (other : (c.isAlphanum || c == '_') = false) : alphabet.continues c = false :=
  (alphabet.continues_ascii c ascii).trans other

/-- No table lets a word of letters begin with a digit. -/
theorem isDigit_of_starts {c : Char} (starts : alphabet.starts c = true) : c.isDigit = false := by
  cases digit : c.isDigit with
  | false => rfl
  | true =>
      have range := Char.isDigit_iff_toNat.mp digit
      simp only [Char.reduceToNat] at range
      have letter := (alphabet.starts_ascii c (by omega)).symm.trans starts
      simp only [Char.isAlpha, Char.isUpper, Char.isLower, Bool.or_eq_true, Bool.and_eq_true,
        decide_eq_true_eq, UInt32.le_iff_toNat_le, beq_iff_eq, ge_iff_le] at letter
      have same : c.toNat = c.val.toNat := rfl
      rcases letter with (⟨above, -⟩ | ⟨above, -⟩) | rfl
      · have first : 'A'.val.toNat = 65 := rfl
        omega
      · have first : 'a'.val.toNat = 97 := rfl
        omega
      · simp at digit

theorem isWhitespace_of_continues {c : Char} (h : alphabet.continues c = true) :
    c.isWhitespace = false := by
  cases blank : c.isWhitespace with
  | false => rfl
  | true =>
      simp only [Char.isWhitespace, Bool.or_eq_true, decide_eq_true_eq] at blank
      rcases blank with ((rfl | rfl) | rfl) | rfl <;>
        exact absurd h (by simp [alphabet.continues_ascii])

theorem single?_of_continues {c : Char} (h : alphabet.continues c = true) :
    Token.single? c = none := by
  unfold Token.single?
  split <;> first | rfl | exact absurd h (by simp [alphabet.continues_ascii])

@[simp] theorem lex_nil : lex alphabet [] = some [] := by
  rw [lex]

@[simp] theorem lex_blank (rest : List Char) : lex alphabet (' ' :: rest) = lex alphabet rest := by
  rw [lex]
  rfl

theorem lex_single {c : Char} {token : Token} (rest : List Char) (visible : c.isWhitespace = false)
    (single : Token.single? c = some token) :
    lex alphabet (c :: rest) = (lex alphabet rest).map (token :: ·) := by
  rw [lex]
  simp [visible, single]

@[simp] theorem lex_opening (rest : List Char) :
    lex alphabet ('(' :: rest) = (lex alphabet rest).map (.opening :: ·) :=
  lex_single rest (by decide) rfl

@[simp] theorem lex_closing (rest : List Char) :
    lex alphabet (')' :: rest) = (lex alphabet rest).map (.closing :: ·) :=
  lex_single rest (by decide) rfl

@[simp] theorem lex_comma (rest : List Char) :
    lex alphabet (',' :: rest) = (lex alphabet rest).map (.comma :: ·) :=
  lex_single rest (by decide) rfl

@[simp] theorem lex_dot (rest : List Char) :
    lex alphabet ('.' :: rest) = (lex alphabet rest).map (.dot :: ·) :=
  lex_single rest (by decide) rfl

/-- A text is one word, before every text that parts from it. -/
def IsWord (alphabet : Alphabet) (word : String) : Prop :=
  ∀ rest, Parted alphabet rest →
    lex alphabet (word.toList ++ rest) = (lex alphabet rest).map (.word word :: ·)

theorem isWord_of_continues {word : String}
    (starts : ∃ c ∈ word.toList.head?, (alphabet.starts c || c.isDigit) = true)
    (continues : ∀ c ∈ word.toList, alphabet.continues c = true) : IsWord alphabet word := by
  intro rest parted
  obtain ⟨c, head, starts⟩ := starts
  obtain ⟨cs, split⟩ := List.head?_eq_some_iff.mp head
  rw [split] at continues
  have first := continues c (by simp)
  have others : ∀ d ∈ cs, alphabet.continues d = true :=
    fun d member => continues d (List.mem_cons_of_mem _ member)
  have spelled : word = .ofList (c :: cs) := by rw [← split, String.ofList_toList]
  obtain ⟨taken, dropped⟩ := Text.takeWhile_run others parted
  rw [split, List.cons_append, lex]
  simp only [isWhitespace_of_continues first, single?_of_continues first, starts, if_true,
    Bool.false_eq_true, if_false, taken, dropped, spelled]

theorem isWord_of_isIdentifier {name : String} (identifier : isIdentifier alphabet name = true) :
    IsWord alphabet name := by
  obtain ⟨c, cs, spelled, starts, continues, -⟩ := isIdentifier_iff.mp identifier
  refine isWord_of_continues ⟨c, by simp [spelled], by simp [starts]⟩ ?_
  rw [spelled]
  exact List.forall_mem_cons.mpr ⟨alphabet.continues_of_starts c starts, continues⟩

/-- Whether a text is made of the letters, the digits and the low line of ASCII. -/
def isPlain (word : String) : Bool :=
  !word.toList.isEmpty && word.toList.all fun c => c.toNat < 128 && (c.isAlphanum || c == '_')

/-- Every table takes a plain text for a word. -/
theorem isWord_of_isPlain {word : String} (plain : isPlain word = true) : IsWord alphabet word := by
  simp only [isPlain, Bool.and_eq_true, Bool.not_eq_true', List.isEmpty_eq_false_iff,
    List.all_eq_true, decide_eq_true_eq] at plain
  obtain ⟨nonempty, parts⟩ := plain
  refine isWord_of_continues ⟨_, List.head?_eq_some_head nonempty, ?_⟩ fun c member => ?_
  · obtain ⟨ascii, part⟩ := parts _ (List.head_mem nonempty)
    rw [alphabet.starts_ascii _ ascii, ← part]
    simp only [Char.isAlphanum, Bool.or_assoc, Bool.or_comm]
  · obtain ⟨ascii, part⟩ := parts c member
    rw [alphabet.continues_ascii c ascii, part]

theorem takeWhile_ascii {cs : List Char} (ascii : ∀ c ∈ cs, c.toNat < 128) :
    cs.takeWhile alphabet.continues = cs.takeWhile Alphabet.ascii.continues ∧
      cs.dropWhile alphabet.continues = cs.dropWhile Alphabet.ascii.continues := by
  induction cs with
  | nil => exact ⟨rfl, rfl⟩
  | cons c rest ih =>
      obtain ⟨taken, dropped⟩ := ih fun d member => ascii d (List.mem_cons_of_mem c member)
      have same : alphabet.continues c = Alphabet.ascii.continues c :=
        alphabet.continues_ascii c (ascii c (by simp))
      rw [List.takeWhile_cons, List.takeWhile_cons, List.dropWhile_cons, List.dropWhile_cons,
        same, taken, dropped]
      exact ⟨rfl, rfl⟩

/-- All tables cut a text of ASCII in the same way. -/
theorem lex_ascii {cs : List Char} (ascii : ∀ c ∈ cs, c.toNat < 128) :
    lex alphabet cs = lex .ascii cs := by
  induction cs using lex.induct alphabet with
  | case1 => rw [lex_nil, lex_nil]
  | case2 c rest blank ih =>
      rw [lex, lex, if_pos blank, if_pos blank, ih fun d member => ascii d (by simp [member])]
  | case3 c rest visible token single ih =>
      rw [lex, lex]
      simp only [visible, single, ih fun d member => ascii d (by simp [member])]
  | case4 c rest visible single starts ih =>
      have others : ∀ d ∈ rest, d.toNat < 128 := fun d member => ascii d (by simp [member])
      have same : alphabet.starts c = Alphabet.ascii.starts c :=
        alphabet.starts_ascii c (ascii c (by simp))
      obtain ⟨taken, dropped⟩ := @takeWhile_ascii alphabet _ others
      have later := ih fun d member => others d ((List.dropWhile_sublist _).subset member)
      rw [lex, lex]
      simp only [visible, single, ← same, starts, if_true, Bool.false_eq_true, if_false, ← taken,
        ← dropped, later]
  | case5 c rest visible single other ih =>
      have others : ∀ d ∈ rest, d.toNat < 128 := fun d member => ascii d (by simp [member])
      have same : alphabet.starts c = Alphabet.ascii.starts c :=
        alphabet.starts_ascii c (ascii c (by simp))
      have later := ih fun d member => others d ((List.dropWhile_sublist _).subset member)
      rw [lex, lex]
      simp only [visible, single, ← same, other, Bool.false_eq_true, if_false, later]

/-- A sign ends at a blank. -/
theorem lex_sign (op : Sign) (rest : List Char) :
    lex alphabet (op.text.toList ++ ' ' :: rest) = (lex alphabet rest).map (.sign op :: ·) := by
  cases op <;> simp [Sign.text, lex, Token.single?, alphabet.starts_ascii, Token.isPart] <;> rfl

end Metamorph.Guest
