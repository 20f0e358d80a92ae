import Metamorph.Proofs.Guest.Items

/-! # The lines of guest modules

Every line is made of pieces that are the same in all modules, and of names and numbers between
them. A name is a word to every table of letters if it has no letters but those of ASCII. -/

namespace Metamorph.Guest

variable {alphabet : Alphabet}

/-! ## Names of ASCII -/

/-- A name that has no letters but those of ASCII. -/
def IsName (text : String) : Prop :=
  isIdentifier .ascii text = true

namespace IsName

variable {text : String}

theorem isPlain (h : IsName text) : isPlain text = true := by
  obtain ⟨c, rest, spelled, starts, continues, -⟩ := isIdentifier_iff.mp h
  have parts : ∀ d ∈ c :: rest, (d.isAlphanum || d == '_') = true :=
    List.forall_mem_cons.mpr ⟨Alphabet.ascii.continues_of_starts c starts, continues⟩
  rw [Guest.isPlain, spelled, Bool.and_eq_true, List.all_eq_true]
  refine ⟨rfl, fun d inside => ?_⟩
  simp [toNat_lt_of_part (parts d inside), parts d inside]

/-- A name of ASCII is a name in every table. -/
theorem isIdentifier (h : IsName text) : isIdentifier alphabet text = true := by
  obtain ⟨c, rest, spelled, starts, continues, free⟩ := isIdentifier_iff.mp h
  have first := toNat_lt_of_part (Alphabet.ascii.continues_of_starts c starts)
  refine isIdentifier_iff.mpr ⟨c, rest, spelled, (alphabet.starts_ascii c first).trans starts,
    fun d inside => ?_, free⟩
  have part := continues d inside
  exact (alphabet.continues_ascii d (toNat_lt_of_part part)).trans part

end IsName

theorem isPlain_number (n : Nat) : isPlain (toString n) = true :=
  isPlain_of_digits (by rw [Nat.toString_eq_repr, Nat.toList_repr, List.append_nil]) rfl

/-- Nothing in a plain text is part of a sign. -/
theorem isPart_of_isPlain {text : String} (plain : isPlain text = true) :
    ∀ d ∈ text.toList, Token.isPart d = false := by
  intro d inside
  simp only [isPlain, Bool.and_eq_true, List.all_eq_true] at plain
  have part := (plain.2 d inside).2
  cases sign : Token.isPart d with
  | false => rfl
  | true =>
      rw [Token.isPart, List.contains_iff_mem] at sign
      fin_cases sign <;> cases part

theorem Separates.plain {text : String} (plain : isPlain text = true) {c : Char}
    (ascii : c.toNat < 128) (other : (c.isAlphanum || c == '_') = false) :
    Separates alphabet text.toList c :=
  ⟨Alphabet.continues_eq_false ascii other, .inr (.inr (isPart_of_isPlain plain))⟩

/-- A plain text in front of a character that goes on with no word is a word of its own. -/
theorem Scans.word {text : String} (plain : isPlain text = true) {c : Char} (ascii : c.toNat < 128)
    (other : (c.isAlphanum || c == '_') = false) {rest : List Char} {tokens : List Token}
    (back : Scans alphabet (c :: rest) tokens) :
    Scans alphabet (text.toList ++ c :: rest) (.word text :: tokens) :=
  (Scans.plain plain).append (.plain plain ascii other) back

theorem Separates.blank {front : List Char} (noComment : '/' ∉ front) :
    Separates alphabet front ' ' :=
  ⟨Alphabet.continues_eq_false (by decide) (by decide), .inr (.inl ⟨noComment, by decide⟩)⟩

/-! ## Pieces of text

What is the same in every module is cut by computing, once and for all tables. -/

/-- The pieces of text that names and numbers are put between. -/
inductive Piece where
  | allowance | expected | semicolon
  | derived | record | visible | ofWords | brace
  | impl | method | self | colon | comma
  | inlined | quotientHead | quotientBody | remainderHead | remainderBody
  | function | toWord | toArray | array | call | lastCall | bracket

namespace Piece

def text : Piece → String
  | allowance => "#![allow(unused_parens, clippy::all)]"
  | expected => "pub const EXPECTED: u32 ="
  | semicolon => ";"
  | derived => "#[derive(Clone, Copy, Debug)]"
  | record => "pub struct Inputs \x7b"
  | visible => "    pub"
  | ofWords => ": u32,"
  | brace => "\x7d"
  | impl => "impl Inputs \x7b"
  | method => "    pub fn recorded() -> Self \x7b"
  | self => "        Self \x7b"
  | colon => ":"
  | comma => ","
  | inlined => "#[inline(always)]"
  | quotientHead => "fn rv_div(a: u32, b: u32) -> u32 \x7b"
  | quotientBody => "    if b == 0 \x7b u32::MAX \x7d else \x7b a / b \x7d"
  | remainderHead => "fn rv_rem(a: u32, b: u32) -> u32 \x7b"
  | remainderBody => "    if b == 0 \x7b a \x7d else \x7b a % b \x7d"
  | function => "pub fn"
  | toWord => "(inputs: &Inputs) -> u32 \x7b"
  | toArray => "(inputs: &Inputs) -> [u32;"
  | array => "] \x7b"
  | call => "(inputs),"
  | lastCall => "(inputs)]"
  | bracket => "]"

/-- The head of a helper behind its name. -/
def helperTokens : List Token :=
  [.opening, .word "a", .mark ":", .word "u32", .comma, .word "b", .mark ":", .word "u32",
    .closing, .mark "->", .word "u32", .mark "\x7b"]

def tokens : Piece → List Token
  | allowance => Items.allowanceTokens
  | expected => [.word "pub", .word "const", .word "EXPECTED", .mark ":", .word "u32", .mark "="]
  | semicolon => [.mark ";"]
  | derived => Items.derivedTokens
  | record => [.word "pub", .word "struct", .word "Inputs", .mark "\x7b"]
  | visible => [.word "pub"]
  | ofWords => [.mark ":", .word "u32", .comma]
  | brace => [.mark "\x7d"]
  | impl => [.word "impl", .word "Inputs", .mark "\x7b"]
  | method =>
    [.word "pub", .word "fn", .word "recorded", .opening, .closing, .mark "->", .word "Self",
      .mark "\x7b"]
  | self => [.word "Self", .mark "\x7b"]
  | colon => [.mark ":"]
  | comma => [.comma]
  | inlined =>
    [.mark "#", .mark "[", .word "inline", .opening, .word "always", .closing, .mark "]"]
  | quotientHead => .word "fn" :: .word "rv_div" :: helperTokens
  | quotientBody =>
    [.word "if", .word "b", .sign .eq, .word "0"] ++ Helper.branchTokens .most ++ .word "else" ::
      Helper.branchTokens (.quotient "a" "b")
  | remainderHead => .word "fn" :: .word "rv_rem" :: helperTokens
  | remainderBody =>
    [.word "if", .word "b", .sign .eq, .word "0"] ++ Helper.branchTokens (.parameter "a") ++
      .word "else" :: Helper.branchTokens (.remainder "a" "b")
  | function => [.word "pub", .word "fn"]
  | toWord =>
    [.opening, .word "inputs", .mark ":", .sign .bitAnd, .word "Inputs", .closing, .mark "->",
      .word "u32", .mark "\x7b"]
  | toArray =>
    [.opening, .word "inputs", .mark ":", .sign .bitAnd, .word "Inputs", .closing, .mark "->",
      .mark "[", .word "u32", .mark ";"]
  | array => [.mark "]", .mark "\x7b"]
  | call => [.opening, .word "inputs", .closing, .comma]
  | lastCall => [.opening, .word "inputs", .closing, .mark "]"]
  | bracket => [.mark "]"]

theorem scans (piece : Piece) : Scans alphabet piece.text.toList piece.tokens := by
  cases piece <;> exact .fixed (by decide +kernel) (by decide +kernel)

end Piece

/-! ## Lines

Each kind of line that has a name or a number in it. -/

section

open Items

variable {name : String} (plain : isPlain name = true)

theorem scans_empty : Scans alphabet "".toList [] :=
  scan_nil

theorem scans_expected (value : UInt32) :
    Scans alphabet ("pub const EXPECTED: u32 = " ++ toString value ++ ";").toList
      (tokens (.constant "EXPECTED" value)) := by
  have number : isPlain (toString value) = true := isPlain_number value.toNat
  have spelled : ("pub const EXPECTED: u32 = " ++ toString value ++ ";").toList =
      "pub const EXPECTED: u32 =".toList ++ ' ' :: ((toString value).toList ++ ';' :: []) := by
    simp
  rw [spelled]
  exact (Piece.scans .expected).append (.blank (by simp [Piece.text]))
    (Scans.word number (by decide) (by decide) (Piece.scans .semicolon)).blank

include plain

theorem scans_field :
    Scans alphabet ("    pub " ++ name ++ ": u32,").toList (fieldTokens name) := by
  have spelled : ("    pub " ++ name ++ ": u32,").toList =
      "    pub".toList ++ ' ' :: (name.toList ++ ':' :: " u32,".toList) := by
    simp
  rw [spelled]
  exact (Piece.scans .visible).append (.blank (by simp [Piece.text]))
    (Scans.word plain (by decide) (by decide) (Piece.scans .ofWords)).blank

theorem scans_value (value : UInt32) :
    Scans alphabet ("            " ++ name ++ ": " ++ toString value ++ ",").toList
      (valueTokens (name, value)) := by
  have number : isPlain (toString value) = true := isPlain_number value.toNat
  have spelled : ("            " ++ name ++ ": " ++ toString value ++ ",").toList =
      List.replicate 12 ' ' ++
        (name.toList ++ ':' :: (' ' :: ((toString value).toList ++ [',']))) := by
    simp
  have assigned : Scans alphabet (':' :: (' ' :: ((toString value).toList ++ [','])))
      [.mark ":", .word (toString value), .comma] :=
    (Piece.scans .colon).append (.blank (by simp [Piece.text]))
      (Scans.word number (by decide) (by decide) (Piece.scans .comma)).blank
  rw [spelled]
  exact (Scans.word plain (by decide) (by decide) assigned).blanks 12

theorem scans_function :
    Scans alphabet ("pub fn " ++ name ++ "(inputs: &Inputs) -> u32 \x7b").toList
      (Piece.tokens .function ++ .word name :: Piece.tokens .toWord) := by
  have spelled : ("pub fn " ++ name ++ "(inputs: &Inputs) -> u32 \x7b").toList =
      "pub fn".toList ++ ' ' :: (name.toList ++ '(' :: "inputs: &Inputs) -> u32 \x7b".toList) := by
    simp
  rw [spelled]
  exact (Piece.scans .function).append (.blank (by simp [Piece.text]))
    (Scans.word plain (by decide) (by decide) (Piece.scans .toWord)).blank

theorem scans_entry (count : Nat) :
    Scans alphabet
      ("pub fn " ++ name ++ "(inputs: &Inputs) -> [u32; " ++ toString count ++ "] \x7b").toList
      (Piece.tokens .function ++ .word name ::
        (Piece.tokens .toArray ++ .word (toString count) :: Piece.tokens .array)) := by
  have number : isPlain (toString count) = true := isPlain_number count
  have spelled :
      ("pub fn " ++ name ++ "(inputs: &Inputs) -> [u32; " ++ toString count ++ "] \x7b").toList =
        "pub fn".toList ++ ' ' :: (name.toList ++ '(' :: ("inputs: &Inputs) -> [u32;".toList ++
          ' ' :: ((toString count).toList ++ ']' :: " \x7b".toList))) := by
    simp
  have array : Scans alphabet ('(' :: ("inputs: &Inputs) -> [u32;".toList ++ ' ' ::
      ((toString count).toList ++ ']' :: " \x7b".toList))) _ :=
    (Piece.scans .toArray).append (.blank (by simp [Piece.text]))
      (Scans.word number (by decide) (by decide) (Piece.scans .array)).blank
  rw [spelled]
  exact (Piece.scans .function).append (.blank (by simp [Piece.text]))
    (Scans.word plain (by decide) (by decide) array).blank

omit plain

theorem scans_calls {names : List String} (plain : ∀ name ∈ names, isPlain name = true) :
    Scans alphabet ((", ".intercalate (names.map (· ++ "(inputs)"))) ++ "]").toList
      (callTokens (names.map (·, "inputs"))) := by
  induction names with
  | nil => exact Piece.scans .bracket
  | cons name names ih =>
      obtain ⟨first, others⟩ := List.forall_mem_cons.mp plain
      cases names with
      | nil =>
          have spelled : ((", ".intercalate ([name].map (· ++ "(inputs)"))) ++ "]").toList =
              name.toList ++ '(' :: "inputs)]".toList := by
            simp
          rw [spelled]
          exact .word first (by decide) (by decide) (Piece.scans .lastCall)
      | cons next names =>
          have spelled :
              ((", ".intercalate ((name :: next :: names).map (· ++ "(inputs)"))) ++ "]").toList =
                name.toList ++ '(' :: ("inputs),".toList ++ ' ' ::
                  ((", ".intercalate ((next :: names).map (· ++ "(inputs)"))) ++ "]").toList) := by
            simp [-String.toList_intercalate]
          rw [spelled]
          exact .word first (by decide) (by decide)
            ((Piece.scans .call).append (.blank (by simp [Piece.text])) (ih others).blank)

theorem scans_array {names : List String} (plain : ∀ name ∈ names, isPlain name = true) :
    Scans alphabet ("    [" ++ ", ".intercalate (names.map (· ++ "(inputs)")) ++ "]").toList
      (.mark "[" :: callTokens (names.map (·, "inputs"))) := by
  have spelled : ("    [" ++ ", ".intercalate (names.map (· ++ "(inputs)")) ++ "]").toList =
      List.replicate 4 ' ' ++
        '[' :: (", ".intercalate (names.map (· ++ "(inputs)")) ++ "]").toList := by
    simp [-String.toList_intercalate]
  have alone : Token.alone? '[' = some (.mark "[") := by decide
  have code : ¬ ('[' = '/' ∧
      (", ".intercalate (names.map (· ++ "(inputs)")) ++ "]").toList.head? = some '/') := by
    rintro ⟨other, -⟩
    exact absurd other (by decide)
  have scanned : scan alphabet _ = _ := scan_alone (by decide) code alone
  have calls : Scans alphabet _ _ := scans_calls plain
  rw [spelled]
  refine Scans.blanks ?_ 4
  rw [Scans] at calls ⊢
  rw [scanned, calls, Option.map_some]

end

end Metamorph.Guest
