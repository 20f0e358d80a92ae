import Metamorph.Guest.Expression
import Metamorph.Proofs.Circuit.WellFormed
import Metamorph.Proofs.Guest.Meaning

/-! # Rendered trees

The text of a tree is one expression, and it says what the tree says. Every operand is
written so that it reads as the tightest of expressions, whatever stands around it, and that
is what one step of the induction hands to the next. -/

namespace Metamorph.Guest

variable (alphabet : Alphabet)

/-- A text has the tokens of an expression that nothing around it can break up. -/
structure Spells (text : String) (tokens : List Token) (t : Term) : Prop where
  cut : ∀ rest, Parted alphabet rest →
    lex alphabet (text.toList ++ rest) = (lex alphabet rest).map (tokens ++ ·)
  reads : Reads alphabet 0 tokens t
  clear : ¬ castTokens <:+ tokens

variable {alphabet}

@[simp] theorem parted_opening (rest : List Char) : Parted alphabet ('(' :: rest) :=
  parted_cons.mpr (Alphabet.continues_eq_false (by decide) (by decide))

@[simp] theorem parted_closing (rest : List Char) : Parted alphabet (')' :: rest) :=
  parted_cons.mpr (Alphabet.continues_eq_false (by decide) (by decide))

@[simp] theorem parted_comma (rest : List Char) : Parted alphabet (',' :: rest) :=
  parted_cons.mpr (Alphabet.continues_eq_false (by decide) (by decide))

@[simp] theorem parted_dot (rest : List Char) : Parted alphabet ('.' :: rest) :=
  parted_cons.mpr (Alphabet.continues_eq_false (by decide) (by decide))

@[simp] theorem parted_blank (rest : List Char) : Parted alphabet (' ' :: rest) :=
  parted_cons.mpr (Alphabet.continues_eq_false (by decide) (by decide))

/-- Tokens that end with a parenthesis do not end with a cast. -/
theorem clear_closing (tokens : List Token) : ¬ castTokens <:+ tokens ++ [.closing] := by
  rintro ⟨before, same⟩
  have last := congrArg List.getLast? same
  simp [castTokens] at last

namespace Spells

variable {a b : String} {tokens tokens' : List Token} {t t' : Term}

theorem loose (h : Spells alphabet a tokens t) (level : Nat) : Reads alphabet level tokens t :=
  h.reads.mono (Nat.zero_le level)

/-- A text with nothing around it is an expression. -/
theorem parses (h : Spells alphabet a tokens t) : Parses alphabet a t := by
  refine ⟨tokens, ?_, h.loose _⟩
  simpa using h.cut [] (by simp [Parted])

theorem between (op : Sign) (ha : Spells alphabet a tokens t) (hb : Spells alphabet b tokens' t') :
    Spells alphabet (Guest.between op.text a b)
      (.opening :: (tokens ++ .sign op :: tokens') ++ [.closing]) (.sign op t t') where
  cut rest _ := by
    simp [Guest.between, ha.cut, hb.cut, lex_sign, Function.comp_def]
  reads := .paren (.sign op op.level_le (fun _ => ha.clear) (ha.loose _) (hb.loose _))
  clear := clear_closing _

theorem cast (h : Spells alphabet a tokens t) :
    Spells alphabet ("(" ++ a ++ " as u32)") (.opening :: (tokens ++ castTokens) ++ [.closing])
      (.toWord t) where
  cut rest _ := by
    have opening : "(".toList = ['('] := by rfl
    have words : " as u32)".toList = ' ' :: ("as".toList ++ ' ' :: ("u32".toList ++ [')'])) := by
      rfl
    have as : IsWord alphabet "as" := isWord_of_isPlain (by rfl)
    have u32 : IsWord alphabet "u32" := isWord_of_isPlain (by rfl)
    simp [opening, words, h.cut, as _ (parted_blank _), u32 _ (parted_closing _), castTokens,
      Function.comp_def, -String.reduceToList]
  reads := .paren (.cast (by decide) (h.loose 1))
  clear := clear_closing _

theorem neg (h : Spells alphabet a tokens t) :
    Spells alphabet (methodCall "wrapping_neg" a [])
      (.opening :: tokens ++ [.closing] ++ [.dot, .word "wrapping_neg", .opening, .closing])
      (.neg t) where
  cut rest _ := by
    have name : IsWord alphabet "wrapping_neg" := isWord_of_isPlain (by rfl)
    have calls := by simpa using name ('(' :: ')' :: rest) (parted_opening _)
    simp [methodCall, h.cut, calls, Function.comp_def]
  reads := .neg (.paren (h.loose _))
  clear := by
    rw [← List.reverse_prefix]
    simp [castTokens]

theorem wrapping (method : Wrapping) (ha : Spells alphabet a tokens t)
    (hb : Spells alphabet b tokens' t') :
    Spells alphabet (methodCall method.name a [b])
      (.opening :: tokens ++ [.closing] ++ .dot :: .word method.name :: .opening :: tokens' ++
        [.closing])
      (.wrapping method t t') where
  cut rest _ := by
    have name : IsWord alphabet method.name := isWord_of_isPlain (by cases method <;> rfl)
    simp [methodCall, ha.cut, hb.cut, name _ (parted_opening _), Function.comp_def]
  reads := .wrapping method (.paren (ha.loose _)) (hb.loose _)
  clear := clear_closing _

theorem call {function : String} (identifier : isIdentifier alphabet function = true)
    (ha : Spells alphabet a tokens t) (hb : Spells alphabet b tokens' t') :
    Spells alphabet (functionCall function [a, b])
      (.word function :: .opening :: tokens ++ .comma :: tokens' ++ [.closing])
      (.call function t t') where
  cut rest _ := by
    have name := isWord_of_isIdentifier identifier
    simp [functionCall, ha.cut, hb.cut, name _ (parted_opening _), Function.comp_def]
  reads := .call identifier (ha.loose _) (hb.loose _)
  clear := clear_closing _

theorem input {name : String} (identifier : isIdentifier alphabet name = true) :
    Spells alphabet ("inputs." ++ name) [.word "inputs", .dot, .word name] (.input name) where
  cut rest parted := by
    have record : "inputs.".toList = "inputs".toList ++ ['.'] := by rfl
    have inputs : IsWord alphabet "inputs" := isWord_of_isPlain (by rfl)
    simp [record, inputs _ (parted_dot _), isWord_of_isIdentifier identifier _ parted,
      Function.comp_def, -String.reduceToList]
  reads := .input identifier
  clear := by
    rw [← List.reverse_prefix]
    simp [castTokens]

/-- A plain word that is a number stands for the number. -/
theorem literal {word : String} {value : UInt32} (plain : isPlain word = true)
    (number : literal? word = some value) :
    Spells alphabet word [.word word] (.literal value) where
  cut := isWord_of_isPlain plain
  reads := .literal number
  clear := by
    rw [← List.reverse_prefix]
    simp [castTokens]

end Spells

/-! ## Numbers -/

theorem toList_word (value : UInt32) : (toString value).toList = Nat.toDigits 10 value.toNat :=
  Nat.toList_repr

/-- A constant is written as its digits and the type of a word. -/
theorem toList_constant (value : UInt32) :
    (toString value ++ "u32").toList = Nat.toDigits 10 value.toNat ++ "u32".toList := by
  rw [String.toList_append, toList_word]

theorem isDigit_of_mem_toDigits {n : Nat} : ∀ c ∈ Nat.toDigits 10 n, c.isDigit = true :=
  fun _ member => Nat.isDigit_of_mem_toDigits (by decide) (by decide) member

/-- Digits are a plain word, and so are they with what may go on with a word. -/
theorem isPlain_of_digits {text : String} {n : Nat} {suffix : List Char}
    (spelled : text.toList = Nat.toDigits 10 n ++ suffix)
    (plain : (suffix.all fun c => c.toNat < 128 && (c.isAlphanum || c == '_')) = true) :
    isPlain text = true := by
  have digits : ∀ c ∈ Nat.toDigits 10 n, (c.toNat < 128 && (c.isAlphanum || c == '_')) = true := by
    intro c member
    have part : (c.isAlphanum || c == '_') = true := by
      simp [Char.isAlphanum, isDigit_of_mem_toDigits c member]
    simp [toNat_lt_of_part part, part]
  rw [isPlain, spelled, List.all_append, List.all_eq_true.mpr digits, plain]
  simp

/-- The digits of a word are its number, with its type behind them or without. -/
theorem literal?_of_digits {text : String} {value : UInt32} {suffix : List Char}
    (spelled : text.toList = Nat.toDigits 10 value.toNat ++ suffix)
    (type : suffix = [] ∨ suffix = "u32".toList) : literal? text = some value := by
  have digits := @isDigit_of_mem_toDigits value.toNat
  have stops : ∀ c ∈ suffix.head?, c.isDigit = false := by
    rcases type with rfl | rfl <;> simp
  obtain ⟨number, behind⟩ := Text.takeWhile_run digits stops
  have some_digit : Nat.toDigits 10 value.toNat ≠ [] := by simp
  simp only [literal?, spelled, number, behind, Nat.ofDigitChars_ten_toDigits]
  rw [if_pos ⟨some_digit, type, value.toNat_lt_size⟩, UInt32.ofNat_toNat]

/-- The text of a constant is a plain word. -/
theorem isPlain_constant (value : UInt32) : isPlain (toString value ++ "u32") = true :=
  isPlain_of_digits (toList_constant value) (by decide)

/-- The text of a constant is the number of its value. -/
theorem literal?_constant (value : UInt32) : literal? (toString value ++ "u32") = some value :=
  literal?_of_digits (toList_constant value) (.inr rfl)

end Metamorph.Guest

namespace Metamorph

open Guest

variable {alphabet : Alphabet} {a b : String} {tokens tokens' : List Token} {t t' : Term}

/-- In every table the helpers for division have names. -/
theorem isIdentifier_division :
    isIdentifier alphabet "rv_div" = true ∧ isIdentifier alphabet "rv_rem" = true := by
  constructor <;> simp [isIdentifier, keywords, alphabet.starts_ascii, alphabet.continues_ascii]

theorem UnaryOp.spells (op : UnaryOp) (h : Spells alphabet a tokens t) :
    ∃ all, Spells alphabet (renderUnary op a) all (op.toTerm t) := by
  cases op with
  | neg => exact ⟨_, h.neg⟩
  | not => exact ⟨_, h.between .bitXor (.literal (by rfl) (by rfl))⟩

theorem BinaryOp.spells (op : BinaryOp) (ha : Spells alphabet a tokens t)
    (hb : Spells alphabet b tokens' t') :
    ∃ all, Spells alphabet (renderBinary op a b) all (op.toTerm t t') := by
  cases op with
  | add => exact ⟨_, ha.wrapping .add hb⟩
  | sub => exact ⟨_, ha.wrapping .sub hb⟩
  | mul => exact ⟨_, ha.wrapping .mul hb⟩
  | shl => exact ⟨_, ha.wrapping .shl hb⟩
  | shr => exact ⟨_, ha.wrapping .shr hb⟩
  | div => exact ⟨_, .call isIdentifier_division.1 ha hb⟩
  | rem => exact ⟨_, .call isIdentifier_division.2 ha hb⟩
  | bitAnd | and => exact ⟨_, ha.between .bitAnd hb⟩
  | bitOr | or => exact ⟨_, ha.between .bitOr hb⟩
  | bitXor | xor => exact ⟨_, ha.between .bitXor hb⟩
  | eq => exact ⟨_, (ha.between .eq hb).cast⟩
  | ne => exact ⟨_, (ha.between .ne hb).cast⟩
  | lt => exact ⟨_, (ha.between .lt hb).cast⟩
  | le => exact ⟨_, (ha.between .le hb).cast⟩
  | gt => exact ⟨_, (ha.between .gt hb).cast⟩
  | ge => exact ⟨_, (ha.between .ge hb).cast⟩

/-- The text of a tree says the term of the tree. -/
theorem Expr.spells {e : Expr}
    (identifiers : ∀ name ∈ e.variableNames, isIdentifier alphabet name = true) :
    ∃ tokens, Spells alphabet (render e) tokens e.toTerm := by
  induction e with
  | const _ value => exact ⟨_, .literal (isPlain_constant value) (literal?_constant value)⟩
  | var _ name => exact ⟨_, .input (identifiers name (by simp [variableNames]))⟩
  | unary _ op operand ih =>
      obtain ⟨tokens, spelled⟩ := ih identifiers
      exact op.spells spelled
  | binary _ op lhs rhs ihl ihr =>
      obtain ⟨tokens, left⟩ :=
        ihl fun name used => identifiers name (by simp [variableNames, used])
      obtain ⟨tokens', right⟩ :=
        ihr fun name used => identifiers name (by simp [variableNames, used])
      exact op.spells left right
  | cast _ operand ih => exact ih identifiers

namespace Circuit

/-- The text of a valid circuit is one expression, namely that of its tree, and with the helpers
of the module it computes what the tree evaluates to. -/
theorem render_faithful {circuit : Circuit} {env : Env} (valid : circuit.validate = .ok ())
    (identifiers : ∀ name ∈ circuit.root.variableNames, isIdentifier alphabet name = true)
    (assigned : Assigns env circuit.inputs) :
    Defines alphabet helpers division ∧ ∃ value, circuit.root.evaluate env = .ok value ∧
      Parses alphabet (render circuit.root) circuit.root.toTerm ∧
      circuit.root.toTerm.value division env = some (.word value) ∧
      ∀ t, Parses alphabet (render circuit.root) t → t = circuit.root.toTerm := by
  have wellFormed := validate_eq_ok.mp valid
  have suits := wellFormed.suits assigned
  obtain ⟨value, evaluated, -⟩ := wellFormed.wellKinded.evaluate suits
  obtain ⟨tokens, spelled⟩ := Expr.spells identifiers
  exact ⟨defines_helpers alphabet, value, evaluated, spelled.parses, wellFormed.wellKinded.value_toTerm suits evaluated,
    fun t parsed => parsed.unique spelled.parses⟩

/-- A circuit with signs, calls and comparisons inside each other. -/
def nested : Circuit :=
  let word := Expr.var .field "f0"
  let truth := Expr.var .bool "b0"
  let order := BinaryOp.lt.on word (BinaryOp.shl.on (.field 1) word)
  ofTree "nested" [⟨"f0", .field, 37⟩, ⟨"b0", .bool, 1⟩]
    (BinaryOp.rem.on (UnaryOp.neg.on (.toField (BinaryOp.xor.on (UnaryOp.not.on truth) order)))
      (BinaryOp.bitOr.on word (.field 4294967295)))

theorem render_faithful_nested :
    nested.validate = .ok () ∧
    (∀ name ∈ nested.root.variableNames, isIdentifier .ascii name = true) ∧
    Assigns nested.env nested.inputs ∧
    Defines .ascii helpers division ∧ ∃ value, nested.root.evaluate nested.env = .ok value ∧
      Parses .ascii (render nested.root) nested.root.toTerm ∧
      nested.root.toTerm.value division nested.env = some (.word value) ∧
      ∀ t, Parses .ascii (render nested.root) t → t = nested.root.toTerm := by
  have valid : nested.validate = .ok () := by rfl
  have identifiers : ∀ name ∈ nested.root.variableNames, isIdentifier .ascii name = true := by
    decide +kernel
  have assigned := (validate_eq_ok.mp valid).assigns_env
  exact ⟨valid, identifiers, assigned, render_faithful valid identifiers assigned⟩

end Circuit

end Metamorph
