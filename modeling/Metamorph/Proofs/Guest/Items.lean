import Metamorph.Proofs.Guest.Rendering
import Metamorph.Proofs.Guest.Scanning

/-! # The items of a guest module

What a module consists of, and a reader that takes one item after the other from the front of its
tokens. Names have to be names, and nothing is left over. An item that is written with its tokens
is read back, whatever follows it. -/

namespace Metamorph.Guest

/-- A part of a guest module. -/
inductive Item where
  /-- What the compiler is told to let pass. -/
  | allowance
  | constant (name : String) (value : UInt32)
  | record (name : String) (fields : List String)
  /-- A function of a record that gives values to its fields. -/
  | recorded (record function : String) (values : List (String × UInt32))
  | helper (helper : Helper)
  /-- A function of a record to a word, with the tokens of its body. -/
  | function (name parameter record : String) (body : List Token)
  /-- A function of a record to an array of words that calls functions with arguments. -/
  | entry (name parameter record : String) (length : Nat) (calls : List (String × String))
  deriving DecidableEq

namespace Items

open Helper (Read exactly)

variable (alphabet : Alphabet)

/-- The number of decimal digits, which may be of any size. -/
def count? (word : String) : Option Nat :=
  if word.toList ≠ [] ∧ word.toList.all Char.isDigit = true then
    some (Nat.ofDigitChars 10 word.toList 0)
  else none

def name : Read String
  | .word text :: rest => if isIdentifier alphabet text then some (text, rest) else none
  | _ => none

def value : Read UInt32
  | .word text :: rest => (literal? text).map (·, rest)
  | _ => none

def length : Read Nat
  | .word text :: rest => (count? text).map (·, rest)
  | _ => none

/-- The fields of a record up to the brace behind them, all of them words. -/
def fields : Read (List String)
  | .mark "\x7d" :: rest => some ([], rest)
  | .word "pub" :: .word field :: .mark ":" :: .word "u32" :: .comma :: rest =>
    if isIdentifier alphabet field then
      (fields rest).map fun (others, rest) => (field :: others, rest)
    else none
  | _ => none

/-- The values that fields are given, up to the brace behind them. -/
def values : Read (List (String × UInt32))
  | .mark "\x7d" :: rest => some ([], rest)
  | .word field :: .mark ":" :: .word number :: .comma :: rest =>
    if isIdentifier alphabet field then
      (literal? number).bind fun value =>
        (values rest).map fun (others, rest) => ((field, value) :: others, rest)
    else none
  | _ => none

/-- Calls with one argument up to the bracket behind them, with commas between them. -/
def calls : Read (List (String × String))
  | .mark "]" :: rest => some ([], rest)
  | .word function :: .opening :: .word argument :: .closing :: .mark "]" :: rest =>
    some ([(function, argument)], rest)
  | .word function :: .opening :: .word argument :: .closing :: .comma :: rest =>
    (calls rest).map fun (others, rest) => ((function, argument) :: others, rest)
  | _ => none

/-- Tokens up to the next brace that closes, without braces between them. -/
def body : Read (List Token)
  | .mark "\x7d" :: rest => some ([], rest)
  | .mark _ :: _ => none
  | token :: rest => (body rest).map fun (others, rest) => (token :: others, rest)
  | [] => none

def allowanceTokens : List Token :=
  [.mark "#", .mark "!", .mark "[", .word "allow", .opening, .word "unused_parens", .comma,
    .word "clippy", .mark "::", .word "all", .closing, .mark "]"]

def derivedTokens : List Token :=
  [.mark "#", .mark "[", .word "derive", .opening, .word "Clone", .comma, .word "Copy", .comma,
    .word "Debug", .closing, .mark "]"]

def allowance : Read Item := do
  exactly allowanceTokens
  return .allowance

def constant : Read Item := do
  exactly [.word "pub", .word "const"]
  let name ← name alphabet
  exactly [.mark ":", .word "u32", .mark "="]
  let value ← value
  exactly [.mark ";"]
  return .constant name value

def record : Read Item := do
  exactly derivedTokens
  exactly [.word "pub", .word "struct"]
  let name ← name alphabet
  exactly [.mark "\x7b"]
  let fields ← fields alphabet
  return .record name fields

def recorded : Read Item := do
  exactly [.word "impl"]
  let record ← name alphabet
  exactly [.mark "\x7b", .word "pub", .word "fn"]
  let function ← name alphabet
  exactly [.opening, .closing, .mark "->", .word "Self", .mark "\x7b", .word "Self", .mark "\x7b"]
  let values ← values alphabet
  exactly [.mark "\x7d", .mark "\x7d"]
  return .recorded record function values

/-- The type of a result and the body of a function: an expression, or calls in an array. -/
def result (name parameter record : String) : Read Item
  | .word "u32" :: .mark "\x7b" :: rest => (do
      let body ← body
      return .function name parameter record body : Read Item) rest
  | .mark "[" :: .word "u32" :: .mark ";" :: rest => (do
      let length ← length
      exactly [.mark "]", .mark "\x7b", .mark "["]
      let calls ← calls
      exactly [.mark "\x7d"]
      return .entry name parameter record length calls : Read Item) rest
  | _ => none

def function : Read Item := do
  exactly [.word "pub", .word "fn"]
  let name ← name alphabet
  exactly [.opening]
  let parameter ← Items.name alphabet
  exactly [.mark ":", .sign .bitAnd]
  let record ← Items.name alphabet
  exactly [.closing, .mark "->"]
  result name parameter record

/-- One item; its first tokens tell which it is. -/
def read : Read Item
  | .mark "#" :: .mark "!" :: rest => allowance (.mark "#" :: .mark "!" :: rest)
  | .word "pub" :: .word "const" :: rest => constant alphabet (.word "pub" :: .word "const" :: rest)
  | .mark "#" :: .mark "[" :: .word "derive" :: rest =>
    record alphabet (.mark "#" :: .mark "[" :: .word "derive" :: rest)
  | .word "impl" :: rest => recorded alphabet (.word "impl" :: rest)
  | .word "pub" :: .word "fn" :: rest => function alphabet (.word "pub" :: .word "fn" :: rest)
  | tokens => (Helper.read.map .helper : Read Item) tokens

/-- The items of so many tokens at most, which are nothing else. -/
def readAll : Nat → List Token → Option (List Item)
  | _, [] => some []
  | 0, _ => none
  | count + 1, tokens => do
    let (first, rest) ← read alphabet tokens
    return first :: (← readAll count rest)

end Items

/-- The items of a text, if it is a module. -/
def items? (alphabet : Alphabet) (text : String) : Option (List Item) :=
  (scan alphabet text.toList).bind fun tokens => Items.readAll alphabet tokens.length tokens

/-! ## Writing items

The law of a reader says what it takes from the front of the tokens that it is there for. -/

namespace Helper

variable {α β : Type}

theorem bind_of_eq {reader : Read α} {next : α → Read β} {a : α} {tokens rest : List Token}
    (first : reader tokens = some (a, rest)) : (reader >>= next) tokens = next a rest := by
  simp [bind, StateT.bind, first]

theorem pure_apply (a : α) (rest : List Token) : (pure a : Read α) rest = some (a, rest) :=
  rfl

variable (rest : List Token)

theorem exactly_bind (wanted : List Token) (next : Unit → Read β) :
    (exactly wanted >>= next) (wanted ++ rest) = next () rest :=
  bind_of_eq (by simp [exactly])

theorem word_bind (text : String) (next : String → Read β) :
    (word >>= next) ([.word text] ++ rest) = next text rest :=
  bind_of_eq rfl

def parameterTokens (parameter : String) : List Token :=
  [.word parameter] ++ [.mark ":", .word "u32"]

theorem parameter_bind (name : String) (next : String → Read β) :
    (parameter >>= next) (parameterTokens name ++ rest) = next name rest := by
  refine bind_of_eq ?_
  simp only [parameter, parameterTokens, List.append_assoc, word_bind, exactly_bind, pure_apply]

def branchTokens : Branch → List Token
  | .most => [.mark "\x7b", .word "u32", .mark "::", .word "MAX", .mark "\x7d"]
  | .parameter a => [.mark "\x7b", .word a, .mark "\x7d"]
  | .quotient a b => [.mark "\x7b", .word a, .mark "/", .word b, .mark "\x7d"]
  | .remainder a b => [.mark "\x7b", .word a, .mark "%", .word b, .mark "\x7d"]

theorem branch_bind (written : Branch) (next : Branch → Read β) :
    (branch >>= next) (branchTokens written ++ rest) = next written rest := by
  refine bind_of_eq ?_
  cases written <;> simp [branch, branchTokens]

/-- The tokens that a helper is written with. -/
def tokens (helper : Helper) : List Token := List.flatten
  [[.mark "#", .mark "[", .word "inline", .opening, .word "always", .closing, .mark "]"],
    [.word "fn"], [.word helper.name], [.opening], parameterTokens helper.first, [.comma],
    parameterTokens helper.second,
    [.closing, .mark "->", .word "u32", .mark "\x7b", .word "if"], [.word helper.tested],
    [.sign .eq, .word "0"], branchTokens helper.zero, [.word "else"],
    branchTokens helper.nonzero, [.mark "\x7d"]]

theorem read_tokens (helper : Helper) : read (helper.tokens ++ rest) = some (helper, rest) := by
  simp only [read, tokens, List.flatten_cons, List.flatten_nil, List.append_assoc,
    List.nil_append, exactly_bind, word_bind, parameter_bind, branch_bind, pure_apply]

end Helper

namespace Items

open Helper (Read exactly bind_of_eq pure_apply exactly_bind)

variable {alphabet : Alphabet} {β : Type} (rest : List Token)

/-- The digits of a word alone are its number too. -/
theorem literal?_number (value : UInt32) : literal? (toString value) = some value :=
  literal?_of_digits (by rw [toList_word, List.append_nil]) (.inl rfl)

theorem count?_number (n : Nat) : count? (toString n) = some n := by
  have digits := List.all_eq_true.mpr (@isDigit_of_mem_toDigits n)
  rw [count?, Nat.toString_eq_repr, Nat.toList_repr, if_pos ⟨by simp, digits⟩,
    Nat.ofDigitChars_ten_toDigits]

theorem name_bind {text : String} (identifier : isIdentifier alphabet text = true)
    (next : String → Read β) : (name alphabet >>= next) ([.word text] ++ rest) = next text rest :=
  bind_of_eq (if_pos identifier)

theorem value_bind (number : UInt32) (next : UInt32 → Read β) :
    (value >>= next) ([.word (toString number)] ++ rest) = next number rest :=
  bind_of_eq (congrArg (Option.map (·, rest)) (literal?_number number))

theorem length_bind (number : Nat) (next : Nat → Read β) :
    (length >>= next) ([.word (toString number)] ++ rest) = next number rest :=
  bind_of_eq (congrArg (Option.map (·, rest)) (count?_number number))

def fieldTokens (field : String) : List Token :=
  [.word "pub", .word field, .mark ":", .word "u32", .comma]

theorem fields_bind {names : List String}
    (identifiers : ∀ field ∈ names, isIdentifier alphabet field = true)
    (next : List String → Read β) :
    (fields alphabet >>= next) (names.flatMap fieldTokens ++ ([.mark "\x7d"] ++ rest)) =
      next names rest := by
  refine bind_of_eq ?_
  induction names with
  | nil => rfl
  | cons field names ih =>
      obtain ⟨first, others⟩ := List.forall_mem_cons.mp identifiers
      simp only [List.flatMap_cons, fieldTokens, List.cons_append,
        List.nil_append, fields, first, if_true] at ih ⊢
      rw [ih others, Option.map_some]

def valueTokens (assigned : String × UInt32) : List Token :=
  [.word assigned.1, .mark ":", .word (toString assigned.2), .comma]

theorem values_bind {assigned : List (String × UInt32)}
    (identifiers : ∀ one ∈ assigned, isIdentifier alphabet one.1 = true)
    (next : List (String × UInt32) → Read β) :
    (values alphabet >>= next) (assigned.flatMap valueTokens ++ ([.mark "\x7d"] ++ rest)) =
      next assigned rest := by
  refine bind_of_eq ?_
  induction assigned with
  | nil => rfl
  | cons one assigned ih =>
      obtain ⟨first, others⟩ := List.forall_mem_cons.mp identifiers
      simp only [List.flatMap_cons, valueTokens, List.cons_append, List.nil_append, values, first,
        if_true, literal?_number, Option.bind_some] at ih ⊢
      rw [ih others, Option.map_some]

def callTokens : List (String × String) → List Token
  | [] => [.mark "]"]
  | [call] => [.word call.1, .opening, .word call.2, .closing, .mark "]"]
  | call :: others =>
    .word call.1 :: .opening :: .word call.2 :: .closing :: .comma :: callTokens others

theorem calls_bind (made : List (String × String)) (next : List (String × String) → Read β) :
    (calls >>= next) (callTokens made ++ rest) = next made rest := by
  refine bind_of_eq ?_
  induction made using callTokens.induct with
  | case1 => rfl
  | case2 call => rfl
  | case3 call others more ih => simp [callTokens, calls, ih]

theorem body_bind {inside : List Token} (noMarks : ∀ text, Token.mark text ∉ inside)
    (next : List Token → Read β) :
    (body >>= next) (inside ++ ([.mark "\x7d"] ++ rest)) = next inside rest := by
  refine bind_of_eq ?_
  induction inside with
  | nil => rfl
  | cons token inside ih =>
      have others : ∀ text, Token.mark text ∉ inside := fun text member =>
        noMarks text (List.mem_cons_of_mem token member)
      cases token with
      | mark text => exact absurd List.mem_cons_self (noMarks text)
      | _ => simpa [body] using ih others

/-- The tokens that an item is written with. -/
def tokens : Item → List Token
  | .allowance => allowanceTokens
  | .constant name value => List.flatten
    [[.word "pub", .word "const"], [.word name], [.mark ":", .word "u32", .mark "="],
      [.word (toString value)], [.mark ";"]]
  | .record name fields => List.flatten
    [derivedTokens, [.word "pub", .word "struct"], [.word name], [.mark "\x7b"],
      fields.flatMap fieldTokens, [.mark "\x7d"]]
  | .recorded record function values => List.flatten
    [[.word "impl"], [.word record], [.mark "\x7b", .word "pub", .word "fn"], [.word function],
      [.opening, .closing, .mark "->", .word "Self", .mark "\x7b", .word "Self", .mark "\x7b"],
      values.flatMap valueTokens, [.mark "\x7d"], [.mark "\x7d", .mark "\x7d"]]
  | .helper helper => helper.tokens
  | .function name parameter record body => List.flatten
    [[.word "pub", .word "fn"], [.word name], [.opening], [.word parameter],
      [.mark ":", .sign .bitAnd], [.word record], [.closing, .mark "->"],
      [.word "u32", .mark "\x7b"], body, [.mark "\x7d"]]
  | .entry name parameter record length calls => List.flatten
    [[.word "pub", .word "fn"], [.word name], [.opening], [.word parameter],
      [.mark ":", .sign .bitAnd], [.word record], [.closing, .mark "->"],
      [.mark "[", .word "u32", .mark ";"], [.word (toString length)],
      [.mark "]", .mark "\x7b", .mark "["], callTokens calls, [.mark "\x7d"]]

/-- An item whose names are names, and whose body has no marks. -/
def Proper (alphabet : Alphabet) : Item → Prop
  | .allowance => True
  | .constant name _ => isIdentifier alphabet name = true
  | .record name fields =>
    isIdentifier alphabet name = true ∧ ∀ field ∈ fields, isIdentifier alphabet field = true
  | .recorded record function values =>
    isIdentifier alphabet record = true ∧ isIdentifier alphabet function = true ∧
      ∀ one ∈ values, isIdentifier alphabet one.1 = true
  | .helper _ => True
  | .function name parameter record body =>
    isIdentifier alphabet name = true ∧ isIdentifier alphabet parameter = true ∧
      isIdentifier alphabet record = true ∧ ∀ text, Token.mark text ∉ body
  | .entry name parameter record _ _ =>
    isIdentifier alphabet name = true ∧ isIdentifier alphabet parameter = true ∧
      isIdentifier alphabet record = true

theorem constant_tokens {called : String} (identifier : isIdentifier alphabet called = true)
    (number : UInt32) : constant alphabet (tokens (.constant called number) ++ rest) =
      some (.constant called number, rest) := by
  simp only [constant, tokens, List.flatten_cons, List.flatten_nil, List.append_assoc,
    List.nil_append, exactly_bind, name_bind _ identifier, value_bind, pure_apply]

theorem record_tokens {called : String} {names : List String}
    (proper : Proper alphabet (.record called names)) :
    record alphabet (tokens (.record called names) ++ rest) =
      some (.record called names, rest) := by
  obtain ⟨identifier, identifiers⟩ := proper
  simp only [record, tokens, List.flatten_cons, List.flatten_nil, List.append_assoc,
    List.nil_append, exactly_bind, name_bind _ identifier, fields_bind _ identifiers, pure_apply]

theorem recorded_tokens {owner called : String} {assigned : List (String × UInt32)}
    (proper : Proper alphabet (.recorded owner called assigned)) :
    recorded alphabet (tokens (.recorded owner called assigned) ++ rest) =
      some (.recorded owner called assigned, rest) := by
  obtain ⟨owned, identifier, identifiers⟩ := proper
  simp only [recorded, tokens, List.flatten_cons, List.flatten_nil, List.append_assoc,
    List.nil_append, exactly_bind, name_bind _ owned, name_bind _ identifier,
    values_bind _ identifiers, pure_apply]

theorem function_tokens {called parameter owner : String} {inside : List Token}
    (proper : Proper alphabet (.function called parameter owner inside)) :
    function alphabet (tokens (.function called parameter owner inside) ++ rest) =
      some (.function called parameter owner inside, rest) := by
  obtain ⟨identifier, received, owned, noMarks⟩ := proper
  simp only [function, tokens, List.flatten_cons, List.flatten_nil, List.append_assoc,
    List.nil_append, exactly_bind, name_bind _ identifier, name_bind _ received, name_bind _ owned]
  exact body_bind rest noMarks _

theorem entry_tokens {called parameter owner : String} {count : Nat}
    {made : List (String × String)}
    (proper : Proper alphabet (.entry called parameter owner count made)) :
    function alphabet (tokens (.entry called parameter owner count made) ++ rest) =
      some (.entry called parameter owner count made, rest) := by
  obtain ⟨identifier, received, owned⟩ := proper
  simp only [function, tokens, List.flatten_cons, List.flatten_nil, List.append_assoc,
    List.nil_append, exactly_bind, name_bind _ identifier, name_bind _ received, name_bind _ owned]
  refine (length_bind _ count _).trans ?_
  simp only [exactly_bind, calls_bind, pure_apply]

/-- An item is read from the front of its tokens. -/
theorem read_tokens {item : Item} (proper : Proper alphabet item) :
    read alphabet (tokens item ++ rest) = some (item, rest) := by
  cases item with
  | allowance =>
      exact (exactly_bind rest allowanceTokens _).trans (pure_apply _ rest)
  | constant called number => exact constant_tokens rest proper number
  | record called names => exact record_tokens rest proper
  | recorded owner called assigned => exact recorded_tokens rest proper
  | helper helper =>
      have falls : read alphabet (tokens (.helper helper) ++ rest) =
          (Helper.read.map .helper : Read Item) (helper.tokens ++ rest) := rfl
      rw [falls, StateT.map, Helper.read_tokens]
      rfl
  | function called parameter owner inside => exact function_tokens rest proper
  | entry called parameter owner count made => exact entry_tokens rest proper

theorem tokens_ne_nil (item : Item) : tokens item ≠ [] := by
  cases item <;> simp [tokens, allowanceTokens, derivedTokens, Helper.tokens]

theorem readAll_tokens {items : List Item} (proper : ∀ item ∈ items, Proper alphabet item)
    {count : Nat} (enough : items.length ≤ count) :
    readAll alphabet count (items.flatMap tokens) = some items := by
  induction items generalizing count with
  | nil => rw [List.flatMap_nil, readAll]
  | cons item items ih =>
      obtain ⟨first, others⟩ := List.forall_mem_cons.mp proper
      obtain ⟨count, rfl⟩ := Nat.exists_eq_add_one_of_ne_zero (Nat.ne_zero_of_lt enough)
      rw [List.flatMap_cons, readAll, read_tokens _ first]
      · simp [ih others (Nat.le_of_succ_le_succ enough)]
      · simp [tokens_ne_nil]

/-- A text with the tokens of items consists of these. -/
theorem items?_eq {text : String} {items : List Item}
    (scans : Scans alphabet text.toList (items.flatMap tokens))
    (proper : ∀ item ∈ items, Proper alphabet item) : items? alphabet text = some items := by
  -- No item is without tokens, so their number is as many steps as the reader can need.
  have enough : items.length ≤ (items.flatMap tokens).length := by
    rw [List.length_flatMap]
    have positive : ∀ n ∈ items.map fun item => (tokens item).length, 1 ≤ n := by
      intro n member
      obtain ⟨item, -, rfl⟩ := List.mem_map.mp member
      exact List.length_pos_iff.mpr (tokens_ne_nil item)
    simpa using List.length_le_sum_of_one_le _ positive
  rw [items?, scans, Option.bind_some, readAll_tokens proper enough]

end Items

end Metamorph.Guest
