import Mathlib.Logic.Relation
import Metamorph.Proofs.Guest.Tokens

/-! # The grammar of guest expressions

The readings of a list of tokens, by the precedence that the language gives its operators:
calls and fields bind tightest, then casts, then the bitwise signs, and the comparisons, which
do not chain. A machine that never looks back finds every reading, so there is at most one. -/

namespace Metamorph.Guest

/-- The methods with one argument that wrap. -/
inductive Wrapping where
  | add | sub | mul | shl | shr
  deriving DecidableEq

namespace Wrapping

def name : Wrapping → String
  | .add => "wrapping_add"
  | .sub => "wrapping_sub"
  | .mul => "wrapping_mul"
  | .shl => "wrapping_shl"
  | .shr => "wrapping_shr"

def ofName? (name : String) : Option Wrapping :=
  [add, sub, mul, shl, shr].find? (·.name == name)

theorem ofName?_name (method : Wrapping) : ofName? method.name = some method := by
  cases method <;> rfl

end Wrapping

/-- What a guest expression says, whatever parentheses it is written with. -/
inductive Term where
  | literal (value : UInt32)
  | input (name : String)
  | neg (operand : Term)
  | wrapping (method : Wrapping) (receiver argument : Term)
  | call (function : String) (first second : Term)
  | sign (op : Sign) (left right : Term)
  | toWord (operand : Term)
  deriving DecidableEq

/-- The number of a word: decimal digits, and maybe the type of a word behind them. -/
def literal? (word : String) : Option UInt32 :=
  let digits := word.toList.takeWhile Char.isDigit
  let suffix := word.toList.dropWhile Char.isDigit
  let value := Nat.ofDigitChars 10 digits 0
  if digits ≠ [] ∧ (suffix = [] ∨ suffix = "u32".toList) ∧ value < UInt32.size
  then some (.ofNat value) else none

namespace Sign

/-- How loosely a sign binds; calls and fields have level 0, and casts level 1. -/
def level : Sign → Nat
  | .bitAnd => 2
  | .bitXor => 3
  | .bitOr => 4
  | _ => 5

/-- The loosest expression that may stand before a sign: the bitwise signs lean to the left,
and no comparison stands next to another. -/
def left : Sign → Nat
  | .bitAnd => 2
  | .bitXor => 3
  | .bitOr => 4
  | _ => 4

/-- The loosest expression that may stand behind a sign. -/
def right : Sign → Nat
  | .bitAnd => 1
  | .bitXor => 2
  | .bitOr => 3
  | _ => 4

theorem one_lt_level (op : Sign) : 1 < op.level := by
  cases op <;> decide

theorem left_le (op : Sign) : op.left ≤ op.level := by
  cases op <;> decide

theorem right_lt (op : Sign) : op.right < op.level := by
  cases op <;> decide

end Sign

def castTokens : List Token :=
  [.word "as", .word "u32"]

def loosest : Nat := 5

theorem Sign.level_le (op : Sign) : op.level ≤ loosest := by
  cases op <;> decide

/-- Tokens read as a term by an expression that binds no looser than the level says. -/
inductive Reads (alphabet : Alphabet) : Nat → List Token → Term → Prop where
  | literal {level word value} (number : literal? word = some value) :
      Reads alphabet level [.word word] (.literal value)
  | input {level name} (identifier : isIdentifier alphabet name = true) :
      Reads alphabet level [.word "inputs", .dot, .word name] (.input name)
  | paren {level tokens t} (inside : Reads alphabet loosest tokens t) :
      Reads alphabet level (.opening :: tokens ++ [.closing]) t
  | neg {level tokens t} (receiver : Reads alphabet 0 tokens t) :
      Reads alphabet level (tokens ++ [.dot, .word "wrapping_neg", .opening, .closing]) (.neg t)
  | wrapping {level tokens t tokens' t'} (method : Wrapping) (receiver : Reads alphabet 0 tokens t)
      (argument : Reads alphabet loosest tokens' t') :
      Reads alphabet level
        (tokens ++ .dot :: .word method.name :: .opening :: tokens' ++ [.closing])
        (.wrapping method t t')
  | call {level function tokens t tokens' t'} (identifier : isIdentifier alphabet function = true)
      (first : Reads alphabet loosest tokens t) (second : Reads alphabet loosest tokens' t') :
      Reads alphabet level
        (.word function :: .opening :: tokens ++ .comma :: tokens' ++ [.closing])
        (.call function t t')
  | cast {level tokens t} (loose : 1 ≤ level) (operand : Reads alphabet 1 tokens t) :
      Reads alphabet level (tokens ++ castTokens) (.toWord t)
  -- a `<` behind a type would open a list of arguments of the type
  | sign {level tokens t tokens' t'} (op : Sign) (loose : op.level ≤ level)
      (clear : op = .lt → ¬ castTokens <:+ tokens) (left : Reads alphabet op.left tokens t)
      (right : Reads alphabet op.right tokens' t') :
      Reads alphabet level (tokens ++ .sign op :: tokens') (.sign op t t')

/-- A text is one whole expression, which says a term. -/
def Parses (alphabet : Alphabet) (text : String) (t : Term) : Prop :=
  ∃ tokens, lex alphabet text.toList = some tokens ∧ Reads alphabet loosest tokens t

/-- What a reader has begun and not finished, around the expression it is at. -/
inductive Frame where
  | group
  | argument (method : Wrapping) (receiver : Term)
  | first (function : String)
  | second (function : String) (first : Term)
  | sign (op : Sign) (left : Term)

/-- A reader before an expression that has to begin, or behind one that has been read. -/
inductive Reader where
  | before (frames : List Frame) (tokens : List Token)
  | behind (frames : List Frame) (t : Term) (tokens : List Token)

namespace Reader

def begin (frames : List Frame) : List Token → Option Reader
  | .opening :: rest => some (.before (.group :: frames) rest)
  | .word word :: rest =>
    match literal? word, rest with
    | some value, rest => some (.behind frames (.literal value) rest)
    | none, .opening :: rest => some (.before (.first word :: frames) rest)
    | none, .dot :: .word name :: rest =>
      if word = "inputs" then some (.behind frames (.input name) rest) else none
    | none, _ => none
  | _ => none

def callMethod (frames : List Frame) (t : Term) (name : String) (rest : List Token) :
    Option Reader :=
  match Wrapping.ofName? name, rest with
  | some method, rest => some (.before (.argument method t :: frames) rest)
  | none, .closing :: rest =>
    if name = "wrapping_neg" then some (.behind frames (.neg t) rest) else none
  | none, _ => none

/-- Finish what was begun last. -/
def finish (t : Term) : List Frame → List Token → Option Reader
  | .sign op left :: frames, rest => some (.behind frames (.sign op left t) rest)
  | .group :: frames, .closing :: rest => some (.behind frames t rest)
  | .argument method receiver :: frames, .closing :: rest =>
    some (.behind frames (.wrapping method receiver t) rest)
  | .first function :: frames, .comma :: rest => some (.before (.second function t :: frames) rest)
  | .second function first :: frames, .closing :: rest =>
    some (.behind frames (.call function first t) rest)
  | _, _ => none

/-- Whether the sign that was begun last binds what has been read before another sign does. -/
def holds (op : Sign) : List Frame → Bool
  | .sign inner _ :: _ => inner.right < op.level
  | _ => false

/-- Make one move, which the next tokens and the last frame decide. -/
def step : Reader → Option Reader
  | .before frames tokens => begin frames tokens
  | .behind frames t (.dot :: .word name :: .opening :: rest) => callMethod frames t name rest
  | .behind _ _ (.dot :: _) => none
  | .behind frames t (.word "as" :: .word "u32" :: rest) => some (.behind frames (.toWord t) rest)
  | .behind frames t (.sign op :: rest) =>
    if holds op frames then finish t frames (.sign op :: rest)
    else some (.before (.sign op t :: frames) rest)
  | .behind frames t rest => finish t frames rest

/-- A reader gets somewhere in any number of moves. -/
def Reaches : Reader → Reader → Prop :=
  Relation.ReflTransGen fun r r' => r.step = some r'

/-- A reader that is done can be reached in one way only. -/
theorem Reaches.unique {r done done' : Reader} (h : Reaches r done) (h' : Reaches r done')
    (final : done.step = none) (final' : done'.step = none) : done = done' := by
  have stays {d e : Reader} (final : d.step = none) (more : Reaches d e) : d = e := by
    rcases Relation.ReflTransGen.cases_head more with same | ⟨next, one, -⟩
    · exact same
    · exact absurd (final.symm.trans one) (by simp)
  rcases Relation.ReflTransGen.total_of_right_unique
      (fun _ _ _ one other => Option.some.inj (one.symm.trans other)) h h' with more | more
  · exact stays final more
  · exact (stays final' more).symm

end Reader

/-- The last frame leaves an expression of a level to what is read inside it. -/
def Frame.Leaves (level : Nat) : List Frame → Prop
  | .sign op _ :: _ => level ≤ op.right
  | _ => True

theorem Frame.leaves_zero (frames : List Frame) : Frame.Leaves 0 frames := by
  unfold Frame.Leaves
  split
  · exact Nat.zero_le _
  · trivial

theorem Frame.Leaves.mono {level level' : Nat} {frames : List Frame} (h : Leaves level frames)
    (tighter : level' ≤ level) : Leaves level' frames := by
  unfold Leaves at h ⊢
  split
  · exact Nat.le_trans tighter h
  · trivial

/-- No token that comes next would go on with an expression of a level. -/
structure Ends (level : Nat) (rest : List Token) : Prop where
  dot : rest.head? = some .dot → level = 0
  cast : castTokens <+: rest → level ≤ 1
  sign : ∀ op, rest.head? = some (.sign op) → level ≤ op.level

namespace Ends

theorem mono {level level' : Nat} {rest : List Token} (h : Ends level rest)
    (tighter : level' ≤ level) : Ends level' rest where
  dot next := Nat.le_zero.mp (h.dot next ▸ tighter)
  cast next := Nat.le_trans tighter (h.cast next)
  sign op next := Nat.le_trans tighter (h.sign op next)

theorem nil (level : Nat) : Ends level [] := by
  constructor <;> simp [castTokens]

theorem closing (level : Nat) (rest : List Token) : Ends level (.closing :: rest) := by
  constructor <;> simp [castTokens]

theorem comma (level : Nat) (rest : List Token) : Ends level (.comma :: rest) := by
  constructor <;> simp [castTokens]

theorem before_dot (rest : List Token) : Ends 0 (.dot :: rest) := by
  constructor <;> simp

theorem before_cast (rest : List Token) : Ends 1 (castTokens ++ rest) := by
  constructor <;> simp [castTokens]

theorem before_sign (op : Sign) (rest : List Token) : Ends op.left (.sign op :: rest) where
  dot := by simp
  cast := by simp [castTokens]
  sign _ next := by
    obtain rfl : op = _ := by simpa using next
    exact op.left_le

end Ends

namespace Reader

/-- What was begun last is finished when no token goes on with what has been read. -/
theorem step_behind {frames : List Frame} {t : Term} {rest : List Token}
    (dot : rest.head? ≠ some .dot) (cast : ¬ castTokens <+: rest)
    (sign : ∀ op, rest.head? = some (.sign op) → holds op frames = true) :
    step (.behind frames t rest) = finish t frames rest := by
  unfold step
  split
  · contradiction
  · rename_i same
    cases same
    simp at dot
  · rename_i same
    cases same
    simp at dot
  · rename_i same
    cases same
    simp [castTokens] at cast
  · rename_i same
    cases same
    simp [sign _ rfl]
  · rename_i same
    cases same
    rfl

/-- An operand is handed to the sign before it where an expression of the level of the sign
ends. -/
theorem step_sign {op : Sign} {left t : Term} {frames : List Frame} {rest : List Token}
    (ends : Ends op.level rest) :
    step (.behind (.sign op left :: frames) t rest) = some (.behind frames (.sign op left t) rest) := by
  have loose := op.one_lt_level
  refine step_behind (fun next => ?_) (fun next => ?_) fun other next => ?_
  · have := ends.dot next
    omega
  · have := ends.cast next
    omega
  · simpa [holds] using Nat.lt_of_lt_of_le op.right_lt (ends.sign other next)

/-- A sign takes what has been read, unless a sign before it binds tighter. -/
theorem step_take {op : Sign} {t : Term} {frames : List Frame} {rest : List Token}
    (leaves : Frame.Leaves op.level frames) :
    step (.behind frames t (.sign op :: rest)) = some (.before (.sign op t :: frames) rest) := by
  have free : holds op frames = false := by
    unfold holds
    split
    · simpa [Frame.Leaves] using leaves
    · rfl
  simp [step, free]

theorem step_call {method : Wrapping} {t : Term} {frames : List Frame} {rest : List Token} :
    step (.behind frames t (.dot :: .word method.name :: .opening :: rest)) =
      some (.before (.argument method t :: frames) rest) := by
  simp [step, callMethod, Wrapping.ofName?_name]

end Reader

/-- No name is a number. -/
theorem literal?_identifier {alphabet : Alphabet} {name : String}
    (identifier : isIdentifier alphabet name = true) : literal? name = none := by
  obtain ⟨c, rest, spelled, starts, -⟩ := isIdentifier_iff.mp identifier
  have letter := isDigit_of_starts starts
  simp [literal?, spelled, letter]

namespace Reads

open Reader

variable {alphabet : Alphabet} {level : Nat} {tokens : List Token} {t : Term}

/-- The machine goes from the front of an expression to its end, and has read what the
expression says. -/
theorem reaches (reads : Reads alphabet level tokens t) (frames : List Frame) (rest : List Token)
    (leaves : Frame.Leaves level frames) (ends : Ends level rest) :
    Reaches (.before frames (tokens ++ rest)) (.behind frames t rest) := by
  induction reads generalizing frames rest with
  | literal number => exact .single (by simp [step, begin, number])
  | input => exact .single (by rfl)
  | paren _ ih =>
      simp only [List.cons_append, List.append_assoc, List.nil_append]
      have inside := ih (.group :: frames) _ trivial (.closing _ rest)
      exact (inside.tail (by rfl)).head (by rfl)
  | neg _ ih =>
      simp only [List.cons_append, List.append_assoc, List.nil_append]
      refine (ih _ _ (Frame.leaves_zero frames) (.before_dot _)).tail ?_
      rfl
  | wrapping method _ _ ihr iha =>
      simp only [List.cons_append, List.append_assoc, List.nil_append]
      refine (ihr _ _ (Frame.leaves_zero frames) (.before_dot _)).trans (.head step_call ?_)
      refine (iha _ _ (by trivial) (.closing _ rest)).tail ?_
      rfl
  | @call _ function _ _ _ _ identifier _ _ iha ihb =>
      simp only [List.cons_append, List.append_assoc, List.nil_append]
      have begun (rest : List Token) :
          step (.before frames (.word function :: .opening :: rest)) =
            some (.before (.first function :: frames) rest) := by
        simp [step, begin, literal?_identifier identifier]
      refine .head (begun _) ((iha _ _ (by trivial) (.comma _ _)).trans (.head (by rfl) ?_))
      refine (ihb _ _ (by trivial) (.closing _ rest)).tail ?_
      rfl
  | cast loose _ ih =>
      rw [List.append_assoc]
      refine (ih _ _ (leaves.mono loose) (.before_cast rest)).tail ?_
      rfl
  | sign op loose _ _ _ ihl ihr =>
      rw [List.append_assoc, List.cons_append]
      have tighter : op.right ≤ op.level := Nat.le_of_lt op.right_lt
      -- A sign further out binds looser and waits for all of it; what comes behind does not
      -- bind tighter, so that this sign has both operands first.
      refine (ihl _ _ (leaves.mono (Nat.le_trans op.left_le loose)) (.before_sign op _)).trans
        (.head (step_take (leaves.mono loose)) ?_)
      exact (ihr _ _ (Nat.le_refl _) (ends.mono (Nat.le_trans tighter loose))).tail
        (step_sign (ends.mono loose))

/-- Tokens are at most one expression. -/
theorem unique {t' : Term} (h : Reads alphabet level tokens t) (h' : Reads alphabet level tokens t') :
    t = t' := by
  have read := h.reaches [] [] trivial (.nil level)
  have read' := h'.reaches [] [] trivial (.nil level)
  simpa using read.unique read' rfl rfl

/-- Without parentheses a conjunction goes before a disjunction. -/
example (alphabet : Alphabet) : Reads alphabet loosest
    [.word "1", .sign .bitOr, .word "2", .sign .bitAnd, .word "3"]
    (.sign .bitOr (.literal 1) (.sign .bitAnd (.literal 2) (.literal 3))) := by
  have tight : Reads alphabet 3 [.word "2", .sign .bitAnd, .word "3"]
      (.sign .bitAnd (.literal 2) (.literal 3)) :=
    .sign .bitAnd (by decide) (by decide) (.literal (by rfl)) (.literal (by rfl))
  exact .sign .bitOr (by decide) (by decide) (.literal (by rfl)) tight

/-- What reads as a tight expression reads as a looser one. -/
theorem mono {level' : Nat} (h : Reads alphabet level tokens t) (looser : level ≤ level') :
    Reads alphabet level' tokens t := by
  cases h with
  | literal number => exact .literal number
  | input identifier => exact .input identifier
  | paren inside => exact .paren inside
  | neg receiver => exact .neg receiver
  | wrapping method receiver argument => exact .wrapping method receiver argument
  | call identifier first second => exact .call identifier first second
  | cast loose operand => exact .cast (Nat.le_trans loose looser) operand
  | sign op loose clear left right => exact .sign op (Nat.le_trans loose looser) clear left right

end Reads

/-- A text is at most one expression. -/
theorem Parses.unique {alphabet : Alphabet} {text : String} {t t' : Term}
    (h : Parses alphabet text t) (h' : Parses alphabet text t') : t = t' := by
  obtain ⟨tokens, cut, reads⟩ := h
  obtain ⟨tokens', cut', reads'⟩ := h'
  obtain rfl : tokens = tokens' := Option.some.inj (cut.symm.trans cut')
  exact reads.unique reads'

end Metamorph.Guest
