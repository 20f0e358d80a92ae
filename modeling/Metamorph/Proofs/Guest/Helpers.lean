import Metamorph.Guest.Module
import Metamorph.Proofs.Guest.Tokens

/-! # The helper functions of a guest module

What the text of the helpers defines: functions of two words that test whether one of them is
zero and compute one thing or another. A division by zero has no value. -/

namespace Metamorph.Guest

/-- What a branch of a helper computes. -/
inductive Branch where
  /-- The largest word. -/
  | most
  | parameter (name : String)
  | quotient (dividend divisor : String)
  | remainder (dividend divisor : String)
  deriving DecidableEq

/-- A function of two words that tells zero from other values of a parameter. -/
structure Helper where
  name : String
  first : String
  second : String
  tested : String
  zero : Branch
  nonzero : Branch
  deriving DecidableEq

def Branch.value (parameters : String → Option UInt32) : Branch → Option UInt32
  | .most => some 0xFFFFFFFF
  | .parameter name => parameters name
  | .quotient dividend divisor => do
    let a ← parameters dividend
    let b ← parameters divisor
    if b = 0 then none else some (a / b)
  | .remainder dividend divisor => do
    let a ← parameters dividend
    let b ← parameters divisor
    if b = 0 then none else some (a % b)

namespace Helper

/-- The values of the parameters by their names. -/
def parameters (helper : Helper) (a b : UInt32) (name : String) : Option UInt32 :=
  if name = helper.first then some a
  else if name = helper.second then some b
  else none

/-- What a helper computes. -/
def apply (helper : Helper) (a b : UInt32) : Option UInt32 := do
  let tested ← helper.parameters a b helper.tested
  if tested = 0 then helper.zero.value (helper.parameters a b)
  else helper.nonzero.value (helper.parameters a b)

/-- A reader that takes tokens away from the front. -/
abbrev Read := StateT (List Token) Option

def exactly (wanted : List Token) : Read Unit := fun tokens =>
  if wanted.isPrefixOf tokens then some ((), tokens.drop wanted.length) else none

def word : Read String
  | .word text :: rest => some (text, rest)
  | _ => none

/-- A parameter, which is of the type of words. -/
def parameter : Read String := do
  let name ← word
  exactly [.mark ":", .word "u32"]
  return name

/-- A branch between braces. -/
def branch : Read Branch
  | .mark "\x7b" :: .word "u32" :: .mark "::" :: .word "MAX" :: .mark "\x7d" :: rest =>
    some (.most, rest)
  | .mark "\x7b" :: .word a :: .mark "/" :: .word b :: .mark "\x7d" :: rest =>
    some (.quotient a b, rest)
  | .mark "\x7b" :: .word a :: .mark "%" :: .word b :: .mark "\x7d" :: rest =>
    some (.remainder a b, rest)
  | .mark "\x7b" :: .word a :: .mark "\x7d" :: rest => some (.parameter a, rest)
  | _ => none

/-- A helper behind the attribute that asks for it to be expanded where it is called. -/
def read : Read Helper := do
  exactly [.mark "#", .mark "[", .word "inline", .opening, .word "always", .closing, .mark "]"]
  exactly [.word "fn"]
  let name ← word
  exactly [.opening]
  let first ← parameter
  exactly [.comma]
  let second ← parameter
  exactly [.closing, .mark "->", .word "u32", .mark "\x7b", .word "if"]
  let tested ← word
  exactly [.sign .eq, .word "0"]
  let zero ← branch
  exactly [.word "else"]
  let nonzero ← branch
  exactly [.mark "\x7d"]
  return { name, first, second, tested, zero, nonzero }

/-- So many helpers and nothing else. -/
def readAll : Nat → List Token → Option (List Helper)
  | 0, tokens => if tokens.isEmpty then some [] else none
  | count + 1, tokens => do
    let (first, rest) ← read tokens
    return first :: (← readAll count rest)

end Helper

/-- A text defines helpers and has nothing else. -/
def Defines (alphabet : Alphabet) (text : String) (functions : List Helper) : Prop :=
  (lex alphabet text.toList).bind (Helper.readAll functions.length) = some functions

/-- The quotient, which by zero is the largest word. -/
def quotient : Helper := ⟨"rv_div", "a", "b", "b", .most, .quotient "a" "b"⟩

/-- The remainder, which by zero is the dividend. -/
def remainder : Helper := ⟨"rv_rem", "a", "b", "b", .parameter "a", .remainder "a" "b"⟩

/-- The helpers for division. -/
def division : List Helper := [quotient, remainder]

/-- The text of the helpers defines those for division. -/
theorem defines_helpers (alphabet : Alphabet) : Defines alphabet helpers division := by
  have all : helpers.toList.all (fun c => c.toNat < 128) = true := by decide +kernel
  have ascii : ∀ c ∈ helpers.toList, c.toNat < 128 := by simpa using all
  rw [Defines, lex_ascii ascii]
  decide +kernel

end Metamorph.Guest
