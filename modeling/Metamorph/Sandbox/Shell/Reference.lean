import Metamorph.Sandbox.Shell.Field
import Metamorph.Sandbox.Shell.State

/-! # References to values

What a name in a word refers to, and what can be made of its value: parts of it are cut off,
replaced or taken, and letters become large or small ones. -/

namespace Metamorph.Sandbox.Shell

/-- What a name refers to. -/
inductive Reference where
  | single (value : Option String)
  /-- All arguments or all items of an array. Quotes may keep them together. -/
  | several (together : Bool) (values : List String)

/-- Cut off the beginning or the end of a value. -/
def cutValue (how : Cut) (pattern : Pattern) (value : List Char) : List Char :=
  let start (longest : Bool) : List Char :=
    value.drop ((pattern.beginning? longest value).getD 0)
  let ending (longest : Bool) : List Char :=
    value.take (value.length - (pattern.ending? longest value).getD 0)
  match how with
  | .shortestStart => start false
  | .longestStart => start true
  | .shortestEnd => ending false
  | .longestEnd => ending true

/-- Replace matches of a pattern in a value. -/
def replaceIn (which : Replaced) (pattern : Pattern) (word : List Char → List Char)
    (value : List Char) : List Char :=
  match which with
  | .first => pattern.replace false word (value.length + 1) value
  | .every => pattern.replace true word (value.length + 1) value
  | .atStart =>
    match pattern.beginning? true value with
    | some length => word (value.take length) ++ value.drop length
    | none => value
  | .atEnd =>
    match pattern.ending? true value with
    | some length =>
      let start := value.length - length
      value.take start ++ word (value.drop start)
    | none => value

/-- Make letters large or small ones: all of them, or the first. -/
def changeLetters (large all : Bool) (value : List Char) : List Char :=
  let change (c : Char) : Char := if large then c.toUpper else c.toLower
  if all then value.map change
  else
    match value with
    | [] => []
    | c :: rest => change c :: rest

/-- Take a part out of a list. A start below zero counts from the end, and so does a length
below zero; a part that ends before it starts is refused. -/
def slice {α : Type} (start : Int) (length : Option Int) (values : List α) : Option (List α) :=
  let total : Int := values.length
  let first := if start < 0 then start + total else start
  let last :=
    match length with
    | none => total
    | some length => if length < 0 then total + length else first + length
  if first < 0 || total < first then some []
  else if last < first then none
  else some ((values.drop first.toNat).take (last - first).toNat)

namespace Reference

/-- What a name refers to: `@` and `*` stand for all arguments, and as an index for all items. -/
def ofName (run : Run) (name : String) : Reference :=
  let items (base : String) : List String :=
    if base = "PIPESTATUS" then run.process.stages.map toString
    else ((run.process.bindings.lookup base).map fun entry => (itemsOf entry).map (·.2)).getD []
  match name, indexed? name with
  | "@", _ => .several false run.process.arguments
  | "*", _ => .several true run.process.arguments
  | _, some (base, "@") => .several false (items base)
  | _, some (base, "*") => .several true (items base)
  | _, _ => .single (parameter? run name)

/-- The text of a value where it is not split. -/
def text : Reference → String
  | .single value => value.getD ""
  | .several _ values => " ".intercalate values

/-- Whether there is no value, or, where that is asked for, only an empty one. Arguments are as
good as the text that they make when they are joined. -/
def isMissing (process : Process) (orEmpty : Bool) : Reference → Bool
  | .single value => value.isNone || (orEmpty && value = some "")
  | .several _ values =>
    (values.isEmpty && process.dialect = .rich)
      || (orEmpty && values.all (·.isEmpty)
        && (values.length ≤ 1 || (separators process).isEmpty))

/-- Change every value. -/
def map (change : List Char → List Char) : Reference → Reference
  | .single value => .single (value.map fun text => String.ofList (change text.toList))
  | .several together values =>
    .several together (values.map fun text => String.ofList (change text.toList))

/-- The glyphs of a value. -/
def glyphs (process : Process) (quoted : Bool) : Reference → List Glyph
  | .single value => Glyph.ofText quoted true (value.getD "").toList
  | .several together values =>
    let joint :=
      if together || process.dialect = .plain then (separators process).take 1 else [' ']
    if quoted && together then
      Glyph.ofText true true (List.intercalate joint (values.map String.toList))
    else
      List.intercalate [.gap joint] (values.map fun text => Glyph.ofText quoted true text.toList)

end Reference

/-- The user whose folder is known. -/
def knownUser : String := "root"

/-- Replace a tilde, and the name of a user behind it, that a text begins with by the folder of
the user. The name must come to its end. -/
def expandTilde? (home? : Option String) (atEnd : Bool) (text : List Char) :
    Option (String × List Char) :=
  match text with
  | '~' :: rest =>
    let name := rest.takeWhile fun c => c ≠ '/' && c ≠ ':'
    let rest := rest.drop name.length
    if rest.isEmpty && !atEnd then none
    else if name.isEmpty then home?.map fun home => (home, rest)
    else if String.ofList name = knownUser then some ("/" ++ knownUser, rest)
    else none
  | _ => none

/-- Replace the tilde that a word begins with. -/
def expandHome (process : Process) (word : Word) : Word :=
  match word with
  | .literal false text :: more =>
    match expandTilde? (process.value? "HOME") more.isEmpty text with
    | some (home, rest) => .literal true home.toList :: .literal false rest :: more
    | none => word
  | _ => word

/-- Replace the tildes at the beginning of a value and behind colons in it. -/
def expandHomes (process : Process) (word : Word) : Word :=
  let start := expandHome process word
  start.flatMap fun piece =>
    match piece with
    | .literal false text =>
      match splitAt ':' text with
      | [] => [piece]
      | first :: others =>
        .literal false first :: others.flatMap fun part =>
          match expandTilde? (process.value? "HOME") true part with
          | some (home, rest) =>
            [.literal false [':'], .literal true home.toList, .literal false rest]
          | none => [.literal false (':' :: part)]
    | _ => [piece]

end Metamorph.Sandbox.Shell
