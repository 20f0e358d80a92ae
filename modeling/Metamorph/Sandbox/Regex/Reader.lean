import Metamorph.Sandbox.Regex.Basic
import Metamorph.Text.Basic

/-! # Reading regular expressions

The basic notation, in which some signs need a backslash, and the extended one, in which a
backslash takes the meaning of a sign away. -/

namespace Metamorph.Sandbox.Regex

/-- How expressions are written. -/
structure Notation where
  extended : Bool
  ignoreCase : Bool := false
  /-- Whether repetitions may be counted. -/
  counted : Bool := true
  /-- Whether signs that make no sense where they stand are taken for something else. -/
  lenient : Bool := false
  /-- Whether the basic notation allows a repetition to be repeated. -/
  manifold : Bool := true

/-- How a text fails to be an expression. -/
inductive Fault where
  | openGroup
  | closedGroup
  | openBracket
  | emptyBracket
  | openCount
  | badCount
  | nothingRepeated
  | badRange
  | badClass
  | badReference
  | endingBackslash
  deriving DecidableEq

/-- The message of a fault. -/
def Fault.message : Fault → String
  | .openGroup => "Unmatched ( or \\("
  | .closedGroup => "Unmatched ) or \\)"
  | .openBracket => "Unmatched [, [^, [:, [., or [="
  | .emptyBracket => "Invalid regular expression"
  | .openCount => "Unmatched \\\x7b"
  | .badCount => "Invalid content of \\\x7b\\\x7d"
  | .nothingRepeated => "Invalid preceding regular expression"
  | .badRange => "Invalid range end"
  | .badClass => "Invalid character class name"
  | .badReference => "Invalid back reference"
  | .endingBackslash => "Trailing backslash"

/-- Read what stands between brackets up to the closing one, which stands for itself in front. -/
def readBrackets : Nat → Bool → List Char → Except Fault ((Char → Bool) × List Char)
  | 0, _, _ => .error .openBracket
  | fuel + 1, isFirst, input =>
    match input with
    | [] => .error .openBracket
    | '[' :: ':' :: rest => do
      let name := rest.takeWhile (· ≠ ':')
      match rest.drop name.length with
      | ':' :: ']' :: after =>
        match classOf? (String.ofList name) with
        | none => throw .badClass
        | some accepts => do
          let (more, rest) ← readBrackets fuel false after
          return (fun c => accepts c || more c, rest)
      | _ => throw .openBracket
    | '[' :: '.' :: c :: '.' :: ']' :: rest => do
      let (more, rest) ← readBrackets fuel false rest
      return (fun d => d = c || more d, rest)
    | '[' :: '=' :: c :: '=' :: ']' :: rest => do
      let (more, rest) ← readBrackets fuel false rest
      return (fun d => d = c || more d, rest)
    | c :: rest =>
      if c = ']' && !isFirst then .ok (fun _ => false, rest)
      else
        match rest with
        | '-' :: high :: after =>
          if high = ']' then do
            let (more, rest) ← readBrackets fuel false rest
            return (fun d => d = c || more d, rest)
          else if high < c then .error .badRange
          else do
            let (more, rest) ← readBrackets fuel false after
            return (fun d => (c ≤ d && d ≤ high) || more d, rest)
        | _ => do
          let (more, rest) ← readBrackets fuel false rest
          return (fun d => d = c || more d, rest)

/-- A test that takes small and large letters for the same. -/
def foldCase (ignoreCase : Bool) (accepts : Char → Bool) : Char → Bool :=
  if ignoreCase then fun c => accepts c || accepts c.toLower || accepts c.toUpper else accepts

/-- Read an expression between brackets, behind the opening one. -/
def readClass (ignoreCase : Bool) (input : List Char) : Except Fault (Regex × List Char) :=
  match input with
  | [] => throw .emptyBracket
  | ['^'] => throw .emptyBracket
  | '^' :: rest => do
    let (accepts, rest) ← readBrackets (rest.length + 1) true rest
    let accepts := foldCase ignoreCase accepts
    return (.char fun c => !accepts c, rest)
  | _ => do
    let (accepts, rest) ← readBrackets (input.length + 1) true input
    return (.char (foldCase ignoreCase accepts), rest)

/-- Read a number that may be missing. -/
def readCount (input : List Char) : Option Nat × List Char :=
  let digits := input.takeWhile Char.isDigit
  (if digits.isEmpty then none else some (Text.digitsValue digits), input.drop digits.length)

/-- Read the counts of a repetition up to its end, which is written as given. -/
def readCounts? (close : List Char) (input : List Char) :
    Option ((Nat × Option Nat) × List Char) :=
  let (least, rest) := readCount input
  let (counts, rest) :=
    match rest with
    | ',' :: rest =>
      let (most, rest) := readCount rest
      ((least.getD 0, most), rest)
    | _ => ((least.getD 0, some (least.getD 0)), rest)
  let inOrder := counts.2.all (counts.1 ≤ ·)
  let isThere := least.isSome || (input.head? = some ',')
  if close.isPrefixOf rest && inOrder && isThere then some (counts, rest.drop close.length) else none

/-- A word of the notation: a sign, a character that stands for itself, or the letter of a
class or a place that is written with a backslash. -/
inductive Token where
  | plain (c : Char)
  | sign (c : Char)
  | escape (c : Char)
  deriving DecidableEq

/-- The classes of characters that are written with a backslash. -/
def escapeClass? : Char → Option (Char → Bool)
  | 'w' => some isWordChar
  | 'W' => some fun c => !isWordChar c
  | 's' => some isSpace
  | 'S' => some fun c => !isSpace c
  | _ => none

/-- The places that are written with a backslash. -/
def escapeSpot? (c : Char) : Option Spot :=
  [('b', Spot.wordEdge), ('B', .noWordEdge), ('<', .wordStart), ('>', .wordEnd),
    (Char.ofNat 0x60, .textStart), ('\'', .textEnd)].lookup c

/-- The characters that need a backslash in one notation and lose their meaning by it in the
other. -/
def isFlexible (c : Char) : Bool :=
  c = '(' || c = ')' || c = '\x7b' || c = '|' || c = '+' || c = '?'

/-- Read a word of the notation. -/
def readToken? (form : Notation) : List Char → Option (Token × List Char)
  | [] => none
  | '\\' :: c :: rest =>
    if c = 'n' then some (.plain '\n', rest)
    else if (escapeClass? c).isSome || (escapeSpot? c).isSome || ('1' ≤ c && c ≤ '9') then
      some (.escape c, rest)
    else if !form.extended && isFlexible c then some (.sign c, rest)
    else some (.plain c, rest)
  | c :: rest =>
    if c = '.' || c = '*' || c = '[' || c = '^' || c = '$' then some (.sign c, rest)
    else if form.extended && isFlexible c then some (.sign c, rest)
    else some (.plain c, rest)

/-- The counts of a sign of repetition, and what follows it. -/
def repetition? (form : Notation) (input : List Char) :
    Except Fault (Option ((Nat × Option Nat) × List Char)) :=
  match readToken? form input with
  | some (.sign '*', rest) => .ok (some ((0, none), rest))
  | some (.sign '+', rest) => .ok (some ((1, none), rest))
  | some (.sign '?', rest) => .ok (some ((0, some 1), rest))
  | some (.sign '\x7b', rest) =>
    if !form.counted then .ok none
    else
      match readCounts? (if form.extended then ['\x7d'] else ['\\', '\x7d']) rest with
      | some found => .ok (some found)
      | none =>
        if form.extended then .ok none
        else if rest.contains '\x7d' then .error .badCount
        else .error .openCount
  | _ => .ok none

/-- Read the signs of repetition behind an expression. -/
def readRepetitions : Nat → Notation → Regex → List Char → Except Fault (Regex × List Char)
  | 0, _, body, input => .ok (body, input)
  | fuel + 1, form, body, input => do
    match ← repetition? form input with
    | some ((least, most), rest) => do
      let repeatsAgain := rest.head? = some '*' || rest.take 2 = ['\\', '\x7b']
      if !form.manifold && repeatsAgain then throw .nothingRepeated
      readRepetitions fuel form (.repeated least most body) rest
    | none => return (body, input)

mutual
/-- Read choices; the number is that of the next group. -/
def readChoices : Nat → Notation → Nat → List Char → Except Fault (Regex × Nat × List Char)
  | 0, _, _, _ => .error .openGroup
  | fuel + 1, form, number, input => do
    let (first, number, rest) ← readSequence fuel form true number input
    match readToken? form rest with
    | some (.sign '|', rest) => do
      let (second, number, rest) ← readChoices fuel form number rest
      return (.choice first second, number, rest)
    | _ => return (first, number, rest)

/-- Read expressions one after the other. -/
def readSequence :
    Nat → Notation → Bool → Nat → List Char → Except Fault (Regex × Nat × List Char)
  | 0, _, _, _, _ => .error .openGroup
  | fuel + 1, form, atStart, number, input => do
    if input = ['\\'] then throw .endingBackslash
    match readToken? form input with
    | none => return (.empty, number, [])
    | some (.sign ')', _) => return (.empty, number, input)
    | some (.sign '|', _) => return (.empty, number, input)
    | some (token, rest) => do
      let isAnchor : Bool :=
        match token with
        | .sign '^' => form.extended || atStart
        | _ => false
      let (body, number, rest) ← readSingle fuel form atStart number token rest
      let repeats := !(isAnchor && !form.extended)
      let (body, rest) ← if repeats then readRepetitions rest.length form body rest
        else pure (body, rest)
      let (more, number, rest) ← readSequence fuel form (isAnchor && !form.extended) number rest
      return (.sequence body more, number, rest)

/-- Read the expression that begins with a word. -/
def readSingle :
    Nat → Notation → Bool → Nat → Token → List Char → Except Fault (Regex × Nat × List Char)
  | 0, _, _, _, _, _ => .error .openGroup
  | fuel + 1, form, atStart, number, token, rest => do
    let plain (c : Char) : Regex :=
      if form.ignoreCase then .char fun d => d.toLower = c.toLower else .char fun d => d = c
    match token with
    | .sign '.' => return (.char fun _ => true, number, rest)
    | .sign '[' => do
      let (body, rest) ← readClass form.ignoreCase rest
      return (body, number, rest)
    | .sign '^' =>
      return (if form.extended || atStart then .spot .lineStart else plain '^', number, rest)
    | .sign '$' =>
      let ends : Bool := form.extended || rest.isEmpty || rest.take 2 = ['\\', ')']
        || rest.take 2 = ['\\', '|']
      return (if ends then .spot .lineEnd else plain '$', number, rest)
    | .sign '(' => do
      let (body, next, rest) ← readChoices fuel form (number + 1) rest
      match readToken? form rest with
      | some (.sign ')', rest) => return (.group number body, next, rest)
      | _ => throw .openGroup
    | .sign '*' =>
      if !form.extended then return (plain '*', number, rest)
      else if form.lenient then return (.empty, number, rest)
      else throw .nothingRepeated
    | .sign c =>
      if form.extended && (c = '+' || c = '?') then
        if form.lenient then return (.empty, number, rest) else throw .nothingRepeated
      else if !form.extended && c = '\x7b' then throw .nothingRepeated
      else return (plain c, number, rest)
    | .plain c => return (plain c, number, rest)
    | .escape c =>
      match escapeClass? c, escapeSpot? c with
      | some accepts, _ => return (.char accepts, number, rest)
      | none, some asked => return (.spot asked, number, rest)
      | none, none =>
        if number ≤ Text.digitValue c then throw .badReference
        else return (.reference (Text.digitValue c), number, rest)
end

/-- Read an expression from the start of a group on. The fuel bounds the number of closing
parentheses that stand for themselves. -/
def readWhole (form : Notation) : Nat → Nat → List Char → Except Fault Regex
  | 0, _, _ => .error .closedGroup
  | fuel + 1, number, text => do
    let (regex, number, rest) ← readChoices (4 * text.length + 4) form number text
    match rest with
    | [] => return regex
    | c :: rest =>
      if form.lenient && form.extended then
        let more ← readWhole form fuel number rest
        return .sequence regex (.sequence (.char fun d => d = c) more)
      else throw .closedGroup

/-- Read an expression. -/
def read (form : Notation) (text : List Char) : Except Fault Regex :=
  readWhole form (text.length + 1) 1 text

end Metamorph.Sandbox.Regex
