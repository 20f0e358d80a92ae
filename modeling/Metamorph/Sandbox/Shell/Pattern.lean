import Metamorph.Sandbox.Text

/-! # Patterns

Patterns of texts, and how they are read. -/

namespace Metamorph.Sandbox

/-! ## What patterns match

A pattern is a set of texts: those of one character, every text, one pattern behind another one,
and so on. What it matches in a text is told by places: from each of the places where a match may
begin, a pattern leads to the places where it may end. -/

/-- Characters that a pair of brackets lets in. -/
inductive Span where
  | between (first last : Char)
  | inClass (name : String)
  deriving DecidableEq, Repr

/-- A set of characters. -/
inductive Letter where
  | any
  | exactly (c : Char)
  | among (negated : Bool) (spans : List Span)
  deriving DecidableEq, Repr

/-- Whether a character is in a span. -/
def Span.contains (c : Char) : Span → Bool
  | .between first last => first ≤ c && c ≤ last
  | .inClass name => ((classOf? name).map fun accepts => accepts c).getD false

/-- Whether a character is in a set. -/
def Letter.contains (c : Char) : Letter → Bool
  | .any => true
  | .exactly d => c = d
  | .among negated spans => spans.any (·.contains c) != negated

/-- A set of texts. -/
inductive Pattern where
  /-- The empty text. -/
  | nothing
  /-- The texts of one character. -/
  | letter (letter : Letter)
  /-- Every text. -/
  | anything
  /-- The texts that can be cut in two, for one pattern each. -/
  | next (first second : Pattern)
  | either (first second : Pattern)
  /-- The texts that can be cut in any number of parts for a pattern. -/
  | repeated (inner : Pattern)
  /-- The texts that a pattern does not match. -/
  | except (inner : Pattern)
  deriving DecidableEq, Repr

namespace Pattern

/-- The places of a text that are in one of two lists, in order. -/
def union (text : Array Char) (first second : List Nat) : List Nat :=
  if first.isEmpty then second
  else if second.isEmpty then first
  else (List.range (text.size + 1)).filter fun place => first.contains place || second.contains place

/-- Go on from places until there are no new ones. The fuel bounds the rounds. -/
def spread (text : Array Char) (step : List Nat → List Nat) : Nat → List Nat → List Nat
  | 0, places => places
  | fuel + 1, places =>
    let more := union text places (step places)
    if more.length = places.length then places else spread text step fuel more

/-- The places in a text where a match may end that begins at one of the given places. Both
lists are in order. -/
def ends (text : Array Char) : Pattern → List Nat → List Nat
  | .nothing, places => places
  | .letter set, places =>
    places.filterMap fun place =>
      match text[place]? with
      | some c => if set.contains c then some (place + 1) else none
      | none => none
  | .anything, places =>
    match places with
    | [] => []
    | place :: _ => List.range' place (text.size + 1 - place)
  | .next first second, places => ends text second (ends text first places)
  | .either first second, places => union text (ends text first places) (ends text second places)
  | .repeated inner, places => spread text (ends text inner) (text.size + 1) places
  | .except inner, places =>
    places.foldl (fun found place =>
      let taken := ends text inner [place]
      union text found
        ((List.range' place (text.size + 1 - place)).filter fun e => !taken.contains e)) []

/-- The pattern that matches what a pattern matches, read backwards. -/
def reversed : Pattern → Pattern
  | .next first second => .next second.reversed first.reversed
  | .either first second => .either first.reversed second.reversed
  | .repeated inner => .repeated inner.reversed
  | .except inner => .except inner.reversed
  | pattern => pattern

/-- The only text that a pattern matches, if it is made of characters alone. -/
def text? : Pattern → Option (List Char)
  | .nothing => some []
  | .letter (.exactly c) => some [c]
  | .next first second =>
    match text? first, text? second with
    | some start, some rest => some (start ++ rest)
    | _, _ => none
  | _ => none

/-- Whether a pattern can only match a text that begins with the given character. -/
def startsWith (c : Char) : Pattern → Bool
  | .letter (.exactly d) => c = d
  | .next .nothing second => startsWith c second
  | .next first _ => startsWith c first
  | _ => false

/-- Whether a pattern matches a whole text. -/
def isMatch (pattern : Pattern) (text : List Char) : Bool :=
  (pattern.ends text.toArray [0]).getLast? = some text.length

/-- The length of the longest or shortest beginning of a text that a pattern matches. -/
def beginning? (longest : Bool) (pattern : Pattern) (text : List Char) : Option Nat :=
  let found := pattern.ends text.toArray [0]
  if longest then found.getLast? else found.head?

/-- The length of the longest or shortest end of a text that a pattern matches. -/
def ending? (longest : Bool) (pattern : Pattern) (text : List Char) : Option Nat :=
  beginning? longest pattern.reversed text.reverse

end Pattern

/-! ## Reading patterns

A star stands for any text, a question mark for any character, and brackets for one of some
characters. A character that is quoted, or stands behind a backslash, stands for itself. -/

/-- A character, and whether it was quoted. -/
structure Mark where
  char : Char
  quoted : Bool
  deriving DecidableEq, Repr

/-- What differs between writings of patterns. -/
structure Writing where
  /-- Whether a circumflex negates brackets as an exclamation mark does. -/
  caret : Bool := true
  /-- Whether a sign in front of parentheses says how often what they hold may stand there. -/
  groups : Bool := false
  /-- Whether large and small letters are the same. -/
  foldsCase : Bool := false
  deriving DecidableEq, Repr

namespace Pattern

/-- The marks of a text that is not quoted. -/
def marksOf (text : List Char) : List Mark :=
  text.map fun c => ⟨c, false⟩

/-- Whether an unquoted character is the given one. -/
def isSign (c : Char) (mark : Mark) : Bool :=
  !mark.quoted && mark.char = c

/-- Take what backslashes do into the characters behind them. -/
def unescape : List Mark → List Mark
  | [] => []
  | [mark] => [mark]
  | mark :: follower :: rest =>
    if isSign '\\' mark then ⟨follower.char, true⟩ :: unescape rest
    else mark :: unescape (follower :: rest)

/-- Whether a sign may stand in front of parentheses. -/
def isGroupSign (c : Char) : Bool :=
  "?*+@!".toList.contains c

/-- Whether a text has a sign in it that may make it a pattern. -/
def hasSign (writing : Writing) : List Mark → Bool
  | [] => false
  | mark :: rest =>
    isSign '*' mark || isSign '?' mark || isSign '[' mark
      || (writing.groups && !mark.quoted && isGroupSign mark.char
        && rest.head?.any (isSign '('))
      || hasSign writing rest

/-- Read what stands between brackets, and give the rest behind the closing one. The first
character there may be a closing bracket; a class of characters has brackets of its own. -/
def readSpans? : Nat → Bool → List Mark → Option (List Span × List Mark)
  | 0, _, _ => none
  | _ + 1, _, [] => none
  | fuel + 1, isFirst, mark :: rest =>
    if isSign ']' mark && !isFirst then some ([], rest)
    else
      let name := (rest.drop 1).takeWhile (·.char ≠ ':')
      let className := String.ofList (name.map (·.char))
      match isSign '[' mark && (rest.head?.any (isSign ':')) && (classOf? className).isSome,
          (rest.drop 1).drop name.length, rest with
      | true, _ :: ⟨']', _⟩ :: more, _ =>
        (readSpans? fuel false more).map fun (spans, rest) => (.inClass className :: spans, rest)
      | _, _, dash :: last :: more =>
        if isSign '-' dash && !isSign ']' last then
          (readSpans? fuel false more).map fun (spans, rest) =>
            (.between mark.char last.char :: spans, rest)
        else
          (readSpans? fuel false rest).map fun (spans, rest) =>
            (.between mark.char mark.char :: spans, rest)
      | _, _, _ =>
        (readSpans? fuel false rest).map fun (spans, rest) =>
          (.between mark.char mark.char :: spans, rest)

/-- Read an expression between brackets, behind the opening one, and give the rest. -/
def readBrackets? (writing : Writing) (marks : List Mark) : Option (Letter × List Mark) :=
  match marks with
  | [] => none
  | mark :: rest =>
    if isSign '!' mark || (writing.caret && isSign '^' mark) then
      (readSpans? marks.length true rest).map fun (spans, rest) => (.among true spans, rest)
    else
      (readSpans? (marks.length + 1) true marks).map fun (spans, rest) => (.among false spans, rest)

/-- What the sign in front of parentheses makes of what they hold. -/
def grouped (sign : Char) (inner : Pattern) : Pattern :=
  match sign with
  | '?' => .either .nothing inner
  | '*' => .repeated inner
  | '+' => .next inner (.repeated inner)
  | '!' => .except inner
  | _ => inner

mutual
/-- Read a pattern up to its end, or within parentheses up to the sign that ends a choice. -/
def readUpTo (writing : Writing) (inside : Bool) : Nat → List Mark → Pattern × List Mark
  | 0, marks => (.nothing, marks)
  | _ + 1, [] => (.nothing, [])
  | fuel + 1, mark :: rest =>
    if inside && (isSign '|' mark || isSign ')' mark) then (.nothing, mark :: rest)
    else
      let (first, rest) : Pattern × List Mark :=
        match (if writing.groups && !mark.quoted && isGroupSign mark.char then
            readChoices? writing fuel rest else none) with
        | some (inner, rest) => (grouped mark.char inner, rest)
        | none =>
          if isSign '*' mark then (.anything, rest)
          else if isSign '?' mark then (.letter .any, rest)
          else if isSign '[' mark then
            match readBrackets? writing rest with
            | some (set, rest) => (.letter set, rest)
            | none => (.letter (.exactly '['), rest)
          else (.letter (.exactly mark.char), rest)
      let (second, rest) := readUpTo writing inside fuel rest
      (.next first second, rest)

/-- Read the choices behind an opening parenthesis or the sign between two of them. -/
def readChoices? (writing : Writing) : Nat → List Mark → Option (Pattern × List Mark)
  | 0, _ => none
  | _ + 1, [] => none
  | fuel + 1, mark :: rest =>
    if !(isSign '(' mark || isSign '|' mark) then none
    else
      let (first, rest) := readUpTo writing true fuel rest
      match rest with
      | [] => none
      | sign :: more =>
        if isSign ')' sign then some (first, more)
        else
          (readChoices? writing fuel rest).map fun (second, rest) => (.either first second, rest)
end

/-- Read a pattern. Every step takes a mark. -/
def ofMarks (writing : Writing) (marks : List Mark) : Pattern :=
  let marks := unescape marks
  let marks :=
    if writing.foldsCase then marks.map fun mark => { mark with char := mark.char.toLower }
    else marks
  (readUpTo writing false (2 * marks.length + 2) marks).1

/-- Whether a pattern as it is written matches a whole text. -/
def fits (writing : Writing) (marks : List Mark) (text : List Char) : Bool :=
  (ofMarks writing marks).isMatch (if writing.foldsCase then text.map Char.toLower else text)

/-- Replace what a pattern matches in a text by what a function makes of it, from the left to
the right. A match is as long as possible, and an empty one is none. -/
def replace (every : Bool) (pattern : Pattern) (word : List Char → List Char) :
    Nat → List Char → List Char
  | 0, text => text
  | fuel + 1, text =>
    match (pattern.beginning? true text).getD 0, text with
    | 0, [] => []
    | 0, c :: rest => c :: replace every pattern word fuel rest
    | length + 1, text =>
      let rest := text.drop (length + 1)
      word (text.take (length + 1)) ++ (if every then replace every pattern word fuel rest else rest)

end Pattern

end Metamorph.Sandbox
