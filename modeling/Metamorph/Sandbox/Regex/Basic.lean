import Metamorph.Sandbox.Text

/-! # Regular expressions

What regular expressions are and what they match. -/

namespace Metamorph.Sandbox

/-! ## Their parts

Expressions that match parts of a text: characters, places, and what is made of them by
sequences, choices and repetitions. -/

/-- A place in a text that an expression can ask for. -/
inductive Spot where
  | lineStart
  | lineEnd
  | textStart
  | textEnd
  | wordStart
  | wordEnd
  | wordEdge
  | noWordEdge
  /-- Not behind a character of a word, and not in front of one. -/
  | behindNoWord
  | beforeNoWord
  deriving DecidableEq

/-- A regular expression. -/
inductive Regex where
  | empty
  | char (accepts : Char → Bool)
  | spot (spot : Spot)
  | sequence (first second : Regex)
  | choice (first second : Regex)
  /-- From `least` up to `most` repetitions. -/
  | repeated (least : Nat) (most : Option Nat) (body : Regex)
  | group (number : Nat) (body : Regex)
  /-- The same text that a group has matched. -/
  | reference (number : Nat)

namespace Regex

/-- An expression for a fixed text. -/
def ofText (ignoreCase : Bool) (text : List Char) : Regex :=
  let same (c d : Char) : Bool := if ignoreCase then c.toLower = d.toLower else c = d
  text.foldr (fun c rest => .sequence (.char (same c)) rest) .empty

/-- Whether an expression asks for the text of a group. -/
def hasReference : Regex → Bool
  | .sequence first second => first.hasReference || second.hasReference
  | .choice first second => first.hasReference || second.hasReference
  | .repeated _ _ body => body.hasReference
  | .group _ body => body.hasReference
  | .reference _ => true
  | _ => false

/-- Whether a character is part of a word. -/
def isWordChar (c : Char) : Bool :=
  c.isAlphanum || c = '_'

end Regex

/-- What matching goes by besides the text: whether lines in it have ends of their own, and
whether the text does not start, or not end, where it is cut off. -/
structure Regex.Setting where
  lines : Bool := false
  before : Option Char := none

/-- Whether a place between two characters is the one that is asked for. -/
def Spot.holds (setting : Regex.Setting) (previous next : Option Char) : Spot → Bool
  | .lineStart => previous.isNone || (setting.lines && previous = some '\n')
  | .lineEnd => next.isNone || (setting.lines && next = some '\n')
  | .textStart => previous.isNone
  | .textEnd => next.isNone
  | .wordStart => !previous.any Regex.isWordChar && next.any Regex.isWordChar
  | .wordEnd => previous.any Regex.isWordChar && !next.any Regex.isWordChar
  | .wordEdge => previous.any Regex.isWordChar != next.any Regex.isWordChar
  | .noWordEdge => previous.any Regex.isWordChar == next.any Regex.isWordChar
  | .behindNoWord => !previous.any Regex.isWordChar
  | .beforeNoWord => !next.any Regex.isWordChar

end Metamorph.Sandbox

namespace Metamorph.Sandbox.Regex

/-! ## Matching regular expressions

A match begins as far to the left as possible, and of those that begin there it is the longest.
Inside of it every part takes as much as it can, the parts further left first.

The places of a text are the bits of a number: an expression takes the set of places where it
may begin to the set of places where it may end. -/

/-- An expression with the places of a text that its parts fit. -/
inductive Fitted where
  | empty
  /-- The places behind which a character is accepted. -/
  | chars (places : Nat)
  /-- The places that are asked for. -/
  | spots (places : Nat)
  | sequence (first second : Fitted)
  | choice (first second : Fitted)
  | repeated (least : Nat) (most : Option Nat) (body : Fitted)
  | group (number : Nat) (body : Fitted)

/-- The set of the places with some property. -/
def placesWhere (holds : List Bool) : Nat :=
  holds.foldr (fun b places => 2 * places + if b then 1 else 0) 0

/-- Fit an expression to a text. The pairs are the characters on both sides of each place. -/
def fit (setting : Setting) (sides : List (Option Char × Option Char)) : Regex → Fitted
  | .empty => .empty
  | .char accepts => .chars (placesWhere (sides.map fun side => side.2.any accepts))
  | .spot asked => .spots (placesWhere (sides.map fun side => asked.holds setting side.1 side.2))
  | .sequence first second => .sequence (fit setting sides first) (fit setting sides second)
  | .choice first second => .choice (fit setting sides first) (fit setting sides second)
  | .repeated least most body => .repeated least most (fit setting sides body)
  | .group number body => .group number (fit setting sides body)
  | .reference _ => .empty

/-- Apply a step a number of times. -/
def times (step : Nat → Nat) : Nat → Nat → Nat
  | 0, places => places
  | count + 1, places => times step count (step places)

/-- All places that are reached by at most so many steps, with those that were reached in the
last step. -/
def reach (step : Nat → Nat) : Nat → Nat → Nat → Nat
  | 0, found, _ => found
  | count + 1, found, last =>
    let next := step last
    let fresh := next ^^^ (next &&& found)
    if fresh = 0 then found else reach step count (found ||| fresh) fresh

namespace Fitted

/-- The places where an expression may end that begins at one of some places, in a text with
so many of them. -/
def ends (total : Nat) : Fitted → Nat → Nat
  | .empty, places => places
  | .chars accepted, places => (places &&& accepted) <<< 1
  | .spots holding, places => places &&& holding
  | .sequence first second, places => second.ends total (first.ends total places)
  | .choice first second, places => first.ends total places ||| second.ends total places
  | .repeated least most body, places =>
    let start := times (fun places => body.ends total places) least places
    let more := match most with | some most => most - least | none => total
    reach (fun places => body.ends total places) more start start
  | .group _ body, places => body.ends total places

/-- Whether an expression can begin at one place and end at another. -/
def spans (total : Nat) (fitted : Fitted) (first last : Nat) : Bool :=
  (fitted.ends total (1 <<< first)).testBit last

/-- The places of groups, the last ones to be matched first. -/
abbrev Spans := List (Nat × Nat × Nat)

/-- The greatest place up to a last one that belongs to a set and has a property. -/
def greatest? (places : Nat) (holds : Nat → Bool) : Nat → Option Nat
  | 0 => if places.testBit 0 && holds 0 then some 0 else none
  | place + 1 =>
    if places.testBit (place + 1) && holds (place + 1) then some (place + 1)
    else greatest? places holds place

/-- The places of the groups in an expression that begins and ends at given places. The fuel
bounds the depth of the expression and the number of its repetitions. -/
def groupsWithin (total : Nat) : Nat → Fitted → Nat → Nat → Spans
  | 0, _, _, _ => []
  | fuel + 1, fitted, first, last =>
    match fitted with
    | .sequence one two =>
      match greatest? (one.ends total (1 <<< first)) (fun place => two.spans total place last) last
      with
      | some middle =>
        groupsWithin total fuel two middle last ++ groupsWithin total fuel one first middle
      | none => []
    | .choice one two =>
      if one.spans total first last then groupsWithin total fuel one first last
      else groupsWithin total fuel two first last
    | .repeated least most body =>
      if least = 0 && (first = last || most = some 0) then []
      else
        let rest : Fitted := .repeated (least - 1) (most.map (· - 1)) body
        match greatest? (body.ends total (1 <<< first))
            (fun place => (first < place || least ≠ 0) && rest.spans total place last) last with
        | some middle =>
          groupsWithin total fuel rest middle last ++ groupsWithin total fuel body first middle
        | none => []
    | .group number body => groupsWithin total fuel body first last ++ [(number, first, last)]
    | _ => []

end Fitted

/-- How deep an expression is nested. -/
def height : Regex → Nat
  | .sequence first second => max first.height second.height + 1
  | .choice first second => max first.height second.height + 1
  | .repeated least _ body => body.height + least + 1
  | .group _ body => body.height + 1
  | _ => 1

/-- Where a match has come to, with the places of the groups so far. -/
abbrev Reached := Nat × Fitted.Spans

/-- All ways in which an expression with references matches from a place, the ones that take
more first. The fuel bounds the depth of the search. -/
def ways (setting : Setting) (text : Array Char) :
    Nat → Regex → Reached → List Reached
  | 0, _, _ => []
  | fuel + 1, regex, (place, groups) =>
    let previous := if place = 0 then setting.before else text[place - 1]?
    match regex with
    | .empty => [(place, groups)]
    | .char accepts => if text[place]?.any accepts then [(place + 1, groups)] else []
    | .spot asked => if asked.holds setting previous text[place]? then [(place, groups)] else []
    | .sequence first second =>
      (ways setting text fuel first (place, groups)).flatMap (ways setting text fuel second)
    | .choice first second =>
      ways setting text fuel first (place, groups) ++ ways setting text fuel second (place, groups)
    | .repeated least most body =>
      let more :=
        if most = some 0 then []
        else
          (ways setting text fuel body (place, groups)).flatMap fun reached =>
            if least = 0 && reached.1 = place then []
            else ways setting text fuel (.repeated (least - 1) (most.map (· - 1)) body) reached
      more ++ if least = 0 then [(place, groups)] else []
    | .group number body =>
      (ways setting text fuel body (place, groups)).map fun (after, groups) =>
        (after, (number, place, after) :: groups)
    | .reference number =>
      match groups.lookup number with
      | none => []
      | some (first, last) =>
        let part := (text.extract first last).toList
        if (text.extract place (place + part.length)).toList = part then
          [(place + part.length, groups)]
        else []

/-- A match in a text: where it begins and ends, and the places of its groups. -/
structure Found where
  first : Nat
  last : Nat
  groups : Fitted.Spans

/-- Look for a match of a fitted expression from a place on. -/
def searchFitted (total : Nat) (fitted : Fitted) (depth : Nat) : Nat → Nat → Option Found
  | 0, _ => none
  | count + 1, first =>
    let ends := fitted.ends total (1 <<< first)
    if ends = 0 then searchFitted total fitted depth count (first + 1)
    else
      let last := ends.log2
      some ⟨first, last, fitted.groupsWithin total (depth + 2 * total + 2) first last⟩

/-- Look for a match of an expression with references from a place on. -/
def searchWays (setting : Setting) (text : Array Char) (regex : Regex) : Nat → Nat → Option Found
  | 0, _ => none
  | count + 1, first =>
    match ways setting text (regex.height + text.size + 2) regex (first, []) with
    | [] => searchWays setting text regex count (first + 1)
    | way :: others =>
      let (last, groups) := others.foldl (fun best way => if best.1 < way.1 then way else best) way
      some ⟨first, last, groups⟩

/-- The match in a text that begins at a place or as little behind it as possible. -/
def search? (regex : Regex) (setting : Setting) (text : List Char) (start : Nat) : Option Found :=
  let total := text.length + 1
  if regex.hasReference then searchWays setting text.toArray regex (total - start) start
  else
    let fronts := setting.before :: text.map some
    let sides := fronts.zip (text.map some ++ [none])
    searchFitted total (regex.fit setting sides) regex.height (total - start) start

where
  /-- Fit an expression to a text. -/
  fit (regex : Regex) (setting : Setting) (sides : List (Option Char × Option Char)) : Fitted :=
    Regex.fit setting sides regex

/-- All matches in a text from the left to the right, none of which overlaps another one. An
empty match right behind another one is none. -/
def searchAll (regex : Regex) (setting : Setting) (text : List Char) : List Found :=
  let total := text.length + 1
  let rec go : Nat → Nat → Option Nat → List Found
    | 0, _, _ => []
    | fuel + 1, start, previous =>
      if total ≤ start then []
      else
        match regex.search? setting text start with
        | none => []
        | some found =>
          if found.first = found.last then
            if previous = some found.first then go fuel (found.last + 1) none
            else found :: go fuel (found.last + 1) none
          else found :: go fuel found.last (some found.last)
  go (2 * total + 2) 0 none

/-- Whether an expression matches anything in a text. -/
def isFound (regex : Regex) (text : List Char) : Bool :=
  (regex.search? {} text 0).isSome

namespace Found

/-- The part of a text that was matched. -/
def textIn (found : Found) (text : List Char) : List Char :=
  (text.drop found.first).take (found.last - found.first)

/-- The part of a text that a group has matched; group 0 is the whole match. -/
def groupIn (found : Found) (text : List Char) (number : Nat) : List Char :=
  if number = 0 then found.textIn text
  else
    match found.groups.lookup number with
    | some (first, last) => (text.drop first).take (last - first)
    | none => []

end Found

end Metamorph.Sandbox.Regex
