import Metamorph.Sandbox.Tool.Basic

/-! # Tools for columns

The tools that cut columns out of lines and put lines side by side, and the one that exchanges
characters. -/

namespace Metamorph.Sandbox

/-- Columns from a first to a last one, which may be missing. -/
abbrev ColumnRange := Nat × Option Nat

/-- The columns that a list such as `1,3-5` names. -/
def columnRanges? (text : String) : Option (List ColumnRange) :=
  (text.splitOn ",").mapM fun range =>
    match range.splitOn "-" with
    | [one] => (Tool.natural? one).bind fun n => if n = 0 then none else some (n, some n)
    | [low, high] =>
      let first := if low.isEmpty then some 1 else Tool.natural? low
      let last := if high.isEmpty then some none else (Tool.natural? high).map some
      match first, last with
      | some n, some m =>
        if n = 0 || (low.isEmpty && high.isEmpty) || m.any (· < n) then none else some (n, m)
      | _, _ => none
    | _ => none

/-- The items of a list that stand in some columns, or in none of them. -/
def pickColumns {α : Type} (ranges : List ColumnRange) (complement : Bool) (items : List α) :
    List α :=
  (items.zipIdx.filter fun item =>
    complement != ranges.any fun (low, high) =>
      low ≤ item.2 + 1 && high.all fun last => item.2 + 1 ≤ last).map (·.1)

/-- The characters that escapes in a text stand for. -/
def unescape : List Char → List Char
  | [] => []
  | '\\' :: 'n' :: rest => '\n' :: unescape rest
  | '\\' :: 't' :: rest => '\t' :: unescape rest
  | '\\' :: '\\' :: rest => '\\' :: unescape rest
  | c :: rest => c :: unescape rest

/-- Lines side by side, with separators in turn between them. -/
def pasteRows (separators : List (List Char)) : Nat → List (List (List Char)) → List (List Char)
  | 0, _ => []
  | fuel + 1, columns =>
    if columns.all (·.isEmpty) then []
    else
      let cells := columns.map fun column => column.headD []
      let row := (cells.zipIdx.map fun (cell, i) =>
        if i = 0 then cell else separators.getD ((i - 1) % max 1 separators.length) [] ++ cell).flatten
      row :: pasteRows separators fuel (columns.map (·.drop 1))

/-- How the exchange of characters fails to be described. -/
inductive SetFault where
  | reversedRange (first last : Char)
  | unknownClass (name : String)

/-- All characters of a class, in increasing order. -/
def charactersWhere (accepts : Char → Bool) : List Char :=
  ((List.range 256).map Char.ofNat).filter accepts

/-- A character that may be written as an escape, and what follows. -/
def escapedChar : List Char → Option (Char × List Char)
  | [] => none
  | '\\' :: c :: rest =>
    let octal := (c :: rest).takeWhile fun c => '0' ≤ c && c ≤ '7'
    let digits := octal.take 3
    if !digits.isEmpty then
      some (Char.ofNat (digits.foldl (fun n d => n * 8 + (d.toNat - 48)) 0 % 256),
        (c :: rest).drop digits.length)
    else
      let plain :=
        [('n', '\n'), ('t', '\t'), ('r', '\r'), ('\\', '\\'), ('a', '\x07'), ('b', '\x08'),
          ('f', '\x0c'), ('v', '\x0b')].lookup c
      some (plain.getD c, rest)
  | c :: rest => some (c, rest)

/-- The characters of a set for an exchange; one that is repeated without end is given behind
them. -/
def readSet : Nat → List Char → Except SetFault (List Char)
  | 0, _ => .ok []
  | _ + 1, [] => .ok []
  | fuel + 1, input => do
    let className (input : List Char) : Option (List Char × List Char) :=
      match input with
      | '[' :: ':' :: rest =>
        let name := rest.takeWhile (· ≠ ':')
        match rest.drop name.length with
        | ':' :: ']' :: more => some (name, more)
        | _ => none
      | _ => none
    let repeated (input : List Char) : Option (List Char × List Char) :=
      match input with
      | '[' :: c :: '*' :: rest =>
        let digits := rest.takeWhile Char.isDigit
        match rest.drop digits.length with
        | ']' :: more =>
          let count := if digits.isEmpty then 256 else Text.digitsValue digits
          some (List.replicate count c, more)
        | _ => none
      | _ => none
    match className input, repeated input with
    | some (name, rest), _ =>
      match classOf? (String.ofList name) with
      | some accepts => return charactersWhere accepts ++ (← readSet fuel rest)
      | none => throw (.unknownClass (String.ofList name))
    | none, some (characters, rest) => return characters ++ (← readSet fuel rest)
    | none, none =>
      match escapedChar input with
      | none => return []
      | some (c, '-' :: more) =>
        match escapedChar more with
        | some (d, rest) =>
          if d < c then throw (.reversedRange c d)
          else
            let range := (List.range (d.toNat - c.toNat + 1)).map fun i => Char.ofNat (c.toNat + i)
            return range ++ (← readSet fuel rest)
        | none => return [c, '-']
      | some (c, rest) => return c :: (← readSet fuel rest)

namespace Tool

/-- Cut columns out of lines. -/
def cut : Tool := fun _ arguments =>
  withOptions "cut" 1
    { flags := "nsCz", valued := "bcdfO", long := [("bytes", 'b'), ("characters", 'c'),
      ("delimiter", 'd'), ("fields", 'f'), ("only-delimited", 's'), ("complement", 'C'),
      ("output-delimiter", 'O')] } arguments fun options => do
    match options.lastOf? ['b', 'c', 'f'] with
    | none => misuse "cut" 1 "you must specify a list of bytes, characters, or fields"
    | some kind =>
      let text := (options.value? kind).getD ""
      let isField := kind = 'f'
      let delimiters := ((options.value? 'd').getD "\t").toList
      if 1 < delimiters.length then misuse "cut" 1 "the delimiter must be a single character"
      else if (options.has 'd') && !isField then
        misuse "cut" 1 "an input delimiter may be specified only when operating on fields"
      else
        match columnRanges? text with
        | none =>
          let what := if isField then "field" else "byte/character position"
          if text.toList.all fun c => c.isDigit || c = ',' || c = '-' then
            if (text.splitOn ",").contains "0" then
              misuse "cut" 1 (if isField then "fields are numbered from 1"
                else "byte/character positions are numbered from 1")
            else misuse "cut" 1 ("invalid decreasing range")
          else misuse "cut" 1 ("invalid " ++ what ++ " value " ++ cited text)
        | some ranges =>
          let complement := options.has 'C'
          let delimiter := delimiters.headD (Char.ofNat 0)
          let glue := ((options.value? 'O').map String.toList).getD [delimiter]
          let line (line : List Char) : Option (List Char) :=
            if isField then
              let fields := splitAt delimiter line
              if fields.length = 1 then if options.has 's' then none else some line
              else some (glue.intercalate (pickColumns ranges complement fields))
            else some (pickColumns ranges complement line)
          withLines "cut" cannotRead options.operands fun text =>
            joinLines ((splitLines text).filterMap line)

/-- Put the lines of files side by side, or the lines of each file behind each other. -/
def paste : Tool := fun _ arguments =>
  withOptions "paste" 1
    { flags := "sz", valued := "d", long := [("serial", 's'), ("delimiters", 'd')] } arguments
    fun options => do
    let separators := (unescape ((options.value? 'd').getD "\t").toList).map fun c =>
      if c = Char.ofNat 0 then [] else [c]
    let separators := if separators.isEmpty then [[]] else separators
    let paths := if options.operands.isEmpty then ["-"] else options.operands
    let dashes := paths.count "-"
    let input ← if 0 < dashes then Step.readAll 0 else pure []
    let inputLines := (splitLines input).zipIdx
    let (columns, good, _) ← paths.foldlM (fun (columns, good, seen) path => do
      if path = "-" then
        let column := (inputLines.filter fun line => line.2 % dashes = seen).map (·.1)
        let column := if options.has 's' && 0 < seen then [] else
          if options.has 's' then inputLines.map (·.1) else column
        return (columns ++ [column], good, seen + 1)
      else
        match ← readOrComplain "paste" path with
        | some text => return (columns ++ [splitLines text], good, seen)
        | none => return (columns, false, seen)) (([], true, 0) : List (List (List Char)) × Bool × Nat)
    let rows :=
      if options.has 's' then
        columns.map fun column => (pasteRows separators 1 (column.map fun cell => [cell])).headD []
      else if good then
        pasteRows separators (columns.foldl (fun n column => max n column.length) 0 + 1) columns
      else []
    outLines rows
    return if good then 0 else 1

/-- Exchange, delete or squeeze characters. -/
def tr : Tool := fun _ arguments =>
  withOptions "tr" 1
    { flags := "cCdst", anywhere := false, long := [("complement", 'c'), ("delete", 'd'),
      ("squeeze-repeats", 's'), ("truncate-set1", 't')] } arguments fun options => do
    let deletes := options.has 'd'
    let squeezes := options.has 's'
    let complement := options.has 'c' || options.has 'C'
    let sets := options.operands.mapM fun text => readSet (2 * text.length + 2) text.toList
    let wanted := if deletes == squeezes then 2 else 1
    match sets, options.operands with
    | .error (.reversedRange first last), _ =>
      fail "tr" 1 ("range-endpoints of '" ++ String.ofList [first, '-', last]
        ++ "' are in reverse collating sequence order")
    | .error (.unknownClass name), _ => fail "tr" 1 ("invalid character class " ++ cited name)
    | .ok sets, operands =>
      match sets with
      | [] => misuse "tr" 1 "missing operand"
      | first :: others =>
        let second := others.headD []
        let isIn (c : Char) : Bool := complement != first.contains c
        if others.isEmpty && wanted = 2 then do
          complain "tr" ("missing operand after " ++ cited (operands.headD ""))
          Step.complain (if deletes
            then "Two strings must be given when both deleting and squeezing repeats."
            else "Two strings must be given when translating.")
          Step.complain "Try 'tr --help' for more information."
          return 1
        else if 1 < others.length || (deletes && !squeezes && !others.isEmpty) then do
          let extra := if deletes && !squeezes then operands.getD 1 "" else operands.getD 2 ""
          complain "tr" ("extra operand " ++ cited extra)
          if deletes && !squeezes && others.length = 1 then
            Step.complain "Only one string may be given when deleting without squeezing repeats."
          Step.complain "Try 'tr --help' for more information."
          return 1
        else do
          let translates := !deletes && !others.isEmpty
          if translates && second.isEmpty then
            fail "tr" 1 "when not truncating set1, string2 must be non-empty"
          else
            let source := if complement then charactersWhere isIn else first
            let last := second.getLast?.getD (Char.ofNat 0)
            let target (c : Char) : Char :=
              if isIn c then
                let place := source.length - 1 - (source.reverse.idxOf c)
                if options.has 't' && second.length ≤ place then c else second.getD place last
              else c
            let table := ((List.range 256).map fun code => target (Char.ofNat code)).toArray
            let removed := ((List.range 256).map fun code => isIn (Char.ofNat code)).toArray
            let isSqueezed (c : Char) : Bool :=
              squeezes && if others.isEmpty then isIn c else second.contains c
            let change (c : Char) : Option Char :=
              if deletes then if removed.getD c.toNat false then none else some c
              else if translates then some (table.getD c.toNat c)
              else some c
            let result ← overPortions 0 (none : Option Char) fun before text => do
              let (kept, last) := text.foldl (fun (kept, last) c =>
                match change c with
                | none => (kept, last)
                | some d =>
                  if last = some d && isSqueezed d then (kept, last) else (d :: kept, some d))
                (([], before) : List Char × Option Char)
              Step.write 1 kept.reverse
              return (last, true)
            match result with
            | .ok _ => return 0
            | .error why => fail "tr" 1 ("read error: " ++ why.reason)

end Tool

end Metamorph.Sandbox
