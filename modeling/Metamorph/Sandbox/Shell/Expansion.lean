import Metamorph.Sandbox.Shell.Lexing
import Metamorph.Sandbox.Shell.Arithmetic
import Metamorph.Sandbox.Shell.Engine
import Metamorph.Sandbox.Shell.Reference

/-! # From words to fields

What the words of a command stand for. -/

namespace Metamorph.Sandbox.Shell.Brace

/-! ## Braces

A word of the rich dialect with a list or a range between braces stands for several words, one
for each item. Quoted braces mean nothing. -/

/-- A part of a word: an unquoted character, or a piece that is kept as it is. -/
inductive Part where
  | char (c : Char)
  | piece (piece : Piece)

/-- Whether a part is an unquoted character. -/
def Part.isChar (c : Char) : Part → Bool
  | .char d => c = d
  | .piece _ => false

/-- The parts of a word. -/
def partsOf (word : Word) : List Part :=
  word.flatMap fun piece =>
    match piece with
    | .literal false text => text.map .char
    | piece => [.piece piece]

/-- Put a character in front of a word. -/
def consChar (c : Char) : Word → Word
  | .literal false text :: rest => .literal false (c :: text) :: rest
  | word => .literal false [c] :: word

/-- The word made of parts. -/
def wordOf (parts : List Part) : Word :=
  parts.foldr (fun part word =>
    match part with
    | .char c => consChar c word
    | .piece piece => piece :: word) []

/-- Read up to the closing brace: the items between commas, and what follows. The depth counts
the braces that have been opened inside. -/
def items? : Nat → List Part → Option (List (List Part) × List Part)
  | _, [] => none
  | depth, part :: rest =>
    if part.isChar '\x7d' && depth = 0 then some ([[]], rest)
    else if part.isChar ',' && depth = 0 then do
      let (items, after) ← items? 0 rest
      return ([] :: items, after)
    else do
      let depth := if part.isChar '\x7b' then depth + 1
        else if part.isChar '\x7d' then depth - 1 else depth
      let (items, after) ← items? depth rest
      match items with
      | [] => none
      | item :: others => return ((part :: item) :: others, after)

/-- The texts of a range such as `1..3` or `a..e`, perhaps with a step. -/
def range? (text : List Char) : Option (List (List Char)) :=
  let steps (first last : Int) (step : Nat) : List Int :=
    let count := (last - first).natAbs / step + 1
    (List.range count).map fun (i : Nat) =>
      if first ≤ last then first + step * i else first - step * i
  let width (text : String) : Nat :=
    if text.startsWith "0" && 1 < text.length || text.startsWith "-0" then text.length else 0
  let number (width : Nat) (n : Int) : List Char :=
    let digits := Nat.toDigits 10 n.natAbs
    let sign := if n < 0 then ['-'] else []
    sign ++ List.replicate (width - sign.length - digits.length) '0' ++ digits
  let range (first last : String) (step : Nat) : Option (List (List Char)) :=
    match first.toInt?, last.toInt?, first.toList, last.toList with
    | some a, some b, _, _ => some ((steps a b step).map (number (max (width first) (width last))))
    | none, none, [a], [b] =>
      if a.isAlpha && b.isAlpha then
        some ((steps a.toNat b.toNat step).map fun n => [Char.ofNat n.toNat])
      else none
    | _, _, _, _ => none
  match (String.ofList text).splitOn ".." with
  | [first, last] => range first last 1
  | [first, last, step] => step.toInt?.bind fun n => range first last (max 1 n.natAbs)
  | _ => none

/-- The text of parts that are all characters. -/
def textOf? (parts : List Part) : Option (List Char) :=
  parts.mapM fun part => match part with | .char c => some c | .piece _ => none

/-- The words that parts stand for. The fuel bounds the braces. -/
def expandParts : Nat → List Part → List (List Part)
  | 0, parts => [parts]
  | _ + 1, [] => [[]]
  | fuel + 1, part :: rest =>
    let plain := (expandParts fuel rest).map (part :: ·)
    if part.isChar '\x7b' then
      match items? 0 rest with
      | none => plain
      | some (items, after) =>
        let chosen : Option (List (List Part)) :=
          match items with
          | [single] =>
            (textOf? single).bind fun text => (range? text).map fun texts =>
              texts.map fun text => text.map .char
          | _ => some (items.flatMap (expandParts fuel))
        match chosen with
        | none => plain
        | some chosen =>
          let others := expandParts fuel after
          chosen.flatMap fun item => others.map (item ++ ·)
    else plain

/-- The words that a word with braces stands for. -/
def expand (word : Word) : List Word :=
  let parts := partsOf word
  if parts.any (·.isChar '\x7b') then (expandParts (parts.length + 1) parts).map wordOf else [word]

end Metamorph.Sandbox.Shell.Brace

namespace Metamorph.Sandbox.Shell

/-! ## Expanding words

Words become texts: values, results and outputs take the place of the pieces that stand for
them. Most words become fields then. The fuel bounds how deep words stand in words. -/

/-- Evaluate an arithmetic expression and change the variables that it assigns to. A fault ends
the script. -/
def evaluateText (text : List Char) : Step Int := do
  let run ← get
  let setting : Arithmetic.Setting :=
    { dialect := run.process.dialect, value? := parameter? run }
  match Arithmetic.evaluate setting text with
  | .ok (value, changed) => do
    changed.reverse.forM fun (name, value) => do
      let _ ← setVariable name (toString value)
    return value
  | .error why => do
    let shown := String.ofList text
    if run.process.dialect = .rich then abort 1 (why.richMessage shown)
    else abort 2 (why.plainMessage shown)
    return 0

/-- The index of an item as it is kept: a number below zero counts from the end. -/
def keptIndex (entry : Variable) (index : Int) : String :=
  let last := (itemsOf entry).foldl (fun last item => max last ((item.1.toInt?).getD 0)) (-1)
  toString (if index < 0 then index + last + 1 else index)

/-- Refuse a value that is missing if the shell was told to. -/
def refuseMissing (name : String) (reference : Reference) : Step Unit := do
  match reference with
  | .single none =>
    if ← hasOption "u" then
      if ← isRich then abort 127 (name ++ ": unbound variable")
      else abort 2 (name ++ ": parameter not set")
  | _ => pure ()

/-- Leave the script because a value is missing. -/
def leaveMissing (name : String) (orEmpty : Bool) (message : String) : Step Unit := do
  let rich ← isRich
  let usual :=
    if !orEmpty then "parameter not set"
    else if rich then "parameter null or not set"
    else "parameter not set or null"
  abort (if rich then 127 else 2) (name ++ ": " ++ if message.isEmpty then usual else message)

namespace Engine

/-- How deep words may stand in words. -/
def wordDepth : Nat := 500

/-- Start a script whose output is read through a stream, and give the path that stands for the
stream. -/
def startOutput (engine : Engine) (script : Script) : Step String := do
  let (reading, writing) ← Step.openPipe
  let used := (← Step.process).streams.map (·.1)
  let stream := (((List.range 64).reverse).find? (!used.contains ·)).getD 63
  let _ ← Step.start Runner.copyTime (fun process =>
    { copied process with
      streams := (1, writing) :: process.streams.filter fun entry => entry.1 ≠ 1 })
    (engine.asWhole (engine.runScript { isLast := true } script))
  Step.setStream stream (some reading)
  return "/dev/fd/" ++ toString stream

/-- Expand a piece of a word. Whether the text of literals is split, too, is said first. -/
def expandPiece (engine : Engine) : Nat → Bool → Piece → Step (List Glyph)
  | 0, _, _ => do
    Step.setFlow (.killed 11)
    return []
  | fuel + 1, splits, piece => do
    let expandAs (splits : Bool) (word : Word) : Step (List Glyph) := do
      let word := expandHome (← Step.process) word
      return (← word.mapM (expandPiece engine fuel splits)).flatten
    let textOf (word : Word) : Step (List Char) := do return Glyph.text (← expandAs false word)
    let patternOf (word : Word) : Step Pattern := do
      return Pattern.ofMarks (writing (← Step.process)) (Glyph.marks (← expandAs false word))
    if !(← Step.isGoing) then return []
    match piece with
    | .literal quoted text => return Glyph.ofText quoted splits text
    | .arithmetic quoted expression => do
      let value ← evaluateText (← textOf expression)
      return Glyph.ofText quoted true (toString value).toList
    | .output quoted script => do
      return Glyph.ofText quoted true (← engine.outputOf script)
    | .outputFile script => do
      let path ← engine.startOutput script
      return Glyph.ofText true false path.toList
    | .items words => return (← words.mapM (expandAs true)).flatten
    | .value quoted name use => do
      let name ←
        match indexed? name with
        | some (base, index) =>
          if index = "@" || index = "*" then pure name
          else
            let word := readIndex index.toList
            let text ← textOf word
            let entry := ((← Step.process).bindings.lookup base).getD {}
            let kept ←
              if entry.keyed then pure (String.ofList text)
              else do pure (keptIndex entry (← evaluateText text))
            pure (base ++ "[" ++ kept ++ "]")
        | none => pure name
      let run ← get
      let reference := Reference.ofName run name
      let shown (reference : Reference) : Step (List Glyph) :=
        return reference.glyphs run.process quoted
      let another (word : Word) : Step (List Glyph) := do
        let glyphs ← expandAs (!quoted) word
        return if quoted && glyphs.isEmpty then [.quotes] else glyphs
      match use with
      | .plain => do
        refuseMissing name reference
        shown reference
      | .length => do
        refuseMissing name reference
        let length :=
          match reference, run.process.dialect with
          | .single value, _ => (value.getD "").length
          | .several _ values, .rich => values.length
          | .several _ _, .plain =>
            (Glyph.text (reference.glyphs run.process false)).length
        return Glyph.ofText quoted true (toString length).toList
      | .orElse orEmpty word =>
        if reference.isMissing run.process orEmpty then another word else shown reference
      | .orAssign orEmpty word =>
        if reference.isMissing run.process orEmpty then
          if isName name.toList || (indexed? name).isSome then
            let text := String.ofList (← textOf word)
            let _ ← setVariable name text
            shown (.single (some text))
          else
            abort 2 (name ++ ": bad variable name")
            return []
        else shown reference
      | .instead orEmpty word =>
        if reference.isMissing run.process orEmpty then shown (.single none) else another word
      | .orLeave orEmpty word =>
        if reference.isMissing run.process orEmpty then
          leaveMissing name orEmpty (String.ofList (← textOf word))
          return []
        else shown reference
      | .cut how pattern => do
        refuseMissing name reference
        let pattern ← patternOf pattern
        shown (reference.map (cutValue how pattern))
      | .replace which pattern word => do
        refuseMissing name reference
        let pattern ← patternOf pattern
        let marks := Glyph.marks (← expandAs false word)
        shown (reference.map (replaceIn which pattern (restate marks)))
      | .slice start length => do
        refuseMissing name reference
        let start ← evaluateText (← textOf start)
        let length ← length.mapM fun word => do evaluateText (← textOf word)
        let part? :=
          match reference with
          | .single value =>
            (slice start length (value.getD "").toList).map fun text =>
              Reference.single (some (String.ofList text))
          | .several together values =>
            let values := if name = "@" || name = "*" then run.process.name :: values else values
            (slice start length values).map (Reference.several together)
        match part? with
        | some part => shown part
        | none => do
          abort 1 (toString (length.getD 0) ++ ": substring expression < 0")
          return []
      | .letters large all => shown (reference.map (changeLetters large all))
      | .named => shown (.single ((reference.text |> parameter? run)))
      | .indices =>
        match indexed? name with
        | some (base, index) =>
          let items := ((run.process.bindings.lookup base).map itemsOf).getD []
          shown (.several (index = "*") (items.map (·.1)))
        | none => return []
      | .unknown => do
        if run.process.dialect = .rich then abort 1 "bad substitution"
        else abort 2 "Bad substitution"
        return []
where
  /-- What takes the place of a match: a text in which an ampersand stands for the match. -/
  restate (marks : List Mark) (found : List Char) : List Char :=
    (Pattern.unescape marks).flatMap fun mark =>
      if Pattern.isSign '&' mark then found else [mark.char]
  /-- The index of an item is a word without quotes. -/
  readIndex (text : List Char) : Word :=
    let inner := if text.head? = some '"' && text.getLast? = some '"' then
      (text.drop 1).dropLast else text
    match (readPieces (readingFuel inner) .text).run { rest := inner, dialect := .rich } with
    | .ok (word, _) => word
    | .error _ => [.literal false text]

/-- Expand a word to glyphs. -/
def expandWord (engine : Engine) (word : Word) : Step (List Glyph) := do
  let word := expandHome (← Step.process) word
  return (← word.mapM (engine.expandPiece wordDepth false)).flatten

/-- Expand a word that is not split. -/
def expandText (engine : Engine) (word : Word) : Step (List Char) := do
  return Glyph.text (← engine.expandWord word)

/-- Expand a text that is no part of a script. Nothing of that is shown. -/
def expandLoose (engine : Engine) (text : String) : Step String := do
  let process ← Step.process
  if !text.toList.any fun c => c = '$' || c = '\\' || c = backquote then return text
  else
    match wordOfText? process.dialect text.toList with
    | none => return text
    | some word => do
      setOption "x" false
      let shown ← engine.expandText word
      setOption "x" (process.options.contains "x")
      return String.ofList shown

/-- Expand the value of an assignment. -/
def expandValue (engine : Engine) (word : Word) : Step (List Char) := do
  let word := expandHomes (← Step.process) word
  return Glyph.text ((← word.mapM (engine.expandPiece wordDepth false)).flatten)

/-- Expand a word to fields. -/
def expandFields (engine : Engine) (word : Word) : Step (List String) := do
  let words := if ← isRich then Brace.expand word else [word]
  let fields ← words.mapM fun word => do
    let glyphs ← engine.expandWord word
    let process ← Step.process
    let files ← Step.files
    return (Glyph.fields (separators process) none false glyphs).flatMap (matchNames process files)
  return fields.flatten

/-- Expand the argument of a command that takes assignments. -/
def expandAssignment (engine : Engine) (word : Word) : Step (List String) := do
  let dialect := (← Step.process).dialect
  match assignment? dialect word with
  | some (name, value) => do
    let text ← engine.expandValue value
    return [name ++ "=" ++ String.ofList text]
  | none => engine.expandFields word

/-- Expand the items of an array: each word is one, or gives the index of one. -/
def expandItems (engine : Engine) (keyed : Bool) (words : List Word) :
    Step (List (String × String)) := do
  let (items, _) ← words.foldlM (fun (items, next) word => do
    let indexed :=
      match word with
      | .literal false ('[' :: rest) :: more =>
        let index := rest.takeWhile (· ≠ ']')
        match rest.drop index.length with
        | ']' :: '=' :: value => some (index, Piece.literal false value :: more)
        | _ => none
      | _ => none
    match indexed with
    | some (index, value) => do
      let text ← engine.expandValue value
      let key := if keyed then 0 else ((String.ofList index).toNat?).getD next
      let index := if keyed then String.ofList index else toString key
      return (items ++ [(index, String.ofList text)], key + 1)
    | none => do
      let fields ← engine.expandFields word
      let more := fields.zipIdx.map fun (field, i) => (toString (next + i), field)
      return (items ++ more, next + fields.length)) (([], 0) : List (String × String) × Nat)
  return items

/-- Carry out an assignment, which may add to the value that was there. -/
def assign (engine : Engine) (name : String) (value : Word) : Step Unit := do
  let appends := name.endsWith "+"
  let name := if appends then (name.dropEnd 1).toString else name
  match value with
  | [.items words] => do
    let entry := ((← Step.process).bindings.lookup name).getD {}
    let items ← engine.expandItems entry.keyed words
    let before := itemsOf entry
    let items :=
      if appends then
        before ++ items.map fun (index, text) =>
          (if entry.keyed then index else toString ((index.toNat?.getD 0) + before.length), text)
      else items
    setItems name items
  | _ => do
    let text := String.ofList (← engine.expandValue value)
    if ← Step.isGoing then
      let name ←
        match indexed? name with
        | some (base, index) =>
          let entry := ((← Step.process).bindings.lookup base).getD {}
          let word := expandPiece.readIndex index.toList
          let index ← engine.expandText word
          if entry.keyed then pure (base ++ "[" ++ String.ofList index ++ "]")
          else
            let kept := keptIndex entry (← evaluateText index)
            pure (base ++ "[" ++ kept ++ "]")
        | none => pure name
      let run ← get
      let before := if appends then (parameter? run name).getD "" else ""
      let _ ← setVariable name (before ++ text)

end Engine

end Metamorph.Sandbox.Shell
