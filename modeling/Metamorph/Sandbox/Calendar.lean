import Metamorph.Sandbox.Text

/-! # Times

Times of a calendar, and how they are written and read. -/

namespace Metamorph.Sandbox

/-! ## Dates and times

Moments are counted in seconds since the beginning of 1970. Here they become dates and clock
times, dates become moments again, and both are written by formats. Years are those of the
calendar that has a leap day in every fourth year, but not in every hundredth unless in every four
hundredth. -/

/-- A date with the time of a day. -/
structure Moment where
  year : Int := 1970
  month : Nat := 1
  day : Nat := 1
  hour : Nat := 0
  minute : Nat := 0
  second : Nat := 0
  /-- The billionths of a second. -/
  fraction : Nat := 0
  deriving DecidableEq, Repr

namespace Moment

/-- The seconds of a day. -/
def daySeconds : Int := 86400

/-- The days from the first day of March of the year zero to the beginning of 1970. -/
def daysBefore1970 : Int := 719468

/-- The days of a cycle of four hundred years. -/
def cycleDays : Int := 146097

/-- The number of a day, counted from the beginning of 1970. A month or day beyond its end counts on
into the next one. -/
def dayNumber (year : Int) (month : Int) (day : Int) : Int :=
  let months := year * 12 + (month - 1)
  let year := months / 12
  let month := months % 12 + 1
  let year := if month ≤ 2 then year - 1 else year
  let cycle := year / 400
  let ofCycle := year % 400
  let ofYear := (153 * (if month > 2 then month - 3 else month + 9) + 2) / 5
  cycle * cycleDays + ofCycle * 365 + ofCycle / 4 - ofCycle / 100 + ofYear + (day - 1)
    - daysBefore1970

/-- The date of a day that is counted from the beginning of 1970: its year, month and day. -/
def dateOf (number : Int) : Int × Nat × Nat :=
  let shifted := number + daysBefore1970
  let cycle := shifted / cycleDays
  let ofCycle := (shifted % cycleDays).toNat
  let year := (ofCycle - ofCycle / 1460 + ofCycle / 36524 - ofCycle / 146096) / 365
  let ofYear := ofCycle - (365 * year + year / 4 - year / 100)
  let month := (5 * ofYear + 2) / 153
  let day := ofYear - (153 * month + 2) / 5 + 1
  let month := if month < 10 then month + 3 else month - 9
  (year + cycle * 400 + (if month ≤ 2 then 1 else 0), month, day)

/-- The moment that is some seconds after the beginning of 1970. -/
def ofSeconds (seconds : Int) (fraction : Nat) : Moment :=
  let (year, month, day) := dateOf (seconds / daySeconds)
  let rest := (seconds % daySeconds).toNat
  { year, month, day, hour := rest / 3600, minute := rest / 60 % 60, second := rest % 60, fraction }

/-- The moment that is some microseconds after the beginning of 1970. -/
def ofMicroseconds (time : Int) : Moment :=
  ofSeconds (time / 1000000) ((time % 1000000).toNat * 1000)

/-- The seconds between the beginning of 1970 and a moment. -/
def seconds (moment : Moment) : Int :=
  dayNumber moment.year moment.month moment.day * daySeconds + moment.hour * 3600
    + moment.minute * 60 + moment.second

/-- The microseconds between the beginning of 1970 and a moment. -/
def microseconds (moment : Moment) : Int :=
  moment.seconds * 1000000 + moment.fraction / 1000

/-- The day of the week, from Sunday on. -/
def weekday (moment : Moment) : Nat :=
  ((dayNumber moment.year moment.month moment.day + 4) % 7).toNat

/-- The days of the year that have gone by. -/
def dayOfYear (moment : Moment) : Nat :=
  (dayNumber moment.year moment.month moment.day - dayNumber moment.year 1 1).toNat

/-- The days of the weeks of a year that have gone by, if weeks begin with some weekday. -/
def weekOfYear (moment : Moment) (firstDay : Nat) : Nat :=
  (moment.dayOfYear + 7 - (moment.weekday + 7 - firstDay) % 7) / 7

/-- The year that the week belongs to, and the number of the week in it. Weeks begin with Monday,
and the first one of a year has the fourth of January in it. -/
def yearAndWeek (moment : Moment) : Int × Nat :=
  let monday := dayNumber moment.year moment.month moment.day - ((moment.weekday + 6) % 7 : Nat)
  let (year, _, _) := dateOf (monday + 3)
  (year, ((monday + 3 - dayNumber year 1 1) / 7).toNat + 1)

end Moment

/-- The names of the days of a week. -/
def dayNames : List String :=
  ["Sunday", "Monday", "Tuesday", "Wednesday", "Thursday", "Friday", "Saturday"]

/-- The names of the months. -/
def monthNames : List String :=
  ["January", "February", "March", "April", "May", "June", "July", "August", "September",
    "October", "November", "December"]

/-- How a part of a time is written. -/
structure TimeStyle where
  /-- What a number is filled with, if not with what is usual. -/
  filling : Option Char := none
  /-- Numbers are not filled. -/
  bare : Bool := false
  upper : Bool := false
  /-- Letters become small ones, or large ones where these are not usual. -/
  turned : Bool := false
  width : Option Nat := none

namespace TimeStyle

/-- Read the signs and the width in front of a letter. The fuel bounds the signs. -/
def read : Nat → TimeStyle → List Char → TimeStyle × List Char
  | 0, style, text => (style, text)
  | fuel + 1, style, text =>
    match text with
    | '-' :: rest => read fuel { style with bare := true, filling := none } rest
    | '_' :: rest => read fuel { style with filling := some ' ', bare := false } rest
    | '0' :: rest => read fuel { style with filling := some '0', bare := false } rest
    | '+' :: rest => read fuel { style with filling := some '0', bare := false } rest
    | '^' :: rest => read fuel { style with upper := true } rest
    | '#' :: rest => read fuel { style with turned := true } rest
    | _ =>
      let digits := text.takeWhile Char.isDigit
      let value := digits.foldl (fun n d => n * 10 + (d.toNat - '0'.toNat)) 0
      (if digits.isEmpty then style else { style with width := some value },
        text.drop digits.length)

/-- Write a number with at least so many digits. -/
def number (style : TimeStyle) (value : Int) (width : Nat) (usual : Char) : List Char :=
  let digits := Nat.toDigits 10 value.natAbs
  let sign := if value < 0 then ['-'] else []
  let filling := style.filling.getD usual
  let width := if style.bare then style.width.getD 0 else style.width.getD width
  let missing := List.replicate (width - digits.length - sign.length) filling
  if filling = ' ' then missing ++ sign ++ digits else sign ++ missing ++ digits

/-- Write a word, whose letters `turned` makes large or small ones. -/
def word (style : TimeStyle) (text : String) (turnsDown : Bool) : List Char :=
  let letters :=
    if style.turned then text.toList.map (if turnsDown then Char.toLower else Char.toUpper)
    else if style.upper then text.toList.map Char.toUpper
    else text.toList
  let filling := style.filling.getD ' '
  List.replicate (style.width.getD 0 - letters.length) filling ++ letters

end TimeStyle

namespace Moment

/-- The parts of a time that are made of other parts, as a format of these. -/
def composed? (letter : Char) : Option String :=
  match letter with
  | 'c' => some "%a %b %e %H:%M:%S %Y"
  | 'D' => some "%m/%d/%y"
  | 'x' => some "%m/%d/%y"
  | 'F' => some "%Y-%m-%d"
  | 'r' => some "%I:%M:%S %p"
  | 'R' => some "%H:%M"
  | 'T' => some "%H:%M:%S"
  | 'X' => some "%H:%M:%S"
  | _ => none

/-- Write a single part of a time. -/
def part? (moment : Moment) (style : TimeStyle) (letter : Char) : Option (List Char) :=
  let twelve := if moment.hour % 12 = 0 then 12 else moment.hour % 12
  let day := (dayNames.getD moment.weekday "")
  let month := (monthNames.getD (moment.month - 1) "")
  let half := if moment.hour < 12 then "AM" else "PM"
  let (weekYear, week) := moment.yearAndWeek
  match letter with
  | '%' => some ['%']
  | 'n' => some ['\n']
  | 't' => some ['\t']
  | 'a' => some (style.word (day.take 3).toString false)
  | 'A' => some (style.word day false)
  | 'b' => some (style.word (month.take 3).toString false)
  | 'h' => some (style.word (month.take 3).toString false)
  | 'B' => some (style.word month false)
  | 'p' => some (style.word half true)
  | 'P' => some (style.word half.toLower true)
  | 'Z' => some (style.word "UTC" true)
  | 'z' => some "+0000".toList
  | 'C' => some (style.number (moment.year / 100) 2 '0')
  | 'y' => some (style.number (moment.year % 100) 2 '0')
  | 'Y' => some (style.number moment.year 4 '0')
  | 'G' => some (style.number weekYear 4 '0')
  | 'g' => some (style.number (weekYear % 100) 2 '0')
  | 'd' => some (style.number moment.day 2 '0')
  | 'e' => some (style.number moment.day 2 ' ')
  | 'm' => some (style.number moment.month 2 '0')
  | 'j' => some (style.number (moment.dayOfYear + 1) 3 '0')
  | 'q' => some (style.number ((moment.month - 1) / 3 + 1 : Nat) 1 '0')
  | 'H' => some (style.number moment.hour 2 '0')
  | 'k' => some (style.number moment.hour 2 ' ')
  | 'I' => some (style.number twelve 2 '0')
  | 'l' => some (style.number twelve 2 ' ')
  | 'M' => some (style.number moment.minute 2 '0')
  | 'S' => some (style.number moment.second 2 '0')
  | 's' => some (style.number moment.seconds 1 '0')
  | 'N' =>
    let digits := Nat.toDigits 10 moment.fraction
    let all := List.replicate (9 - digits.length) '0' ++ digits
    some (all.take (style.width.getD 9))
  | 'u' => some (style.number (if moment.weekday = 0 then 7 else moment.weekday : Nat) 1 '0')
  | 'w' => some (style.number moment.weekday 1 '0')
  | 'U' => some (style.number (moment.weekOfYear 0) 2 '0')
  | 'W' => some (style.number (moment.weekOfYear 1) 2 '0')
  | 'V' => some (style.number week 2 '0')
  | _ => none

/-- Write a time by a format, in which percent signs stand in front of what parts of it are asked
for. The fuel bounds the length of the format and how often formats stand in formats. -/
def format (moment : Moment) : Nat → List Char → List Char
  | 0, _ => []
  | _ + 1, [] => []
  | fuel + 1, '%' :: text =>
    let (style, rest) := TimeStyle.read (text.length + 1) {} text
    let rest := if rest.head? = some 'E' || rest.head? = some 'O' then rest.drop 1 else rest
    match rest with
    | [] => '%' :: text
    | ':' :: 'z' :: rest => "+00:00".toList ++ format moment fuel rest
    | letter :: rest =>
      let shown :=
        match composed? letter with
        | some inner =>
          style.word (String.ofList (format moment fuel inner.toList)) false
        | none => (moment.part? style letter).getD ('%' :: text.take (text.length - rest.length))
      shown ++ format moment fuel rest
  | fuel + 1, c :: rest => c :: format moment fuel rest

/-- Write a time by a format. -/
def formatted (moment : Moment) (text : List Char) : List Char :=
  moment.format (text.length + 30) text

end Moment

/-! ## Reading dates and times

A time is told by words in any order: a date, a time of the day, a day of the week, and how much
before or after that is meant. What is not told is as it is now; a date alone stands for its
beginning. -/

/-- What the words for a time have told. -/
structure TimeTold where
  /-- Seconds since the beginning of 1970, which leave nothing else to tell. -/
  count : Option (Int × Nat) := none
  date : Option (Int × Nat × Nat) := none
  /-- Whether the year of the date was not told yet. -/
  lacksYear : Bool := false
  time : Option (Nat × Nat × Nat × Nat) := none
  /-- The seconds by which the clocks meant are ahead. -/
  zone : Option Int := none
  /-- A day of the week, and how many such days are to go by. -/
  weekday : Option (Nat × Int) := none
  /-- Whether there were any words. -/
  hasWords : Bool := false
  months : Int := 0
  days : Int := 0
  seconds : Int := 0

namespace TimeTold

/-- A part of the words for a time. -/
inductive Token where
  | number (digits : List Char)
  | word (text : String)
  | sign (c : Char)
  | gap
  deriving DecidableEq, Repr

/-- The parts of a text. The fuel bounds its length. -/
def tokens : Nat → List Char → List Token
  | 0, _ => []
  | _ + 1, [] => []
  | fuel + 1, c :: rest =>
    if isSpace c then
      .gap :: tokens fuel (rest.dropWhile isSpace)
    else if c.isDigit then
      let digits := c :: rest.takeWhile Char.isDigit
      .number digits :: tokens fuel (rest.dropWhile Char.isDigit)
    else if c.isAlpha then
      let letters := c :: rest.takeWhile fun d => d.isAlpha || d = '.'
      .word (String.ofList (letters.map Char.toLower)) :: tokens fuel (rest.drop (letters.length - 1))
    else .sign c :: tokens fuel rest

/-- The number of digits. -/
def valueOf (digits : List Char) : Nat :=
  digits.foldl (fun n d => n * 10 + (d.toNat - '0'.toNat)) 0

/-- The place of a name that a word is short for, at least three letters of it. -/
def placeIn? (names : List String) (word : String) : Option Nat :=
  let word := if word.endsWith "." then (word.dropEnd 1).toString else word
  let short := names.findIdx? fun name =>
    name.toLower = word || (name.take 3).toString.toLower = word
  if word = "sept" then names.findIdx? (· = "September")
  else if word = "tues" then names.findIdx? (· = "Tuesday")
  else if word = "wednes" then names.findIdx? (· = "Wednesday")
  else if word = "thur" || word = "thurs" then names.findIdx? (· = "Thursday")
  else short

/-- The months, days and seconds of a unit of time. -/
def unit? (word : String) : Option (Int × Int × Int) :=
  let word := if word.endsWith "s" && 3 < word.length then (word.dropEnd 1).toString else word
  match word with
  | "year" => some (12, 0, 0)
  | "month" => some (1, 0, 0)
  | "fortnight" => some (0, 14, 0)
  | "week" => some (0, 7, 0)
  | "day" => some (0, 1, 0)
  | "hour" => some (0, 0, 3600)
  | "minute" => some (0, 0, 60)
  | "min" => some (0, 0, 60)
  | "second" => some (0, 0, 1)
  | "sec" => some (0, 0, 1)
  | _ => none

/-- The numbers that words stand for. -/
def ordinals : List (String × Int) :=
  [("last", -1), ("this", 0), ("next", 1), ("first", 1), ("third", 3), ("fourth", 4), ("fifth", 5),
    ("sixth", 6), ("seventh", 7), ("eighth", 8), ("ninth", 9), ("tenth", 10), ("eleventh", 11),
    ("twelfth", 12)]

/-- Go some units on. -/
def shift (told : TimeTold) (count : Int) (unit : Int × Int × Int) : TimeTold :=
  { told with
    months := told.months + count * unit.1, days := told.days + count * unit.2.1
    seconds := told.seconds + count * unit.2.2 }

/-- A year that is told by two digits is one of the last or the next century. -/
def fullYear (digits : List Char) : Int :=
  let value : Int := valueOf digits
  if digits.length ≤ 2 then if value < 69 then value + 2000 else value + 1900 else value

/-- Tell a date, once. -/
def setDate (told : TimeTold) (year : Int) (month day : Nat) : Option TimeTold :=
  let longest := (Moment.dayNumber year (month + 1) 1 - Moment.dayNumber year month 1).toNat
  if told.date.isSome || month < 1 || 12 < month || day < 1 || longest < day then none
  else some { told with date := some (year, month, day) }

/-- Tell a date of this year, unless another year follows. -/
def setDay (told : TimeTold) (now : Moment) (month day : Nat) : Option TimeTold :=
  (told.setDate now.year month day).map ({ · with lacksYear := true })

/-- Tell a time of the day, once. -/
def setTime (told : TimeTold) (hour minute second fraction : Nat) : Option TimeTold :=
  if told.time.isSome || 23 < hour || 59 < minute || 60 < second then none
  else some { told with time := some (hour, minute, second, fraction) }

/-- The billionths that digits behind a point denote. -/
def fractionOf (digits : List Char) : Nat :=
  valueOf ((digits ++ List.replicate 9 '0').take 9)

/-- The hour that one of the first or second half of a day is. -/
def hourOf? (hour : Nat) (half : String) : Option Nat :=
  if hour < 1 || 12 < hour then none
  else if half.startsWith "a" then some (hour % 12)
  else some (hour % 12 + 12)

/-- Whether a word names a half of a day. -/
def isHalf (word : String) : Bool :=
  ["am", "pm", "a.m.", "p.m."].contains word

/-- Read what follows the time of a day: half of the day, or how far clocks are ahead. -/
def readZone (told : TimeTold) : List Token → Option (TimeTold × List Token)
  | .sign s :: .number [a, b] :: .sign ':' :: .number [c, d] :: rest =>
    if s = '+' || s = '-' then
      let ahead : Int := valueOf [a, b] * 3600 + valueOf [c, d] * 60
      some ({ told with zone := some (if s = '-' then -ahead else ahead) }, rest)
    else none
  | .sign s :: .number [a, b, c, d] :: rest =>
    if s = '+' || s = '-' then
      let ahead : Int := valueOf [a, b] * 3600 + valueOf [c, d] * 60
      some ({ told with zone := some (if s = '-' then -ahead else ahead) }, rest)
    else none
  | .sign s :: .number [a, b] :: rest =>
    if s = '+' || s = '-' then
      let ahead : Int := valueOf [a, b] * 3600
      some ({ told with zone := some (if s = '-' then -ahead else ahead) }, rest)
    else none
  | rest => some (told, rest)

/-- Read a time of the day behind its hour. -/
def readClock (told : TimeTold) (hour : Nat) (rest : List Token) :
    Option (TimeTold × List Token) := do
  let (minute, second, fraction, rest) ←
    match rest with
    | .number m :: .sign ':' :: .number s :: .sign '.' :: .number f :: rest =>
      some (valueOf m, valueOf s, fractionOf f, rest)
    | .number m :: .sign ':' :: .number s :: .sign ',' :: .number f :: rest =>
      some (valueOf m, valueOf s, fractionOf f, rest)
    | .number m :: .sign ':' :: .number s :: rest => some (valueOf m, valueOf s, 0, rest)
    | .number m :: rest => some (valueOf m, 0, 0, rest)
    | _ => none
  let half? : Option (String × List Token) :=
    match rest with
    | .gap :: .word half :: more => if isHalf half then some (half, more) else none
    | .word half :: more => if isHalf half then some (half, more) else none
    | _ => none
  let (hour, rest) ←
    match half? with
    | some (half, more) => (hourOf? hour half).map fun hour => (hour, more)
    | none => some (hour, rest)
  let told ← told.setTime hour minute second fraction
  match rest with
  | .gap :: .sign s :: .number digits :: more =>
    let counts : Bool :=
      match more with
      | .gap :: .word word :: _ => (unit? word).isSome
      | .word word :: _ => (unit? word).isSome
      | _ => false
    if counts then some (told, rest) else told.readZone (.sign s :: .number digits :: more)
  | _ => told.readZone rest

/-- Read what a number begins. -/
def readNumber (now : Moment) (told : TimeTold) (digits : List Char) (rest : List Token) :
    Option (TimeTold × List Token) := do
  let value := valueOf digits
  match rest with
  | .sign ':' :: rest => told.readClock value rest
  | .sign '-' :: .number m :: .sign '-' :: .number d :: rest =>
    return (← told.setDate (fullYear digits) (valueOf m) (valueOf d), rest)
  | .sign '-' :: .word m :: .sign '-' :: .number y :: rest =>
    return (← told.setDate (fullYear y) ((← placeIn? monthNames m) + 1) value, rest)
  | .sign '/' :: .number m :: .sign '/' :: .number d :: rest =>
    if 4 ≤ digits.length then
      return (← told.setDate (fullYear digits) (valueOf m) (valueOf d), rest)
    else return (← told.setDate (fullYear d) value (valueOf m), rest)
  | .sign '/' :: .number d :: rest =>
    return (← told.setDay now value (valueOf d), rest)
  | .word word :: rest => readWord word rest
  | .gap :: .word word :: rest => readWord word rest
  | rest => readBare rest
where
  /-- Read a number with a word behind it. -/
  readWord (word : String) (rest : List Token) : Option (TimeTold × List Token) :=
    if isHalf word then do
      return (← told.setTime (← hourOf? (valueOf digits) word) 0 0 0, rest)
    else
      match placeIn? monthNames word, unit? word with
      | some place, _ =>
        match rest with
        | .gap :: .number y :: more =>
          if 4 ≤ y.length then do return (← told.setDate (fullYear y) (place + 1) (valueOf digits), more)
          else do return (← told.setDay now (place + 1) (valueOf digits), rest)
        | _ => do return (← told.setDay now (place + 1) (valueOf digits), rest)
      | none, some unit => some (told.shift (valueOf digits) unit, rest)
      | none, none => if word = "t" || word = "z" || word = "utc" then readBare (.word word :: rest)
        else readBare (.gap :: .word word :: rest)
  /-- Read a number that stands alone. -/
  readBare (rest : List Token) : Option (TimeTold × List Token) :=
    let value := valueOf digits
    if told.lacksYear && (told.time.isSome || 2 < digits.length) then
      match told.date with
      | some (_, month, day) =>
        some ({ told with date := some (fullYear digits, month, day), lacksYear := false }, rest)
      | none => none
    else if told.date.isSome && told.time.isSome && digits.length ≤ 4 then none
    else if 4 < digits.length then do
      return (← told.setDate (value / 10000) (value / 100 % 100) (value % 100), rest)
    else if digits.length ≤ 2 then do return (← told.setTime value 0 0 0, rest)
    else do return (← told.setTime (value / 100) (value % 100) 0 0, rest)

/-- Read what a word begins. -/
def readName (now : Moment) (told : TimeTold) (word : String) (rest : List Token) :
    Option (TimeTold × List Token) := do
  match word with
  | "now" => return (told, rest)
  | "today" => return (told, rest)
  | "yesterday" => return ({ told with days := told.days - 1 }, rest)
  | "tomorrow" => return ({ told with days := told.days + 1 }, rest)
  | "midnight" => return (← told.setTime 0 0 0 0, rest)
  | "noon" => return (← told.setTime 12 0 0 0, rest)
  | "ago" => return ({ told with months := -told.months, days := -told.days, seconds := -told.seconds },
      rest)
  | "utc" => readZone { told with zone := some 0 } rest
  | "gmt" => readZone { told with zone := some 0 } rest
  | "z" => return ({ told with zone := some 0 }, rest)
  | "t" => return (told, rest)
  | _ =>
    match ordinals.lookup word, rest with
    | some count, .gap :: .word unit :: rest =>
      match unit? unit, placeIn? dayNames unit with
      | some unit, _ => return (told.shift count unit, rest)
      | none, some place => return ({ told with weekday := some (place, count) }, rest)
      | none, none => none
    | _, _ =>
      match placeIn? monthNames word, placeIn? dayNames word, unit? word with
      | some place, _, _ => readMonth place rest
      | none, some place, _ =>
        let rest := if rest.head? = some (.sign ',') then rest.drop 1 else rest
        return ({ told with weekday := some (place, 0) }, rest)
      | none, none, some unit => return (told.shift 1 unit, rest)
      | none, none, none => none
where
  /-- Read a date behind the name of its month. -/
  readMonth (place : Nat) (rest : List Token) : Option (TimeTold × List Token) := do
    match rest with
    | .gap :: .number d :: .sign ',' :: .gap :: .number y :: rest =>
      return (← told.setDate (fullYear y) (place + 1) (valueOf d), rest)
    | .gap :: .number d :: .gap :: .number y :: .sign ':' :: rest =>
      return (← told.setDay now (place + 1) (valueOf d),
        .gap :: .number y :: .sign ':' :: rest)
    | .gap :: .number d :: .gap :: .number y :: rest =>
      return (← told.setDate (fullYear y) (place + 1) (valueOf d), rest)
    | .gap :: .number d :: rest =>
      return (← told.setDay now (place + 1) (valueOf d), rest)
    | _ => none

/-- Read all words for a time. The fuel bounds them. -/
def readAll (now : Moment) : Nat → TimeTold → List Token → Option TimeTold
  | 0, _, _ => none
  | _ + 1, told, [] => some told
  | fuel + 1, told, token :: rest => do
    match token, rest with
    | .gap, _ => readAll now fuel told rest
    | .sign ',', _ => readAll now fuel told rest
    | .number digits, _ => do
      let (told, rest) ← told.readNumber now digits rest
      readAll now fuel told rest
    | .word word, _ => do
      let (told, rest) ← told.readName now word rest
      readAll now fuel told rest
    | .sign s, .number digits :: rest => do
      if s ≠ '+' && s ≠ '-' then none
      else
        let count : Int := if s = '-' then -(valueOf digits : Int) else valueOf digits
        match rest with
        | .gap :: .word word :: rest => readAll now fuel (told.shift count (← unit? word)) rest
        | .word word :: rest => readAll now fuel (told.shift count (← unit? word)) rest
        | _ => none
    | _, _ => none

/-- Whether there was nothing to tell. -/
def isEmpty (told : TimeTold) : Bool :=
  !told.hasWords

/-- The moment that was told, as seconds since the beginning of 1970 and billionths. -/
def moment (told : TimeTold) (now : Moment) : Int × Nat :=
  let isDay := told.date.isSome || told.weekday.isSome || told.isEmpty
  let (year, month, day) := told.date.getD (now.year, now.month, now.day)
  let (hour, minute, second, fraction) :=
    told.time.getD
      (if isDay then (0, 0, 0, 0) else (now.hour, now.minute, now.second, now.fraction))
  let number := Moment.dayNumber year (month + told.months) day + told.days
  let number :=
    match told.weekday.filter fun _ => told.date.isNone with
    | some (wanted, count) =>
      let today := (number + 4) % 7
      let ahead := ((wanted : Int) - today + 7) % 7
      let weeks := if 0 < count && ahead ≠ 0 then count - 1 else count
      number + ahead + 7 * weeks
    | none => number
  let clock : Int := hour * 3600 + minute * 60 + second
  (number * Moment.daySeconds + clock + told.seconds - told.zone.getD 0, fraction)

end TimeTold

/-- The time that a text tells, as seconds since the beginning of 1970 and billionths. -/
def readTime? (now : Moment) (text : List Char) : Option (Int × Nat) :=
  match text.dropWhile isSpace with
  | '@' :: rest =>
    let (negative, rest) := match rest with | '-' :: rest => (true, rest) | rest => (false, rest)
    let digits := rest.takeWhile Char.isDigit
    let value : Int := TimeTold.valueOf digits
    match digits.isEmpty, rest.drop digits.length with
    | true, _ => none
    | false, [] => some (if negative then -value else value, 0)
    | false, '.' :: more =>
      if more.isEmpty || !more.all Char.isDigit then none
      else
        let fraction := TimeTold.fractionOf more
        if negative && fraction ≠ 0 then some (-value - 1, 1000000000 - fraction)
        else some (if negative then -value else value, fraction)
    | _, _ => none
  | text => do
    let told ← TimeTold.readAll now (2 * text.length + 2) { hasWords := !text.isEmpty } (TimeTold.tokens (text.length + 1) text)
    return told.moment now

/-- The time that digits stand for: month, day, hour and minute, perhaps with a year in front and
seconds behind a point. -/
def readStamp? (now : Moment) (text : List Char) : Option Int := do
  let digits := text.takeWhile (· ≠ '.')
  let behind := text.drop (digits.length + 1)
  let second ←
    if digits.length = text.length then some 0
    else if behind.length = 2 && behind.all Char.isDigit then some (TimeTold.valueOf behind)
    else none
  if !digits.all Char.isDigit then none
  else
    let (yearDigits, rest) := (digits.take (digits.length - 8), digits.drop (digits.length - 8))
    let year ←
      match yearDigits.length with
      | 0 => some now.year
      | 2 => some (TimeTold.fullYear yearDigits)
      | 4 => some (TimeTold.valueOf yearDigits : Int)
      | _ => none
    let value := TimeTold.valueOf rest
    let told ← ({} : TimeTold).setDate year (value / 1000000) (value / 10000 % 100)
    let told ← told.setTime (value / 100 % 100) (value % 100) second 0
    if rest.length ≠ 8 then none else return (told.moment now).1

end Metamorph.Sandbox
