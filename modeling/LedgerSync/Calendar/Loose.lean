import LedgerSync.Calendar.Iso

/-!
# Reading dates and times of exported files

Files bring dates in several notations: year first with or without separators,
month first with slashes, or the day before the name of the month; a year or a
month alone stands for its first day. A time of day may follow, whole or cut
after the hour or the minute, then an offset from universal time. In slashes the
day comes first only where the first number is no month.

These are the notations that the program reads where nothing else reads times
for it. Results about files do not depend on them.
-/

namespace LedgerSync

namespace Calendar

/-- One digit, or two, at the front, and the rest. -/
def upToTwo? (cs : List Char) : Option (Nat × List Char) :=
  digits? 2 cs <|> digits? 1 cs

/-- The names of the months, in the three letters that tell them apart. -/
def monthNames : List String :=
  ["jan", "feb", "mar", "apr", "may", "jun", "jul", "aug", "sep", "oct",
    "nov", "dec"]

/-- The name of a month at the front, in any case, and the rest. -/
def monthName? (cs : List Char) : Option (Nat × List Char) := do
  let word := cs.takeWhile Char.isAlpha
  let i ← monthNames.findIdx? (· == String.ofList (word.map Char.toLower))
  return (i + 1, cs.drop word.length)

def isDateMark (c : Char) : Bool := c = '-' || c = '/' || c = '.'

/-- What follows the year: a month and a day without marks, or with marks a
month and perhaps a day. -/
def afterYear? (year : Nat) (cs : List Char) : Option (Date × List Char) :=
  match cs with
  | [] => (Date.ofCivil? year 1 1).map (·, [])
  | c :: rest =>
    if isDateMark c then do
      let (month, rest) ← upToTwo? rest
      match rest with
      | d :: more =>
        if d = c then
          let (day, rest) ← upToTwo? more
          return (← Date.ofCivil? year month day, rest)
        else return (← Date.ofCivil? year month 1, d :: more)
      | [] => return (← Date.ofCivil? year month 1, [])
    else if c.isDigit then do
      let (month, rest) ← digits? 2 (c :: rest)
      let (day, rest) ← digits? 2 rest
      return (← Date.ofCivil? year month day, rest)
    else (Date.ofCivil? year 1 1).map (·, c :: rest)

/-- A date with the year last: a month and a day, or a day and a month where
only that is possible. -/
def yearLast? (cs : List Char) : Option (Date × List Char) := do
  let (first, cs) ← upToTwo? cs
  match cs with
  | mark :: cs =>
    if isDateMark mark then
      let (second, cs) ← upToTwo? cs
      let (year, cs) ← digits? 4 (← skip? mark cs)
      let (month, day) := if 12 < first then (second, first)
      else (first, second)
      return (← Date.ofCivil? year month day, cs)
    else
      let (month, cs) ← monthName? (← skip? ' ' (mark :: cs))
      let (year, cs) ← digits? 4 (← skip? ' ' cs)
      return (← Date.ofCivil? year month first, cs)
  | [] => none

/-- A date in any notation at the front, and the rest. -/
def looseDate? (cs : List Char) : Option (Date × List Char) :=
  match digits? 4 cs with
  | some (year, rest) => afterYear? year rest
  | none => yearLast? cs

/-- A time of day at the front, in microseconds, and the rest. Its parts are
divided by colons or not at all. -/
def looseTime? (cs : List Char) : Option (Nat × List Char) := do
  let (hour, cs) ← digits? 2 cs
  match cs with
  | ':' :: rest =>
    let (minute, rest) ← digits? 2 rest
    match rest with
    | ':' :: rest =>
      let (second, rest) ← digits? 2 rest
      let (micro, rest) := fractionPart rest
      return (← timeTicks? hour minute second micro, rest)
    | rest => return (← timeTicks? hour minute 0 0, rest)
  | cs =>
    match digits? 2 cs with
    | none => return (← timeTicks? hour 0 0 0, cs)
    | some (minute, rest) =>
      match digits? 2 rest with
      | none => return (← timeTicks? hour minute 0 0, rest)
      | some (second, rest) =>
        let (micro, rest) := fractionPart rest
        return (← timeTicks? hour minute second micro, rest)

/-- An offset of hours, or of hours and minutes. -/
def looseOffset? (negative : Bool) (cs : List Char) : Option Zone := do
  let (hour, cs) ← digits? 2 cs
  let (minute, cs) ← match cs with
    | [] => some (0, [])
    | ':' :: rest => digits? 2 rest
    | cs => digits? 2 cs
  let n : Nat := hour * 3600 + minute * 60
  if cs.isEmpty && hour < 24 && minute < 60 then
    some (.ofSeconds (if negative then -(n : Int) else n))
  else none

/-- The offset after a time of day, perhaps after blanks; nothing when it is not
given. -/
def looseZone? (cs : List Char) : Option (Option Zone) :=
  match cs.dropWhile (· = ' ') with
  | [] => some none
  | ['Z'] | ['z'] => some (some .utc)
  | '+' :: cs => (looseOffset? false cs).map some
  | '-' :: cs => (looseOffset? true cs).map some
  | _ => none

/-- The texts that stand for no date at all. -/
def noDateWords : List String := ["", "NaT", "nat", "NAT", "nan", "NaN", "NAN"]

end Calendar

/-- Reads a point in time in one of these notations; a date alone stands for
its start. -/
def TimeReading.ofText? (s : String) : Option TimeReading := do
  if Calendar.noDateWords.contains s then return .nothing
  let (date, rest) ← Calendar.looseDate? s.toList
  match rest with
  | [] => return .at ⟨← Wall.ofParts? date 0, none⟩
  | mark :: rest =>
    if mark = 'T' || mark = 't' || mark = ' ' then
      let (time, rest) ← Calendar.looseTime? rest
      return .at ⟨← Wall.ofParts? date time, ← Calendar.looseZone? rest⟩
    else none

end LedgerSync
