import LedgerSync.Calendar.Moment
import LedgerSync.Calendar.Regions

/-!
# Reading dates and times in standard form

Dates as in `2024-02-10`; date-times as in `2024-02-10T09:00:00.5+01:00`, where
seconds, their fraction and the offset may be missing, `Z` stands for universal
time, and the name of a region in brackets may stand in place of the offset.
This is the form in which a caller hands over times, and the one in which they
are written.

Each part of the form has a reader that takes it off the front of the text and
gives the rest, so the form is read from left to right and nothing may be left
over. Which names of regions are known is a parameter. An offset may have
seconds, and these a fraction; further digits than those of microseconds are
dropped.
-/

namespace LedgerSync

namespace Calendar

/-- Exactly `count` ASCII digits at the front, and the rest. -/
def digits? (count : Nat) (cs : List Char) : Option (Nat × List Char) :=
  let ds := cs.take count
  if ds.length = count && ds.all Char.isDigit then
    some (Text.numberOf (ds.map fun c => c.toNat - 0x30), cs.drop count)
  else none

def skip? (c : Char) : List Char → Option (List Char)
  | d :: rest => if c = d then some rest else none
  | [] => none

def datePart? (cs : List Char) : Option (Date × List Char) := do
  let (year, cs) ← digits? 4 cs
  let (month, cs) ← digits? 2 (← skip? '-' cs)
  let (day, cs) ← digits? 2 (← skip? '-' cs)
  return (← Date.ofCivil? year month day, cs)

/-- The digits of a fraction as millionths; further digits are dropped. -/
def micros (ds : List Char) : Nat :=
  let six := (ds ++ List.replicate 6 '0').take 6
  Text.numberOf (six.map fun c => c.toNat - 0x30)

/-- The digits of a fraction of a second, if there is one, in millionths, and
the rest. -/
def fractionPart (cs : List Char) : Nat × List Char :=
  match cs with
  | '.' :: rest =>
    let ds := rest.takeWhile Char.isDigit
    (micros ds, rest.drop ds.length)
  | cs => (0, cs)

def clockTicks (hours minutes seconds micros : Nat) : Nat :=
  (hours * 3600 + minutes * 60 + seconds) * ticksPerSecond + micros

/-- The time of day that a clock can show, in microseconds. -/
def timeTicks? (hour minute second micro : Nat) : Option Nat :=
  if hour < 24 ∧ minute < 60 ∧
    second < 60 then some (clockTicks hour minute second micro)
  else none

/-- A time of day at the front, in microseconds, and the rest. -/
def timePart? (cs : List Char) : Option (Nat × List Char) := do
  let (hour, cs) ← digits? 2 cs
  let (minute, cs) ← digits? 2 (← skip? ':' cs)
  match cs with
  | ':' :: cs =>
    let (second, cs) ← digits? 2 cs
    let (micro, cs) := fractionPart cs
    return (← timeTicks? hour minute second micro, cs)
  | cs => return (← timeTicks? hour minute 0 0, cs)

/-- An offset of hours, minutes and perhaps seconds with their fraction. -/
def offsetPart? (negative : Bool) (cs : List Char) : Option Zone := do
  let (hour, cs) ← digits? 2 cs
  let (minute, cs) ← digits? 2 (← skip? ':' cs)
  let (second, cs) ← match cs with
    | [] => some (0, [])
    | cs => digits? 2 (← skip? ':' cs)
  let (micro, cs) := fractionPart cs
  let n := clockTicks hour minute second micro
  if cs.isEmpty && n <
    ticksPerDay then some (.offset (if negative then -(n : Int) else n))
  else none

/-- The zone after a time of day; nothing when it is not given. -/
def zonePart? (region? : String → Option Region) :
    List Char → Option (Option Zone)
  | [] => some none
  | ['Z'] => some (some .utc)
  | '+' :: cs => (offsetPart? false cs).map some
  | '-' :: cs => (offsetPart? true cs).map some
  | '[' :: cs =>
    if cs.getLast? = some ']' then
      (region? (String.ofList cs.dropLast)).map fun r => some (.region r)
    else none
  | _ => none

end Calendar

def Date.ofText? (s : String) : Option Date := do
  let (date, rest) ← Calendar.datePart? s.toList
  if rest.isEmpty then some date else none

/-- Reads a date-time in the zones that are known; a date alone stands for its
start. -/
def DateTime.read? (region? : String → Option Region) (s : String) :
    Option DateTime := do
  let (date, rest) ← Calendar.datePart? s.toList
  let (time, rest) ← match rest with
    | 'T' :: cs => Calendar.timePart? cs
    | cs => some (0, cs)
  return ⟨← Wall.ofParts? date time, ← Calendar.zonePart? region? rest⟩

/-- Reads a date-time in the regions to run with. -/
def DateTime.ofText? (s : String) : Option DateTime := read? Region.ofName? s

end LedgerSync
