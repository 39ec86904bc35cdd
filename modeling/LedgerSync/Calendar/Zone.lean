import LedgerSync.Calendar.Date

/-!
# Time zones

A zone is a fixed offset from UTC or a region. The clocks of a region are
changed from time to time, each change giving the offset from then on, so that
some local times are skipped and others occur twice: a skipped time takes the
offset in force before the change, and a repeated one stands for its first
occurrence.

What the changes of a region are is no part of this library. A region carries
them as data (`Region.changes`), as the zone files of a machine list them, and
nothing is assumed of them except that one change is over on the clock before
the next one begins (`ClockChange.areApart`): this is what makes it possible to
find the offset of local time by going through the changes in order, and it
holds of every zone that is listed. Their offsets are whole seconds; a fixed
offset may have a fraction of a second.
-/

namespace LedgerSync

def ticksPerSecond : Nat := 1000000

def ticksPerDay : Nat := 86400 * ticksPerSecond

/-- Local date and time of day, counted in microseconds from the start of
0001-01-01. What a clock on a wall shows, without a zone. -/
@[ext]
structure Wall where
  ticks : Nat
  ticks_lt : ticks < Date.count * ticksPerDay
  deriving DecidableEq, Repr

namespace Wall

instance : Inhabited Wall := ⟨0, by decide⟩

def date (w : Wall) : Date :=
  ⟨w.ticks / ticksPerDay, (Nat.div_lt_iff_lt_mul (by decide)).2 w.ticks_lt⟩

def timeOfDay (w : Wall) : Nat := w.ticks % ticksPerDay

/-- A number of ticks as local time; none beyond the calendar. -/
def ofTicks? (n : Int) : Option Wall :=
  if h : 0 ≤ n ∧ n < (Date.count * ticksPerDay : Nat) then
    some ⟨n.toNat, by omega⟩ else none

/-- A date and a time of day. -/
def ofParts? (d : Date) (time : Nat) : Option Wall :=
  if time < ticksPerDay then ofTicks? (d.days * ticksPerDay + time : Nat)
  else none

/-- Drops what is finer than a unit. -/
def floorTo (unit : Nat) (w : Wall) : Wall :=
  ⟨w.ticks / unit * unit,
    Nat.lt_of_le_of_lt (Nat.div_mul_le_self _ _) w.ticks_lt⟩

/-- Hours, minutes, seconds and microseconds as text; whole seconds have no
fraction. -/
def timeText (w : Wall) : String :=
  let t := w.timeOfDay
  let seconds := t / ticksPerSecond
  let micros := t % ticksPerSecond
  Date.padded 2 (seconds / 3600) ++ ":" ++ Date.padded 2 (seconds / 60 % 60) ++
    ":" ++
    Date.padded 2 (seconds % 60) ++
    (if micros = 0 then "" else "." ++ Date.padded 6 micros)

def text (w : Wall) : String := w.date.text ++ "T" ++ w.timeText

end Wall

/-- A change of the clocks in a region: the instant, in seconds since the start
of 0001-01-01 in UTC, and the offset from UTC from then on, in seconds. -/
structure ClockChange where
  instant : Int
  offset : Int
  deriving DecidableEq, Repr

namespace ClockChange

/-- What the clock shows when a change begins, if it showed another offset
before: from here on local time is skipped, or will be repeated. -/
def opens (c : ClockChange) (before : Int) : Int :=
  c.instant + min before c.offset

/-- What the clock shows when a change is over: local time from here on has
the new offset only. -/
def closes (c : ClockChange) (before : Int) : Int :=
  c.instant + max before c.offset

/-- Whether each change is over before the next one begins, by the clock. -/
def areApart (before : Int) : List ClockChange → Bool
  | c :: d :: rest =>
    decide (c.closes before ≤ d.opens c.offset) && areApart c.offset (d :: rest)
  | _ => true

/-- The offset of local time after some changes. While one of them takes place,
`second` asks for the offset after it instead of the one before. -/
def offsetAfter (second : Bool) (w : Wall) (before : Int) :
    List ClockChange → Int
  | [] => before
  | c :: rest =>
    let shown := if second then c.opens before else c.closes before
    if shown * ticksPerSecond ≤ w.ticks then offsetAfter second w c.offset rest
    else before

end ClockChange

/-- A region in which all clocks show the same: its name, the offset that they
start with, in seconds, and the changes since, in the order of time. -/
structure Region where
  name : String
  first : Int
  changes : List ClockChange
  apart : ClockChange.areApart first changes = true
  deriving DecidableEq, Repr

namespace Region

/-- Universal time as a region of its own. -/
def utc : Region := ⟨"UTC", 0, [], rfl⟩

/-- The offset, in seconds, of local time in the region. For a skipped or
repeated time, `second` asks for the offset after the change. -/
def offsetAt (r : Region) (second : Bool) (w : Wall) : Int :=
  ClockChange.offsetAfter second w r.first r.changes

end Region

/-- A time zone: an offset from UTC in microseconds, or a region. -/
inductive Zone where
  | offset (ticks : Int)
  | region (r : Region)
  deriving DecidableEq, Repr

namespace Zone

/-- An offset in seconds. -/
def ofSeconds (n : Int) : Zone := .offset (n * ticksPerSecond)

def utc : Zone := .offset 0

/-- The offset of local time from UTC, in microseconds. -/
def offsetAt (z : Zone) (w : Wall) : Int :=
  match z with
  | .offset ticks => ticks
  | .region r => r.offsetAt false w * ticksPerSecond

/-- Whether local time is skipped or occurs twice. -/
def isIrregular (z : Zone) (w : Wall) : Bool :=
  match z with
  | .offset _ => false
  | .region r => r.offsetAt false w != r.offsetAt true w

/-- An offset in microseconds as text: sign, hours and minutes, and what is
finer only where there is something finer. -/
def offsetText (ticks : Int) : String :=
  let n := ticks.natAbs / ticksPerSecond
  let micros := ticks.natAbs % ticksPerSecond
  (if ticks < 0 then "-" else "+") ++ Date.padded 2 (n / 3600) ++ ":" ++
    Date.padded 2 (n / 60 % 60) ++
    (if n % 60 = 0 ∧ micros = 0 then "" else ":" ++ Date.padded 2 (n % 60)) ++
    (if micros = 0 then "" else "." ++ Date.padded 6 micros)

end Zone

end LedgerSync
