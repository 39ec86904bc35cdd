import LedgerSync.Calendar.Zone

/-!
# Date-times and moments

A `DateTime` is local time whose zone may be unknown. A `Moment` is local time
in a known zone and so a point in time.

Two moments of one region are compared by what the clock shows, any others by
the instants they stand for. The difference is felt where clocks are put forward
or back: within the region, a time that the clock skips comes where it would
stand on the clock, whatever instant it is counted as. Between zones, a skipped
or repeated local time equals no moment at all.
-/

namespace LedgerSync

/-- Local time in a known zone. The offset from UTC is not part of it, since it
follows from the two. -/
structure Moment where
  wall : Wall
  zone : Zone
  deriving DecidableEq, Repr

namespace Moment

/-- The offset from UTC in microseconds. -/
def offset (m : Moment) : Int := m.zone.offsetAt m.wall

/-- The instant, in microseconds since the start of 0001-01-01 in UTC. It may
lie before that start, or after the end of the calendar. -/
def instant (m : Moment) : Int := (m.wall.ticks : Int) - m.offset

def date (m : Moment) : Date := m.wall.date

/-- Whether both moments are local times of one region, whose clocks can be
compared without any offset. -/
def sameRegion (a b : Moment) : Bool :=
  match a.zone, b.zone with
  | .region r, .region s => r == s
  | _, _ => false

/-- Whether `a` is earlier than `b`: by the clock within one region, and by the
instant otherwise. -/
def earlier (a b : Moment) : Bool :=
  if a.sameRegion b then a.wall.ticks < b.wall.ticks else a.instant < b.instant

/-- Whether two moments are equal. Between zones a skipped or repeated time
equals nothing, whatever instant it stands for. -/
def same (a b : Moment) : Bool :=
  if a.sameRegion b then a.wall == b.wall
  else a.instant == b.instant && !a.zone.isIrregular a.wall &&
    !b.zone.isIrregular b.wall

/-- The same instant in universal time; none when that lies beyond the
calendar. -/
def toUtc? (m : Moment) : Option Moment :=
  (Wall.ofTicks? m.instant).map fun w => ⟨w, .utc⟩

def toSeconds (m : Moment) : Moment :=
  { m with wall := m.wall.floorTo ticksPerSecond }

/-- Drops what is finer than a millisecond, as storage does with every
timestamp. -/
def toMillis (m : Moment) : Moment := { m with wall := m.wall.floorTo 1000 }

def text (m : Moment) : String := m.wall.text ++ Zone.offsetText m.offset

/-- The offset for people: `Z` for universal time, and hours and minutes
otherwise; what is finer than a minute is dropped. -/
def offsetLabel (m : Moment) : String :=
  if m.offset = 0 then "Z"
  else
    let minutes := m.offset.natAbs / (60 * ticksPerSecond)
    (if m.offset < 0 then "-" else "+") ++
      Date.padded 2 (minutes / 60) ++ ":" ++ Date.padded 2 (minutes % 60)

/-- The earliest moment of a list, the first one of several that are equally
early. -/
def earliest? : List Moment → Option Moment
  | [] => none
  | m :: ms => some (ms.foldl (fun best x => if x.earlier best then x
  else best) m)

end Moment

/-- Local time, perhaps in a known zone. Reports carry times of both kinds, and
only those with a zone are points in time. -/
structure DateTime where
  wall : Wall
  zone : Option Zone
  deriving DecidableEq, Repr

namespace DateTime

def moment? (t : DateTime) : Option Moment := t.zone.map fun z => ⟨t.wall, z⟩

/-- The moment, in a given zone when none is known. -/
def momentIn (z : Zone) (t : DateTime) : Moment := ⟨t.wall, t.zone.getD z⟩

def date (t : DateTime) : Date := t.wall.date

def toSeconds (t : DateTime) : DateTime :=
  { t with wall := t.wall.floorTo ticksPerSecond }

def toMillis (t : DateTime) : DateTime := { t with wall := t.wall.floorTo 1000 }

/-- Local time as text, with the offset when the zone is known. -/
def text (t : DateTime) : String :=
  match t.moment? with
  | some m => m.text
  | none => t.wall.text

/-- Whether `a` is earlier than `b`; a time with a zone cannot be compared with
one without. -/
def earlier? (a b : DateTime) : Option Bool :=
  match a.moment?, b.moment? with
  | some x, some y => some (x.earlier y)
  | none, none => some (a.wall.ticks < b.wall.ticks)
  | _, _ => none

end DateTime

/-- What a text says about a point in time, when it can be read. -/
inductive TimeReading where
  /-- Explicitly nothing, as for an empty cell, in contrast to a text that
  cannot be read. -/
  | nothing
  | at (t : DateTime)
  deriving DecidableEq, Repr

def TimeReading.date? : TimeReading → Option Date
  | .nothing => none
  | .at t => some t.date

def Moment.toDateTime (m : Moment) : DateTime := ⟨m.wall, some m.zone⟩

end LedgerSync
