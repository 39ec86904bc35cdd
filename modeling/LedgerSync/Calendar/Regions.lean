import LedgerSync.Calendar.Zone

/-!
# Regions to run with

The rules by which clocks are put forward and back in a few regions, written out
as the changes of a century. They are the rules of 2024 throughout and serve to
run the program where no zone files are at hand: no statement about the program
depends on them, since each holds for every region.

In Europe summer time lasts from the last Sunday of March to the last Sunday of
October, both at one o'clock UTC; in New York from the second Sunday of March to
the first of November, both at two o'clock by the clock that is in force.
-/

namespace LedgerSync.Region

/-- The first Sunday on or after a date, as a count of days. -/
def sundayFrom (d : Date) : Int := d.days + (6 - d.weekday : Nat)

/-- The last Sunday on or before a date, as a count of days. -/
def sundayUpTo (d : Date) : Int := (d.days : Int) - ((d.weekday + 1) % 7 : Nat)

/-- The two changes of a year in Europe, at a standard offset. -/
def europeanSummer (standard : Int) (year : Nat) : List ClockChange :=
  match Date.ofCivil? year 3 31, Date.ofCivil? year 10 31 with
  | some march, some october =>
    [⟨sundayUpTo march * 86400 + 3600, standard + 3600⟩,
      ⟨sundayUpTo october * 86400 + 3600, standard⟩]
  | _, _ => []

/-- The two changes of a year in the east of the United States. -/
def easternSummer (year : Nat) : List ClockChange :=
  match Date.ofCivil? year 3 8, Date.ofCivil? year 11 1 with
  | some march, some november =>
    [⟨sundayFrom march * 86400 + 7 * 3600, -14400⟩,
      ⟨sundayFrom november * 86400 + 6 * 3600, -18000⟩]
  | _, _ => []

def years : List Nat := (List.range 100).map (2000 + ·)

def amsterdam : Region :=
  ⟨"Europe/Amsterdam", 3600,
    years.flatMap (europeanSummer 3600), by decide +kernel⟩

def london : Region :=
  ⟨"Europe/London", 0, years.flatMap (europeanSummer 0), by decide +kernel⟩

def newYork : Region :=
  ⟨"America/New_York", -18000, years.flatMap easternSummer, by decide +kernel⟩

def kolkata : Region := ⟨"Asia/Kolkata", 19800, [], rfl⟩

def all : List Region := [utc, amsterdam, london, newYork, kolkata]

def ofName? (s : String) : Option Region := all.find? fun r => r.name == s

end LedgerSync.Region
