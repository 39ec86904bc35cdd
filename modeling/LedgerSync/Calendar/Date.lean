import LedgerSync.Text.Digit

/-!
# Dates

A date is a day of the Gregorian calendar between 0001-01-01 and 9999-12-31,
kept as the number of days since the first of them, so that order and distance
are those of numbers. Nothing about months has to be known to compare two dates,
to add some days to one, or to find the earliest of a list.

Year, month and day are read off when the date is written, and put together when
it is read. The calendar ends, which is felt in two places: a date some days
later may not exist, and an instant near an end may have no date in another
zone.
-/

namespace LedgerSync

/-- The number of days from 0001-01-01 to 9999-12-31. The calendar ends there,
so that a year always has four digits. -/
def Date.count : Nat := 3652059

/-- A day, counted from 0001-01-01. The bound is part of it: whatever moves a
date has to say what happens at the end of the calendar. -/
structure Date where
  days : Nat
  days_lt : days < Date.count
  deriving DecidableEq, Repr

namespace Date

instance : LE Date := ⟨fun a b => a.days ≤ b.days⟩
instance : LT Date := ⟨fun a b => a.days < b.days⟩
instance (a b : Date) : Decidable (a ≤ b) :=
  inferInstanceAs (Decidable (a.days ≤ b.days))
instance (a b : Date) : Decidable (a < b) :=
  inferInstanceAs (Decidable (a.days < b.days))
instance : Inhabited Date := ⟨0, by decide⟩
instance : Min Date := minOfLe
instance : Max Date := maxOfLe

theorem le_iff {a b : Date} : a ≤ b ↔ a.days ≤ b.days := Iff.rfl

theorem lt_iff {a b : Date} : a < b ↔ a.days < b.days := Iff.rfl

/-- The date a number of days later; none beyond the calendar, at either end. -/
def addDays? (d : Date) (n : Int) : Option Date :=
  let k := (d.days : Int) + n
  if h : 0 ≤ k ∧ k < Date.count then some ⟨k.toNat, by omega⟩ else none

def isLeap (year : Nat) : Bool :=
  year % 4 == 0 && (year % 100 != 0 || year % 400 == 0)

def monthLengths (year : Nat) : List Nat :=
  [31, if isLeap year then 29 else 28, 31, 30, 31, 30, 31, 31, 30, 31, 30, 31]

def daysBeforeYear (year : Nat) : Nat :=
  let y := year - 1
  365 * y + y / 4 - y / 100 + y / 400

/-- The date of a year, month and day; none if there is no such day, as on the
29th of February of most years. -/
def ofCivil? (year month day : Nat) : Option Date :=
  match (monthLengths year)[month - 1]? with
  | none => none
  | some length =>
    let k := daysBeforeYear year + ((monthLengths year).take (month - 1)).foldl
      (· + ·) 0 + (day - 1)
    if h : 1 ≤ year ∧ year ≤ 9999 ∧ 1 ≤ month ∧ 1 ≤ day ∧ day ≤ length ∧
      k < Date.count then
      some ⟨k, h.2.2.2.2.2⟩
    else none

/-- The year of a date and the days since its first of January. Whole cycles of
400, 100, 4 and 1 years are taken off in turn; the last cycle of a longer one
may be a day longer. -/
def yearAndDay (d : Date) : Nat × Nat :=
  let n400 := d.days / 146097
  let r400 := d.days % 146097
  let n100 := min 3 (r400 / 36524)
  let r100 := r400 - n100 * 36524
  let n4 := r100 / 1461
  let r4 := r100 % 1461
  let n1 := min 3 (r4 / 365)
  (400 * n400 + 100 * n100 + 4 * n4 + n1 + 1, r4 - n1 * 365)

/-- The month, counted from `month`, and the day of the month that a number of
days leads to. -/
def monthAndDay (month : Nat) : List Nat → Nat → Nat × Nat
  | [], n => (month, n + 1)
  | length :: rest, n => if n < length then (month, n + 1)
  else monthAndDay (month + 1) rest (n - length)

def civil (d : Date) : Nat × Nat × Nat :=
  let (year, n) := d.yearAndDay
  (year, monthAndDay 1 (monthLengths year) n)

def year (d : Date) : Nat := d.civil.1

/-- The day of the week, counted from Monday as zero; 0001-01-01 was a
Monday. -/
def weekday (d : Date) : Nat := d.days % 7

/-- A number in at least `width` digits. -/
def padded (width n : Nat) : String :=
  let s := Text.decimalText n
  String.ofList (List.replicate (width - s.length) '0') ++ s

/-- The text of a date: year, month and day, as in `2024-02-10`. -/
def text (d : Date) : String :=
  let (y, m, n) := d.civil
  padded 4 y ++ "-" ++ padded 2 m ++ "-" ++ padded 2 n

def earliest? : List Date → Option Date
  | [] => none
  | d :: ds => some (ds.foldl min d)

def latest? : List Date → Option Date
  | [] => none
  | d :: ds => some (ds.foldl max d)

/-- The day from which time is commonly counted: 1970-01-01. It stands in for
the latest stored date where nothing is stored. -/
def epoch : Date := ⟨719162, by decide⟩

end Date

end LedgerSync
