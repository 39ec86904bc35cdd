import LedgerSync.Calendar.Moment
import LedgerSync.Csv.Table

/-!
# What files are read with

To read a file of transactions takes three things that are no part of this
library: something that takes the text apart into a table, something that makes
out dates and times in whatever notation a bank writes them, and the time zones
of the machine. They come as a `Reader`, and nothing is assumed of them here.

What a result about files does need of a reader it says itself. The one that
there is, that the line a bad row is reported under can be off, needs to know
which lines of a text become rows (`Reader.ReadsLines`).
-/

namespace LedgerSync.Csv

structure Reader where
  /-- The region of a name. -/
  region? : String → Option Region
  /-- What a text says about a point in time; none when it cannot be read. -/
  time? : String → Option TimeReading
  /-- The table of a text, by the delimiter of its cells; none when it cannot be
  read. -/
  table? : String → List Char → Option Table

end LedgerSync.Csv
