/-!
# Table columns

Rows of a text table: cells filled up with spaces to the width of their column
and divided by bars. Long tables are cut into blocks, so that a header can be
set before each.
-/

namespace LedgerSync.Text

/-- Fills a text up with spaces on the right. A longer text stays as it is, so
its row is wider than the others. -/
def padRight (width : Nat) (s : String) : String :=
  s ++ String.ofList (List.replicate (width - s.length) ' ')

/-- One row: every cell between bars, padded to its width. -/
def tableRow (widths : List Nat) (cells : List String) : String :=
  "|" ++ String.join ((widths.zip cells).map fun wc =>
    padRight wc.1 wc.2 ++ "|")

/-- A list cut into blocks of at most `size` items, in order. -/
def blocks (size : Nat) : List α → List (List α)
  | [] => []
  | x :: xs => (x :: xs.take (size - 1)) :: blocks size (xs.drop (size - 1))
termination_by xs => xs.length
decreasing_by
  simp only [List.length_drop, List.length_cons]
  omega

end LedgerSync.Text
