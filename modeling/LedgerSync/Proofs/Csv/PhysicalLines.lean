import LedgerSync.Csv.Reader
import Mathlib.Data.List.Basic

/-!
# Physical lines and rows

A text has lines as an editor counts them (`physicalLines`), and rows. A row
starts on a line of its own, but not every line starts a row: blank lines are
skipped, and a line that begins within quotes goes on with the row above
(`LineKind`). A quote opens a cell that it stands at the start of, and ends
with the next quote that is not doubled (`Quoting`).

Both are counted here on the text alone, whatever reads it. A row starts as many
lines further down as there are blank lines and continuations above it
(`StartsOn.number_eq`), because each line is of one of the three kinds. That
these rows are those of the table that a reader makes of the text is what has to
be known of the reader (`Reader.ReadsLines`).
-/

namespace LedgerSync.Csv

/-! ## Lines -/

/-- Whether a character ends a physical line. -/
def isBreak (c : Char) : Bool := c = '\n' || c = '\r'

/-- Whether a character leaves a line blank. -/
def isBlankMark (delimiter c : Char) : Bool :=
  (c = ' ' || c = '\t') && c ≠ delimiter

/-- Whether there is nothing but blanks on a line. -/
def isBlankLine (delimiter : Char) (line : List Char) : Bool :=
  line.all fun c => isBreak c || isBlankMark delimiter c

/-- The lines of a text as an editor counts them, each with the break that ends
it: a line feed, a carriage return, or both. -/
def physicalLines : List Char → List (List Char)
  | [] => []
  | '\r' :: '\n' :: rest => ['\r', '\n'] :: physicalLines rest
  | c :: rest =>
    if isBreak c then [c] :: physicalLines rest
    else
      match physicalLines rest with
      | [] => [[c]]
      | line :: lines => (c :: line) :: lines

/-- Nothing is lost. -/
theorem flatten_physicalLines (text : List Char) :
    (physicalLines text).flatten = text := by
  fun_induction physicalLines text with
  | case1 => rfl
  | case2 rest ih => rw [List.flatten_cons, ih]; rfl
  | case3 c rest _ hc ih => rw [List.flatten_cons, ih]; rfl
  | case4 c rest _ hc hrest ih =>
    rw [hrest] at ih
    rw [← ih]
    rfl
  | case5 c rest _ hc line lines hrest ih =>
    rw [hrest] at ih
    rw [← ih]
    rfl

/-! ## Quotes -/

/-- What comes next in a text. -/
inductive Quoting
  /-- The start of a cell, where a quote opens it. -/
  | outside
  /-- More of a cell without quotes. -/
  | plain
  | quoted
  /-- What follows a quote within quotes, which ends them or is doubled. -/
  | closing
  deriving DecidableEq, Repr

/-- What comes after a character. Breaks and delimiters end a cell unless they
stand within quotes. -/
def Quoting.next (delimiter : Char) (q : Quoting) (c : Char) : Quoting :=
  match q with
  | .quoted => if c = '"' then .closing else .quoted
  | q =>
    if isBreak c then .outside
    else if c = '"' && q != .plain then .quoted
    else if c = delimiter then .outside
    else .plain

/-- What comes after a text. -/
def quotingAfter (delimiter : Char) (text : List Char) : Quoting :=
  text.foldl (Quoting.next delimiter) .outside

/-- Whether a text ends within quotes. -/
def hasOpenQuote (delimiter : Char) (text : List Char) : Bool :=
  quotingAfter delimiter text == .quoted

/-! ## Where rows start -/

/-- The mark for the encoding in front of a text, if there is one. -/
def mark (text : List Char) : List Char :=
  if text.head? = some '\ufeff' then ['\ufeff'] else []

/-- A text without this mark. -/
def unmarked (text : List Char) : List Char :=
  if text.head? = some '\ufeff' then text.drop 1 else text

/-- What a physical line is to the rows. -/
inductive LineKind
  /-- A row starts on it. -/
  | opening
  /-- It is skipped. -/
  | blank
  /-- It begins within quotes. -/
  | continuation
  deriving DecidableEq, Repr

/-- What a line is to the rows, by the text above it. -/
def kindOf (delimiter : Char) (above line : List Char) : LineKind :=
  if hasOpenQuote delimiter above then .continuation
  else if isBlankLine delimiter line then .blank
  else .opening

/-- What the lines below a text are to the rows. -/
def kindsBelow (delimiter : Char) (above : List Char) :
    List (List Char) → List LineKind
  | [] => []
  | line :: lines => kindOf delimiter above line :: kindsBelow delimiter
    (above ++ line) lines

/-- What the lines of a text are to the rows. -/
def lineKinds (delimiter : Char) (text : List Char) : List LineKind :=
  kindsBelow delimiter [] (physicalLines (unmarked text))

/-- How many lines of a kind stand above the line of a number, counted from
one. -/
def countAbove (delimiter : Char) (text : List Char) (kind : LineKind)
    (number : Nat) : Nat :=
  ((lineKinds delimiter text).take (number - 1)).count kind

/-- The row at a place starts on the line of a number, both counted from the
top, rows from zero and lines from one: the line starts a row, and so do as many
of the lines above it. -/
def StartsOn (delimiter : Char) (text : List Char) (place number : Nat) :
    Prop :=
  ∃ above line below, physicalLines (unmarked text) = above ++ line :: below ∧
    above.length + 1 = number ∧
    (kindsBelow delimiter [] above).count .opening = place ∧
    kindOf delimiter above.flatten line = .opening

variable {delimiter : Char} {above text : List Char} {lines : List (List Char)}

theorem kindsBelow_append (lines' : List (List Char)) :
    kindsBelow delimiter above (lines ++ lines') =
      kindsBelow delimiter above lines ++ kindsBelow delimiter
        (above ++ lines.flatten) lines' := by
  induction lines generalizing above with
  | nil => rw [List.nil_append, List.flatten_nil, List.append_nil]; rfl
  | cons line lines ih =>
    rw [List.cons_append, kindsBelow, kindsBelow, ih, List.flatten_cons,
      List.append_assoc]
    rfl

theorem length_kindsBelow :
    (kindsBelow delimiter above lines).length = lines.length := by
  induction lines generalizing above with
  | nil => rfl
  | cons line lines ih => rw [kindsBelow, List.length_cons,
    List.length_cons, ih]

theorem kindOf_eq_opening {line : List Char} :
    kindOf delimiter above line = .opening ↔
      hasOpenQuote delimiter above = false ∧ isBlankLine delimiter line =
        false := by
  unfold kindOf
  cases hasOpenQuote delimiter above <;> cases isBlankLine delimiter
    line <;> simp

/-- Among lines that begin rows there is one that begins a given row. -/
theorem exists_opening {k : Nat}
    (hk : k < (kindsBelow delimiter above lines).count .opening) :
    ∃ before line below, lines = before ++ line :: below ∧
      (kindsBelow delimiter above before).count .opening = k ∧
      kindOf delimiter (above ++ before.flatten) line = .opening := by
  induction lines generalizing above k with
  | nil => cases hk
  | cons line lines ih =>
    rw [kindsBelow, List.count_cons] at hk
    by_cases hkind : kindOf delimiter above line = .opening
    · cases k with
      | zero =>
        refine ⟨[], line, lines, rfl, rfl, ?_⟩
        rw [List.flatten_nil, List.append_nil, hkind]
      | succ k =>
        rw [hkind, beq_self_eq_true, if_pos rfl] at hk
        obtain ⟨before, line', below, rfl, hcount, hline'⟩ :=
          ih (Nat.lt_of_succ_lt_succ hk)
        refine ⟨line :: before, line', below, rfl, ?_, ?_⟩
        · rw [kindsBelow, List.count_cons, hcount, hkind, beq_self_eq_true,
            if_pos rfl]
        · rw [List.flatten_cons, ← List.append_assoc, hline']
    · rw [if_neg (by simpa using hkind), Nat.add_zero] at hk
      obtain ⟨before, line', below, rfl, hcount, hline'⟩ := ih hk
      refine ⟨line :: before, line', below, rfl, ?_, ?_⟩
      · rw [kindsBelow, List.count_cons, hcount, if_neg (by simpa using hkind),
          Nat.add_zero]
      · rw [List.flatten_cons, ← List.append_assoc, hline']

/-- Every row starts on a line. -/
theorem exists_startsOn {place : Nat}
    (hplace : place < (lineKinds delimiter text).count .opening) :
    ∃ number, StartsOn delimiter text place number := by
  obtain ⟨before, line, below, heq, hbefore, hline⟩ := exists_opening hplace
  exact ⟨_, before, line, below, heq, rfl, hbefore, hline⟩

/-- Lines are of three kinds. -/
theorem LineKind.length_eq (kinds : List LineKind) :
    kinds.length = kinds.count .opening + kinds.count .blank +
      kinds.count .continuation := by
  induction kinds with
  | nil => rfl
  | cons kind kinds ih =>
    rw [List.length_cons, ih]
    cases kind
    all_goals
      simp only [List.count_cons, beq_self_eq_true, if_true, reduceCtorEq,
        beq_iff_eq, if_false]
      omega

/-- A row starts as many lines further down as there are blank lines and
continuations above it. -/
theorem StartsOn.number_eq {place number : Nat}
    (h : StartsOn delimiter text place number) :
    number = place + 1 + countAbove delimiter text .blank number +
      countAbove delimiter text .continuation number := by
  obtain ⟨above, line, below, hlines, rfl, rfl, -⟩ := h
  have hkinds : (lineKinds delimiter text).take (above.length + 1 - 1) =
      kindsBelow delimiter [] above := by
    rw [lineKinds, hlines, kindsBelow_append, Nat.add_sub_cancel,
      List.take_left' length_kindsBelow]
  have hlength := LineKind.length_eq (kindsBelow delimiter [] above)
  rw [length_kindsBelow] at hlength
  rw [countAbove, countAbove, hkinds]
  omega

/-- Of two lines on which one row starts, the first is not above the second. -/
theorem StartsOn.le {place number number' : Nat}
    (h : StartsOn delimiter text place number)
    (h' : StartsOn delimiter text place number') : number' ≤ number := by
  obtain ⟨above, line, below, hlines, rfl, hcount, hline⟩ := h
  obtain ⟨above', line', below', hlines', rfl, hcount', -⟩ := h'
  by_contra hlt
  -- the line on which the row starts would be among the lines above the other
  -- one
  obtain ⟨more, rfl⟩ : ∃ more, above' = above ++ line :: more := by
    rcases List.append_eq_append_iff.1 (hlines.symm.trans hlines')
      with ⟨more, rfl, hmore⟩ | ⟨more, rfl, -⟩
    · cases more with
      | nil => exact absurd hlt (by simp)
      | cons _ more =>
        obtain ⟨rfl, -⟩ := List.cons.inj hmore
        exact ⟨more, rfl⟩
    · rw [List.length_append] at hlt
      omega
  rw [kindsBelow_append, List.count_append, List.nil_append, kindsBelow,
    List.count_cons, hline] at hcount'
  simp only [beq_self_eq_true, if_true] at hcount'
  omega

/-- A row starts on one line. -/
theorem StartsOn.unique {place number number' : Nat}
    (h : StartsOn delimiter text place number)
    (h' : StartsOn delimiter text place number') : number = number' :=
  Nat.le_antisymm (h'.le h) (h.le h')

/-! ## Readers that go by lines -/

/-- The lines above the line of a number are read as the rows of a table above a
place. -/
def Reader.HoldsAbove (reader : Reader) (delimiter : Char) (text : List Char)
    (table : Table) (place number : Nat) : Prop :=
  ∃ t, reader.table? (String.singleton delimiter)
      (mark text ++ ((physicalLines (unmarked text)).take
        (number - 1)).flatten) = some t ∧
    t.rows = table.rows.take place

/-- A table comes from its text line by line: blank lines are skipped, lines
that begin within quotes go on with the row above, and every other line below
the header is a row. -/
structure Reader.ReadsLines (reader : Reader) (delimiter : Char)
    (text : List Char) (table : Table) : Prop where
  rows : table.rows.length + 1 = (lineKinds delimiter text).count .opening
  above : ∀ place number, StartsOn delimiter text (place + 1) number →
    reader.HoldsAbove delimiter text table place number

end LedgerSync.Csv
