import LedgerSync.Proofs.Csv.StandardReader
import LedgerSync.Proofs.Failing

/-!
# Rows that cannot be read

A file of transactions is refused for its first row that cannot be read, and the
message names a line. What it names is the place of the row, counted from the
header; the rows are counted after the text has been taken apart, when nothing
is left of blank lines and of line breaks within quotes. So the line that is
named is the one on which the row starts only if no such line stands above it
(`Reader.readReported_names_lines`), and with one it is too small
(`named_line_not_always_right`).

A row fails only for its cells or for what it lacks
(`ReportedRow.read_failsOnly`), so that no failure of a row goes without a line;
and a table is read row by row up to the first one that is refused
(`Kind.readTable_cases`). A row with surplus cells on the left is numbered by
them instead, and they may not be a number at all (`Kind.Refuses`).

How dates are made out and which zones there are does not matter to any of this.
Of the table it matters that it goes by the lines of the text
(`Reader.ReadsLines`).
-/

namespace LedgerSync

open Run

/-! ## Why a row cannot be read -/

/-- An argument is not accepted, or a record cannot be made. -/
def Failure.IsOfRow (e : Failure) : Prop :=
  (∃ fault, e = .argument fault) ∨ ∃ fault, e = .record fault

theorem Failure.isOfRow_argument (fault : ArgumentFault) :
    (Failure.argument fault).IsOfRow :=
  Or.inl ⟨fault, rfl⟩

theorem Failure.isOfRow_record (fault : RecordFault) :
    (Failure.record fault).IsOfRow :=
  Or.inr ⟨fault, rfl⟩

theorem Reported.make_failsOnly {draft : Draft}
    {externalId description category merchant : Option String}
    {bankFields : Option BankFields} {extended : Option Extended} :
    FailsOnly Failure.IsOfRow
      (make draft externalId description category merchant bankFields
        extended) := by
  unfold make
  rcases draft with ⟨dateTime, amount, status, direction⟩
  cases dateTime with
  | none => exact .error (Failure.isOfRow_record _)
  | some dateTime =>
    dsimp only
    cases dateTime.moment? with
    | none => exact .error (Failure.isOfRow_record _)
    | some moment =>
      cases status with
      | none => exact .error (Failure.isOfRow_record _)
      | some status =>
        cases direction with
        | none => exact .error (Failure.isOfRow_record _)
        | some direction =>
          cases amount with
          | absent => exact .error (Failure.isOfRow_record _)
          | notNumeric => exact .error (Failure.isOfRow_record _)
          | number d => exact .ok _

namespace Csv

theorem Cell.optional_failsOnly {α : Type} {read : String → Except CellFault α}
    {cell : Option String} :
    FailsOnly Failure.IsOfRow (optional read cell) := by
  cases cell with
  | none => exact .ok none
  | some s => exact .mapError fun fault =>
    Failure.isOfRow_argument (.cell fault)

theorem Cell.given_failsOnly {cell : Option String} :
    FailsOnly Failure.IsOfRow (given cell) := by
  refine Cell.optional_failsOnly.bind fun amount _ => ?_
  cases amount <;> exact .ok _

namespace ReportedRow

variable {reader : Reader} {zone : Zone} {get : Fields} {field : String}

theorem dateTime?_failsOnly :
    FailsOnly Failure.IsOfRow (dateTime? reader zone get field) :=
  Cell.optional_failsOnly.bind fun _ _ => .ok _

theorem account?_failsOnly :
    FailsOnly Failure.IsOfRow (account? get field) := by
  unfold account?
  cases get field with
  | none => exact .ok none
  | some number => exact Cell.optional_failsOnly.bind fun _ _ => .ok _

theorem exchangeRates_failsOnly :
    FailsOnly Failure.IsOfRow (exchangeRates get) := by
  refine Cell.optional_failsOnly.bind fun rate _ => ?_
  cases rate <;> exact .ok _

theorem foreignAmount?_failsOnly :
    FailsOnly Failure.IsOfRow (foreignAmount? get) := by
  refine Cell.optional_failsOnly.bind fun amount _ => ?_
  cases amount <;> exact .ok _

theorem details?_failsOnly :
    FailsOnly Failure.IsOfRow (details? reader zone get) := by
  unfold details?
  split
  · exact .ok none
  · exact exchangeRates_failsOnly.bind fun _ _ => foreignAmount?_failsOnly.bind
      fun _ _ =>
      dateTime?_failsOnly.bind fun _ _ => dateTime?_failsOnly.bind fun _ _ =>
      account?_failsOnly.bind fun _ _ => account?_failsOnly.bind
        fun _ _ => .ok _

/-- A row is refused for one of its cells or for what it lacks. -/
theorem read_failsOnly : FailsOnly Failure.IsOfRow (read reader zone get) :=
  dateTime?_failsOnly.bind fun _ _ => Cell.given_failsOnly.bind fun _ _ =>
    Cell.optional_failsOnly.bind fun _ _ => Cell.optional_failsOnly.bind
      fun _ _ =>
    details?_failsOnly.bind fun _ _ => Reported.make_failsOnly

end ReportedRow

/-! ## Tables -/

namespace Kind

variable {α : Type} {k : Kind α} {table : Table}

/-- What a row of a table says. -/
def reading (k : Kind α) (table : Table) (row : Row) : Except Failure α :=
  k.read fun field => (table.cellOf? row (k.column field)).bind Cell.content?

/-- Why a row is refused. -/
inductive Refuses (k : Kind α) (table : Table) (row : Row) (place : Nat) :
    Failure → Prop
  /-- What should number it is no number. -/
  | unnumbered {e : Failure} (h : Table.lineOf row place = .error e) :
      Refuses k table row place e
  /-- It cannot be read, which is reported under its number. -/
  | unreadable {line : Int} {cause : Failure} {reason : String}
    (hline : Table.lineOf row place = .ok line)
      (h : k.reading table row = .error cause) (hreason : cause.message? =
        some reason) :
      Refuses k table row place (.file (.row k.side line reason))

/-- The row at a place is the first one that is refused. -/
structure StopsAt (k : Kind α) (table : Table) (place : Nat) (e : Failure) :
    Prop where
  earlier : ∀ i < place, ∀ row, table.rows[i]? = some row →
    (∃ line, Table.lineOf row i = .ok line) ∧ ∃ a, k.reading table row = .ok a
  here : ∃ row, table.rows[place]? = some row ∧ k.Refuses table row place e

theorem StopsAt.lt {place : Nat} {e : Failure} (h : k.StopsAt table place e) :
    place < table.rows.length := by
  obtain ⟨row, hrow, -⟩ := h.here
  exact (List.getElem?_eq_some_iff.1 hrow).1

/-- Rows without numbers of their own are reported by their place. -/
theorem StopsAt.place_named {place : Nat} {e : Failure}
    (h : k.StopsAt table place e)
    (hnumber : ∀ row ∈ table.rows, row.number = []) :
    ∃ reason, e = .file (.row k.side (place + 2) reason) := by
  obtain ⟨row, hrow, hrefuses⟩ := h.here
  have hline : Table.lineOf row place = .ok (place + 2) := by
    unfold Table.lineOf
    rw [hnumber row (List.mem_of_getElem? hrow)]
  cases hrefuses with
  | unnumbered h => cases hline.symm.trans h
  | unreadable hline' h hreason =>
    cases hline.symm.trans hline'
    exact ⟨_, rfl⟩

variable {row : Row} {place : Nat}

theorem readRow_eq_ok {a : α} (h : k.readRow table row place = .ok a) :
    (∃ line, Table.lineOf row place = .ok line) ∧ k.reading table row =
      .ok a := by
  unfold readRow at h
  cases hline : Table.lineOf row place with
  | error e => rw [hline] at h; cases h
  | ok line =>
    rw [hline] at h
    exact ⟨⟨line, rfl⟩, mapError_eq_ok_iff.1 h⟩

theorem readRow_eq_error (hread : ∀ get, FailsOnly Failure.IsOfRow (k.read get))
    {e : Failure} (h : k.readRow table row place = .error e) :
    k.Refuses table row place e := by
  unfold readRow at h
  cases hline : Table.lineOf row place with
  | error e' =>
    rw [hline] at h
    cases h
    exact .unnumbered hline
  | ok line =>
    rw [hline] at h
    change (k.reading table row).mapError (k.rowFailure line) = .error e at h
    cases hreading : k.reading table row with
    | ok a => rw [hreading] at h; cases h
    | error cause =>
      rw [hreading] at h
      cases h
      rcases hread _ cause hreading with ⟨fault, rfl⟩ | ⟨fault, rfl⟩
      · exact .unreadable hline hreading rfl
      · exact .unreadable hline hreading rfl

/-- A table is read row by row, or fails for the first row that is refused. -/
theorem readTable_cases (hread : ∀ get, FailsOnly Failure.IsOfRow (k.read get))
    (hcolumns : ∀ field ∈ k.requiredFields, k.column field ∈ table.columns) :
    (∃ as, k.readTable table = .ok as ∧
      List.Forall₂ (fun row a => k.reading table row = .ok a) table.rows as) ∨
    ∃ place e, k.StopsAt table place e ∧ k.readTable table = .error e := by
  have hmissing : ((k.requiredFields.map k.column).filter fun c =>
      !table.columns.contains c) = [] := by
    simpa using hcolumns
  have htable : k.readTable table = table.rows.zipIdx.mapM fun r =>
      k.readRow table r.1 r.2 := by
    unfold readTable
    rw [hmissing]
    rfl
  have hrows : table.rows = table.rows.zipIdx.map Prod.fst :=
    (List.zipIdx_map_fst 0 _).symm
  rw [htable]
  have hat : ∀ (i : Nat) (row : Row), table.rows[i]? = some row →
      table.rows.zipIdx[i]? = some (row, i) := by
    intro i row hrow
    rw [List.getElem?_zipIdx, hrow, Nat.zero_add]
    rfl
  rcases mapM_cases (fun r : Row × Nat => k.readRow table r.1 r.2)
    table.rows.zipIdx with
    ⟨as, has⟩ | ⟨place, ⟨row, place'⟩, e, hrow, hbefore, hfail, he⟩
  · refine Or.inl ⟨as, has, ?_⟩
    rw [hrows, List.forall₂_map_left_iff]
    exact (mapM_eq_ok_iff.1 has).imp fun _ _ h => (readRow_eq_ok h).2
  · rw [List.getElem?_zipIdx, Nat.zero_add] at hrow
    obtain ⟨_, hplace, heq⟩ := Option.map_eq_some_iff.1 hrow
    obtain ⟨rfl, rfl⟩ := Prod.mk.inj heq
    refine Or.inr ⟨place, e, ⟨fun i hi row' hrow' => ?_, _, hplace,
      readRow_eq_error hread hfail⟩, he⟩
    obtain ⟨a, ha⟩ := hbefore i hi _ (hat i row' hrow')
    exact ⟨(readRow_eq_ok ha).1, a, (readRow_eq_ok ha).2⟩

end Kind

/-! ## Files -/

/-- What a file holds, by the encoding and the delimiter that it is read
with. -/
structure File.Holds (file : File) (settings : InputSettings) (delimiter : Char)
    (text : List Char) : Prop where
  delimiter : settings.delimiter = String.singleton delimiter
  encoded : ∃ encoding bytes, Encoding.ofName? settings.encoding =
    some encoding ∧ file.bytes = some bytes ∧ encoding.decode? bytes = some text

namespace Kind

variable {α : Type} {k : Kind α} {reader : Reader} {settings : InputSettings}
  {file : File} {delimiter : Char} {text : List Char} {table : Table}

/-- A file is read as the table of its text is. -/
theorem readFile_of_table (hfile : file.Holds settings delimiter text)
    (htable : reader.table? (String.singleton delimiter) text = some table)
    (j : Journal) :
    (∀ as, k.readTable table = .ok as → ∃ j', Returns
      (k.readFile reader settings file) j as j') ∧
      ∀ e, k.readTable table = .error e →
      Fails (k.readFile reader settings file) j e := by
  obtain ⟨encoding, bytes, hencoding, hbytes, hdecode⟩ := hfile.encoded
  have hfound : table? reader settings encoding file = some table := by
    unfold table?
    rw [hfile.delimiter, hbytes, Option.bind_eq_bind, Option.bind_some, hdecode]
    exact htable
  unfold readFile
  rw [hencoding]
  dsimp only
  rw [hfound]
  dsimp only
  constructor
  · intro as has
    rw [has]
    exact ⟨_, rfl⟩
  · intro e he
    rw [he]
    rfl

end Kind

/-- How a file of reported transactions with the columns that it must have is
read. Either every row is a transaction, in the order of the file, and a row is
every line below the header that starts one; or the file is refused for its
first row that is. Unless the rows have numbers of their own, this row is
reported under the number that it would have if all rows stood right below each
other and the header on the first line. It starts as many lines further down as
there are lines above it that are blank or go on with a row. -/
theorem Reader.readReported_names_lines {reader : Reader}
    {settings : InputSettings} {file : File} {zone : Zone} {delimiter : Char}
    {text : List Char} {table : Table}
    (hzone : reader.zone settings.defaultTimeZone = .ok zone)
    (hfile : file.Holds settings delimiter text)
    (htable : reader.table? (String.singleton delimiter) text = some table)
    (hlines : reader.ReadsLines delimiter text table)
    (hcolumns : ∀ field ∈ ReportedRow.requiredFields,
      (reportedKind reader settings zone).column field ∈ table.columns)
    (j : Journal) :
    (∃ ts j', Returns (reader.readReported settings file) j ts j' ∧
      List.Forall₂ (fun row t => (reportedKind reader settings zone).reading
        table row = .ok t) table.rows ts ∧
      ts.length + 1 = (lineKinds delimiter text).count .opening) ∨
    ∃ place e number, (reportedKind reader settings zone).StopsAt
      table place e ∧ Fails (reader.readReported settings file) j e ∧
      ((∀ row ∈ table.rows, row.number = []) →
        ∃ reason, e = .file (.row .reported (place + 2) reason)) ∧
      StartsOn delimiter text (place + 1) number ∧
      (∀ other, StartsOn delimiter text (place + 1) other → other = number) ∧
      reader.HoldsAbove delimiter text table place number ∧
      number = place + 2 + countAbove delimiter text .blank number +
        countAbove delimiter text .continuation number := by
  obtain ⟨hreturns, hfails⟩ :=
    (reportedKind reader settings zone).readFile_of_table hfile htable j
  have hstart : reader.readReported settings file =
      (reportedKind reader settings zone).readFile reader settings file := by
    unfold readReported
    rw [hzone]
    rfl
  rw [hstart]
  rcases (reportedKind reader settings zone).readTable_cases
      (fun _ => ReportedRow.read_failsOnly) hcolumns with
    ⟨ts, hts, hall⟩ | ⟨place, e, hstops, he⟩
  · obtain ⟨j', hj'⟩ := hreturns ts hts
    exact Or.inl ⟨ts, j', hj', hall, hall.length_eq ▸ hlines.rows⟩
  · right
    obtain ⟨number, hstarts⟩ : ∃ number,
        StartsOn delimiter text (place + 1) number := by
      refine exists_startsOn ?_
      rw [← hlines.rows]
      exact Nat.succ_lt_succ hstops.lt
    exact ⟨place, e, number, hstops, hfails _ he, hstops.place_named, hstarts,
      fun other h => h.unique hstarts, hlines.above place number hstarts,
        hstarts.number_eq⟩

/-- A file with a column whose name goes over two lines, a blank line, and an
amount that is none. -/
def Sample.gapped : String := "date_time,amount,status,type,\"a\nb\"\n\n,abc\n"

/-- The file in which it stands. -/
def Sample.gappedFile : File := ⟨"upstream.csv", some Sample.gapped.toUTF8⟩

/-- What is in its table. -/
def Sample.gappedTable : Table where
  columns := ["date_time", "amount", "status", "type", "a\nb"]
  rows := [⟨[], ["", "abc", "", "", ""]⟩]

/-- Why the file is refused. -/
def Sample.gappedFault : Failure :=
  .file (.row .reported 2 "invalid amount 'abc'")

theorem Sample.gappedFile_holds :
    Sample.gappedFile.Holds .standard ',' Sample.gapped.toList :=
  ⟨by decide +kernel, .utf8, Sample.gapped.toUTF8, by decide +kernel, rfl, by decide +kernel⟩

theorem Sample.gapped_table :
    Reader.standard.table? (String.singleton ',') Sample.gapped.toList =
      some Sample.gappedTable := by
  decide +kernel

theorem Sample.gapped_columns : ∀ field ∈ ReportedRow.requiredFields,
    (reportedKind .standard .standard (.region .utc)).column field ∈
      Sample.gappedTable.columns := by
  decide +kernel

theorem Sample.gapped_fails :
    Fails (Reader.standard.readReported .standard Sample.gappedFile) .empty
      Sample.gappedFault := by
  unfold Fails
  decide +kernel

theorem Sample.gapped_stopsAt :
    (reportedKind .standard .standard (.region .utc)).StopsAt
      Sample.gappedTable 0 Sample.gappedFault :=
  ⟨nofun, _, rfl, .unreadable rfl (by rfl) rfl⟩

theorem Sample.gapped_startsOn : StartsOn ',' Sample.gapped.toList 1 4 :=
  ⟨["date_time,amount,status,type,\"a\n".toList, "b\"\n".toList, ['\n']],
    ",abc\n".toList, [],
    by decide +kernel, rfl, by decide +kernel, by decide +kernel⟩

/-- The bad amount of the gapped file is reported under line 2, but its row
starts on line 4: above it there are a blank line and one that goes on with a
row. -/
theorem gapped_names_lines :
    ∃ reason, Fails (Reader.standard.readReported .standard Sample.gappedFile)
      .empty (.file (.row .reported 2 reason)) ∧
      StartsOn ',' Sample.gapped.toList 1 4 ∧
      4 = 2 + countAbove ',' Sample.gapped.toList .blank 4 +
        countAbove ',' Sample.gapped.toList .continuation 4 := by
  rcases Reader.readReported_names_lines (by decide +kernel)
    Sample.gappedFile_holds
      Sample.gapped_table (Reader.standard_readsLines Sample.gapped_table)
      Sample.gapped_columns .empty with
    ⟨ts, j', hreturns, -⟩ | ⟨place, e, number, -, hfails, hnamed, hstarts,
      hunique, -, hnumber⟩
  · cases Sample.gapped_fails.symm.trans (congrArg Prod.fst hreturns)
  · obtain rfl := Except.error.inj (Sample.gapped_fails.symm.trans hfails)
    obtain ⟨reason, heq⟩ := hnamed (by decide +kernel)
    obtain ⟨hline, -⟩ := FileFault.row.inj (Failure.file.inj heq) |>.2
    obtain rfl : place = 0 := by omega
    obtain rfl := hunique 4 Sample.gapped_startsOn
    exact ⟨_, hfails, hstarts, by omega⟩

/-- The line that is named need not be the one on which the first row that
cannot be read starts. -/
theorem named_line_not_always_right :
    ¬ ∀ (reader : Reader) (settings : InputSettings) (file : File) (zone : Zone)
      (delimiter : Char) (text : List Char) (table : Table) (j : Journal)
        (place : Nat) (line : Int) (reason : String) (number : Nat),
      reader.zone settings.defaultTimeZone = .ok zone →
      file.Holds settings delimiter text →
      reader.table? (String.singleton delimiter) text = some table →
      reader.ReadsLines delimiter text table →
      (∀ field ∈ ReportedRow.requiredFields,
        (reportedKind reader settings zone).column field ∈ table.columns) →
      (reportedKind reader settings zone).StopsAt table place
        (.file (.row .reported line reason)) →
      Fails (reader.readReported settings file) j
        (.file (.row .reported line reason)) →
      StartsOn delimiter text (place + 1) number → line = number := by
  intro h
  have hline := h .standard .standard Sample.gappedFile (.region .utc) ','
      Sample.gapped.toList
    Sample.gappedTable .empty 0 2 "invalid amount 'abc'" 4 (by decide +kernel)
    Sample.gappedFile_holds Sample.gapped_table
    (Reader.standard_readsLines Sample.gapped_table) Sample.gapped_columns
      Sample.gapped_stopsAt Sample.gapped_fails Sample.gapped_startsOn
  exact absurd hline (by decide)

end Csv

end LedgerSync
