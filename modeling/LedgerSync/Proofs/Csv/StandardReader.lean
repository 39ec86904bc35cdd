import LedgerSync.Csv.Standard
import LedgerSync.Proofs.Csv.PhysicalLines
import Mathlib.Data.Bool.Basic

/-!
# The standard reader goes by lines

`Reader.ReadsLines` says which lines of a text become the rows of its table. The
standard reader is one for which this holds (`Reader.standard_readsLines`), so
that what is said about files by way of it is said of the program as it runs.

The reader knows at every character whether it is within quotes; this agrees
with the count of quotes that goes by the text alone (`Lexer.quoting_feed`). So
the rows that it has begun are those whose first line it has reached
(`begun_after_append`). And what it has finished it does not touch again
(`Lexer.lines_suffix_foldl`): a text that is cut between two rows is read as the
rows above the cut.
-/

namespace LedgerSync.Csv

/-! ## Lines one by one -/

/-- Lines: a text without breaks, and then breaks, which only the last line may
lack. -/
inductive AreLines : List (List Char) → Prop
  | nil : AreLines []
  | cons (body ending : List Char) {lines : List (List Char)}
    (hbody : ∀ c ∈ body, isBreak c = false)
      (hending : ∀ c ∈ ending, isBreak c = true) (hlast : ending = [] →
        lines = [])
      (h : AreLines lines) : AreLines ((body ++ ending) :: lines)

theorem areLines_physicalLines (text : List Char) :
    AreLines (physicalLines text) := by
  fun_induction physicalLines text with
  | case1 => exact .nil
  | case2 rest ih =>
    refine .cons [] ['\r', '\n'] (List.forall_mem_nil _) (by simp [isBreak])
      (fun h => absurd h (List.cons_ne_nil _ _)) ih
  | case3 c rest _ hc ih =>
    refine .cons [] [c] (List.forall_mem_nil _) (by simpa using hc)
      (fun h => absurd h (List.cons_ne_nil _ _)) ih
  | case4 c rest _ hc hrest ih =>
    exact .cons [c] [] (by simpa using hc) (List.forall_mem_nil _)
      (fun _ => rfl) .nil
  | case5 c rest _ hc line lines hrest ih =>
    rw [hrest] at ih
    cases ih with
    | cons body ending hbody hending hlast h =>
      exact .cons (c :: body) ending
        (List.forall_mem_cons.2 ⟨Bool.eq_false_iff.2 hc, hbody⟩) hending
        hlast h

theorem AreLines.left {lines lines' : List (List Char)}
    (h : AreLines (lines ++ lines')) :
    AreLines lines := by
  induction lines with
  | nil => exact .nil
  | cons line lines ih =>
    cases h with
    | cons body ending hbody hending hlast h =>
      exact .cons body ending hbody hending (fun hnil =>
        (List.append_eq_nil_iff.1 (hlast hnil)).1) (ih h)

theorem AreLines.right {lines lines' : List (List Char)}
    (h : AreLines (lines ++ lines')) :
    AreLines lines' := by
  induction lines with
  | nil => exact h
  | cons line lines ih =>
    cases h with
    | cons body ending hbody hending hlast h => exact ih h

/-! ## The reader at the end of a line -/

/-- What is expected of the text, in terms of quotes. -/
def Mode.quoting : Mode → Quoting
  | .lineStart | .cellStart | .lineEnd => .outside
  | .blankLine | .plain => .plain
  | .quoted => .quoted
  | .quoteEnd => .closing

namespace Lexer

variable {delimiter c : Char} {s : Lexer}

/-- The reader tells quotes as the text does. -/
theorem quoting_feed (delimiter : Char) (s : Lexer) (c : Char) :
    (feed delimiter s c).mode.quoting = s.mode.quoting.next delimiter c := by
  obtain ⟨mode, cell, cells, lines⟩ := s
  cases mode
  all_goals
    simp only [feed, feedCell, feedLine, endLine, endCell, push, dropLine,
      Mode.quoting, Quoting.next, isBreak]
    grind [Mode.quoting]

/-- Whether a row has begun on the line that is being read. -/
def isOpen (s : Lexer) : Bool :=
  match s.mode with
  | .cellStart | .plain | .quoted | .quoteEnd => true
  | .lineStart | .blankLine | .lineEnd => false

/-- How many rows have begun. -/
def begun (s : Lexer) : Nat := s.lines.length + if s.isOpen then 1 else 0

/-- A row begins with the first character that does not leave the line blank. -/
theorem begun_feed (delimiter : Char) (s : Lexer) (c : Char) :
    (feed delimiter s c).begun =
      s.begun + if !s.isOpen && !isBreak c && !isBlankMark delimiter c then 1
      else 0 := by
  obtain ⟨mode, cell, cells, lines⟩ := s
  cases mode
  all_goals
    simp only [feed, feedCell, feedLine, begun, isOpen, endLine, endCell, push,
      dropLine, isBreak, isBlankMark]
    grind

theorem isOpen_feed (s : Lexer) (hc : isBreak c = false) :
    (feed delimiter s c).isOpen = (s.isOpen || !isBlankMark delimiter c) := by
  obtain ⟨mode, cell, cells, lines⟩ := s
  simp only [isBreak, Bool.or_eq_false_iff, decide_eq_false_iff_not] at hc
  cases mode
  all_goals
    simp only [feed, feedCell, feedLine, isOpen, endLine, endCell, push,
      dropLine, isBlankMark]
    grind

/-- After a break a row is open only within quotes. -/
theorem mode_feed_of_isBreak (s : Lexer) (hc : isBreak c = true)
    (h : (feed delimiter s c).isOpen = true) :
    (feed delimiter s c).mode = .quoted := by
  obtain ⟨mode, cell, cells, lines⟩ := s
  simp only [isBreak, Bool.or_eq_true, decide_eq_true_eq] at hc
  cases mode
  all_goals
    simp only [feed, feedCell, feedLine, isOpen, endLine, endCell, push,
      dropLine] at h ⊢
    grind

/-- Without a break a row stays open, and one is opened unless the line stays
blank. -/
theorem foldl_body {body : List Char} (h : ∀ c ∈ body, isBreak c = false)
    (s : Lexer) :
    (body.foldl (feed delimiter) s).begun =
        s.begun + (if !s.isOpen && !body.all (isBlankMark delimiter) then
          1 else 0) ∧
      (body.foldl (feed delimiter) s).isOpen =
        (s.isOpen || !body.all (isBlankMark delimiter)) := by
  induction body generalizing s with
  | nil => simp
  | cons c body ih =>
    obtain ⟨hc, hbody⟩ := List.forall_mem_cons.1 h
    obtain ⟨hbegun, hopen⟩ := ih hbody (feed delimiter s c)
    rw [List.foldl_cons, hbegun, hopen, begun_feed, isOpen_feed s hc, hc,
      List.all_cons]
    cases s.isOpen <;> cases isBlankMark delimiter c <;> simp

/-- Breaks begin no row. -/
theorem foldl_ending {ending : List Char} (h : ∀ c ∈ ending, isBreak c = true)
    (s : Lexer) :
    (ending.foldl (feed delimiter) s).begun = s.begun := by
  induction ending generalizing s with
  | nil => rfl
  | cons c ending ih =>
    obtain ⟨hc, hending⟩ := List.forall_mem_cons.1 h
    rw [List.foldl_cons, ih hending, begun_feed, hc]
    simp

/-- A line begins a row unless one is open before it, or it is blank. -/
theorem foldl_line {body ending : List Char}
    (hbody : ∀ c ∈ body, isBreak c = false)
    (hending : ∀ c ∈ ending, isBreak c = true) (s : Lexer) :
    ((body ++ ending).foldl (feed delimiter) s).begun =
      s.begun + if !s.isOpen && !isBlankLine delimiter (body ++ ending) then 1
      else 0 := by
  have hblank : isBlankLine delimiter (body ++ ending) =
      body.all (isBlankMark delimiter) := by
    unfold isBlankLine
    rw [Bool.eq_iff_iff]
    simp only [List.all_append, Bool.and_eq_true, List.all_eq_true,
      Bool.or_eq_true]
    constructor
    · exact fun h c hc =>
        (h.1 c hc).resolve_left (Bool.eq_false_iff.1 (hbody c hc))
    · exact fun h => ⟨fun c hc => Or.inr (h c hc), fun c hc =>
        Or.inl (hending c hc)⟩
  rw [List.foldl_append, foldl_ending hending, (foldl_body hbody s).1, hblank]

/-- At the end of a line that has a break, a row is open only within quotes. -/
theorem mode_foldl_ending {ending : List Char}
    (h : ∀ c ∈ ending, isBreak c = true) (hne : ending ≠ []) (s : Lexer)
    (hopen : (ending.foldl (feed delimiter) s).isOpen = true) :
    (ending.foldl (feed delimiter) s).mode = .quoted := by
  rw [← List.dropLast_concat_getLast hne, List.foldl_append] at hopen ⊢
  exact mode_feed_of_isBreak _ (h _ (List.getLast_mem hne)) hopen

/-- The rows that are there in the end are those that have begun. -/
theorem length_finish? {rows : List (List String)} (h : s.finish? = some rows) :
    rows.length = s.begun := by
  obtain ⟨mode, cell, cells, lines⟩ := s
  cases mode
  case quoted => cases h
  all_goals
    obtain rfl := Option.some.inj h
    simp [begun, isOpen, endLine, endCell]

/-- What is finished stays. -/
theorem lines_suffix_feed (delimiter : Char) (s : Lexer) (c : Char) :
    s.lines <:+ (feed delimiter s c).lines := by
  obtain ⟨mode, cell, cells, lines⟩ := s
  cases mode
  all_goals
    simp only [feed, feedCell, feedLine, endLine, endCell, push, dropLine]
    grind

theorem lines_suffix_foldl (delimiter : Char) (s : Lexer) (text : List Char) :
    s.lines <:+ (text.foldl (feed delimiter) s).lines := by
  induction text generalizing s with
  | nil => exact List.suffix_refl _
  | cons c text ih => exact (lines_suffix_feed delimiter s c).trans (ih _)

theorem lines_prefix_finish? {rows : List (List String)}
    (h : s.finish? = some rows) :
    s.lines.reverse <+: rows := by
  obtain ⟨mode, cell, cells, lines⟩ := s
  cases mode
  case quoted => cases h
  all_goals
    obtain rfl := Option.some.inj h
    simp [endLine, endCell]

theorem finish?_of_not_isOpen (h : s.isOpen = false) :
    s.finish? = some s.lines.reverse := by
  obtain ⟨mode, cell, cells, lines⟩ := s
  cases mode
  all_goals first | rfl | cases h

end Lexer

/-! ## A text as its lines -/

/-- The reader behind a text without a mark. -/
def Lexer.after (delimiter : Char) (text : List Char) : Lexer :=
  text.foldl (feed delimiter) start

variable {delimiter : Char} {above text : List Char} {lines : List (List Char)}

theorem Lexer.quoting_after (delimiter : Char) (text : List Char) :
    (after delimiter text).mode.quoting = quotingAfter delimiter text := by
  suffices h : ∀ s : Lexer, (text.foldl (feed delimiter) s).mode.quoting =
      text.foldl (Quoting.next delimiter) s.mode.quoting from h start
  induction text with
  | nil => exact fun _ => rfl
  | cons c text ih =>
    intro s
    rw [List.foldl_cons, List.foldl_cons, ih, quoting_feed]

theorem Lexer.hasOpenQuote_iff :
    hasOpenQuote delimiter text = true ↔ (after delimiter text).mode =
      .quoted := by
  rw [hasOpenQuote, ← quoting_after, beq_iff_eq]
  cases (after delimiter text).mode <;> simp [Mode.quoting]

/-- A text is between lines: a row that is open is so within quotes. -/
def BetweenLines (delimiter : Char) (above : List Char) : Prop :=
  (Lexer.after delimiter above).isOpen = true →
    hasOpenQuote delimiter above = true

theorem betweenLines_append {body ending : List Char}
    (hending : ∀ c ∈ ending, isBreak c = true) (hne : ending ≠ []) :
    BetweenLines delimiter (above ++ (body ++ ending)) := by
  unfold BetweenLines
  rw [Lexer.hasOpenQuote_iff, Lexer.after, List.foldl_append, List.foldl_append]
  exact Lexer.mode_foldl_ending hending hne _

/-- Between lines, a row is open where a quote is. -/
theorem BetweenLines.isOpen_eq (h : BetweenLines delimiter above) :
    (Lexer.after delimiter above).isOpen = hasOpenQuote delimiter above := by
  rw [Bool.eq_iff_iff]
  refine ⟨h, fun hquote => ?_⟩
  rw [Lexer.isOpen, Lexer.hasOpenQuote_iff.1 hquote]

/-- The rows that have begun are those that start on a line. -/
theorem begun_after_append (h : AreLines lines)
    (hbetween : BetweenLines delimiter above) :
    (Lexer.after delimiter (above ++ lines.flatten)).begun =
      (Lexer.after delimiter above).begun +
        (kindsBelow delimiter above lines).count .opening := by
  induction h generalizing above with
  | nil => rw [List.flatten_nil, List.append_nil]; rfl
  | @cons body ending lines hbody hending hlast _ ih =>
    have hline : (Lexer.after delimiter (above ++ (body ++ ending))).begun =
        (Lexer.after delimiter above).begun +
          if kindOf delimiter above (body ++ ending) = .opening then 1
          else 0 := by
      rw [Lexer.after, List.foldl_append, Lexer.foldl_line hbody hending]
      simp only [kindOf_eq_opening, ← hbetween.isOpen_eq, Bool.and_eq_true,
        Bool.not_eq_true']
      rfl
    rw [List.flatten_cons, ← List.append_assoc, kindsBelow, List.count_cons]
    by_cases hnil : ending = []
    · rw [hlast hnil, List.flatten_nil, List.append_nil, hline]
      simp [kindsBelow]
    · rw [ih (betweenLines_append hending hnil), hline]
      simp only [beq_iff_eq]
      omega

/-- The lines of a text begin its rows. -/
theorem begun_after_flatten (h : AreLines lines) :
    (Lexer.after delimiter lines.flatten).begun =
      (kindsBelow delimiter [] lines).count .opening := by
  have hbegun := @begun_after_append delimiter [] lines h nofun
  rw [List.nil_append] at hbegun
  exact hbegun.trans (Nat.zero_add _)

/-- Above a line there is a break. -/
theorem AreLines.betweenLines {line : List Char} {below : List (List Char)}
    (h : AreLines (lines ++ line :: below)) :
    BetweenLines delimiter lines.flatten := by
  rcases List.eq_nil_or_concat lines with rfl | ⟨earlier, last, rfl⟩
  · exact nofun
  · rw [List.concat_eq_append, List.append_assoc] at h
    rw [List.concat_eq_append, List.flatten_append, List.flatten_singleton]
    cases h.right with
    | cons body ending hbody hending hlast h =>
      exact betweenLines_append hending fun hnil =>
        List.cons_ne_nil _ _ (hlast hnil)

/-! ## Tables -/

namespace Table

/-- The lines of a text without its last ones are a table without its last
rows. -/
theorem ofLines?_take {header : List String} {lines more : List (List String)}
    {table : Table} (h : ofLines? (header :: (lines ++ more)) = some table) :
    ∃ t, ofLines? (header :: lines) = some t ∧
    t.rows = table.rows.take lines.length := by
  cases lines with
  | nil => exact ⟨⟨nameColumns header, []⟩, rfl, rfl⟩
  | cons line lines =>
    -- the first row decides how wide the table is, with the others or without
    simp only [ofLines?, List.cons_append, List.head?_cons, Option.map_some,
      Option.getD_some]
      at h ⊢
    obtain ⟨hwidth, h⟩ := Option.ite_none_left_eq_some.1 h
    obtain rfl := Option.some.inj h
    rw [← List.cons_append, List.any_append, Bool.or_eq_true, not_or] at hwidth
    refine ⟨_, if_neg hwidth.1, ?_⟩
    dsimp only
    rw [← List.cons_append, List.map_append,
      List.take_left' (List.length_map _)]

/-- A table has as many rows as its text has below the header. -/
theorem length_rows_of_ofLines? {lines : List (List String)} {table : Table}
    (h : ofLines? lines = some table) :
    lines.length = table.rows.length + 1 := by
  cases lines with
  | nil => cases h
  | cons header lines =>
    rw [ofLines?] at h
    split at h
    · cases h
    · obtain rfl := Option.some.inj h
      rw [List.length_cons, List.length_map]

end Table

/-! ## The standard reader -/

theorem lines?_eq (delimiter : Char) (text : List Char) :
    lines? delimiter text = (Lexer.after delimiter (unmarked text)).finish? :=
      rfl

theorem mark_append_unmarked (text : List Char) :
    mark text ++ unmarked text = text := by
  unfold mark unmarked
  split
  · next h =>
    obtain ⟨rest, rfl⟩ := List.head?_eq_some_iff.1 h
    rfl
  · rfl

/-- The mark in front of a text is that of its beginning. -/
theorem unmarked_mark_append {beginning rest : List Char}
    (h : unmarked text = beginning ++ rest) :
    unmarked (mark text ++ beginning) = beginning := by
  have htext := mark_append_unmarked text
  unfold mark at htext ⊢
  split at htext
  · next hmark =>
    rw [if_pos hmark]
    rfl
  · next hmark =>
    rw [if_neg hmark, List.nil_append, unmarked]
    rw [List.nil_append, h] at htext
    refine if_neg fun hhead => hmark ?_
    obtain ⟨more, rfl⟩ := List.head?_eq_some_iff.1 hhead
    rw [← htext]
    rfl

theorem Reader.standard_table? (delimiter : Char) (text : List Char) :
    standard.table? (String.singleton delimiter) text =
      (lines? delimiter text).bind Table.ofLines? := by
  simp only [standard, String.toList_singleton]
  rfl

/-- The standard reader goes by lines. -/
theorem Reader.standard_readsLines {table : Table}
    (h : standard.table? (String.singleton delimiter) text = some table) :
    standard.ReadsLines delimiter text table := by
  rw [standard_table?] at h
  obtain ⟨rows, hrows, htable⟩ := Option.bind_eq_some_iff.1 h
  rw [lines?_eq] at hrows
  have hlines := areLines_physicalLines (unmarked text)
  refine ⟨?_, ?_⟩
  · rw [← Table.length_rows_of_ofLines? htable, Lexer.length_finish? hrows,
      lineKinds, ← begun_after_flatten hlines, flatten_physicalLines]
  · rintro place number ⟨above, line, below, hsplit, rfl, hcount, hopening⟩
    rw [hsplit] at hlines
    have hbeginning : unmarked text = above.flatten ++
        (line :: below).flatten := by
      rw [← List.flatten_append, ← hsplit, flatten_physicalLines]
    have hclosed : (Lexer.after delimiter above.flatten).isOpen = false := by
      rw [hlines.betweenLines.isOpen_eq, (kindOf_eq_opening.1 hopening).1]
    have habove := Lexer.finish?_of_not_isOpen hclosed
    -- what is read above the line is where the whole text is read to begin with
    obtain ⟨more, hmore⟩ : (Lexer.after delimiter above.flatten).lines.reverse
        <+: rows := by
      refine List.IsPrefix.trans ?_ (Lexer.lines_prefix_finish? hrows)
      rw [List.reverse_prefix, hbeginning, Lexer.after, Lexer.after,
        List.foldl_append]
      exact Lexer.lines_suffix_foldl _ _ _
    have hlength : (Lexer.after delimiter above.flatten).lines.reverse.length =
        place + 1 := by
      rw [Lexer.length_finish? habove, begun_after_flatten hlines.left, hcount]
    obtain ⟨header, lines, hheader⟩ :=
      List.exists_cons_of_length_eq_add_one hlength
    rw [hheader] at habove hmore hlength
    rw [← hmore] at htable
    obtain ⟨t, ht, htrows⟩ := Table.ofLines?_take htable
    refine ⟨t, ?_, ?_⟩
    · rw [standard_table?, lines?_eq, hsplit, Nat.add_sub_cancel,
        List.take_left, unmarked_mark_append hbeginning, habove]
      exact ht
    · rw [htrows, Nat.succ.inj hlength]

end LedgerSync.Csv
