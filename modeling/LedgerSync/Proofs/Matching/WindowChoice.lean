import LedgerSync.Proofs.Matching.WindowCuts
import LedgerSync.Proofs.Store.Records

/-!
# The choice of a window, by the first and the last days

The window of two sides that are booked throughout depends only on the first and
the last day of each (`BookedBetween`). Where the reported days lead into the
stored ones there is no window. Where storage knows the first reported day, and
both sides go on after it, the window begins on the day after it. Everywhere
else it begins on the first reported day. `WindowSelector.bookingDate_select`
says this with the four days, whichever of the thirteen relations they are in,
and `WindowSelector.kept_of_select` says what a cut to the window leaves of the
reported side.
-/

namespace LedgerSync

/-- The last date of the calendar. -/
def Date.final : Date := ⟨Date.count - 1, by decide⟩

/-- A day follows each date but the last one. -/
theorem Date.exists_next {d : Date} (h : d < Date.final) :
    ∃ next, d.addDays? 1 = some next := by
  have hlt : d.days < Date.count - 1 := Date.lt_iff.1 h
  unfold Date.addDays?
  dsimp only
  rw [dif_pos (by omega)]
  exact ⟨_, rfl⟩

namespace Matching

section Booked

variable {α : Type} [Viewable α] {ts : List α} {first last : Date}

/-- Transactions that all have a booking date, where `first` is the earliest one
and `last` the latest. -/
structure BookedBetween (ts : List α) (first last : Date) : Prop where
  between : ∀ t ∈ ts, ∃ d, (view t).bookingDate = some d ∧ first ≤ d ∧ d ≤ last
  on_first : ∃ t ∈ ts, (view t).bookingDate = some first
  on_last : ∃ t ∈ ts, (view t).bookingDate = some last

/-- Some transactions that all have a booking date are booked between two of
their dates. -/
theorem exists_bookedBetween (hne : ts ≠ [])
    (hdated : ∀ t ∈ ts, (view t).bookingDate.isSome = true) :
    ∃ first last, BookedBetween ts first last := by
  set dates := ts.filterMap fun t => (view t).bookingDate with hdates
  have hmem : ∀ t ∈ ts, ∃ d ∈ dates, (view t).bookingDate = some d := by
    intro t ht
    obtain ⟨d, hd⟩ := Option.isSome_iff_exists.1 (hdated t ht)
    exact ⟨d, List.mem_filterMap.2 ⟨t, ht, hd⟩, hd⟩
  have hdatesne : dates ≠ [] := by
    obtain ⟨t, ht⟩ := List.exists_mem_of_ne_nil ts hne
    obtain ⟨d, hd, -⟩ := hmem t ht
    exact List.ne_nil_of_mem hd
  obtain ⟨first, hfirst⟩ := Date.exists_earliest? hdatesne
  obtain ⟨last, hlast⟩ := Date.exists_latest? hdatesne
  refine ⟨first, last, fun t ht => ?_,
    List.mem_filterMap.1 (Date.earliest?_mem hfirst),
    List.mem_filterMap.1 (Date.latest?_mem hlast)⟩
  obtain ⟨d, hd, hbooked⟩ := hmem t ht
  exact ⟨d, hbooked, (Date.earliest?_eq_some_iff.1 hfirst).2 d hd,
    (Date.latest?_eq_some_iff.1 hlast).2 d hd⟩

/-- Transactions that span an interval of booking dates are booked
throughout. -/
theorem bookedBetween_of_interval {r : Interval}
    (h : WindowSelector.bookingInterval? ts = some r) :
    ∃ first last, BookedBetween ts first last := by
  obtain ⟨hall, ⟨t, ht, -⟩, -⟩ := WindowSelector.bookingInterval?_spec h
  refine exists_bookedBetween (List.ne_nil_of_mem ht) fun t ht => ?_
  obtain ⟨d, hd, -⟩ := hall t ht
  exact Option.isSome_iff_exists.2 ⟨d, hd⟩

namespace BookedBetween

theorem ne_nil (h : BookedBetween ts first last) : ts ≠ [] := by
  obtain ⟨t, ht, -⟩ := h.on_first
  exact List.ne_nil_of_mem ht

theorem first_le_last (h : BookedBetween ts first last) : first ≤ last := by
  obtain ⟨t, ht, hfirst⟩ := h.on_first
  obtain ⟨d, hd, -, hle⟩ := h.between t ht
  obtain rfl := Option.some.inj (hfirst.symm.trans hd)
  exact hle

/-- The interval of the booking dates goes from the first to the last. -/
theorem bookingInterval?_eq (h : BookedBetween ts first last) :
    WindowSelector.bookingInterval? ts =
      some ⟨first, last, h.first_le_last⟩ := by
  have hall : (ts.all fun t => (view t).bookingDate.isSome) = true := by
    refine List.all_eq_true.2 fun t ht => ?_
    obtain ⟨d, hd, -⟩ := h.between t ht
    exact Option.isSome_iff_exists.2 ⟨d, hd⟩
  have hrange : ∀ d ∈ ts.filterMap fun t => (view t).bookingDate, first ≤ d ∧
      d ≤ last := by
    intro d hd
    obtain ⟨t, ht, hbooked⟩ := List.mem_filterMap.1 hd
    obtain ⟨d', hd', hle⟩ := h.between t ht
    obtain rfl := Option.some.inj (hbooked.symm.trans hd')
    exact hle
  have hfirst : Date.earliest? (ts.filterMap fun t => (view t).bookingDate) =
      some first :=
    Date.earliest?_eq_some_iff.2 ⟨List.mem_filterMap.2 h.on_first, fun d hd =>
      (hrange d hd).1⟩
  have hlast : Date.latest? (ts.filterMap fun t => (view t).bookingDate) =
      some last :=
    Date.latest?_eq_some_iff.2 ⟨List.mem_filterMap.2 h.on_last, fun d hd =>
      (hrange d hd).2⟩
  unfold WindowSelector.bookingInterval?
  rw [WindowSelector.mapM_bookingDate, if_pos hall, Option.bind_some]
  unfold Interval.spanning?
  rw [hfirst, hlast]
  exact dif_pos h.first_le_last

/-- Nothing is booked before the first day. -/
theorem filter_from_first (h : BookedBetween ts first last) :
    (ts.filter fun t => (view t).bookingDate.any fun d => decide (first ≤ d)) =
      ts := by
  refine List.filter_eq_self.2 fun t ht => ?_
  obtain ⟨d, hd, hle, -⟩ := h.between t ht
  rw [hd, Option.any_some, decide_eq_true hle]

/-- From the day after the first one on, everything is booked but what is booked
on the first day. -/
theorem filter_from_next {next : Date} (h : BookedBetween ts first last)
    (hnext : first.addDays? 1 = some next) :
    (ts.filter fun t => (view t).bookingDate.any fun d => decide (next ≤ d)) =
      ts.filter fun t => (view t).bookingDate ≠ some first := by
  refine List.filter_congr fun t ht => ?_
  obtain ⟨d, hd, hle, -⟩ := h.between t ht
  have hdays := Date.days_of_addDays? hnext
  rw [hd, Option.any_some]
  simp only [ne_eq, Option.some.injEq, decide_eq_decide, Date.le_iff,
    Date.eq_iff] at hle ⊢
  omega

end BookedBetween

end Booked

namespace WindowSelector

variable {r s : Interval} {next : Date} {choice : Choice}

/-- Which window is chosen, by the ends of the reported and of the stored
interval. -/
def Suits (r s : Interval) (next : Date) (w : Window) : Prop :=
  r.LeadsInto s ∧ w = .unbounded ∨
    ¬r.LeadsInto s ∧ (r.start < s.stop ∧ r.start < r.stop) ∧
    w = .startingAt next true ∨
      ¬r.LeadsInto s ∧ ¬(r.start < s.stop ∧ r.start < r.stop) ∧
      w = .startingAt r.start false

theorem suits_of_chooseFor (h : chooseFor r s = .ok choice)
    (hnext : r.start.addDays? 1 = some next) :
    Suits r s next choice.window := by
  refine chooseFor_cases (r := r) (s := s)
    (P := fun x => x = .ok choice → Suits r s next choice.window) ?_ ?_ ?_ ?_ h
  · rintro hend -
    rw [hend] at hnext
    cases hnext
  · rintro hleads severity message h
    obtain rfl := Except.ok.inj h
    exact Or.inl ⟨hleads, rfl⟩
  · rintro hleads hdays severity message h
    obtain rfl := Except.ok.inj h
    exact Or.inr (Or.inr ⟨hleads, hdays, rfl⟩)
  · rintro hleads hstored hdays next' severity message hnext' h
    obtain rfl := Except.ok.inj h
    obtain rfl := Option.some.inj (hnext.symm.trans hnext')
    exact Or.inr (Or.inl ⟨hleads, ⟨hstored, hdays⟩, rfl⟩)

/-- Two sides that are booked throughout, from `a` to `b` and from `c` to `d`,
where `a` is not the last date of the calendar. Nothing is cut off if `a` is
before `c`, or is the one reported day and the first of several stored ones.
Otherwise the window begins in full on the day after `a`, if storage begins by
`a` and both sides go on after `a`, and else on `a`. -/
theorem bookingDate_select {α β : Type} [Viewable α] [Viewable β]
    {reported : List α} {stored : List β} {a b c d : Date}
    (hreported : BookedBetween reported a b)
    (hstored : BookedBetween stored c d) (ha : a < Date.final) :
    ∃ next choice, a.addDays? 1 = some next ∧
    bookingDate.select reported stored = .ok choice ∧
      (choice.window = .unbounded ↔ a < c ∨ a = b ∧ b = c ∧ c < d) ∧
      (choice.window = .startingAt next true ↔ c ≤ a ∧ a < b ∧ a < d) ∧
      (choice.window = .startingAt a false ↔
        ¬(a < c ∨ a = b ∧ b = c ∧ c < d) ∧ ¬(c ≤ a ∧ a < b ∧ a < d)) := by
  obtain ⟨next, hnext⟩ := Date.exists_next ha
  have hr := hreported.bookingInterval?_eq
  have hs := hstored.bookingInterval?_eq
  obtain ⟨choice, hchoice⟩ : ∃ choice, bookingDate.select reported stored =
      .ok choice := by
    refine select_total .bookingDate hreported.ne_nil fun _ r s hr' _ => ?_
    obtain rfl := Option.some.inj (hr.symm.trans hr')
    exact ⟨next, hnext⟩
  have hchosen : chooseFor ⟨a, b, hreported.first_le_last⟩ ⟨c, d,
      hstored.first_le_last⟩ =
        .ok choice := by
    rw [← hchoice, select, if_neg (by simpa using hreported.ne_nil),
      if_neg (by simpa using hstored.ne_nil), hr, hs]
  have hsuits := suits_of_chooseFor hchosen hnext
  refine ⟨next, choice, hnext, hchoice, ?_⟩
  have hle := Date.le_iff.1 hreported.first_le_last
  have hunbounded (bound : Date) (full : Bool) : Window.unbounded ≠
      .startingAt bound full := nofun
  have hfull (bound bound' : Date) : Window.startingAt bound true ≠
      .startingAt bound' false := nofun
  simp only [Suits, Interval.LeadsInto, Date.lt_iff, Date.le_iff, Date.eq_iff]
    at hsuits ⊢
  rcases hsuits with ⟨hleads, hw⟩ | ⟨hleads, hdays, hw⟩ | ⟨hleads, hdays, hw⟩
  all_goals
    rw [hw]
    simp only [hunbounded, (hunbounded _ _).symm, hfull, (hfull _ _).symm,
      true_iff, false_iff]
    omega

/-- The window begins on the day after the first reported one, where storage
goes back further. -/
theorem covered_select : ∃ choice,
    bookingDate.select
        [Sample.reported "x" "tea" (Sample.day 3),
          Sample.reported "y" "milk" (Sample.day 5)]
        [Sample.stored "r1" "w" "rye" (Sample.day 1),
          Sample.stored "r2" "y" "milk" (Sample.day 5)] =
      .ok choice ∧ choice.window = .startingAt (Sample.day 4) true := by
  have hreported : BookedBetween
      [Sample.reported "x" "tea" (Sample.day 3),
        Sample.reported "y" "milk" (Sample.day 5)]
      (Sample.day 3) (Sample.day 5) := by
    refine ⟨List.forall_mem_cons.2 ⟨?_,
      List.forall_mem_singleton.2 ?_⟩, by decide, by decide⟩
    · exact ⟨Sample.day 3, by decide, by decide, by decide⟩
    · exact ⟨Sample.day 5, by decide, by decide, by decide⟩
  have hstored : BookedBetween
      [Sample.stored "r1" "w" "rye" (Sample.day 1),
        Sample.stored "r2" "y" "milk" (Sample.day 5)]
      (Sample.day 1) (Sample.day 5) := by
    refine ⟨List.forall_mem_cons.2 ⟨?_,
      List.forall_mem_singleton.2 ?_⟩, by decide, by decide⟩
    · exact ⟨Sample.day 1, by decide, by decide, by decide⟩
    · exact ⟨Sample.day 5, by decide, by decide, by decide⟩
  obtain ⟨next, choice, hnext, hchoice, -, hday, -⟩ :=
    bookingDate_select hreported hstored (by decide)
  have hfourth : (Sample.day 3).addDays? 1 = some (Sample.day 4) := by decide
  obtain rfl := Option.some.inj (hfourth.symm.trans hnext)
  exact ⟨choice, hchoice, hday.2 (by decide)⟩

-- one reported day, the first of several stored ones
example : (bookingDate.select [Sample.reported "x" "tea" (Sample.day 3)]
    [Sample.stored "r1" "x" "tea" (Sample.day 3),
      Sample.stored "r2" "y" "milk" (Sample.day 5)]).toOption.map (·.window) =
        some .unbounded := by
  decide +kernel

/-! ## What is cut off -/

section Cut

variable {α β : Type} [Viewable α] [Viewable β] {reported kept : List α}
  {stored : List β} {selector : WindowSelector}

/-- Cutting to the window that was chosen keeps the whole reported side, or
leaves out what is booked on its first day. The second happens only where both
sides are booked throughout, storage begins by that day and the reported side
goes on after it. -/
theorem kept_of_select (h : selector.select reported stored = .ok choice)
    (hkept : choice.window.truncate reported = .ok kept) :
    kept = reported ∨ ∃ first last oldest latest,
    BookedBetween reported first last ∧
      BookedBetween stored oldest latest ∧ oldest ≤ first ∧ first < last ∧
      kept = reported.filter fun t => (view t).bookingDate ≠ some first := by
  rcases window_of_select h with hwindow | ⟨r, s, hr, hs, hchosen⟩
  · rw [hwindow] at hkept
    exact Or.inl (Except.ok.inj hkept).symm
  obtain ⟨first, last, hreported⟩ := bookedBetween_of_interval hr
  obtain ⟨oldest, latest, hstored⟩ := bookedBetween_of_interval hs
  obtain rfl := Option.some.inj (hreported.bookingInterval?_eq.symm.trans hr)
  obtain rfl := Option.some.inj (hstored.bookingInterval?_eq.symm.trans hs)
  rcases window_of_chooseFor hchosen with hwindow | hwindow | ⟨hstarts, hlater,
    next, hnext, hwindow⟩
  · rw [hwindow] at hkept
    exact Or.inl (Except.ok.inj hkept).symm
  · rw [hwindow] at hkept
    left
    rw [(Window.go_eq_ok_iff.1 hkept).2]
    exact hreported.filter_from_first
  · rw [hwindow] at hkept
    refine Or.inr ⟨first, last, oldest, latest, hreported, hstored, hstarts,
      hlater, ?_⟩
    rw [(Window.go_eq_ok_iff.1 hkept).2]
    exact hreported.filter_from_next hnext

end Cut

end WindowSelector

end Matching

end LedgerSync
