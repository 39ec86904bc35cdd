import LedgerSync.Matching.Window
import LedgerSync.Proofs.Calendar.Extremes
import LedgerSync.Proofs.Failing
import LedgerSync.Proofs.Matching.Relations

/-!
# Choosing a window and cutting to it

A window that has a bound is only chosen where every transaction of both sides
has a booking date (`WindowSelector.select_bounded`), so cutting to the chosen
window succeeds, and the bound is the first reported booking day or the day
after it, so it leaves a reported transaction
(`WindowSelector.exists_truncated`). A choice fails only where the calendar ends
on the first reported booking date (`WindowSelector.select_total`).
-/

namespace LedgerSync.Matching

/-! ## Cutting -/

/-- Cutting keeps what was booked on or after the bound, when everything has a
booking date. -/
theorem Window.go_eq_ok_iff {α : Type} [Viewable α] {bound : Date}
    {ts kept : List α} :
    truncate.go bound ts = .ok kept ↔
    (∀ t ∈ ts, (view t).bookingDate.isSome = true) ∧
      kept = ts.filter fun t => (view t).bookingDate.any fun d =>
      decide (bound ≤ d) := by
  induction ts generalizing kept with
  | nil =>
    rw [truncate.go, Except.ok.injEq, eq_comm]
    exact ⟨fun h => ⟨fun _ ht => absurd ht List.not_mem_nil, h⟩, fun h => h.2⟩
  | cons t ts ih =>
    rw [truncate.go, List.forall_mem_cons, List.filter_cons]
    cases view t |>.bookingDate with
    | none =>
      constructor
      · intro h
        cases h
      · rintro ⟨⟨h, -⟩, -⟩
        cases h
    | some booked =>
      simp only [Option.isSome_some, true_and, Option.any_some,
        decide_eq_true_eq]
      rw [bind_eq_ok_iff]
      constructor
      · rintro ⟨rest, hrest, h⟩
        obtain rfl := pure_eq_ok_iff.1 h
        obtain ⟨hall, rfl⟩ := ih.1 hrest
        exact ⟨hall, rfl⟩
      · rintro ⟨hall, rfl⟩
        exact ⟨_, ih.2 ⟨hall, rfl⟩, rfl⟩

/-- A window only cuts off. -/
theorem Window.truncate_sublist {α : Type} [Viewable α] {w : Window}
    {ts kept : List α} (h : w.truncate ts = .ok kept) : kept.Sublist ts := by
  unfold truncate at h
  split at h
  · cases h
    exact List.Sublist.refl _
  · rw [(go_eq_ok_iff.1 h).2]
    exact List.filter_sublist

/-! ## Choosing -/

namespace WindowSelector

variable {α β : Type} [Viewable α] [Viewable β] {reported : List α}
  {stored : List β} {selector : WindowSelector} {choice : Choice} {bound : Date}
  {r s : Interval}

/-- All transactions have a booking date, or there is no interval. -/
theorem mapM_bookingDate (ts : List α) :
    (ts.mapM fun t => (view t).bookingDate) =
      if ts.all fun t => (view t).bookingDate.isSome then
        some (ts.filterMap fun t => (view t).bookingDate)
      else none := by
  induction ts with
  | nil => rfl
  | cons t ts ih =>
    rw [List.mapM_cons, ih, List.all_cons, List.filterMap_cons]
    cases (view t).bookingDate with
    | none => rfl
    | some d =>
      cases ts.all fun t => (view t).bookingDate.isSome <;> rfl

/-- The interval of booking dates begins and ends on booking dates, and holds
all of them. -/
theorem bookingInterval?_spec {ts : List α} (h : bookingInterval? ts = some r) :
    (∀ t ∈ ts, ∃ d, (view t).bookingDate = some d ∧ r.start ≤ d) ∧
      (∃ t ∈ ts, (view t).bookingDate = some r.start) ∧
      ∃ t ∈ ts, (view t).bookingDate = some r.stop := by
  obtain ⟨dates, hdates, hspan⟩ := Option.bind_eq_some_iff.1 h
  rw [mapM_bookingDate] at hdates
  split at hdates
  case isFalse => cases hdates
  next hall =>
  obtain rfl := Option.some.inj hdates
  obtain ⟨hstart, hstop⟩ :
      Date.earliest? (ts.filterMap fun t => (view t).bookingDate) =
        some r.start ∧
      Date.latest? (ts.filterMap fun t => (view t).bookingDate) =
        some r.stop := by
    unfold Interval.spanning? at hspan
    split at hspan
    case h_2 => cases hspan
    next first last hfirst hlast =>
    split at hspan
    · obtain rfl := Option.some.inj hspan
      exact ⟨hfirst, hlast⟩
    · cases hspan
  obtain ⟨hmem, hleast⟩ := Date.earliest?_eq_some_iff.1 hstart
  refine ⟨fun t ht => ?_, List.mem_filterMap.1 hmem,
    List.mem_filterMap.1 (Date.latest?_mem hstop)⟩
  obtain ⟨d, hd⟩ := Option.isSome_iff_exists.1 (List.all_eq_true.1 hall t ht)
  exact ⟨d, hd, hleast d (List.mem_filterMap.2 ⟨t, ht, hd⟩)⟩

/-- A choice cuts nothing off where the reported dates lead into the stored
ones. Otherwise it cuts off what was booked before the first reported day, and
also what was booked on it where storage and the reported dates both go on after
it. It fails only where the calendar ends on the first reported day. -/
theorem chooseFor_cases {P : Except Failure Choice → Prop}
    (hend : r.start.addDays? 1 = none → P (.error .beyondCalendar))
    (hwhole : r.LeadsInto s →
      ∀ severity message, P (.ok (choose .unbounded severity message)))
    (hfirst : ¬r.LeadsInto s → ¬(r.start < s.stop ∧ r.start < r.stop) →
      ∀ severity message,
      P (.ok (choose (.startingAt r.start false) severity message)))
    (hnext : ¬r.LeadsInto s → r.start < s.stop → r.start < r.stop →
      ∀ next severity message, r.start.addDays? 1 = some next →
      P (.ok (choose (.startingAt next true) severity message))) :
    P (chooseFor r s) := by
  -- the definition is opened as a function: applied to intervals, the kernel
  -- would count days to compare
  have hdef : @chooseFor = @chooseFor := rfl
  conv_rhs at hdef => delta chooseFor
  rw [hdef]
  beta_reduce
  cases hday : r.start.addDays? 1 with
  | none => exact hend hday
  | some next =>
    clear hend hdef
    dsimp only
    have hholds := r.relationTo_holds s
    have hleads := hholds.leadsInto_iff
    simp only [Interval.one_lt_days_iff]
    cases hrelation : r.relationTo s with
    | precedes | meets | overlaps | contains | finishedBy =>
      exact hwhole (hleads.2 (by rw [hrelation]; decide)) _ _
    | precededBy | metBy =>
      rw [hrelation] at hholds hleads
      exact hfirst (hleads.not.2 (by decide)) (fun h =>
        hholds.stop_le_start (by decide) h.1) _ _
    | starts | during =>
      rw [hrelation] at hholds hleads
      dsimp only
      split
      · next hdays =>
          exact hnext (hleads.not.2 (by decide))
            (hholds.start_lt_stop (by decide)) hdays _ _ _ hday
      · next hdays =>
          exact hfirst (hleads.not.2 (by decide)) (fun h => hdays h.2) _ _
    | overlappedBy | startedBy | finishes | equal =>
      rw [hrelation] at hholds hleads
      dsimp only
      split
      · next hdays =>
          exact hnext (hleads.not.2 (by decide)) hdays.1 hdays.2 _ _ _ hday
      · next hdays => exact hfirst (hleads.not.2 (by decide)) hdays _ _

/-- The window is unbounded or begins on the first reported day, or on the day
after it where storage begins by the first reported day and the reported dates
go on after it. -/
theorem window_of_chooseFor (h : chooseFor r s = .ok choice) :
    choice.window = .unbounded ∨ choice.window = .startingAt r.start false ∨
      s.start ≤ r.start ∧ r.start < r.stop ∧
        ∃ next, r.start.addDays? 1 = some next ∧
        choice.window = .startingAt next true := by
  refine chooseFor_cases (r := r) (s := s) (P := fun x => x = .ok choice →
    choice.window = .unbounded ∨ choice.window = .startingAt r.start false ∨
      s.start ≤ r.start ∧ r.start < r.stop ∧
        ∃ next, r.start.addDays? 1 = some next ∧
          choice.window = .startingAt next true) ?_ ?_ ?_ ?_ h
  · rintro - h
    cases h
  · rintro - severity message h
    exact Or.inl (Except.ok.inj h ▸ rfl)
  · rintro - - severity message h
    exact Or.inr (Or.inl (Except.ok.inj h ▸ rfl))
  · rintro hleads - hlater next severity message hnext h
    have hstarts : s.start ≤ r.start :=
      Date.le_iff.2 (Nat.le_of_not_lt fun hlt =>
        hleads (Or.inl (Date.lt_iff.2 hlt)))
    exact Or.inr (Or.inr ⟨hstarts, hlater, next, hnext, Except.ok.inj h ▸ rfl⟩)

/-- A bound is the first day, or the day after it if there is a later one. -/
theorem bound_of_chooseFor (h : chooseFor r s = .ok choice)
    (hbound : choice.window.lowerBound = some bound) :
    bound = r.start ∨ r.start.addDays? 1 = some bound ∧ r.start < r.stop := by
  rcases window_of_chooseFor h with hwindow | hwindow | ⟨-, hlater, next,
    hnext, hwindow⟩
  · rw [hwindow] at hbound
    cases hbound
  · rw [hwindow] at hbound
    exact Or.inl (Option.some.inj hbound).symm
  · rw [hwindow] at hbound
    obtain rfl := Option.some.inj hbound
    exact Or.inr ⟨hnext, hlater⟩

/-- A window is unbounded unless both sides span an interval of booking dates;
then it is chosen for the two intervals. -/
theorem select_cases {P : Except Failure Choice → Prop}
    (hempty : reported = [] → P (.error (.argument .windowWithoutReported)))
    (hunbounded : ∀ note, P (.ok ⟨.unbounded, note⟩))
    (hchosen : selector = .bookingDate → ∀ r s, bookingInterval?
      reported = some r →
      bookingInterval? stored = some s → P (chooseFor r s)) :
    P (selector.select reported stored) := by
  unfold select
  cases selector with
  | unbounded => exact hunbounded none
  | bookingDate =>
    dsimp only
    split
    · next h => exact hempty (List.isEmpty_iff.1 h)
    split
    · exact hunbounded _
    split
    · exact hunbounded _
    · exact hunbounded _
    next r s hr hs => exact hchosen rfl r s hr hs

theorem window_of_select (h : selector.select reported stored = .ok choice) :
    choice.window = .unbounded ∨ ∃ r s, bookingInterval? reported = some r ∧
      bookingInterval? stored = some s ∧ chooseFor r s = .ok choice := by
  refine select_cases (P := fun x => x = .ok choice →
    choice.window = .unbounded ∨ ∃ r s,
    bookingInterval? reported = some r ∧ bookingInterval? stored = some s ∧
      chooseFor r s = .ok choice) ?_ ?_ ?_ h
  · rintro - h
    cases h
  · intro note h
    exact Or.inl (Except.ok.inj h ▸ rfl)
  · intro _ r s hr hs h
    exact Or.inr ⟨r, s, hr, hs, h⟩

/-- A bound comes with booking dates on both sides, and one of the reported ones
is not before it. -/
theorem select_bounded (h : selector.select reported stored = .ok choice)
    (hbound : choice.window.lowerBound = some bound) :
    (∀ t ∈ reported, (view t).bookingDate.isSome = true) ∧
      (∀ t ∈ stored, (view t).bookingDate.isSome = true) ∧
      ∃ t ∈ reported, ∃ d, (view t).bookingDate = some d ∧ bound ≤ d := by
  rcases window_of_select h with hwindow | ⟨r, s, hr, hs, hchosen⟩
  · rw [hwindow] at hbound
    cases hbound
  · obtain ⟨hall, ⟨first, hfirst, hstart⟩, last, hlast, hstop⟩ :=
      bookingInterval?_spec hr
    obtain ⟨hall', -⟩ := bookingInterval?_spec hs
    refine ⟨fun t ht => ?_, fun t ht => ?_, ?_⟩
    · obtain ⟨d, hd, -⟩ := hall t ht
      exact Option.isSome_iff_exists.2 ⟨d, hd⟩
    · obtain ⟨d, hd, -⟩ := hall' t ht
      exact Option.isSome_iff_exists.2 ⟨d, hd⟩
    rcases bound_of_chooseFor hchosen hbound with rfl | ⟨hnext, hlater⟩
    · exact ⟨first, hfirst, _, hstart, Date.le_iff.2 (Nat.le_refl _)⟩
    · -- an interval of several days does not end on its first one
      have hcount := Date.days_of_addDays? hnext
      have hlt := Date.lt_iff.1 hlater
      refine ⟨last, hlast, _, hstop, Date.le_iff.2 ?_⟩
      omega

/-- Where something was reported, only the end of the calendar is in the way of
a window. -/
theorem select_failsOnly (hne : reported ≠ []) :
    FailsOnly (· = .beyondCalendar) (selector.select reported stored) :=
  select_cases (fun hempty => absurd hempty hne) (fun _ => .ok _)
    fun _ _ _ _ _ =>
    chooseFor_cases (fun _ => .error rfl) (fun _ _ _ => .ok _)
      (fun _ _ _ _ => .ok _)
      fun _ _ _ _ _ _ _ => .ok _

/-- A window is chosen unless both sides span an interval of booking dates and
the calendar ends on the first reported one. -/
theorem select_total (selector : WindowSelector) (hne : reported ≠ [])
    (hnext : selector = .bookingDate → ∀ r s, bookingInterval?
      reported = some r →
      bookingInterval? stored = some s → ∃ next, r.start.addDays? 1 =
        some next) :
    ∃ choice, selector.select reported stored = .ok choice := by
  refine select_cases (P := fun x => ∃ choice, x = .ok choice) (fun hempty =>
    absurd hempty hne)
    (fun _ => ⟨_, rfl⟩) fun hselector r s hr hs => ?_
  obtain ⟨next, hday⟩ := hnext hselector r s hr hs
  refine chooseFor_cases (P := fun x => ∃ choice, x = .ok choice)
    (fun hend => ?_)
    (fun _ _ _ => ⟨_, rfl⟩) (fun _ _ _ _ => ⟨_, rfl⟩)
    fun _ _ _ _ _ _ _ => ⟨_, rfl⟩
  rw [hend] at hday
  cases hday

/-- Both sides can be cut to the window that was chosen, and a reported
transaction is left. -/
theorem exists_truncated (hne : reported ≠ [])
    (h : selector.select reported stored = .ok choice) :
    ∃ keptReported keptStored, choice.window.truncate reported =
      .ok keptReported ∧
      choice.window.truncate stored = .ok keptStored ∧ keptReported ≠ [] := by
  unfold Window.truncate
  cases hbound : choice.window.lowerBound with
  | none => exact ⟨reported, stored, rfl, rfl, hne⟩
  | some bound =>
    obtain ⟨hreported, hstored, t, ht, d, hd, hle⟩ := select_bounded h hbound
    refine ⟨_, _, Window.go_eq_ok_iff.2 ⟨hreported, rfl⟩,
      Window.go_eq_ok_iff.2 ⟨hstored, rfl⟩, ?_⟩
    refine List.ne_nil_of_mem (a := t) (List.mem_filter.2 ⟨ht, ?_⟩)
    rw [hd, Option.any_some, decide_eq_true hle]

end WindowSelector

end LedgerSync.Matching
