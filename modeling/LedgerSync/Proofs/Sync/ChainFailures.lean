import LedgerSync.Proofs.Matching.Readings
import LedgerSync.Proofs.Matching.WindowChoice
import LedgerSync.Proofs.Sync.ChainChecks

/-!
# What stops a reconciliation by a chain

A reconciliation of some reported transactions stops only where a part of a
transaction cannot be read, a transaction is not booked, or the chain leaves
something without a definite verdict (`instructionByChain_stopsOnly`, over the
parts in the order in which they run).

The two failures of a window that does not suit its transactions are not among
these causes, because choosing and cutting agree: a bound is only chosen where
everything has a booking date, and it is never after the last reported one. What
it cuts off is the first of several reported booking days, and only where
storage begins by that day (`cutting_is_safe`).
-/

namespace LedgerSync

open Run Matching

/-- The causes that stop a reconciliation by a chain of some reported
transactions. -/
inductive Failure.IsOfChain : Failure → Prop
  | reading {e : Failure} (h : e.IsOfReading) : IsOfChain e
  | notBooked (side : Side) : IsOfChain (.argument (.notBooked side))
  | unprocessed (side : Side) (count : Nat) (provider : String) :
    IsOfChain (.unprocessed side count provider)
  | unresolved (fault : UnresolvedFault) : IsOfChain (.unresolved fault)

theorem Failure.isOfChain_of_value {e : Failure} (h : e.IsOfValue) :
    e.IsOfChain := .reading (Or.inl h)

/-- The failures of a window that does not suit what is cut to it: it has a
bound where a booking date is missing, or nothing is left. -/
inductive Failure.IsOfWindow : Failure → Prop
  | noBookingDate (label : String) :
      IsOfWindow (.argument (.noBookingDate label))
  | emptied (bound : String) : IsOfWindow (.argument (.emptiedWindow bound))

theorem Failure.IsOfChain.not_isOfWindow {e : Failure} (h : e.IsOfChain) :
    ¬e.IsOfWindow := by
  rintro (label | bound)
  all_goals
    obtain (h | h) | _ := h
    · obtain ⟨_, h⟩ | ⟨_, h⟩ | h := h <;> cases h
    · cases h

namespace ChainSync

variable {provider : Provider} {reported : List (Member Reported)}
  {stored : List (Member Stored)}

theorem cut_stopsOnly (hne : reported ≠ []) :
    StopsOnly Failure.IsOfChain (cut provider reported stored) := by
  have hselect : FailsOnly Failure.IsOfChain
      (provider.window.select reported stored) :=
    (WindowSelector.select_failsOnly hne).mono fun _ he =>
      Failure.isOfChain_of_value (Or.inr (Or.inr he))
  unfold cut
  rw [if_neg (by simpa using hne)]
  refine (StopsOnly.ofExcept hselect).bind fun choice ⟨_, _, hchoice⟩ => ?_
  -- what was selected can be cut to, and leaves something
  obtain ⟨keptReported, keptStored, hreported, hstored, hkept⟩ :=
    WindowSelector.exists_truncated hne (returns_ofExcept.1 hchoice).1
  obtain ⟨oldest, holdest⟩ :
      ∃ d, Date.earliest? (keptReported.map (·.record.date)) = some d :=
    Date.exists_earliest? (by simpa using hkept)
  refine (StopsOnly.noteAll _).bind fun _ _ => ?_
  dsimp only
  rw [hreported, hstored]
  refine (StopsOnly.pure keptReported).bind fun _ ⟨_, _, hreturns⟩ => ?_
  obtain ⟨rfl, -⟩ := returns_pure.1 hreturns
  refine (StopsOnly.pure keptStored).bind fun _ _ => ?_
  rw [holdest]
  exact .pure _

theorem checkStored_stopsOnly (name : String) (final : MatchResult)
    (oldest : Date) :
    StopsOnly Failure.IsOfChain (checkStored name final oldest) := by
  have htable (us : List (Unmatched (Member Stored))) :
      StopsOnly Failure.IsOfChain (Run.ofExcept (unmatchedTable us)) :=
    .ofExcept ((unmatchedTable_failsOnly fun u _ =>
      Stored.readable u.transaction).mono fun _ =>
      Failure.isOfChain_of_value)
  simp only [checkStored]
  split
  · exact .throw_bind (.unprocessed ..)
  split
  · exact (htable _).bind fun _ _ => .throw_bind (.unresolved _)
  split
  · refine (htable _).bind fun _ _ => ?_
    split
    · refine (StopsOnly.log _ _ _).bind fun _ _ => ?_
      split
      · exact (htable _).bind fun _ _ => .throw (.unresolved _)
      · exact .pure ()
    · exact .throw_bind (.unresolved _)
  · split
    · exact (htable _).bind fun _ _ => .throw (.unresolved _)
    · exact .pure ()

theorem checkReported_failsOnly (name : String) (final : MatchResult) :
    FailsOnly Failure.IsOfChain (checkReported name final) := by
  have htable (us : List (Unmatched (Member Reported))) :
      FailsOnly Failure.IsOfChain (unmatchedTable us) :=
    (unmatchedTable_failsOnly fun u _ => Reported.readable u.transaction).mono
      fun _ =>
      Failure.isOfChain_of_value
  simp only [checkReported]
  split
  · exact .error (.unprocessed ..)
  split
  · exact (htable _).bind fun _ _ => (htable _).bind fun _ _ =>
      .error (.unresolved _)
  · exact .ok ()

theorem startMetrics_failsOnly (name : String) (count : Nat) :
    FailsOnly Failure.IsOfValue (startMetrics name reported count) := by
  have hfill : FailsOnly Failure.IsOfValue (Index.fill reported) :=
    .mapM fun _ _ => Reported.cents_failsOnly.bind fun _ _ => .ok _
  have hindex : FailsOnly Failure.IsOfValue (Index.ofBatch reported) :=
    hfill.bind fun _ _ => .ok _
  exact hindex.bind fun _ _ => .ok _

theorem step_failsOnly (now : DateTime) (p : Progress) (pair : Matched) :
    FailsOnly Failure.IsOfValue (step now p pair) := by
  refine Reported.toStored_failsOnly.bind fun derived _ => ?_
  refine Stored.same_failsOnly.bind fun unchanged _ => ?_
  split
  · exact .ok _
  · split
    · exact .ok _
    · exact .ok _

end ChainSync

section Chain

variable {provider : Provider} {reported : List (Member Reported)}
  {stored : List (Member Stored)}

/-- A reconciliation of some reported transactions stops for no other cause. -/
theorem instructionByChain_stopsOnly (newId : Nat → String) (now : DateTime)
    (backfillWindowDays : Int) (account : Option Uuid) (hne : reported ≠ []) :
    StopsOnly Failure.IsOfChain
      (instructionByChain newId now backfillWindowDays provider account reported
        stored) := by
  have hvalue {α : Type} {x : Except Failure α}
      (h : FailsOnly Failure.IsOfValue x) :
      StopsOnly Failure.IsOfChain (Run.ofExcept x) :=
    .ofExcept (h.mono fun _ => Failure.isOfChain_of_value)
  have hreconcile (w : ChainSync.Windowed) :
      StopsOnly Failure.IsOfChain (provider.reconcile w.reported w.stored) := by
    refine (provider.reconcile_stopsOnly w.reported w.stored).mono ?_
    rintro e (he | ⟨side, rfl⟩)
    · exact .reading he
    · exact .notBooked side
  have hassign (kind : FillKind) (ms : List (Member Reported)) :
      StopsOnly Failure.IsOfChain (assignFresh newId kind ms) :=
    .of_returns (assignFresh_returns newId kind ms)
  unfold instructionByChain
  refine (ChainSync.cut_stopsOnly hne).bind fun w _ => ?_
  refine (hreconcile w).bind fun results _ => ?_
  refine (hvalue (results.logText_failsOnly _ _ _ _ _)).bind fun text _ => ?_
  refine (StopsOnly.log _ _ _).bind fun _ _ => ?_
  refine (ChainSync.checkStored_stopsOnly _ _ _).bind fun _ _ => ?_
  refine (StopsOnly.ofExcept (ChainSync.checkReported_failsOnly _ _)).bind
    fun _ _ => ?_
  refine (hvalue (ChainSync.startMetrics_failsOnly _ _)).bind
    fun metrics _ => ?_
  refine (hvalue (.foldlM (fun _ => True) trivial (fun _ _ _ _ _ => trivial)
    fun p pair _ =>
    ChainSync.step_failsOnly now p pair)).bind fun p _ => ?_
  split
  · dsimp only
    refine (hassign _ _).bind fun recent _ => ?_
    refine (hassign _ _).bind fun history _ => ?_
    split
    · exact (StopsOnly.log _ _ _).bind fun _ _ => .pure _
    · exact .pure _
  · exact .throw (Failure.isOfChain_of_value (Or.inr (Or.inr rfl)))

/-! ## Cutting is safe -/

/-- The calendar goes on after the first day of an interval of booking dates
that are not its last day. -/
theorem Matching.exists_next_of_interval {α : Type} [Viewable α] {ts : List α}
    {r : Interval}
    (hbefore : ∀ t ∈ ts, ∀ d, (view t).bookingDate = some d → d < Date.final)
    (h : WindowSelector.bookingInterval? ts = some r) :
    ∃ next, r.start.addDays? 1 = some next := by
  obtain ⟨-, ⟨t, ht, hstart⟩, -⟩ := WindowSelector.bookingInterval?_spec h
  exact Date.exists_next (hbefore t ht _ hstart)

/-- Some reported transactions can always be cut to the window that a selector
chooses, together with any stored ones, and are not all cut off. What is cut off
is the first of several reported booking days, and storage begins by that day.
So no reconciliation by a chain stops for its window. The last date of the
calendar must not be a reported booking date. -/
theorem cutting_is_safe (stored : List (Member Stored)) (hne : reported ≠ [])
    (hbefore : ∀ m ∈ reported, ∀ d, (view m).bookingDate = some d →
      d < Date.final) :
    (∀ selector : WindowSelector, ∃ choice keptReported keptStored,
      selector.select reported stored = .ok choice ∧
      choice.window.truncate reported = .ok keptReported ∧
      choice.window.truncate stored = .ok keptStored ∧
      keptReported ≠ [] ∧
      (keptReported = reported ∨ ∃ first last oldest latest,
        BookedBetween reported first last ∧
        BookedBetween stored oldest latest ∧ oldest ≤ first ∧ first < last ∧
        keptReported = reported.filter fun m => (view m).bookingDate ≠
          some first)) ∧ ∀ newId now backfillWindowDays provider account j e,
      Fails (instructionByChain newId now backfillWindowDays provider account
        reported stored) j e → ¬e.IsOfWindow := by
  constructor
  · intro selector
    obtain ⟨choice, hchoice⟩ : ∃ choice, selector.select reported stored =
        .ok choice :=
      WindowSelector.select_total selector hne fun _ _ _ hr _ =>
        exists_next_of_interval hbefore hr
    obtain ⟨keptReported, keptStored, hreported, hstored, hkept⟩ :=
      WindowSelector.exists_truncated hne hchoice
    exact ⟨choice, keptReported, keptStored, hchoice, hreported, hstored, hkept,
      WindowSelector.kept_of_select hchoice hreported⟩
  · intro newId now backfillWindowDays provider account j e he
    exact (instructionByChain_stopsOnly newId now backfillWindowDays account hne
      j e he).not_isOfWindow

/-- Payments of two days, of which the first may be incomplete. -/
def Sample.twoDays : List (Member Reported) :=
  [⟨0, Sample.reported "x" "tea" (Sample.day 3)⟩,
    ⟨1, Sample.reported "y" "milk" (Sample.day 5)⟩]

/-- Rows that go back further than these payments. -/
def Sample.olderRows : List (Member Stored) :=
  [⟨0, Sample.stored "r1" "w" "rye" (Sample.day 1)⟩,
    ⟨1, Sample.stored "r2" "y" "milk" (Sample.day 5)⟩]

theorem twoDays_cutting_is_safe :
    (∃ choice, WindowSelector.bookingDate.select Sample.twoDays
      Sample.olderRows = .ok choice ∧
      choice.window.truncate Sample.twoDays = .ok (Sample.twoDays.drop 1)) ∧
    ∀ j e, Fails (instructionByChain Sample.newId Sample.now 7
        ⟨"BANK", .bookingDate, [BuiltIn.externalIdAmountStrict.matcher]⟩ none
          Sample.twoDays Sample.olderRows) j e → ¬e.IsOfWindow := by
  have hdays : ∀ m ∈ Sample.twoDays,
      ((view m).bookingDate.all fun d => d < Date.final) = true := by
    decide +kernel
  obtain ⟨hcut, hsafe⟩ :=
    @cutting_is_safe Sample.twoDays Sample.olderRows (by decide)
    fun m hm d hd => by simpa [hd] using hdays m hm
  refine ⟨?_, hsafe _ _ _ _ _⟩
  obtain ⟨choice, kept, -, hchoice, hkept, -⟩ := hcut .bookingDate
  have hsecond : (WindowSelector.bookingDate.select Sample.twoDays
      Sample.olderRows >>= fun choice =>
      choice.window.truncate Sample.twoDays) = .ok (Sample.twoDays.drop 1) := by
        decide +kernel
  obtain ⟨choice', hchoice', hkept'⟩ := bind_eq_ok_iff.1 hsecond
  obtain rfl := Except.ok.inj (hchoice.symm.trans hchoice')
  exact ⟨choice, hchoice, hkept'⟩

end Chain

end LedgerSync
