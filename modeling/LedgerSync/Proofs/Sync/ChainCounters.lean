import LedgerSync.Proofs.Sync.ChainPlan

/-!
# The counters of a sync by a chain balance

The counters of a sync by a chain are filled at several places: the totals
before the sync window is known, the pairs and what is left of both sides after
the cut, and the pending rows beside an instruction that is finished. They agree
because each of these places looks at one division of the same transactions. A
window divides them into what is kept and what is booked too early
(`Window.length_of_truncate`), the chain divides what is kept into pairs and the
rest, and every pair is counted once however it was matched
(`foldl_countDecided`).

So the totals are what the counters say plus what the window cuts off, and the
operations of the instruction are as many as the counters say
(`determineByChain_counters_balance`).
-/

namespace LedgerSync

open Run Matching

/-! ## What a window cuts off -/

namespace Matching.Window

variable {α : Type} [Viewable α] {w : Window} {ts kept : List α}

/-- Whether a transaction is booked before the window begins. -/
def cutsOff (w : Window) (t : α) : Bool :=
  w.lowerBound.any fun bound => (view t).bookingDate.any fun d =>
    decide (d < bound)

/-- A window without a bound cuts nothing off. -/
theorem filter_cutsOff_of_unbounded (h : w.lowerBound = none) (ts : List α) :
    ts.filter w.cutsOff = [] := by
  refine List.filter_eq_nil_iff.2 fun t _ => ?_
  rw [cutsOff, h]
  exact Bool.false_ne_true

/-- A window keeps what it does not cut off. -/
theorem eq_filter_of_truncate (h : w.truncate ts = .ok kept) :
    kept = ts.filter (!w.cutsOff ·) := by
  unfold truncate at h
  cases hbound : w.lowerBound with
  | none =>
    rw [hbound] at h
    obtain rfl := Except.ok.inj h
    refine (List.filter_eq_self.2 fun t _ => ?_).symm
    rw [cutsOff, hbound]
    rfl
  | some bound =>
    rw [hbound] at h
    obtain ⟨hdated, rfl⟩ := go_eq_ok_iff.1 h
    refine List.filter_congr fun t ht => ?_
    obtain ⟨d, hd⟩ := Option.isSome_iff_exists.1 (hdated t ht)
    rw [cutsOff, hbound, hd, Option.any_some, Option.any_some, Option.any_some,
      ← decide_not]
    refine decide_eq_decide.2 ?_
    rw [Date.lt_iff, Date.le_iff, Nat.not_lt]

/-- What is not kept is cut off. -/
theorem length_of_truncate (h : w.truncate ts = .ok kept) :
    ts.length = kept.length + (ts.filter w.cutsOff).length := by
  rw [eq_filter_of_truncate h, Nat.add_comm]
  exact List.length_eq_length_filter_add w.cutsOff

end Matching.Window

namespace ChainSync

/-! ## Counting decisions -/

variable {now : DateTime} {pairs : List Matched} {ds : List Decided}

/-- Whether the pair was found by external id and amount. -/
def Decided.isById (d : Decided) : Bool :=
  d.pair.matcher = BuiltIn.externalIdAmountStrict.matcher.name

theorem length_moved_cons (d : Decided) (ds : List Decided) :
    ((planOf (d :: ds)).select Fate.isMoved).length =
      ((planOf ds).select Fate.isMoved).length + if d.fate.isMoved = true then 1
      else 0 := by
  obtain ⟨pair, fate⟩ := d
  cases fate <;> rfl

/-- Every decision counts its pair once, by how it was matched, and a row that
is moved once more. -/
theorem foldl_countDecided (ds : List Decided) (m : Metrics) :
    ds.foldl countDecided m = { m with
      matchedByExternalId := m.matchedByExternalId + ds.countP (·.isById)
      matchedByAttributes := m.matchedByAttributes + ds.countP (!·.isById)
      keyUpdated := m.keyUpdated +
        ((planOf ds).select Fate.isMoved).length } := by
  induction ds generalizing m with
  | nil => rfl
  | cons d ds ih =>
    rw [List.foldl_cons, ih, List.countP_cons, List.countP_cons,
      length_moved_cons]
    unfold countDecided countMatched Decided.isById
    by_cases hid : d.pair.matcher =
      BuiltIn.externalIdAmountStrict.matcher.name <;>
      cases d.fate.isMoved <;> simp [hid] <;> omega

/-- Every decision is counted under one of the two counters of pairs. -/
theorem length_eq_countP_isById (ds : List Decided) :
    ds.length = ds.countP (·.isById) + ds.countP (!·.isById) := by
  have h := List.length_eq_countP_add_countP Decided.isById (l := ds)
  simpa only [Bool.not_eq_true, Bool.decide_eq_false] using h

/-- Every pair is ignored, updated or moved, and what is moved is deleted. -/
theorem lengths_of_planOf (h : pairs.mapM (decidePair now) = .ok ds) :
    ds.length = pairs.length ∧
      (planOf ds).deletes.length = ((planOf ds).select Fate.isMoved).length ∧
      ((planOf ds).select Fate.isIgnored).length +
      ((planOf ds).select Fate.isUpdated).length +
        ((planOf ds).select Fate.isMoved).length = pairs.length := by
  have hdecided := congrArg List.length (decided_of_mapM h).1
  have hdeleted := congrArg List.length (moved_ids h)
  have hmembers := congrArg List.length (planOf_spec h).2.1
  have hkinds := (Plan.select_perm_assigned (planOf ds)).length_eq
  have hassigned := congrArg List.length (Plan.assigned_members (planOf ds))
  simp only [List.length_map, List.length_append]
    at hdecided hdeleted hmembers hkinds hassigned
  omega

end ChainSync

/-! ## The balance -/

/-- The pairs that the counters of a sync by a chain tell of. -/
def Metrics.paired (m : Metrics) : Nat :=
  m.matchedByExternalId + m.matchedByAttributes

/-- The counters of an instruction for booked transactions of both sides and
pending rows balance up to a window: what is reported is new, paired or cut off,
and what is stored is paired, left unmatched or cut off. What is paired is
ignored, updated or written again under another date; what is inserted is new or
written again, and what is deleted is written again or pending. -/
structure Metrics.ChainBalance (m : Metrics) (i : Instruction) (w : Window)
    (reported : List (Member Reported))
    (stored pending : List (Member Stored)) : Prop where
  reportedTotal : m.reportedTotal = reported.length
  storedTotal : m.storedTotal = stored.length + pending.length
  pending : m.pendingNotMatched = pending.length
  reported : m.reportedTotal = m.reportedNew + m.paired +
    (reported.filter w.cutsOff).length
  stored : m.storedTotal =
    m.paired + m.bookedNotMatched + m.pendingNotMatched +
    (stored.filter w.cutsOff).length
  paired : m.paired = i.toIgnore.length + i.toUpdate.length + m.keyUpdated
  inserted : i.toInsert.length = m.reportedNew + m.keyUpdated
  deleted : i.toDelete.length = m.keyUpdated + m.pendingNotMatched

variable {w : Window} {i : Instruction} {m : Metrics}
  {reported : List (Member Reported)} {stored : List (Member Stored)}

/-- The balance stays when pending rows are deleted and counted beside. -/
theorem Metrics.ChainBalance.deletePending
    (h : m.ChainBalance i w reported stored []) (pending : List (Member Stored))
    (fallbacks : Nat) (count : Metrics → Metrics) :
    Metrics.ChainBalance { m with
      storedTotal := m.storedTotal + pending.length
      pendingNotMatched := m.pendingNotMatched + pending.length
      windowDateFallbacks :=
        fallbacks } ((i.countAlso count).deleteAlso pending) w reported stored
      pending := by
  obtain ⟨hreportedTotal, hstoredTotal, hpending, hreported, hstored, hpaired,
    hinserted, hdeleted⟩ := h
  rw [List.length_nil] at hstoredTotal hpending
  constructor
  case reportedTotal => exact hreportedTotal
  case reported => exact hreported
  case paired => exact hpaired
  case inserted => exact hinserted
  all_goals
    simp only [Metrics.paired, Instruction.countAlso, Instruction.deleteAlso,
      List.length_append]
      at hstored ⊢
    omega

namespace ChainSync

section Balance

variable {newId : Nat → String} {now : DateTime} {settings : SyncSettings}
  {provider : Provider} {reported : List (Member Reported)}
  {stored pending : List (Member Stored)} {w : Window} {i : Instruction}
  {m : Metrics} {j j' : Journal}

/-- A reconciliation by a chain balances up to the window that its provider
selects. -/
theorem balance_of_instructionByChain {backfillWindowDays : Int}
    {account : Option Uuid}
    (h : Returns (instructionByChain newId now backfillWindowDays provider
    account reported stored)
      j i j') :
    ∃ m w note, i.metrics = some m ∧ provider.window.select reported stored =
      .ok ⟨w, note⟩ ∧ m.ChainBalance i w reported stored [] := by
  obtain ⟨c, recent, history, htakes, rfl, -, hrecent, hhistory, -⟩ :=
    inserts_of_returns h
  obtain ⟨note, hselected⟩ := htakes.cuts.selected
  refine ⟨_, c.window.window, note, rfl, hselected, ?_⟩
  obtain ⟨_, _, hstart⟩ := startMetrics_spec htakes.counted
  obtain ⟨hdecided, hdeleted, hkinds⟩ := lengths_of_planOf htakes.decided
  -- the chain divides what the window keeps of both sides
  have hplayed := playAll_of_links htakes.links
  have hreportedKept :=
    (MatchResult.playAll_start_reported_perm hplayed).length_eq
  have hstoredKept := (MatchResult.playAll_start_stored_perm hplayed).length_eq
  have hreportedCut := Window.length_of_truncate htakes.cuts.reported
  have hstoredCut := Window.length_of_truncate htakes.cuts.stored
  have hnew : recent.length + history.length =
      c.results.last.unmatchedReported.length := by
    have hperm := (recent_or_history c.threshold c.peerless).length_eq
    have hrecentLength := congrArg List.length hrecent
    have hhistoryLength := congrArg List.length hhistory
    simp only [Course.recent, Course.history, Course.peerless, List.length_map,
      List.length_append]
      at hperm hrecentLength hhistoryLength
    omega
  have hcounted := length_eq_countP_isById c.decided
  simp only [List.length_append, List.length_map] at hreportedKept hstoredKept
  constructor
  case reportedTotal | storedTotal | pending =>
    rw [foldl_countDecided, hstart]
    rfl
  all_goals
    simp only [foldl_countDecided, hstart, Metrics.start, Course.instruction,
      Course.plan, Metrics.paired, List.length_append]
    omega

/-- The window that a sync cuts both sides to: the one that its provider selects
for the booked transactions of both sides, and an unbounded one when it loaded
nothing. -/
inductive SyncWindow (provider : Provider) (reported : List (Member Reported)) :
    List (Member Stored) → Window → Prop
  | nothingStored : SyncWindow provider reported [] .unbounded
  | selected {kept : List (Member Stored)} {w : Window}
    {note : Option LogRecord} : kept ≠ [] →
      provider.window.select reported (bookedOf kept) = .ok ⟨w, note⟩ →
      SyncWindow provider reported kept w

/-- Transactions that are all new balance when nothing is stored. -/
theorem balance_of_startMetrics {name : String} {fresh : List Assigned}
    {fallbacks : Nat} {counted : Option Metrics} {oldest : Option Date}
    (h : startMetrics name reported 0 = .ok m)
    (hfresh : fresh.map (·.member) = reported) :
    Metrics.ChainBalance { m with
    reportedNew := fresh.length, windowDateFallbacks := fallbacks }
      { Instruction.empty with
      toInsert := fresh, metrics := counted, oldestChanged := oldest }
      .unbounded reported [] [] := by
  have hcount := congrArg List.length hfresh
  rw [List.length_map] at hcount
  obtain ⟨_, _, rfl⟩ := startMetrics_spec h
  have hcut : reported.filter Window.unbounded.cutsOff = [] :=
    Window.filter_cutsOff_of_unbounded rfl reported
  constructor
  case reported =>
    rw [hcut, ← hcount]
    rfl
  all_goals rfl

variable {batch : List (Member Reported)} {accountId : Uuid} {load : Loader}

/-- However a sync by a chain concludes, its counters balance up to the window
that it cuts both sides to. -/
theorem Concludes.counters_balance
    (h : Concludes newId now settings provider accountId batch load j i j')
    (hm : i.metrics = some m) :
    ∃ selection j₁ w,
      Returns (selectStoredWindow settings provider.name (bookedIn batch) load)
        j selection j₁ ∧
      SyncWindow provider (bookedIn batch) selection.kept w ∧
      m.ChainBalance i w (bookedIn batch) (bookedOf selection.kept)
        (pendingOf selection.kept) := by
  cases h with
  | nothingBooked => cases hm
  | @nothingStored selection _ _ _ j₁ _ _ _ hselected hkept hassign hmetrics =>
    obtain rfl := Option.some.inj hm
    refine ⟨selection, j₁, .unbounded, hselected, ?_, ?_⟩
    · rw [hkept]
      exact .nothingStored
    · rw [hkept]
      exact balance_of_startMetrics hmetrics (returns_assignFresh hassign).1
  | @chained selection i₀ j₁ j₂ _ _ hselected hkept hchain =>
    obtain ⟨m₀, w, note, hm₀, hselect, hbalance⟩ :=
      balance_of_instructionByChain hchain
    simp only [Instruction.deleteAlso, Instruction.countAlso, hm₀,
      Option.map_some] at hm
    obtain rfl := Option.some.inj hm
    exact ⟨selection, j₁, w, hselected, .selected hkept hselect,
      hbalance.deletePending (pendingOf selection.kept)
        selection.dateFallbacks _⟩

/-- The counters of a sync by a chain balance, up to the window that it cuts
both sides to. An unbounded window cuts nothing off on either side. -/
theorem determineByChain_counters_balance
    (h : Returns (determineByChain newId now settings provider accountId batch
      load) j i j')
    (hm : i.metrics = some m) :
    ∃ selection j₁ w,
      Returns (selectStoredWindow settings provider.name (bookedIn batch) load)
        j selection j₁ ∧
      SyncWindow provider (bookedIn batch) selection.kept w ∧
      m.ChainBalance i w (bookedIn batch) (bookedOf selection.kept)
        (pendingOf selection.kept) ∧
      (w.lowerBound = none → m.reportedTotal = m.reportedNew + m.paired ∧
        m.storedTotal = m.paired + m.bookedNotMatched +
          m.pendingNotMatched) := by
  obtain ⟨selection, j₁, w, hselected, hwindow, hbalance⟩ :=
    (concludes_of_returns h).counters_balance hm
  refine ⟨selection, j₁, w, hselected, hwindow, hbalance, fun hunbounded => ?_⟩
  have hreported := hbalance.reported
  have hstored := hbalance.stored
  rw [Window.filter_cutsOff_of_unbounded hunbounded, List.length_nil,
    Nat.add_zero] at hreported hstored
  exact ⟨hreported, hstored⟩

/-- A bank whose sync window begins after the first day that it reports. -/
def Sample.cuttingBank : Provider :=
  { Sample.bank with name := "KNAB_BANK_NL", window := .bookingDate }

/-- Payments of a first day that is cut off, and of the days after. -/
def Sample.straddling : List (Member Reported) :=
  Member.ofList
    [Sample.reported "o" "oat" (Sample.day 3),
      Sample.reported "x" "tea" (Sample.day 4),
      Sample.reported "u" "jam" (Sample.day 4),
      Sample.reported "v" "rye" (Sample.day 5),
      { Sample.reported "" "fig" (Sample.day 5) with externalId := none },
      Sample.reported "y" "milk" (Sample.day 6)]

/-- A row that is cut off, rows that are ignored, updated, moved and left alone,
one without external id, and a pending one. -/
def Sample.straddlingStore : Store :=
  ⟨[Sample.stored "r1" "o" "oat" (Sample.day 3),
    Sample.stored "r2" "x" "tea" (Sample.day 4),
    Sample.stored "r3" "u" "ham" (Sample.day 4),
    Sample.stored "r4" "v" "rye" (Sample.day 4),
    Sample.stored "r5" "q" "nut" (Sample.day 4),
    { Sample.stored "r6" "" "fig" (Sample.day 5) with externalId := none },
    { Sample.stored "r7" "p" "egg" (Sample.day 5) with status := .pending }]⟩

/-- The sync of these payments. -/
def Sample.straddled : Run Instruction :=
  determineByChain Sample.newId Sample.now SyncSettings.standard
    Sample.cuttingBank
    Sample.account.accountId Sample.straddling fun date =>
    pure (Sample.straddlingStore.since date)

/-- One booked transaction of each side is cut off. -/
theorem straddled_counters_balance :
    ∃ i j' m, Returns Sample.straddled .empty i j' ∧ i.metrics = some m ∧
      (m.reportedTotal, m.reportedNew, m.matchedByExternalId,
        m.matchedByAttributes) = (6, 1, 3, 1) ∧
      (m.storedTotal, m.bookedNotMatched, m.pendingNotMatched, m.keyUpdated) =
      (7, 1, 1, 1) ∧ ∃ selection j₁ w,
        Returns (selectStoredWindow SyncSettings.standard
          Sample.cuttingBank.name
          (bookedIn Sample.straddling) fun date =>
            pure (Sample.straddlingStore.since date)) .empty
          selection j₁ ∧
        SyncWindow Sample.cuttingBank (bookedIn Sample.straddling)
          selection.kept w ∧
        m.ChainBalance i w (bookedIn Sample.straddling)
          (bookedOf selection.kept)
          (pendingOf selection.kept) ∧
        (w.lowerBound = none → m.reportedTotal = m.reportedNew + m.paired ∧
          m.storedTotal = m.paired + m.bookedNotMatched +
            m.pendingNotMatched) := by
  have hrun : (Sample.straddled.run.run .empty).1 =
      .ok ((Sample.straddled.run.run .empty).1.toOption.getD .empty) := by
      decide +kernel
  have hcounters : (((Sample.straddled.run.run .empty).1.toOption.getD
      .empty).metrics.map fun m =>
      ((m.reportedTotal, m.reportedNew, m.matchedByExternalId,
        m.matchedByAttributes),
        (m.storedTotal, m.bookedNotMatched, m.pendingNotMatched,
          m.keyUpdated))) =
      some ((6, 1, 3, 1), (7, 1, 1, 1)) := by decide +kernel
  obtain ⟨m, hm, hcounters⟩ := Option.map_eq_some_iff.1 hcounters
  obtain ⟨hreported, hstored⟩ := Prod.mk.inj hcounters
  exact ⟨_, _, m, returns_of_run hrun, hm, hreported, hstored,
    determineByChain_counters_balance (returns_of_run hrun) hm⟩

end Balance

end ChainSync

end LedgerSync
