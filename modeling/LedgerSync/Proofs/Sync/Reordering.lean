import LedgerSync.Proofs.Calendar.Extremes
import LedgerSync.Proofs.Matching.Reordering
import LedgerSync.Proofs.Sync.ChainPlan
import LedgerSync.Proofs.Sync.IdCounts

/-!
# Reconciling by a chain does not depend on order

A reconciliation by a chain that returns takes a course
(`ChainSync.takes_of_returns`), and every part of the course asks about the two
sides as multisets: the window is chosen by their booking dates, the chain pairs
the same transactions, the pairs are decided one by one, and the counters count.
So reordered sides have a course that differs in order alone
(`ChainSync.Takes.reorders`). The instructions have the same operations, except
that new transactions draw their ids in another order.
-/

namespace LedgerSync

open Run Matching

/-! ## Windows -/

namespace Matching

section Windows

variable {α β : Type} [Viewable α] [Viewable β] {ts ts' kept : List α}
  {w : Window}

/-- Cutting a reordered side keeps the same transactions. -/
theorem Window.truncate_perm (hperm : ts.Perm ts')
    (h : w.truncate ts = .ok kept) :
    ∃ kept', w.truncate ts' = .ok kept' ∧ kept.Perm kept' := by
  unfold truncate at h ⊢
  cases hbound : w.lowerBound with
  | none =>
    rw [hbound] at h
    obtain rfl := Except.ok.inj h
    exact ⟨ts', rfl, hperm⟩
  | some bound =>
    rw [hbound] at h
    obtain ⟨hall, rfl⟩ := go_eq_ok_iff.1 h
    exact ⟨_, go_eq_ok_iff.2 ⟨fun t ht => hall t (hperm.mem_iff.2 ht), rfl⟩,
      hperm.filter _⟩

theorem Interval.spanning?_perm {ds ds' : List Date} (h : ds.Perm ds') :
    spanning? ds = spanning? ds' := by
  unfold spanning?
  rw [Date.earliest?_perm h, Date.latest?_perm h]

namespace WindowSelector

theorem bookingInterval?_perm (h : ts.Perm ts') :
    bookingInterval? ts = bookingInterval? ts' := by
  unfold bookingInterval?
  rw [mapM_bookingDate, mapM_bookingDate, h.all_eq]
  split
  · exact Interval.spanning?_perm (h.filterMap _)
  · rfl

/-- The same window is chosen for reordered sides. -/
theorem select_perm {reported reported' : List α} {stored stored' : List β}
    (w : WindowSelector) (hreported : reported.Perm reported')
    (hstored : stored.Perm stored') :
    w.select reported stored = w.select reported' stored' := by
  cases w with
  | unbounded => rfl
  | bookingDate =>
    unfold select
    rw [hreported.isEmpty_eq, hstored.isEmpty_eq,
      bookingInterval?_perm hreported, bookingInterval?_perm hstored]

end WindowSelector

end Windows

end Matching

/-! ## Instructions in another order -/

/-- Two instructions have the same operations on rows of the store in some
order, the same counters and the same oldest change. -/
structure Instruction.Reorders (i i' : Instruction) : Prop where
  toDelete : i.toDelete.Perm i'.toDelete
  toUpdate : i.toUpdate.Perm i'.toUpdate
  toIgnore : i.toIgnore.Perm i'.toIgnore
  metrics : i.metrics = i'.metrics
  oldestChanged : i.oldestChanged = i'.oldestChanged

namespace ChainSync

variable {newId : Nat → String} {now : DateTime} {backfillWindowDays : Int}
  {provider : Provider} {account : Option Uuid}
  {reported reported' : List (Member Reported)}
  {stored stored' : List (Member Stored)} {c c' : Course}

/-! ## Counters and plans -/

theorem startMetrics_perm {name : String} {count : Nat} {metrics : Metrics}
    (hperm : reported.Perm reported')
    (h : startMetrics name reported count = .ok metrics) :
    startMetrics name reported' count = .ok metrics := by
  obtain ⟨index, hindex, h⟩ := bind_eq_ok_iff.1 h
  obtain rfl := pure_eq_ok_iff.1 h
  obtain ⟨index', hindex', hmissing, hduplicate⟩ :=
    Index.ofBatch_perm hperm hindex
  refine bind_eq_ok_iff.2 ⟨index', hindex', ?_⟩
  rw [hmissing, hduplicate, hperm.length_eq]
  rfl

/-- Pairs are counted in any order. -/
theorem countDecided_comm (m : Metrics) (d d' : Decided) :
    countDecided (countDecided m d) d' =
      countDecided (countDecided m d') d := by
  unfold countDecided countMatched
  by_cases hd : d.pair.matcher = BuiltIn.externalIdAmountStrict.matcher.name <;>
    by_cases hd' : d'.pair.matcher =
    BuiltIn.externalIdAmountStrict.matcher.name <;>
      cases d.fate.isMoved <;> cases d'.fate.isMoved <;> simp [hd, hd']

/-! ## Courses -/

/-- Two courses are alike but for order. -/
structure Course.Reorders (c c' : Course) : Prop where
  results : c.results.Reorders c'.results
  metrics : c.metrics = c'.metrics
  decided : c.decided.Perm c'.decided
  threshold : c.threshold = c'.threshold

/-- There is one course that a reconciliation takes. -/
theorem Takes.unique
    (h : Takes now backfillWindowDays provider account reported stored c)
    (h' : Takes now backfillWindowDays provider account reported stored c') :
    c = c' := by
  obtain ⟨window, results, metrics, decided, threshold⟩ := c
  obtain ⟨window', results', metrics', decided', threshold'⟩ := c'
  obtain rfl : window = window' := h.cuts.unique h'.cuts
  obtain rfl : results = results' := Except.ok.inj (h.links.symm.trans h'.links)
  obtain rfl : metrics = metrics' :=
    Except.ok.inj (h.counted.symm.trans h'.counted)
  obtain rfl : decided = decided' :=
    Except.ok.inj (h.decided.symm.trans h'.decided)
  obtain rfl : threshold = threshold' :=
    Option.some.inj (h.threshold.symm.trans h'.threshold)
  rfl

/-- Reordered sides are cut to the same window. -/
theorem Cuts.reorders {w : Windowed} (h : Cuts provider reported stored w)
    (hreported : reported.Perm reported') (hstored : stored.Perm stored') :
    ∃ keptReported keptStored, w.reported.Perm keptReported ∧
    w.stored.Perm keptStored ∧
      Cuts provider reported' stored' ⟨w.window, keptReported, keptStored,
        w.oldestReported⟩ := by
  obtain ⟨keptReported, htruncate, hkept⟩ :=
    Window.truncate_perm hreported h.reported
  obtain ⟨keptStored, htruncate', hkept'⟩ :=
    Window.truncate_perm hstored h.stored
  refine ⟨keptReported, keptStored, hkept, hkept', {
    nonempty := ?_
    selected := ?_
    reported := htruncate
    stored := htruncate'
    oldest := ?_ }⟩
  · rintro rfl
    exact h.nonempty hreported.eq_nil
  · rw [← WindowSelector.select_perm provider.window hreported hstored]
    exact h.selected
  · rw [← Date.earliest?_perm (hkept.map _)]
    exact h.oldest

/-- A reconciliation of reordered sides takes a course that differs in order
alone. -/
theorem Takes.reorders
    (h : Takes now backfillWindowDays provider account reported stored c)
    (hreported : reported.Perm reported') (hstored : stored.Perm stored') :
    ∃ c', Takes now backfillWindowDays provider account reported' stored' c' ∧
    c.Reorders c' := by
  obtain ⟨keptReported, keptStored, hkept, hkept', hcuts⟩ :=
    h.cuts.reorders hreported hstored
  obtain ⟨results, hlinks, hresults⟩ :=
    Provider.links_reorders hkept hkept' h.links
  obtain ⟨decided, hdecided, hperm⟩ := mapM_perm hresults.last.matched h.decided
  refine ⟨⟨⟨c.window.window, keptReported, keptStored, c.window.oldestReported⟩,
    results, c.metrics, decided, c.threshold⟩, {
    cuts := hcuts
    links := hlinks
    logged := hresults.logText h.logged
    reported_peerless := ?_
    stored_peerless := ?_
    counted := ?_
    decided := hdecided
    threshold := ?_ }, ⟨hresults, rfl, hperm, rfl⟩⟩
  · exact fun u hu =>
      h.reported_peerless u (hresults.last.unmatchedReported.mem_iff.2 hu)
  · exact fun u hu =>
      h.stored_peerless u (hresults.last.unmatchedStored.mem_iff.2 hu)
  · rw [← hstored.length_eq]
    exact startMetrics_perm hreported h.counted
  · rw [← Date.latest?_perm (hkept'.map _)]
    exact h.threshold

/-! ## From courses to instructions -/

/-- As many transactions are given ids in whatever order they come. -/
theorem length_eq_of_members {members members' : List (Member Reported)}
    {fresh fresh' : List Assigned} (h : members.Perm members')
    (hfresh : fresh.map (·.member) = members)
    (hfresh' : fresh'.map (·.member) = members') :
    fresh.length = fresh'.length := by
  have hlength := h.length_eq
  rwa [← hfresh, ← hfresh', List.length_map, List.length_map] at hlength

namespace Course.Reorders

theorem plan (h : c.Reorders c') : c.plan.Perm c'.plan := h.decided.map _

theorem deletes (h : c.Reorders c') : c.plan.deletes.Perm c'.plan.deletes :=
  (h.plan.filter _).map _

theorem select (h : c.Reorders c') (kind : Fate → Bool) :
    (c.plan.select kind).Perm (c'.plan.select kind) :=
      (h.plan.filter _).filterMap _

theorem peerless (h : c.Reorders c') : c.peerless.Perm c'.peerless :=
  h.results.last.unmatchedReported.map _

theorem recent (h : c.Reorders c') : c.recent.Perm c'.recent := by
  unfold Course.recent
  rw [h.threshold]
  exact h.peerless.filter _

theorem history (h : c.Reorders c') : c.history.Perm c'.history := by
  unfold Course.history
  rw [h.threshold]
  exact h.peerless.filter _

theorem counted (h : c.Reorders c') :
    c.decided.foldl countDecided c.metrics = c'.decided.foldl countDecided
      c'.metrics := by
  rw [h.metrics]
  exact h.decided.foldl_eq' (fun d _ d' _ m => countDecided_comm m d d') _

/-- Once the new transactions have ids, the instructions differ in order
alone. -/
theorem instruction (h : c.Reorders c')
    {recent history recent' history' : List Assigned}
    (hrecent : recent.map (·.member) = c.recent)
    (hhistory : history.map (·.member) = c.history)
    (hrecent' : recent'.map (·.member) = c'.recent)
    (hhistory' : history'.map (·.member) = c'.history) :
    (c.instruction recent history).Reorders
    (c'.instruction recent' history') where
  toDelete := h.deletes
  toUpdate := h.select _
  toIgnore := h.select _
  metrics := by
    unfold Course.instruction
    rw [h.counted, length_eq_of_members h.recent hrecent hrecent',
      length_eq_of_members h.history hhistory hhistory',
      (h.select Fate.isIgnored).length_eq,
        h.results.last.unmatchedStored.length_eq]
  oldestChanged := by
    have hdates : (recent.map (·.member.record.date)).Perm
        (recent'.map (·.member.record.date)) := by
      have hperm := h.recent.map (·.record.date)
      rw [← hrecent, ← hrecent', List.map_map, List.map_map] at hperm
      exact hperm
    refine Date.earliest?_perm
      (List.Perm.append (List.Perm.append (h.deletes.map _) ?_)
      ((h.select _).map _))
    rw [List.map_append, List.map_append]
    exact ((h.select _).map _).append hdates

end Course.Reorders

/-- A reconciliation of reordered sides returns when that of the sides does. -/
theorem returns_of_reordered (hreported : reported.Perm reported')
    (hstored : stored.Perm stored') {i : Instruction} {j j' : Journal}
    (h : Returns (instructionByChain newId now backfillWindowDays provider
      account reported stored) j i j')
    (k : Journal) :
    ∃ i' k', Returns
      (instructionByChain newId now backfillWindowDays provider account
        reported' stored') k i' k' := by
  obtain ⟨c, _, _, htakes, -⟩ := inserts_of_returns h
  obtain ⟨c', htakes', -⟩ := htakes.reorders hreported hstored
  exact htakes'.returns k

/-- Whether a reconciliation by a chain returns does not depend on the order of
either side. When it returns, the instructions have the same operations on rows
of the store in some order, the same counters and the same oldest change; they
move the same transactions, and insert the same fresh ones, filled in the same
way. -/
theorem instructionByChain_reorders (hreported : reported.Perm reported')
    (hstored : stored.Perm stored') (j k : Journal) :
    ((∃ i j', Returns
        (instructionByChain newId now backfillWindowDays provider account
          reported stored) j i j') ↔
      ∃ i k', Returns
        (instructionByChain newId now backfillWindowDays provider account
          reported' stored') k i k') ∧
    ∀ i j' i' k',
      Returns (instructionByChain newId now backfillWindowDays provider account
        reported stored)
        j i j' →
      Returns (instructionByChain newId now backfillWindowDays provider account
        reported' stored')
        k i' k' →
      i.Reorders i' ∧ ∃ moved fresh moved' fresh',
      i.Inserts newId j j' moved fresh ∧
        i'.Inserts newId k k' moved' fresh' ∧ moved.Perm moved' ∧
        (fresh.map fun a => (a.member, a.fillKind)).Perm
          (fresh'.map fun a => (a.member, a.fillKind)) := by
  refine ⟨⟨?_, ?_⟩, ?_⟩
  · rintro ⟨i, j', h⟩
    exact returns_of_reordered hreported hstored h k
  · rintro ⟨i, k', h⟩
    exact returns_of_reordered hreported.symm hstored.symm h j
  · intro i j' i' k' h h'
    obtain ⟨c, recent, history, htakes, rfl, hinserts, hrecent, hhistory,
      hfresh⟩ :=
      inserts_of_returns h
    obtain ⟨c', recent', history', htakes', rfl, hinserts', hrecent', hhistory',
      hfresh'⟩ :=
      inserts_of_returns h'
    obtain ⟨c'', htakes'', hreorders⟩ := htakes.reorders hreported hstored
    obtain rfl := htakes''.unique htakes'
    refine ⟨hreorders.instruction hrecent hhistory hrecent' hhistory', _, _, _,
      _, hinserts, hinserts', hreorders.select _, ?_⟩
    rw [hfresh, hfresh']
    exact (hreorders.recent.map _).append (hreorders.history.map _)

end ChainSync

/-- A batch with a transaction that moves to another day, one that is known, and
two new ones. -/
def Sample.shuffled : List (Member Reported) :=
  Member.ofList
    [Sample.reported "x" "tea" (Sample.day 4),
      Sample.reported "y" "milk" (Sample.day 4),
      Sample.reported "z" "rye" (Sample.day 3),
        Sample.reported "w" "oat" (Sample.day 5)]

/-- Rows of the known transactions. -/
def Sample.shuffledRows : List (Member Stored) :=
  Member.ofList
    [Sample.stored "r1" "x" "tea" (Sample.day 3),
      Sample.stored "r2" "z" "rye" (Sample.day 3)]

/-- The reconciliation of a batch with some rows by the bank's chain. -/
def Sample.byBank (batch : List (Member Reported))
    (rows : List (Member Stored)) : Run Instruction :=
  instructionByChain Sample.newId Sample.now 7 Sample.bank none batch rows

/-- Listed backwards, the batch gives the same instruction but for the ids of
the new transactions. -/
theorem shuffled_reorders :
    ∃ i j' i' k', Returns (Sample.byBank Sample.shuffled Sample.shuffledRows)
      .empty i j' ∧
      Returns (Sample.byBank Sample.shuffled.reverse
        Sample.shuffledRows.reverse) .empty i' k' ∧
      i.toInsert.map (fun a => (a.member.record.externalId, a.id)) =
        [(some "x", "r1"), (some "y", "new-0"), (some "w", "new-1")] ∧
      i'.toInsert.map (fun a => (a.member.record.externalId, a.id)) =
        [(some "x", "r1"), (some "w", "new-0"), (some "y", "new-1")] ∧
      i.Reorders i' ∧ ∃ moved fresh moved' fresh',
      i.Inserts Sample.newId .empty j' moved fresh ∧
        i'.Inserts Sample.newId .empty k' moved' fresh' ∧ moved.Perm moved' ∧
        (fresh.map fun a => (a.member, a.fillKind)).Perm
          (fresh'.map fun a => (a.member, a.fillKind)) := by
  have hrun : ((Sample.byBank Sample.shuffled Sample.shuffledRows).run.run
      .empty).1 =
      .ok (((Sample.byBank Sample.shuffled Sample.shuffledRows).run.run
        .empty).1.toOption.getD
        .empty) := by decide +kernel
  obtain ⟨i', k', hrun'⟩ := (ChainSync.instructionByChain_reorders
    (List.reverse_perm Sample.shuffled).symm
      (List.reverse_perm Sample.shuffledRows).symm .empty
    .empty).1.1 ⟨_, _, returns_of_run hrun⟩
  refine ⟨_, _, i', k', returns_of_run hrun, hrun', by decide +kernel, ?_,
    (ChainSync.instructionByChain_reorders (List.reverse_perm _).symm
      (List.reverse_perm _).symm
      .empty .empty).2 _ _ _ _ (returns_of_run hrun) hrun'⟩
  have hresult : ((Sample.byBank Sample.shuffled.reverse
      Sample.shuffledRows.reverse).run.run
      .empty).1.toOption.map (fun i => i.toInsert.map fun a =>
        (a.member.record.externalId, a.id)) =
    some [(some "x", "r1"), (some "w", "new-0"), (some "y", "new-1")] := by
    decide +kernel
  rw [show (Sample.byBank Sample.shuffled.reverse
    Sample.shuffledRows.reverse).run.run .empty =
    (.ok i', k') from hrun'] at hresult
  exact Option.some.inj hresult

end LedgerSync
