import LedgerSync.Proofs.Matching.Conservation
import LedgerSync.Proofs.Matching.Partners
import LedgerSync.Proofs.Sync.Reordering

/-!
# Skipping the chain when nothing is stored

A sync whose window of stored transactions is empty inserts its batch as it is.
The chain would have come to the same: without stored transactions no window
cuts anything off (`Cuts.of_nothing_stored`), no round pairs anything, and what
the checks let pass is new (`Takes.of_nothing_stored`). The chain counts history
from the epoch then, so it fills as a sync without chain does where the batch is
later than that. It may list the transactions in another order
(`determineByChain_skips_chain`).
-/

namespace LedgerSync

open Run Matching

/-! ## The chain without stored transactions -/

namespace Matching.WindowSelector

/-- Nothing is cut off when there is nothing on the stored side. -/
theorem select_nil {α β : Type} [Viewable α] [Viewable β]
    {selector : WindowSelector} {reported : List α} {choice : Choice}
    (h : selector.select reported ([] : List β) = .ok choice) :
    choice.window = .unbounded := by
  unfold select at h
  cases selector with
  | unbounded =>
    obtain rfl := Except.ok.inj h
    rfl
  | bookingDate =>
    dsimp only at h
    split at h
    · cases h
    · obtain rfl := Except.ok.inj h
      rfl

end Matching.WindowSelector

namespace ChainSync

variable {newId : Nat → String} {now : DateTime} {backfillWindowDays : Int}
  {provider : Provider} {account : Option Uuid}
  {reported : List (Member Reported)} {c : Course}

/-- Without stored transactions both sides stay as they are. -/
theorem Cuts.of_nothing_stored {w : Windowed}
    (h : Cuts provider reported [] w) :
    w.reported = reported ∧ w.stored = [] := by
  obtain ⟨note, hselected⟩ := h.selected
  have hwindow : w.window = .unbounded := WindowSelector.select_nil hselected
  have hreported := h.reported
  have hstored := h.stored
  rw [hwindow] at hreported hstored
  exact ⟨(Except.ok.inj hreported).symm, (Except.ok.inj hstored).symm⟩

/-- Without stored transactions nothing is decided, everything reported is new,
and history ends some days before the epoch. -/
theorem Takes.of_nothing_stored
    (h : Takes now backfillWindowDays provider account reported [] c) :
    c.decided = [] ∧ c.results.last.unmatchedStored = [] ∧
    c.peerless.Perm reported ∧
      Date.epoch.addDays? (-backfillWindowDays) = some c.threshold := by
  obtain ⟨hreported, hstored⟩ := h.cuts.of_nothing_stored
  obtain ⟨_, hresults⟩ := reconcile_of_links h.links .empty
  have hplayed := playAll_of_reconcile hresults
  rw [hreported, hstored] at hplayed
  obtain ⟨hnone, hmatched⟩ := MatchResult.matched_of_no_stored hplayed rfl
  have hperm := MatchResult.playAll_start_reported_perm hplayed
  have hdecided := h.decided
  have hthreshold := h.threshold
  rw [hmatched] at hperm hdecided
  rw [hstored] at hthreshold
  exact ⟨(Except.ok.inj hdecided).symm, hnone, hperm, hthreshold⟩

/-- New transactions that are later than history are all recent. -/
theorem Course.all_recent (h : ∀ m ∈ c.peerless, c.threshold < m.record.date) :
    c.recent = c.peerless ∧ c.history = [] := by
  constructor
  · exact List.filter_eq_self.2 fun m hm => decide_eq_true (h m hm)
  · refine List.filter_eq_nil_iff.2 fun m hm => ?_
    have hlate := h m hm
    rw [Date.lt_iff] at hlate
    rw [decide_eq_true_iff, Date.le_iff]
    omega

end ChainSync

/-! ## Inserting a batch as it is -/

/-- A record that is kept on its date is kept. -/
theorem StoredWindow.dateFallbacks_of_none_kept {earliest : Moment}
    {keepIds : List String} {stored : List (Member Stored)}
    (h : (sort earliest keepIds stored).kept = []) :
    (sort earliest keepIds stored).dateFallbacks = 0 := by
  unfold sort at h ⊢
  rw [List.filterMap_eq_nil_iff] at h
  rw [List.length_eq_zero_iff, List.filter_eq_nil_iff]
  rintro ⟨placement, m⟩ hplaced hdate
  obtain rfl : placement = .keptOnDate := eq_of_beq hdate
  cases h _ hplaced

/-- The instruction inserts a batch, filled in the regular way, and does nothing
else. -/
structure Instruction.InsertsAll (i : Instruction) (provider : String)
    (batch : List (Member Reported)) : Prop where
  toDelete : i.toDelete = []
  toInsert : (i.toInsert.map (·.member)).Perm batch
  regular : ∀ a ∈ i.toInsert, a.fillKind = .regular
  toUpdate : i.toUpdate = []
  toIgnore : i.toIgnore = []
  metrics : ∃ metrics, ChainSync.startMetrics provider batch 0 = .ok metrics ∧
    i.metrics = some { metrics with reportedNew := batch.length }
  oldestChanged : i.oldestChanged = Date.earliest? (batch.map (·.record.date))

/-- An instruction that only inserts fresh transactions inserts a batch that
they make up. -/
theorem Instruction.insertsAll_of_fresh {provider : String}
    {batch members : List (Member Reported)} {fresh : List Assigned}
    {metrics : Metrics}
    (hfresh : (fresh.map fun a => (a.member, a.fillKind)) = members.map fun m =>
      (m, .regular))
    (hperm : members.Perm batch)
    (hmetrics : ChainSync.startMetrics provider batch 0 = .ok metrics) :
    Instruction.InsertsAll
      ⟨[], fresh, [], [], some { metrics with reportedNew := fresh.length },
      Date.earliest? (fresh.map (·.member.record.date))⟩ provider batch := by
  have hmembers : fresh.map (·.member) = members := by
    have hfirst := congrArg (List.map Prod.fst) hfresh
    rw [List.map_map, List.map_map] at hfirst
    exact hfirst.trans (List.map_id members)
  have hinserted : (fresh.map (·.member)).Perm batch := hmembers ▸ hperm
  refine ⟨rfl, hinserted, fun a ha => ?_, rfl, rfl, ⟨metrics, hmetrics, ?_⟩, ?_⟩
  · have hmem : (a.member, a.fillKind) ∈ fresh.map fun a =>
        (a.member, a.fillKind) :=
      List.mem_map_of_mem ha
    rw [hfresh] at hmem
    obtain ⟨m, -, heq⟩ := List.mem_map.1 hmem
    exact (congrArg Prod.snd heq).symm
  · rw [← hinserted.length_eq, List.length_map]
  · rw [← Date.earliest?_perm (hinserted.map _), List.map_map]
    rfl

namespace ChainSync

section Agreement

variable {newId : Nat → String} {now : DateTime} {settings : SyncSettings}
  {provider : Provider} {account : Option Uuid} {accountId : Uuid}
  {batch : List (Member Reported)} {load : Loader}
  {selection : StoredWindow.Selection} {i : Instruction} {j j' : Journal}

/-- When nothing was decided and all that is new is recent, the instruction only
inserts. -/
theorem Course.instruction_of_undecided {c : Course} (hdecided : c.decided = [])
    (hnone : c.results.last.unmatchedStored = [])
    (hmetrics : c.metrics.reportedUnchanged = 0)
    (hmetrics' : c.metrics.bookedNotMatched = 0) (recent : List Assigned) :
    c.instruction recent [] =
    ⟨[], recent, [], [], some { c.metrics with reportedNew := recent.length },
      Date.earliest? (recent.map (·.member.record.date))⟩ := by
  have hplan : c.plan = [] := by
    rw [plan, hdecided]
    rfl
  have hselect : ∀ kind, Plan.select kind [] = [] := fun _ => rfl
  have hdeletes : Plan.deletes [] = [] := rfl
  unfold instruction Instruction.oldestChange
  rw [hplan, hdecided, hnone]
  simp only [hselect, hdeletes, List.nil_append, List.append_nil, List.map_nil,
    List.length_nil, List.foldl_nil, Nat.add_zero]
  rw [hmetrics, hmetrics']

/-- The chain inserts a batch that is later than history when nothing is
stored. -/
theorem insertsAll_of_instructionByChain {backfillWindowDays : Int}
    (h : Returns (instructionByChain newId now backfillWindowDays provider
      account batch []) j i j')
    (hlate : ∀ d, Date.epoch.addDays? (-backfillWindowDays) = some d →
      ∀ m ∈ batch, d < m.record.date) : i.InsertsAll provider.name batch := by
  obtain ⟨c, recent, history, htakes, rfl, -, hrecent, hhistory, hfresh⟩ :=
    inserts_of_returns h
  obtain ⟨hdecided, hnone, hpeerless, hthreshold⟩ := htakes.of_nothing_stored
  obtain ⟨hall, hnoHistory⟩ := Course.all_recent fun m hm =>
    hlate c.threshold hthreshold m (hpeerless.subset hm)
  rw [hnoHistory] at hhistory hfresh
  obtain rfl : history = [] := List.map_eq_nil_iff.1 hhistory
  rw [hall, List.append_nil, List.map_nil, List.append_nil] at hfresh
  obtain ⟨_, _, hstart⟩ := startMetrics_spec htakes.counted
  rw [Course.instruction_of_undecided hdecided hnone (by rw [hstart]; rfl)
    (by rw [hstart]; rfl)]
  exact Instruction.insertsAll_of_fresh hfresh hpeerless htakes.counted

/-- No date decided about a window that holds nothing. -/
theorem dateFallbacks_of_selectStoredWindow {name : String}
    (h : Returns (selectStoredWindow settings name batch load) j selection j')
    (hkept : selection.kept = []) :
    selection.dateFallbacks = 0 := by
  obtain ⟨_, _, _, _, -, -, -, -, rfl⟩ := selectStoredWindow_steps h
  exact StoredWindow.dateFallbacks_of_none_kept hkept

/-- A sync inserts its batch when the window of stored transactions is empty. -/
theorem determineByChain_insertsAll {metrics : Metrics} {j₁ : Journal}
    (hne : bookedIn batch ≠ [])
    (hmetrics : startMetrics provider.name (bookedIn batch) 0 = .ok metrics)
    (hselection : Returns
      (selectStoredWindow settings provider.name (bookedIn batch) load) j
      selection j₁)
    (hkept : selection.kept = []) :
    ∃ i j', Returns (determineByChain newId now settings provider accountId
      batch load) j i j' ∧ i.InsertsAll provider.name (bookedIn batch) := by
  obtain ⟨oldest, holdest⟩ :
      ∃ d, Date.earliest? ((bookedIn batch).map (·.record.date)) = some d :=
    Date.exists_earliest? (by simpa using hne)
  obtain ⟨fresh, j₂, hfresh⟩ :=
    assignFresh_returns newId .regular (bookedIn batch) j₁
  have hfallbacks : metrics.windowDateFallbacks = 0 := by
    obtain ⟨_, _, rfl⟩ := startMetrics_spec hmetrics
    rfl
  have hinserts := Instruction.insertsAll_of_fresh
      (fillKind_of_assignFresh hfresh) (.refl _) hmetrics
  have hchanged : Date.earliest? (fresh.map (·.member.record.date)) =
      some oldest :=
    hinserts.oldestChanged.trans holdest
  rw [hchanged] at hinserts
  suffices hrun : ∃ k, Returns
      (determineByChain newId now settings provider accountId batch load) j
      ⟨[], fresh, [], [], some { metrics with reportedNew := fresh.length },
        some oldest⟩ k by
    obtain ⟨k, hk⟩ := hrun
    exact ⟨_, k, hk, hinserts⟩
  unfold Returns determineByChain
  dsimp only
  rw [holdest]
  dsimp only
  rw [hselection.bind_run, if_pos (List.isEmpty_iff.2 hkept), hfresh.bind_run,
    (log_returns _ _ _ _).bind_run,
    (returns_ofExcept.2 ⟨hmetrics, rfl⟩).bind_run,
    dateFallbacks_of_selectStoredWindow hselection hkept, ← hfallbacks]
  exact ⟨_, rfl⟩

/-- Where nothing is stored and the batch is later than history, skipping the
chain makes no difference: when the chain would return an instruction, the sync
returns one that inserts the same transactions, all of them filled in the
regular way, and does nothing else, with the same counters and the same oldest
change. -/
theorem determineByChain_skips_chain {j₀ j₁ : Journal}
    (hselection : Returns
      (selectStoredWindow settings provider.name (bookedIn batch) load) j₀
      selection j₁)
    (hkept : selection.kept = [])
    (hlate : ∀ d, Date.epoch.addDays? (-settings.backfillWindowDays) = some d →
      ∀ m ∈ bookedIn batch, d < m.record.date)
    (hchain : Returns
      (instructionByChain newId now settings.backfillWindowDays provider account
      (bookedIn batch) []) j i j') :
    ∃ i' j₂, Returns (determineByChain newId now settings provider accountId
      batch load) j₀ i' j₂ ∧
      (i'.toInsert.map (·.member)).Perm (i.toInsert.map (·.member)) ∧
      (∀ a ∈ i'.toInsert ++ i.toInsert, a.fillKind = .regular) ∧
      i'.toDelete = [] ∧ i'.toUpdate = [] ∧ i'.toIgnore = [] ∧
      i.toDelete = [] ∧ i.toUpdate = [] ∧ i.toIgnore = [] ∧
      i'.metrics = i.metrics ∧ i'.oldestChanged = i.oldestChanged := by
  have hi := insertsAll_of_instructionByChain hchain hlate
  obtain ⟨c, _, _, htakes, -⟩ := inserts_of_returns hchain
  obtain ⟨metrics, hmetrics, hcounted⟩ := hi.metrics
  obtain ⟨i', j₂, hreturns, hi'⟩ : ∃ i' j₂,
      Returns (determineByChain newId now settings provider accountId batch
        load) j₀ i' j₂ ∧ i'.InsertsAll provider.name (bookedIn batch) :=
    determineByChain_insertsAll htakes.cuts.nonempty hmetrics hselection hkept
  obtain ⟨metrics', hmetrics', hcounted'⟩ := hi'.metrics
  obtain rfl : metrics' = metrics :=
    Except.ok.inj (hmetrics'.symm.trans hmetrics)
  refine ⟨i', j₂, hreturns, hi'.toInsert.trans hi.toInsert.symm, fun a ha => ?_,
    hi'.toDelete,
    hi'.toUpdate, hi'.toIgnore, hi.toDelete, hi.toUpdate, hi.toIgnore,
    hcounted'.trans hcounted.symm,
    hi'.oldestChanged.trans hi.oldestChanged.symm⟩
  rcases List.mem_append.1 ha with ha | ha
  · exact hi'.regular a ha
  · exact hi.regular a ha

end Agreement

end ChainSync

/-- A batch whose first transaction has a blank external id. -/
def Sample.blankFirst : List (Member Reported) :=
  Member.ofList [Sample.reported " " "milk" (Sample.day 3),
    Sample.reported "x" "tea" (Sample.day 4)]

/-- The batch by the chain of a bank, with nothing stored. -/
def Sample.blankFirstByChain : Run Instruction :=
  instructionByChain Sample.newId Sample.now 7 Sample.fallback none
    Sample.blankFirst []

/-- The sync of the batch with an empty store. -/
def Sample.blankFirstInserted : Run Instruction :=
  determineByChain Sample.newId Sample.now .standard Sample.fallback
    Sample.account.accountId Sample.blankFirst fun _ => pure []

/-- The chain puts off the transaction that its first matcher rejects, so the
ids differ. -/
theorem blankFirst_skips_chain :
    ∃ i j' i' j₂, Returns Sample.blankFirstByChain .empty i j' ∧
      Returns Sample.blankFirstInserted .empty i' j₂ ∧
      i.toInsert.map (fun a => (a.member.record.externalId, a.id)) =
        [(some "x", "new-0"), (some " ", "new-1")] ∧
      (i'.toInsert.map (·.member)).Perm (i.toInsert.map (·.member)) ∧
      (∀ a ∈ i'.toInsert ++ i.toInsert, a.fillKind = .regular) ∧
      i'.toDelete = [] ∧ i'.toUpdate = [] ∧ i'.toIgnore = [] ∧
      i.toDelete = [] ∧ i.toUpdate = [] ∧ i.toIgnore = [] ∧
      i'.metrics = i.metrics ∧ i'.oldestChanged = i.oldestChanged := by
  have hrun : (Sample.blankFirstByChain.run.run .empty).1 =
      .ok ((Sample.blankFirstByChain.run.run .empty).1.toOption.getD
        .empty) := by decide +kernel
  have hselection : ((selectStoredWindow .standard Sample.fallback.name
      (ChainSync.bookedIn Sample.blankFirst) fun _ => pure []).run.run
        .empty).1 = .ok ⟨[], 0, []⟩ := by
    decide +kernel
  have hlate : (Date.epoch.addDays?
      (-SyncSettings.standard.backfillWindowDays)).all (fun d =>
      (ChainSync.bookedIn Sample.blankFirst).all fun m => d < m.record.date) =
        true := by decide +kernel
  obtain ⟨i', j₂, hreturns, hagree⟩ : ∃ i' j₂,
      Returns Sample.blankFirstInserted .empty i' j₂ ∧ _ :=
    ChainSync.determineByChain_skips_chain (returns_of_run hselection) rfl
      (fun d hd m hm => by
      rw [hd, Option.all_some, List.all_eq_true] at hlate
      exact of_decide_eq_true (hlate m hm)) (returns_of_run hrun)
  exact ⟨_, _, i', j₂, returns_of_run hrun, hreturns, by decide +kernel, hagree⟩

end LedgerSync
