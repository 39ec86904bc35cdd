import LedgerSync.Proofs.Failing
import LedgerSync.Proofs.Store.Records
import LedgerSync.Proofs.Sync.ChainChecks
import LedgerSync.Proofs.Sync.ChainFates
import LedgerSync.Proofs.Sync.LiveMembers

/-!
# What a reconciliation by a chain has found when it returns

Before a reconciliation by a chain draws ids it computes without any effect but
its log. `Course` holds what it computes, and `Takes` says how: the cut, the
links of the chain and its report, the checks, the counters, the decisions about
the matched pairs, and the last day of history. A run returns exactly when there
is a course that it takes, and its instruction is read off the course
(`takes_of_returns`, `Takes.returns`). `Chained` is what all proofs about plans
need of it: the decisions are a plan for the matched rows, and what is left on
the reported side is inserted.
-/

namespace LedgerSync

open Run Matching

/-- What an instruction inserts: first what was moved, under the ids of the rows
that are deleted, and then what is fresh, under the next ids of the supply. -/
structure Instruction.Inserts (i : Instruction) (newId : Nat → String)
    (j j' : Journal) (moved fresh : List Assigned) : Prop where
  toInsert : i.toInsert = moved ++ fresh
  moved_ids : moved.map (·.id) = i.toDelete.map (·.record.id)
  fresh_ids : fresh.map (·.id) = (List.range' j.drawn fresh.length).map newId
  drawn : j'.drawn = j.drawn + fresh.length

namespace ChainSync

variable {provider : Provider} {reported : List (Member Reported)}
  {stored : List (Member Stored)} {now : DateTime} {j j' : Journal}

/-- The counters at the start hold the totals and what the batch lacks, and
nothing is decided yet. -/
theorem startMetrics_spec {name : String} {count : Nat} {metrics : Metrics}
    (h : startMetrics name reported count = .ok metrics) :
    ∃ missing duplicate, metrics = Metrics.start name reported.length count
      missing duplicate := by
  obtain ⟨index, -, h⟩ := bind_eq_ok_iff.1 h
  exact ⟨index.missingIds, index.duplicateIds, pure_eq_ok_iff.1 h⟩

theorem cents_of_startMetrics {name : String} {count : Nat} {metrics : Metrics}
    (h : startMetrics name reported count = .ok metrics) :
    ∀ m ∈ reported, ∃ n, m.record.cents = .ok n := by
  obtain ⟨index, hindex, -⟩ := bind_eq_ok_iff.1 h
  exact (Index.ofBatch_spec hindex).2.2

/-- The counters can be started when every amount has cents. -/
theorem startMetrics_total (name : String) (count : Nat)
    (h : ∀ m ∈ reported, ∃ n, m.record.cents = .ok n) :
    ∃ metrics, startMetrics name reported count = .ok metrics := by
  obtain ⟨index, hindex⟩ := Index.ofBatch_total h
  exact ⟨_, bind_eq_ok_iff.2 ⟨index, hindex, rfl⟩⟩

/-! ## The course of a run -/

/-- What a reconciliation by a chain settles before it draws ids: both sides cut
to the sync window, the results of the chain, the counters at the start, the
decisions about the matched pairs, and the last day of history. -/
structure Course where
  window : Windowed
  results : MatchResults
  metrics : Metrics
  decided : List Decided
  threshold : Date

namespace Course

/-- The plan for the matched rows. -/
def plan (c : Course) : Plan := planOf c.decided

/-- The reported transactions that are new. -/
def peerless (c : Course) : List (Member Reported) :=
  c.results.last.unmatchedReported.map (·.transaction)

/-- The new transactions after the last day of history. -/
def recent (c : Course) : List (Member Reported) :=
  c.peerless.filter fun m => c.threshold < m.record.date

/-- The new transactions up to the last day of history. -/
def history (c : Course) : List (Member Reported) :=
  c.peerless.filter fun m => m.record.date ≤ c.threshold

/-- The instruction, once the new transactions have ids. -/
def instruction (c : Course) (recent history : List Assigned) :
    Instruction where
  toDelete := c.plan.deletes
  toInsert := c.plan.select Fate.isMoved ++ recent ++ history
  toUpdate := c.plan.select Fate.isUpdated
  toIgnore := c.plan.select Fate.isIgnored
  metrics := some { c.decided.foldl countDecided c.metrics with
    reportedNew := recent.length + history.length
    reportedUnchanged := (c.plan.select Fate.isIgnored).length
    bookedNotMatched := c.results.last.unmatchedStored.length }
  oldestChanged := Instruction.oldestChange c.plan.deletes
    (c.plan.select Fate.isMoved ++ recent)
    (c.plan.select Fate.isUpdated)

end Course

/-- A course that a reconciliation takes: every part of it succeeds, and the
chain passes its checks. -/
structure Takes (now : DateTime) (backfillWindowDays : Int)
    (provider : Provider) (account : Option Uuid)
    (reported : List (Member Reported)) (stored : List (Member Stored))
    (c : Course) : Prop where
  cuts : Cuts provider reported stored c.window
  links : provider.links c.window.reported c.window.stored = .ok c.results
  logged : ∃ text, c.results.logText provider.name account c.window.window
    c.window.reported
    c.window.stored = .ok text
  reported_peerless : ∀ u ∈ c.results.last.unmatchedReported,
    u.reason = .peerless
  stored_peerless : ∀ u ∈ c.results.last.unmatchedStored,
    u.reason = .peerless ∧ u.transaction.record.date = c.window.oldestReported
  counted : startMetrics provider.name reported stored.length = .ok c.metrics
  decided : c.results.last.matched.mapM (decidePair now) = .ok c.decided
  threshold : ((Date.latest? (c.window.stored.map (·.record.date))).getD
    Date.epoch).addDays?
    (-backfillWindowDays) = some c.threshold

section Course

variable {newId : Nat → String} {backfillWindowDays : Int}
  {account : Option Uuid} {i : Instruction}

/-- A run that returns has taken a course, and its new transactions have the
next ids. -/
theorem takes_of_returns
    (h : Returns (instructionByChain newId now backfillWindowDays provider
      account reported stored)
      j i j') :
    ∃ (c : Course) (recent history : List Assigned) (k₁ k₂ k₃ : Journal),
      Takes now backfillWindowDays provider account reported stored c ∧
      k₁.drawn = j.drawn ∧
      Returns (assignFresh newId .regular c.recent) k₁ recent k₂ ∧
      Returns (assignFresh newId .backfilled c.history) k₂ history k₃ ∧
      j'.drawn = k₃.drawn ∧ i = c.instruction recent history := by
  simp only [instructionByChain, returns_bind, returns_ofExcept,
    returns_log] at h
  obtain ⟨w, j₁, hcut, results, _, hresults, _, j₂, ⟨htext, rfl⟩, _, _, rfl, _,
    k₁, hstored, _, _,
    ⟨hreported, rfl⟩, metrics, _, ⟨hmetrics, rfl⟩, p, j₃, ⟨hpairs, rfl⟩, h⟩ := h
  split at h
  case h_2 => exact (not_returns_throw h).elim
  next threshold hthreshold =>
  rw [returns_bind] at h
  obtain ⟨recent, k₂, hrecent, h⟩ := h
  rw [returns_bind] at h
  obtain ⟨history, k₃, hhistory, h⟩ := h
  obtain ⟨ds, hds, rfl⟩ := foldlM_step_eq_ok_iff.1 hpairs
  obtain ⟨hcuts, hcutDrawn⟩ := cuts_of_returns hcut
  obtain ⟨hlinks, hlinksDrawn⟩ := links_of_reconcile hresults
  obtain ⟨hpeerless, hstoredDrawn⟩ := checkStored_spec hstored
  refine ⟨⟨w, results, metrics, ds, threshold⟩, recent, history, j₃, k₂, k₃, {
    cuts := hcuts
    links := hlinks
    logged := ⟨_, htext⟩
    reported_peerless := checkReported_spec hreported
    stored_peerless := hpeerless
    counted := hmetrics
    decided := hds
    threshold := hthreshold }, ?_, hrecent, hhistory, ?_⟩
  · -- the checks, the chain and the cut only log
    rw [hstoredDrawn]
    exact hlinksDrawn.trans hcutDrawn
  · split at h
    · simp only [returns_bind, returns_log, returns_pure] at h
      obtain ⟨_, _, rfl, rfl, rfl⟩ := h
      exact ⟨rfl, rfl⟩
    · rw [returns_pure] at h
      obtain ⟨rfl, rfl⟩ := h
      exact ⟨rfl, rfl⟩

/-- A run that returned has taken a course. It inserts what the course moves,
and then the new transactions. -/
theorem inserts_of_returns {i : Instruction} {j j' : Journal}
    (h : Returns (instructionByChain newId now backfillWindowDays provider
      account reported stored)
      j i j') :
    ∃ (c : Course) (recent history : List Assigned),
      Takes now backfillWindowDays provider account reported stored c ∧
      i = c.instruction recent history ∧
      i.Inserts newId j j' (c.plan.select Fate.isMoved) (recent ++ history) ∧
      recent.map (·.member) = c.recent ∧ history.map (·.member) = c.history ∧
      (recent ++ history).map (fun a => (a.member, a.fillKind)) =
        c.recent.map (fun m => (m, .regular)) ++ c.history.map fun m =>
        (m, .backfilled) := by
  obtain ⟨c, recent, history, k₁, k₂, k₃, htakes, hstart, hrecent, hhistory,
    hend, rfl⟩ :=
    takes_of_returns h
  obtain ⟨hrecentMembers, hrecentIds, hrecentDrawn⟩ :=
    returns_assignFresh hrecent
  obtain ⟨hhistoryMembers, hhistoryIds, hhistoryDrawn⟩ :=
    returns_assignFresh hhistory
  rw [hstart] at hrecentIds hrecentDrawn
  rw [hrecentDrawn] at hhistoryIds hhistoryDrawn
  refine ⟨c, recent, history, htakes, rfl, {
    toInsert := List.append_assoc _ _ _
    moved_ids := moved_ids htakes.decided
    fresh_ids := ?_
    drawn := ?_ }, hrecentMembers, hhistoryMembers, ?_⟩
  · rw [List.map_append, hrecentIds, hhistoryIds, ← List.map_append,
      List.length_append, List.range'_append_1]
  · rw [hend, hhistoryDrawn, List.length_append, Nat.add_assoc]
  · rw [List.map_append, fillKind_of_assignFresh hrecent,
      fillKind_of_assignFresh hhistory]

/-- A run returns when there is a course that it can take. -/
theorem Takes.returns {c : Course}
    (h : Takes now backfillWindowDays provider account reported stored c)
    (j : Journal) :
    ∃ i j', Returns (instructionByChain newId now backfillWindowDays provider
      account reported stored)
      j i j' := by
  obtain ⟨text, htext⟩ := h.logged
  obtain ⟨j₁, hcut⟩ := h.cuts.returns j
  obtain ⟨j₂, hresults⟩ := reconcile_of_links h.links j₁
  obtain ⟨j₃, hstored⟩ :=
    checkStored_of_peerless provider.name c.window.oldestReported
    { j₂ with records := j₂.records ++ [⟨.info, .chain, text⟩] }
    (fun u hu => (h.stored_peerless u hu).1) fun u hu =>
    (h.stored_peerless u hu).2
  have hreported := checkReported_of_peerless provider.name h.reported_peerless
  have hpairs := foldlM_step_eq_ok_iff (p := ⟨c.metrics, [], [], [], []⟩).2 ⟨_,
      h.decided, rfl⟩
  obtain ⟨recent, j₄, hrecent⟩ := assignFresh_returns newId .regular c.recent j₃
  obtain ⟨history, j₅, hhistory⟩ :=
    assignFresh_returns newId .backfilled c.history j₄
  unfold Course.recent Course.peerless at hrecent
  unfold Course.history Course.peerless at hhistory
  unfold Returns instructionByChain
  rw [hcut.bind_run]
  dsimp only
  rw [hresults.bind_run, (returns_ofExcept.2 ⟨htext, rfl⟩).bind_run,
    (log_returns _ _ _ _).bind_run,
    hstored.bind_run, (returns_ofExcept.2 ⟨hreported, rfl⟩).bind_run,
    (returns_ofExcept.2 ⟨h.counted, rfl⟩).bind_run,
    (returns_ofExcept.2 ⟨hpairs, rfl⟩).bind_run, h.threshold]
  dsimp only
  rw [hrecent.bind_run, hhistory.bind_run]
  split
  · rw [(log_returns _ _ _ _).bind_run]
    exact ⟨_, _, rfl⟩
  · exact ⟨_, _, rfl⟩

end Course

/-! ## The whole run -/

/-- A run of a reconciliation by a chain that returned: the window it cut to,
the results of its chain, the plan for the matched rows, what was moved by the
plan, and the fresh inserts. -/
structure Chained (newId : Nat → String) (provider : Provider)
    (reported : List (Member Reported)) (stored : List (Member Stored))
    (j : Journal) (i : Instruction) (j' : Journal) (w : Windowed)
    (results : MatchResults) (plan : Plan) (moved fresh : List Assigned) :
    Prop where
  ran : ∃ j₁ j₂, Returns (cut provider reported stored) j w j₁ ∧
    Returns (provider.reconcile w.reported w.stored) j₁ results j₂
  reported_peerless : ∀ u ∈ results.last.unmatchedReported, u.reason = .peerless
  stored_peerless : ∀ u ∈ results.last.unmatchedStored,
    u.reason = .peerless ∧ u.transaction.record.date = w.oldestReported
  cents : ∀ m ∈ reported, ∃ n, m.record.cents = .ok n
  tracks : plan.Tracks (results.last.matched.map (·.stored)) i.toDelete moved
    i.toUpdate i.toIgnore
  members : plan.members = results.last.matched.map (·.reported)
  paired : ∀ e ∈ plan, ∃ x ∈ results.last.matched, e.row = x.stored ∧
    e.fate.member? = some x.reported
  redated : ∀ e ∈ plan, e.fate.isDeleted = true →
    ∃ m, e.fate = .moved m ∧ m.record.date ≠ e.row.record.date
  toInsert : i.toInsert = moved ++ fresh
  fresh_members : (fresh.map (·.member)).Perm
    (results.last.unmatchedReported.map (·.transaction))
  fresh_ids : fresh.map (·.id) = (List.range' j.drawn fresh.length).map newId
  drawn : j'.drawn = j.drawn + fresh.length

namespace Chained

variable {newId : Nat → String} {i : Instruction} {w : Windowed}
  {results : MatchResults} {plan : Plan} {moved fresh : List Assigned}

/-- The stored transactions of the sync window are matched or tolerated. -/
theorem stored_perm
    (hc : Chained newId provider reported stored j i j' w results plan
      moved fresh) :
    w.stored.Perm (results.last.matched.map (·.stored) ++
      (results.last.storedFor .peerless).map (·.transaction)) := by
  obtain ⟨_, _, -, hresults⟩ := hc.ran
  rw [storedFor_peerless_eq fun u hu => (hc.stored_peerless u hu).1]
  exact (MatchResult.playAll_start_stored_perm
    (playAll_of_reconcile hresults)).symm

/-- The reported transactions of the sync window are matched or inserted. -/
theorem reported_perm
    (hc : Chained newId provider reported stored j i j' w results plan
      moved fresh) :
    (plan.members ++ fresh.map (·.member)).Perm w.reported := by
  obtain ⟨_, _, -, hresults⟩ := hc.ran
  rw [hc.members]
  refine (hc.fresh_members.append_left _).trans ?_
  exact MatchResult.playAll_start_reported_perm (playAll_of_reconcile hresults)

/-- What is moved keeps the id of a stored transaction. -/
theorem moved_ids_subset
    (hc : Chained newId provider reported stored j i j' w results plan
      moved fresh) :
    moved.map (·.id) ⊆ stored.map (·.record.id) := by
  obtain ⟨_, _, hcut, -⟩ := hc.ran
  obtain ⟨-, hstored, -⟩ := cut_spec hcut
  intro id hid
  obtain ⟨a, ha, rfl⟩ := List.mem_map.1 hid
  rw [hc.tracks.moved] at ha
  obtain ⟨e, he, -, hassigned⟩ := Plan.mem_select.1 ha
  have hrow : e.row ∈ results.last.matched.map (·.stored) := by
    rw [← hc.tracks.seen]
    exact List.mem_map_of_mem he
  have hmem : e.row ∈ stored :=
    hstored.subset (hc.stored_perm.mem_iff.2 (List.mem_append_left _ hrow))
  rw [Planned.id_of_assigned? hassigned]
  exact List.mem_map_of_mem hmem

end Chained

/-- Inserts are recent or history. -/
theorem recent_or_history (threshold : Date) (ms : List (Member Reported)) :
    ((ms.filter fun m => decide (threshold < m.record.date)) ++
      ms.filter fun m => decide (m.record.date ≤ threshold)).Perm ms := by
  have hhistory : (fun m : Member Reported =>
      decide (m.record.date ≤ threshold)) =
        fun m => !decide (threshold < m.record.date) := by
    funext m
    rw [← decide_not]
    refine decide_eq_decide.2 ?_
    rw [Date.le_iff, Date.lt_iff, Nat.not_lt]
  rw [hhistory]
  exact List.filter_append_perm _ ms

theorem instructionByChain_spec {newId : Nat → String}
    {backfillWindowDays : Int} {account : Option Uuid} {i : Instruction}
    (h : Returns (instructionByChain newId now backfillWindowDays provider
    account reported stored)
      j i j') :
    ∃ w results plan moved fresh,
      Chained newId provider reported stored j i j' w results plan moved
        fresh := by
  obtain ⟨c, recent, history, htakes, rfl, hinserts, hrecent, hhistory, -⟩ :=
    inserts_of_returns h
  obtain ⟨j₁, hcut⟩ := htakes.cuts.returns j
  obtain ⟨j₂, hresults⟩ := reconcile_of_links htakes.links j₁
  obtain ⟨htracks, hmembers, hredated⟩ := planOf_spec htakes.decided
  refine ⟨c.window, c.results, c.plan, c.plan.select Fate.isMoved,
    recent ++ history, {
    ran := ⟨j₁, j₂, hcut, hresults⟩
    reported_peerless := htakes.reported_peerless
    stored_peerless := htakes.stored_peerless
    cents := cents_of_startMetrics htakes.counted
    tracks := htracks
    members := hmembers
    paired := fun _ he => pair_of_mem_planOf htakes.decided he
    redated := hredated
    toInsert := hinserts.toInsert
    fresh_members := ?_
    fresh_ids := hinserts.fresh_ids
    drawn := hinserts.drawn }⟩
  rw [List.map_append, hrecent, hhistory]
  exact recent_or_history c.threshold c.peerless

end ChainSync

end LedgerSync
