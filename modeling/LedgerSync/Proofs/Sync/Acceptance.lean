import LedgerSync.Proofs.Drawing
import LedgerSync.Proofs.Matching.Conservation
import LedgerSync.Proofs.Sync.ChainRun
import LedgerSync.Proofs.Sync.PartnerWalk
import LedgerSync.Proofs.Transaction.Unchanged

/-!
# Which batches a chain accepts

After its chain a reconciliation checks what is left of both sides, reason by
reason. The checks add up to one condition on the last result
(`MatchResult.Resolved`): what is left is peerless, and on the stored side it
lies on the oldest reported day. Where attributes, amounts and dates can be had
(`Converts`), a run returns under exactly this condition, and refuses the batch
as unresolved otherwise (`Converts.accepts_exactly_resolved`); a chain with
matchers leaves nothing unprocessed.

Ids are drawn when all that can fail is over, so a run that fails has drawn
none, whatever stopped it (`instructionByChain_sparesIds`).
-/

namespace LedgerSync

open Run Matching

/-! ## Drawing ids -/

namespace ChainSync

theorem drawsNone_cut (provider : Provider) (reported : List (Member Reported))
    (stored : List (Member Stored)) :
    DrawsNone (cut provider reported stored) := by
  unfold cut
  refine .ite (drawsNone_throw_bind _ _) (.bind (drawsNone_ofExcept _)
    fun choice => ?_)
  refine .bind (drawsNone_noteAll _) fun _ => .bind (drawsNone_ofExcept _)
    fun keptReported => ?_
  refine .bind (drawsNone_ofExcept _) fun keptStored => ?_
  split
  · exact drawsNone_pure _
  · exact drawsNone_throw _

theorem drawsNone_checkStored (name : String) (final : MatchResult)
    (oldest : Date) :
    DrawsNone (checkStored name final oldest) := by
  have hlast : DrawsNone (if (!(final.storedFor .duplicate).isEmpty) =
      true then do
        let rows ← Run.ofExcept (unmatchedTable (final.storedFor .duplicate))
        throw (.unresolved
          (.storedDuplicate name (final.storedFor .duplicate).length rows))
      else pure ()) :=
    .ite (.bind (drawsNone_ofExcept _) fun _ => drawsNone_throw _)
      (drawsNone_pure ())
  unfold checkStored
  refine .ite (drawsNone_throw_bind _ _) ?_
  refine .ite (.bind (drawsNone_ofExcept _) fun _ =>
    drawsNone_throw_bind _ _) ?_
  refine .ite (.bind (drawsNone_ofExcept _) fun rows =>
    .ite ?_ (drawsNone_throw_bind _ _)) hlast
  exact .bind (drawsNone_log _ _ _) fun _ => hlast

end ChainSync

theorem Matching.Provider.drawsNone_reconcile (provider : Provider)
    (reported : List (Member Reported)) (stored : List (Member Stored)) :
    DrawsNone (provider.reconcile reported stored) := by
  unfold reconcile
  refine .bind (drawsNone_ofExcept _) fun _ => .bind (drawsNone_ofExcept _)
    fun _ => ?_
  refine .foldlM (fun results m => ?_) _ _
  unfold extend Matcher.run
  refine .ite (.bind ?_ fun next => drawsNone_ofExcept _) ?_
  · exact .bind (drawsNone_ofExcept _) fun r => .bind (drawsNone_log _ _ _)
      fun _ => drawsNone_pure _
  · exact .bind (drawsNone_log _ _ _) fun _ => drawsNone_pure _

/-- A reconciliation by a chain that fails, for whatever reason, has drawn no
id. -/
theorem instructionByChain_sparesIds (newId : Nat → String) (now : DateTime)
    (backfillWindowDays : Int) (provider : Provider) (account : Option Uuid)
    (reported : List (Member Reported)) (stored : List (Member Stored)) :
    SparesIds (instructionByChain newId now backfillWindowDays provider account
      reported stored) := by
  unfold instructionByChain
  refine .bind (ChainSync.drawsNone_cut _ _ _) fun w => ?_
  refine .bind (provider.drawsNone_reconcile _ _) fun results => ?_
  refine .bind (drawsNone_ofExcept _) fun text => .bind (drawsNone_log _ _ _)
    fun _ => ?_
  refine .bind (ChainSync.drawsNone_checkStored _ _ _) fun _ =>
    .bind (drawsNone_ofExcept _) fun _ => ?_
  refine .bind (drawsNone_ofExcept _) fun metrics =>
    .bind (drawsNone_ofExcept _) fun p => ?_
  -- the last day of history is the last thing that may be missing
  split
  · refine IsTotal.sparesIds (.bind (isTotal_assignFresh _ _ _)
      fun recent => ?_)
    refine .bind (isTotal_assignFresh _ _ _) fun history => ?_
    exact .ite (.bind (isTotal_log _ _ _) fun _ => isTotal_pure _)
      (isTotal_pure _)
  · exact (drawsNone_throw _).sparesIds

/-! ## Accepting a batch -/

/-- What is left of the reported side is new, and what is left of the stored
side has no counterpart and lies on the oldest reported day. -/
structure Matching.MatchResult.Resolved (final : MatchResult) (oldest : Date) :
    Prop where
  reported : ∀ u ∈ final.unmatchedReported, u.reason = .peerless
  stored : ∀ u ∈ final.unmatchedStored,
    u.reason = .peerless ∧ u.transaction.record.date = oldest

/-- The exchange rate and the foreign amount of a row can be compared with those
of a transaction. Only a signaling not-a-number stands in the way of that. -/
def Stored.Comparable (s : Stored) (t : Reported) : Prop :=
  (∃ same, sameNumber t.keptRate s.exchangeRate.rate = .ok same) ∧
    ∃ same, sameNumber t.keptForeignAmount s.foreignAmount = .ok same

namespace ChainSync

/-- Whatever a reconciliation may look at of both sides can be had: the
attributes for the matchers, amounts in cents, timestamps in universal time,
numbers that can be compared, the day after the first reported booking date
where the window may begin on it, and the last day of history. -/
structure Converts (provider : Provider) (backfillWindowDays : Int)
    (reported : List (Member Reported)) (stored : List (Member Stored)) :
    Prop where
  reported_extracts : ∀ m ∈ provider.matchers, ∀ t ∈ reported,
    m.Extracts (view t)
  stored_extracts : ∀ m ∈ provider.matchers, ∀ t ∈ stored, m.Extracts (view t)
  reported_cents : ∀ t ∈ reported, ∃ n, t.record.cents = .ok n
  stored_cents : ∀ t ∈ stored, ∃ n, t.record.cents = .ok n
  timestamp : ∀ t ∈ reported, ∃ u, t.record.timestamp = .ok u
  comparable : ∀ t ∈ reported, ∀ s ∈ stored, s.record.Comparable t.record
  next_day : provider.window = .bookingDate →
    ∀ r s, WindowSelector.bookingInterval? reported = some r →
    WindowSelector.bookingInterval? stored = some s →
    ∃ next, r.start.addDays? 1 = some next
  threshold : ∀ w, Cuts provider reported stored w → ∃ d,
    ((Date.latest? (w.stored.map (·.record.date))).getD Date.epoch).addDays?
      (-backfillWindowDays) = some d

/-- A pair can be decided when the amounts and the timestamp are known and the
other numbers can be compared. -/
theorem decidePair_total {pair : Matched} {n k : Int} {u : Moment}
    (now : DateTime) (hreported : pair.reported.record.cents = .ok n)
    (hstored : pair.stored.record.cents = .ok k)
    (htimestamp : pair.reported.record.timestamp = .ok u)
    (hcomparable : pair.stored.record.Comparable pair.reported.record) :
    ∃ d, decidePair now pair = .ok d := by
  obtain ⟨derived, hderived⟩ := Reported.exists_toStored hreported htimestamp
    ⟨pair.stored.record.userId, pair.stored.record.accountId⟩
      pair.stored.record.id
    pair.stored.record.currency .regular pair.stored.record.createdAt now
  obtain ⟨hrate, hforeign⟩ := Reported.numbers_of_toStored hderived
  obtain ⟨sameAmount, hamount⟩ := Decimal.equal_total
    (Reported.amount_isFinite_of_cents hreported hderived)
    (Decimal.isFinite_of_cents (mapError_eq_ok_iff.1 hstored))
  obtain ⟨same, hsame⟩ : ∃ same, derived.same pair.stored.record = .ok same :=
    Stored.same_total ⟨sameAmount, mapError_eq_ok_iff.2 hamount⟩
      (hrate ▸ hcomparable.1)
      (hforeign ▸ hcomparable.2)
  obtain ⟨e, he⟩ : ∃ e, Planned.forPair now pair.pair = .ok e :=
    Planned.forPair_total hderived hsame
  exact ⟨_, decidePair_of_forPair he⟩

/-- Whatever is to come after the checks, they refuse what is not resolved, when
it has been processed and can be shown. -/
theorem checks_refuse {β : Type} {final : MatchResult} {oldest : Date}
    (name : String) (j : Journal)
    (hreported : ∀ u ∈ final.unmatchedReported, u.reason ≠ .unprocessed)
    (hstored : ∀ u ∈ final.unmatchedStored, u.reason ≠ .unprocessed)
    (htimestamps : ∀ u ∈ final.unmatchedReported, ∃ t,
      (view u.transaction).timestamp = .ok t)
    (h : ¬final.Resolved oldest) :
    ∃ why, ∀ rest : Run β, Fails (checkStored name final oldest >>= fun _ =>
      Run.ofExcept (checkReported name final) >>= fun _ => rest) j
        (.unresolved why) := by
  -- the stored side is checked first
  by_cases hpassed : ∀ u ∈ final.unmatchedStored,
      u.reason = .peerless ∧ u.transaction.record.date = oldest
  · obtain ⟨j', hj'⟩ :=
      checkStored_of_peerless name oldest j (fun u hu => (hpassed u hu).1)
      fun u hu => (hpassed u hu).2
    obtain ⟨why, hwhy⟩ := checkReported_refuses name hreported htimestamps
      fun hpeerless => h ⟨hpeerless, hpassed⟩
    exact ⟨why, fun _ => hj'.bind_fails (fails_ofExcept.2 hwhy).bind⟩
  · obtain ⟨why, hwhy⟩ := checkStored_refuses name oldest j hstored hpassed
    exact ⟨why, fun _ => hwhy.bind⟩

section Acceptance

variable {newId : Nat → String} {now : DateTime} {backfillWindowDays : Int}
  {provider : Provider} {account : Option Uuid}
  {reported : List (Member Reported)} {stored : List (Member Stored)}
  {w : Windowed} {results : MatchResults} {j j' j₁ j₂ : Journal}

namespace Converts

/-- What the chain has paired can be decided. -/
theorem exists_decided
    (h : Converts provider backfillWindowDays reported stored) (now : DateTime)
    (hcut : Returns (cut provider reported stored) j w j₁)
    (hresults : Returns (provider.reconcile w.reported w.stored) j₁
    results j₂) :
    ∃ ds, results.last.matched.mapM (decidePair now) = .ok ds := by
  obtain ⟨hsub, hsub', -⟩ := cut_spec hcut
  have hplayed := playAll_of_reconcile hresults
  refine mapM_total fun pair hpair => ?_
  have hreported : pair.reported ∈ reported :=
    hsub.subset ((MatchResult.playAll_start_reported_perm hplayed).subset
      (List.mem_append_left _ (List.mem_map_of_mem hpair)))
  have hstored : pair.stored ∈ stored :=
    hsub'.subset ((MatchResult.playAll_start_stored_perm hplayed).subset
      (List.mem_append_left _ (List.mem_map_of_mem hpair)))
  obtain ⟨n, hn⟩ := h.reported_cents _ hreported
  obtain ⟨k, hk⟩ := h.stored_cents _ hstored
  obtain ⟨u, hu⟩ := h.timestamp _ hreported
  exact decidePair_total now hn hk hu (h.comparable _ hreported _ hstored)

/-- The report on the chain is written. -/
theorem exists_logText
    (h : Converts provider backfillWindowDays reported stored)
    (account : Option Uuid)
    (hcut : Returns (cut provider reported stored) j w j₁)
    (hresults : Returns (provider.reconcile w.reported w.stored) j₁
    results j₂) :
    ∃ text, results.logText provider.name account w.window w.reported w.stored =
      .ok text :=
  MatchResults.logText_total provider.name account w.window w.stored
    (fun t ht => h.timestamp t ((cut_spec hcut).1.subset ht))
    (mem_of_links (links_of_reconcile hresults).1)

/-- Where the chain has resolved everything, the run returns. -/
theorem returns (h : Converts provider backfillWindowDays reported stored)
    (hcut : Returns (cut provider reported stored) j w j₁)
    (hresults : Returns (provider.reconcile w.reported w.stored) j₁ results j₂)
    (hresolved : results.last.Resolved w.oldestReported) :
    ∃ i j', Returns (instructionByChain newId now backfillWindowDays provider
      account reported stored)
      j i j' := by
  have hcuts := (cuts_of_returns hcut).1
  obtain ⟨metrics, hmetrics⟩ :=
    startMetrics_total provider.name stored.length h.reported_cents
  obtain ⟨ds, hds⟩ := h.exists_decided now hcut hresults
  obtain ⟨threshold, hthreshold⟩ := h.threshold w hcuts
  have htakes : Takes now backfillWindowDays provider account reported stored
      ⟨w, results, _, ds, threshold⟩ := {
    cuts := hcuts
    links := (links_of_reconcile hresults).1
    logged := h.exists_logText account hcut hresults
    reported_peerless := hresolved.reported
    stored_peerless := hresolved.stored
    counted := hmetrics
    decided := hds
    threshold := hthreshold }
  exact htakes.returns j

/-- Where the chain has left something else, the run refuses the batch as
unresolved. -/
theorem refuses (h : Converts provider backfillWindowDays reported stored)
    (hmatchers : provider.matchers ≠ [])
    (hcut : Returns (cut provider reported stored) j w j₁)
    (hresults : Returns (provider.reconcile w.reported w.stored) j₁ results j₂)
    (hunresolved : ¬results.last.Resolved w.oldestReported) :
    ∃ why, Fails (instructionByChain newId now backfillWindowDays provider
      account reported stored)
      j (.unresolved why) := by
  have hplayed := playAll_of_reconcile hresults
  obtain ⟨text, htext⟩ := h.exists_logText account hcut hresults
  have htimestamps : ∀ u ∈ results.last.unmatchedReported,
      ∃ t, (view u.transaction).timestamp = .ok t := by
    intro u hu
    have hmem : u.transaction ∈ w.reported :=
      (MatchResult.playAll_start_reported_perm hplayed).subset
        (List.mem_append_right _ (List.mem_map_of_mem hu))
    obtain ⟨t, ht⟩ := h.timestamp _ ((cut_spec hcut).1.subset hmem)
    exact timestamp_reported ht
  obtain ⟨why, hwhy⟩ := checks_refuse (β := Instruction) provider.name
    { j₂ with records := j₂.records ++ [⟨.info, .chain, text⟩] }
    (Party.reported.processed hplayed hmatchers)
      (Party.stored.processed hplayed hmatchers) htimestamps
    hunresolved
  unfold instructionByChain
  refine ⟨why, hcut.bind_fails (hresults.bind_fails ?_)⟩
  exact (returns_ofExcept.2 ⟨htext, rfl⟩).bind_fails
    ((log_returns _ _ _ _).bind_fails (hwhy _))

end Converts

end Acceptance

end ChainSync

end LedgerSync
