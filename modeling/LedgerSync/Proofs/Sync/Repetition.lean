import LedgerSync.Proofs.Matching.Conservation
import LedgerSync.Proofs.Matching.Doubles
import LedgerSync.Proofs.Sync.Ambiguity
import LedgerSync.Proofs.Transaction.Unchanged

/-!
# A chain over a batch and its rows

Over a batch and the rows that repeat it, beside rows that were tolerated
(`Repetition`), a chain that passes its checks has paired every transaction with
its own row, and everything is ignored (`instructionByChain_ignores`). Where it
does not pass them, the sync is refused as unresolved
(`instructionByChain_refuses`), so it never asks for a write.
-/

namespace LedgerSync

open Run Matching

/-- Nothing is deleted, inserted or updated. -/
structure Instruction.WritesNothing (i : Instruction) : Prop where
  toDelete : i.toDelete = []
  toInsert : i.toInsert = []
  toUpdate : i.toUpdate = []

namespace ChainSync

variable {newId : Nat → String} {now : DateTime} {provider : Provider}
  {booked : List (Member Reported)} {stored rest : List (Member Stored)}
  {pairs : List (Member Reported × Member Stored)} {final : MatchResult}

/-- The run returns an instruction that writes nothing. -/
def IsQuiet (r : Run Instruction) (j : Journal) : Prop :=
  ∃ i j', Returns r j i j' ∧ i.WritesNothing

/-- The run asks for no write: it is quiet, or it is refused as unresolved, or a
day that it needs lies beyond the calendar. -/
def NeverWrites (r : Run Instruction) (j : Journal) : Prop :=
  IsQuiet r j ∨ (∃ why, Fails r j (.unresolved why)) ∨ Fails r j .beyondCalendar

/-- A pair whose row repeats the transaction is ignored. -/
theorem step_ignores (p : Progress) {x : Matched}
    (h : x.stored.record.Repeats x.reported.record) :
    ∃ p', step now p x = .ok p' ∧ p'.toDelete = p.toDelete ∧
    p'.toReinsert = p.toReinsert ∧ p'.toUpdate = p.toUpdate := by
  obtain ⟨d, hd, hsame⟩ := h.derived .regular x.stored.record.createdAt now
  refine ⟨{ p with
    metrics := countMatched x.matcher p.metrics
    toIgnore := p.toIgnore ++ [⟨x.reported, x.stored.record.id, .regular⟩] },
      ?_, rfl, rfl, rfl⟩
  unfold step
  refine bind_eq_ok_iff.2 ⟨d, hd, ?_⟩
  exact bind_eq_ok_iff.2 ⟨true, hsame, rfl⟩

/-- Pairs whose rows repeat their transactions are all ignored. -/
theorem pairs_ignored (now : DateTime) (p : Progress) {matched : List Matched}
    (h : ∀ x ∈ matched, x.stored.record.Repeats x.reported.record) :
    ∃ p', matched.foldlM (step now) p = .ok p' ∧ p'.toDelete = p.toDelete ∧
      p'.toReinsert = p.toReinsert ∧ p'.toUpdate = p.toUpdate := by
  induction matched generalizing p with
  | nil => exact ⟨p, rfl, rfl, rfl, rfl⟩
  | cons x matched ih =>
    obtain ⟨p₁, hstep, hdelete, hreinsert, hupdate⟩ :=
      step_ignores p (h x List.mem_cons_self)
    obtain ⟨p₂, hrest, hdelete', hreinsert', hupdate'⟩ :=
      ih p₁ fun y hy => h y (List.mem_cons_of_mem x hy)
    rw [List.foldlM_cons]
    exact ⟨p₂, bind_eq_ok_iff.2 ⟨p₁, hstep, hrest⟩, hdelete'.trans hdelete,
      hreinsert'.trans hreinsert, hupdate'.trans hupdate⟩

/-- A batch of booked transactions and the booked rows of its window: a row for
every transaction that repeats it, and a rest of the oldest day. The matchers of
the provider can look at all of them, pairs look alike to them or stray, and
what they leave unpaired looks alike. -/
structure Repetition (provider : Provider) (booked : List (Member Reported))
    (stored : List (Member Stored))
    (pairs : List (Member Reported × Member Stored))
    (rest : List (Member Stored)) : Prop where
  nonempty : booked ≠ []
  window : provider.window = .unbounded
  matchers : provider.matchers ≠ []
  reported_perm : (pairs.map (·.1)).Perm booked
  stored_perm : stored.Perm (pairs.map (·.2) ++ rest)
  repeats : ∀ p ∈ pairs, p.2.record.Repeats p.1.record
  reported_booked : ∀ m ∈ booked, m.record.status = .booked
  stored_booked : ∀ m ∈ stored, m.record.status = .booked
  cents : ∀ m ∈ booked, ∃ n, m.record.cents = .ok n
  oldest : ∀ m ∈ rest, Date.earliest? (booked.map (·.record.date)) =
    some m.record.date
  along : AlikeOrStrayAlong provider.matchers pairs rest
  unpaired_alike : ∀ p ∈ unpaired provider.matchers pairs rest,
    ∀ m ∈ provider.matchers, m.Agrees p
  reads_reported : ∀ m ∈ provider.matchers, ∀ t ∈ booked, m.Reads (view t)
  reads_stored : ∀ m ∈ provider.matchers, ∀ t ∈ stored, m.Reads (view t)

namespace Repetition

theorem doubled (h : Repetition provider booked stored pairs rest) :
    Doubled pairs rest (.start booked stored) := by
  refine ⟨?_, ?_⟩
  · rw [MatchResult.start_reported]
    exact h.reported_perm.symm
  · rw [MatchResult.start_stored]
    exact h.stored_perm

/-- The rounds of the chain come to an end. -/
theorem exists_final (h : Repetition provider booked stored pairs rest) :
    ∃ final, MatchResult.playAll provider.matchers (.start booked stored) =
      .ok final := by
  refine MatchResult.playAll_total ?_ ?_
  · intro m hm t ht
    obtain ⟨p, hp, rfl⟩ := List.mem_map.1 (h.doubled.reported.mem_iff.1 ht)
    exact h.reads_reported m hm p.1
      (h.reported_perm.mem_iff.1 (List.mem_map_of_mem hp))
  · intro m hm t ht
    exact h.reads_stored m hm t
      (h.stored_perm.mem_iff.2 (h.doubled.stored.mem_iff.1 ht))

theorem timestamps (h : Repetition provider booked stored pairs rest) :
    ∀ m ∈ booked, ∃ t, m.record.timestamp = .ok t := by
  intro m hm
  obtain ⟨p, hp, rfl⟩ := List.mem_map.1 (h.reported_perm.mem_iff.2 hm)
  obtain ⟨u, -, hu, -⟩ := (h.repeats p hp).mirrors.timestamp
  exact ⟨u, hu⟩

/-- Every row of the window has the date of a transaction of the batch. -/
theorem date_mem (h : Repetition provider booked stored pairs rest)
    {s : Member Stored} (hs : s ∈ stored) :
    s.record.date ∈ booked.map (·.record.date) := by
  rcases List.mem_append.1 (h.stored_perm.mem_iff.1 hs) with hown | hr
  · obtain ⟨p, hp, rfl⟩ := List.mem_map.1 hown
    rw [(h.repeats p hp).mirrors.date]
    exact List.mem_map_of_mem
      (h.reported_perm.mem_iff.1 (List.mem_map_of_mem hp))
  · exact Date.earliest?_mem (h.oldest s hr)

theorem exists_latest (h : Repetition provider booked stored pairs rest) :
    ∃ latest, Date.latest? (stored.map (·.record.date)) = some latest ∧
      latest ∈ booked.map (·.record.date) := by
  -- without rows there would be no pairs, and so nothing booked
  have hstored : stored ≠ [] := by
    intro hnil
    have hpairs := h.stored_perm
    rw [hnil] at hpairs
    have hnone := List.append_eq_nil_iff.1 hpairs.nil_eq.symm
    have hbooked := h.reported_perm
    rw [List.map_eq_nil_iff.1 hnone.1] at hbooked
    exact h.nonempty hbooked.nil_eq.symm
  obtain ⟨latest, hlatest⟩ :
      ∃ d, Date.latest? (stored.map (·.record.date)) = some d :=
    Date.exists_latest? (by simpa using hstored)
  obtain ⟨s, hs, rfl⟩ := List.mem_map.1 (Date.latest?_mem hlatest)
  exact ⟨_, hlatest, h.date_mem hs⟩

/-- When the checks pass, no pair is left, and what was matched are the
pairs. -/
theorem settled (h : Repetition provider booked stored pairs rest)
    (hfinal : MatchResult.playAll provider.matchers (.start booked stored) =
      .ok final)
    (hpeerless : ∀ u ∈ final.unmatchedStored, u.reason = .peerless) :
    (final.matched.map (·.pair)).Perm pairs ∧ final.unmatchedReported = [] ∧
      (final.unmatchedStored.map (·.transaction)).Perm rest := by
  obtain ⟨hdoubled, hperm, hreasons⟩ := h.doubled.playAll h.along hfinal
  have hnone : unpaired provider.matchers pairs rest = [] := by
    rw [List.eq_nil_iff_forall_not_mem]
    intro p hp
    have hleft : p.2 ∈ final.unmatchedStored.map (·.transaction) :=
      hdoubled.stored.mem_iff.2
        (List.mem_append_left _ (List.mem_map_of_mem hp))
    obtain ⟨u, hu, heq⟩ := List.mem_map.1 hleft
    -- a row of such a pair is never judged peerless
    obtain ⟨v, hv, -, hr⟩ :=
      hreasons p hp (h.unpaired_alike p hp) u hu heq (hpeerless u hu)
    exact not_peerless_of_untouched stored v hv hr
  rw [hnone] at hdoubled hperm
  refine ⟨?_, ?_, hdoubled.stored⟩
  · rw [List.append_nil] at hperm
    exact hperm
  · exact List.map_eq_nil_iff.1 (List.perm_nil.1 hdoubled.reported)

/-- The chain gets as far as its checks. -/
theorem reaches_checks (h : Repetition provider booked stored pairs rest)
    (hfinal : MatchResult.playAll provider.matchers (.start booked stored) =
      .ok final)
    (account : Option Uuid) (j : Journal) :
    ∃ w results text j₁ j₂, Returns (cut provider booked stored) j w j₁ ∧
    w.reported = booked ∧
      w.stored = stored ∧ Date.earliest? (booked.map (·.record.date)) =
        some w.oldestReported ∧
      Returns (provider.reconcile booked stored) j₁ results j₂ ∧
      results.last = final ∧
      results.logText provider.name account w.window booked stored =
        .ok text := by
  obtain ⟨oldest, holdest, hcuts⟩ :=
    cuts_of_unbounded stored h.window h.nonempty
  obtain ⟨j₁, hcut⟩ := hcuts.returns j
  obtain ⟨results, j₂, hresults, hlast⟩ :=
    returns_reconcile j₁ h.reported_booked h.stored_booked hfinal
  obtain ⟨text, htext⟩ :=
    MatchResults.logText_total provider.name account .unbounded stored
    h.timestamps (mem_of_links (links_of_reconcile hresults).1)
  exact ⟨_, results, text, j₁, j₂, hcut, rfl, rfl, holdest, hresults,
    hlast, htext⟩

/-- The chain passes its checks when it judges what is left of the rows
peerless. -/
theorem passes_checks (h : Repetition provider booked stored pairs rest)
    (hfinal : MatchResult.playAll provider.matchers (.start booked stored) =
      .ok final)
    (hpeerless : ∀ u ∈ final.unmatchedStored, u.reason = .peerless)
    {oldest : Date}
    (holdest : Date.earliest? (booked.map (·.record.date)) = some oldest)
    (j : Journal) :
    (∃ j', Returns (checkStored provider.name final oldest) j () j') ∧
      checkReported provider.name final = .ok () := by
  obtain ⟨-, hnone, hrest⟩ := h.settled hfinal hpeerless
  refine ⟨checkStored_of_peerless provider.name oldest j hpeerless ?_,
    checkReported_of_peerless provider.name ?_⟩
  · intro u hu
    have hoverdue := h.oldest _ (hrest.subset (List.mem_map_of_mem hu))
    rw [holdest] at hoverdue
    exact (Option.some.inj hoverdue).symm
  · rw [hnone]
    exact fun u hu => absurd hu List.not_mem_nil

/-- Everything is ignored when the chain passes its checks, provided that the
calendar reaches back far enough from a day of the batch. -/
theorem instructionByChain_ignores
    (h : Repetition provider booked stored pairs rest)
    (hfinal : MatchResult.playAll provider.matchers (.start booked stored) =
      .ok final)
    (hpeerless : ∀ u ∈ final.unmatchedStored, u.reason = .peerless)
    (newId : Nat → String) (now : DateTime) (backfillWindowDays : Int)
    (account : Option Uuid) (j : Journal) :
    ∃ m ∈ booked,
      (∀ d, m.record.date.addDays? (-backfillWindowDays) = some d →
        IsQuiet (instructionByChain newId now backfillWindowDays provider
          account booked stored) j) ∧
      (m.record.date.addDays? (-backfillWindowDays) = none →
        Fails (instructionByChain newId now backfillWindowDays provider account
          booked stored) j
          .beyondCalendar) := by
  obtain ⟨hmatched, hnone, -⟩ := h.settled hfinal hpeerless
  obtain ⟨w, results, text, _, j₂, hcut, hreported, hstored, holdest, hresults,
    rfl, htext⟩ :=
    h.reaches_checks hfinal account j
  obtain ⟨⟨j₃, hcheckedStored⟩, hcheckedReported⟩ :=
    h.passes_checks hfinal hpeerless holdest
    { j₂ with records := j₂.records ++ [⟨.info, .chain, text⟩] }
  obtain ⟨index, hindex⟩ := Index.ofBatch_total h.cents
  have hmetrics : startMetrics provider.name booked stored.length = .ok
      (Metrics.start provider.name booked.length stored.length index.missingIds
        index.duplicateIds) :=
    bind_eq_ok_iff.2 ⟨index, hindex, rfl⟩
  have hrepeats : ∀ x ∈ results.last.matched,
      x.stored.record.Repeats x.reported.record :=
    fun x hx => h.repeats x.pair (hmatched.subset (List.mem_map_of_mem hx))
  obtain ⟨p, hpairs, hdelete, hreinsert, hupdate⟩ := pairs_ignored now
    ⟨Metrics.start provider.name booked.length stored.length index.missingIds
      index.duplicateIds, [], [], [], []⟩ hrepeats
  obtain ⟨latest, hlatest, hdate⟩ := h.exists_latest
  obtain ⟨m, hm, rfl⟩ := List.mem_map.1 hdate
  refine ⟨m, hm, ?_⟩
  -- nothing can fail before the threshold, so both parts are about the same
  -- rest of the run
  unfold IsQuiet Returns Fails instructionByChain
  rw [hcut.bind_run, hreported, hstored]
  dsimp only
  rw [hlatest, Option.getD_some, hresults.bind_run,
    (returns_ofExcept.2 ⟨htext, rfl⟩).bind_run,
    (log_returns _ _ _ _).bind_run, hcheckedStored.bind_run,
    (returns_ofExcept.2 ⟨hcheckedReported, rfl⟩).bind_run,
    (returns_ofExcept.2 ⟨hmetrics, rfl⟩).bind_run,
    (returns_ofExcept.2 ⟨hpairs, rfl⟩).bind_run, hnone]
  constructor
  · intro threshold hthreshold
    rw [hthreshold]
    refine ⟨_, j₃, rfl, ⟨hdelete, ?_, hupdate⟩⟩
    show p.toReinsert ++ [] ++ [] = []
    rw [hreinsert]
    rfl
  · intro hthreshold
    rw [hthreshold]
    rfl

/-- The sync is refused as unresolved when the chain does not pass its
checks. -/
theorem instructionByChain_refuses
    (h : Repetition provider booked stored pairs rest)
    (hfinal : MatchResult.playAll provider.matchers (.start booked stored) =
      .ok final)
    (hpeerless : ¬ ∀ u ∈ final.unmatchedStored, u.reason = .peerless)
    (newId : Nat → String) (now : DateTime) (backfillWindowDays : Int)
    (account : Option Uuid) (j : Journal) :
    ∃ why, Fails (instructionByChain newId now backfillWindowDays provider
      account booked stored) j
      (.unresolved why) := by
  obtain ⟨w, results, text, _, j₂, hcut, hreported, hstored, -, hresults,
    rfl, htext⟩ :=
    h.reaches_checks hfinal account j
  obtain ⟨why, hwhy⟩ := checkStored_refuses provider.name w.oldestReported
    { j₂ with records := j₂.records ++ [⟨.info, .chain, text⟩] }
    (Party.stored.processed hfinal h.matchers) fun hall => hpeerless fun u hu =>
    (hall u hu).1
  refine ⟨why, ?_⟩
  unfold instructionByChain
  refine hcut.bind_fails ?_
  rw [hreported, hstored]
  refine hresults.bind_fails ?_
  refine Returns.bind_fails (returns_ofExcept.2 ⟨htext, rfl⟩) ?_
  exact (log_returns _ _ _ _).bind_fails hwhy.bind

end Repetition

end ChainSync

end LedgerSync
