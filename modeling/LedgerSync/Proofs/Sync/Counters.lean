import LedgerSync.Proofs.Sync.HeuristicPlan

/-!
# The counters of a reconciliation balance

A pass over the stored records counts how each record found its counterpart or
that it found none, which records are deleted to be written again, and which
changed their status. What these counters add up to is their tally
(`Metrics.tally`), and every way to count raises one part of it. So a step keeps
the balance between the tally, the lists of the pass and the members that are
still live (`Progress.Balances.step`), and a whole pass does
(`Heuristic.decide_balances`).

When the members that nobody took have ids, the balance of the pass is one
between the counters and the instruction (`reconcile_counters_balance`).
-/

namespace LedgerSync

open Run

namespace Metrics

/-- What the counters of a pass add up to. -/
structure Tally where
  storedTotal : Nat
  reportedTotal : Nat
  matched : Nat
  notMatched : Nat
  keyUpdated : Nat
  statusChanged : Nat

/-- The tally of the counters: in whichever way a record was matched, whether
booked or pending it was left without a counterpart, and whichever status it
changed to. -/
def tally (m : Metrics) : Tally where
  storedTotal := m.storedTotal
  reportedTotal := m.reportedTotal
  matched := m.matchedByExternalId + m.matchedByAttributes +
    m.matchedOptimistically
  notMatched := m.bookedNotMatched + m.pendingNotMatched
  keyUpdated := m.keyUpdated
  statusChanged := m.pendingToBooked + m.bookedToPending

end Metrics

/-- A removal takes one of the live members. -/
theorem Index.members_length_of_remove {x x' : Index} {m : Member Reported}
    (h : x.remove m = .ok x') :
    x.members.length = x'.members.length + 1 := by
  obtain ⟨slot, entry, hentry, hlive, -, harena, hset⟩ := remove_slot h
  rw [members, members, harena, hset]
  exact (live_set_perm hentry hlive).length_eq

namespace Heuristic

/-! ## Ways to count -/

theorem tally_countFound (found : Found) (m : Metrics) :
    (countFound found m).tally = { m.tally with
    matched := m.tally.matched + 1 } := by
  cases found with
  | byExternalId =>
    simp only [countFound, Metrics.tally]
    congr 1
    omega
  | byAttributes =>
    simp only [countFound, Metrics.tally]
    congr 1
    omega
  | optimistically => rfl

theorem tally_countUnmatched (status : Status) (m : Metrics) :
    (countUnmatched status m).tally = { m.tally with
    notMatched := m.tally.notMatched + 1 } := by
  cases status with
  | booked =>
    simp only [countUnmatched, Metrics.tally]
    congr 1
    omega
  | pending => rfl

/-- A status that stays is not counted. -/
theorem tally_countStatusChange (before after : Status) (m : Metrics) :
    (countStatusChange before after m).tally =
      { m.tally with statusChanged := m.tally.statusChanged + if before = after then 0 else 1 } := by
  cases before <;> cases after
  case booked.booked => rfl
  case booked.pending => rfl
  case pending.pending => rfl
  case pending.booked =>
    simp only [countStatusChange, Metrics.tally, reduceCtorEq, if_false]
    congr 1
    omega

theorem tally_countKeyUpdate (changed : Bool) (m : Metrics) :
    (countKeyUpdate changed m).tally =
      { m.tally with keyUpdated := m.tally.keyUpdated + if changed = true then 1 else 0 } := by
  cases changed <;> rfl

/-! ## Steps -/

variable {now : DateTime} {p p' : Progress} {stored seen : List (Member Stored)}
  {batch : List (Member Reported)} {s : Member Stored} {found : Found}
  {m : Member Reported} {index : Index}

/-- The counters of a pass agree with the records that it has seen, with its
lists, and with the members that are still live. -/
structure Progress.Balances (p : Progress) (stored seen : List (Member Stored))
    (batch : List (Member Reported)) : Prop where
  storedTotal : p.metrics.tally.storedTotal = stored.length
  reportedTotal : p.metrics.tally.reportedTotal = batch.length
  seen : seen.length = p.metrics.tally.matched + p.metrics.tally.notMatched
  kept : p.metrics.tally.matched = p.toReinsert.length + p.toUpdate.length +
    p.toIgnore.length
  live : batch.length = p.index.members.length + p.metrics.tally.matched
  deleted : p.toDelete.length = p.metrics.tally.notMatched +
    p.metrics.tally.keyUpdated
  statuses : p.metrics.tally.statusChanged ≤ p.metrics.tally.keyUpdated

/-- A pass that has seen nothing yet balances. -/
theorem balances_start {provider : String} {x : Index}
    (hx : Index.ofBatch batch = .ok x) :
    (start provider stored.length x).Balances stored [] batch where
  storedTotal := rfl
  reportedTotal := by
    rw [← (Index.ofBatch_spec hx).2.1, List.length_map]
    rfl
  seen := rfl
  kept := rfl
  live := congrArg List.length (Index.ofBatch_spec hx).1.symm
  deleted := rfl
  statuses := Nat.le_refl 0

namespace Progress

/-- A record that gets a member is matched once. It is deleted where it is
counted as written again, and only then may it have changed its status. -/
theorem tally_taking (p : Progress) (s : Member Stored) (found : Found)
    (m : Member Reported) (index : Index) : ∃ again changed, changed ≤ again ∧
      (p.taking s found m index).metrics.tally = { p.metrics.tally with
        matched := p.metrics.tally.matched + 1
        keyUpdated := p.metrics.tally.keyUpdated + again
        statusChanged := p.metrics.tally.statusChanged + changed } ∧
      (p.taking s found m index).toDelete.length = p.toDelete.length +
        again := by
  have hchanged : (if s.record.status = m.record.status then 0 else 1) ≤
      if (m.record.date != s.record.date || m.record.status !=
        s.record.status) = true then 1 else 0 := by
    by_cases hstatus : s.record.status = m.record.status
    · rw [if_pos hstatus]
      exact Nat.zero_le _
    · have hkey : (m.record.status != s.record.status) = true := by
          simpa using Ne.symm hstatus
      rw [if_neg hstatus, hkey, Bool.or_true]
      exact Nat.le_refl 1
  refine ⟨_, _, hchanged, ?_, ?_⟩
  · simp only [taking, tally_countKeyUpdate, tally_countStatusChange,
      tally_countFound]
  · simp only [taking]
    split
    · exact List.length_append
    · rfl

/-- A step keeps the balance, whether it drops its record or takes a member for
it. -/
theorem Balances.step (h : p.Balances stored seen batch)
    (hstep : Heuristic.step now p s = .ok p') :
    p'.Balances stored (seen ++ [s]) batch := by
  obtain ⟨hstored, hreported, hseen, hkept, hlive, hdeleted, hstatuses⟩ := h
  rcases step_cases hstep with ⟨-, rfl⟩ | ⟨found, m, index, derived, same, -,
    hindex, -, -, hp'⟩
  · have htally := tally_countUnmatched s.record.status p.metrics
    refine ⟨?_, ?_, ?_, ?_, ?_, ?_, ?_⟩
    all_goals
      simp only [htally, List.length_append, List.length_singleton]
      omega
  · obtain ⟨again, changed, hle, htally, hdelete⟩ :=
      p.tally_taking s found m index
    have hleft := Index.members_length_of_remove hindex
    -- whichever list the record goes to, that list alone grows
    have hlists : p'.metrics = (p.taking s found m index).metrics ∧
        p'.index = index ∧ p'.toDelete = (p.taking s found m index).toDelete ∧
        p'.toReinsert.length + p'.toUpdate.length + p'.toIgnore.length =
          p.toReinsert.length + p.toUpdate.length + p.toIgnore.length + 1 := by
      rw [hp']
      split
      · refine ⟨rfl, rfl, rfl, ?_⟩
        simp only [taking, List.length_append, List.length_singleton]
        omega
      split
      · refine ⟨rfl, rfl, rfl, ?_⟩
        simp only [taking, List.length_append, List.length_singleton]
        omega
      · refine ⟨rfl, rfl, rfl, ?_⟩
        simp only [taking, List.length_append, List.length_singleton]
        omega
    obtain ⟨hmetrics, hindex', htoDelete, hgrown⟩ := hlists
    refine ⟨?_, ?_, ?_, ?_, ?_, ?_, ?_⟩
    all_goals
      simp only [hmetrics, htally, hindex', htoDelete, hdelete,
        List.length_append, List.length_singleton]
      omega

end Progress

/-- A pass over all records balances. -/
theorem decide_balances {provider : String}
    (h : decide now provider stored batch = .ok p) :
    p.Balances stored stored batch := by
  obtain ⟨x, hx, hpass⟩ := bind_eq_ok_iff.1 h
  exact foldlM_ok_induction hpass (fun seen q => q.Balances stored seen batch)
    (balances_start hx)
    fun _ _ _ _ hq hstep => hq.step hstep

end Heuristic

/-! ## The instruction -/

/-- The counters of an instruction for stored records and a batch balance: every
record is counted once, by how it was matched or as not matched; every member is
matched or new, and named once by the instruction; what is deleted was not
matched or is written again; and where a status changed, the record is written
again. -/
structure Metrics.Balance (m : Metrics) (i : Instruction)
    (stored : List (Member Stored)) (batch : List (Member Reported)) :
    Prop where
  storedTotal : m.storedTotal = stored.length
  stored : m.storedTotal = m.matchedByExternalId + m.matchedByAttributes +
    m.matchedOptimistically + m.bookedNotMatched + m.pendingNotMatched
  reportedTotal : m.reportedTotal = batch.length
  reported : m.reportedTotal =
    m.reportedNew + (m.matchedByExternalId + m.matchedByAttributes +
      m.matchedOptimistically)
  named : m.reportedTotal = i.toInsert.length + i.toUpdate.length +
    i.toIgnore.length
  deleted : i.toDelete.length = m.bookedNotMatched + m.pendingNotMatched +
    m.keyUpdated
  unchanged : m.reportedUnchanged = i.toIgnore.length
  statuses : m.pendingToBooked + m.bookedToPending ≤ m.keyUpdated

section Reconcile

variable {newId : Nat → String} {now : DateTime} {provider : String}
  {stored : List (Member Stored)} {batch : List (Member Reported)}
  {i : Instruction} {j j' : Journal}

/-- The counters of a reconciliation by external id and amount balance. -/
theorem reconcile_counters_balance
    (h : Returns (reconcileByIdAndAmount newId now provider stored batch)
      j i j') :
    ∃ m, i.metrics = some m ∧ m.Balance i stored batch := by
  simp only [reconcileByIdAndAmount, returns_bind, returns_ofExcept,
    returns_pure, returns_log] at h
  obtain ⟨p, _, ⟨hdecide, rfl⟩, fresh, _, hassign, _, _, rfl, rfl, rfl⟩ := h
  obtain ⟨hstored, hreported, hseen, hkept, hlive, hdeleted, hstatuses⟩ :=
    Heuristic.decide_balances hdecide
  have hfresh : fresh.length = p.index.members.length := by
    rw [← (returns_assignFresh hassign).1, List.length_map]
  simp only [Metrics.tally]
    at hstored hreported hseen hkept hlive hdeleted hstatuses
  refine ⟨_, rfl, ?_⟩
  constructor
  case storedTotal => exact hstored
  case reportedTotal => exact hreported
  case deleted => exact hdeleted
  case unchanged => rfl
  case statuses => exact hstatuses
  all_goals
    simp only [Heuristic.Progress.instruction, List.length_append]
    omega

/-- A payment that was moved by a day, one under another id, and two that cannot
be told apart. -/
def Sample.counted : List (Member Reported) :=
  let twin := { Sample.reported "" "rye" (Sample.day 7) with
    externalId := none }
  Member.ofList
    [Sample.reported "x" "tea" (Sample.day 3),
      Sample.reported "y" "milk" (Sample.day 5), twin, twin]

/-- A row for each way to be matched, the first of them pending, and two rows
without a counterpart. -/
def Sample.countedRows : List (Member Stored) :=
  Member.ofList [
    { Sample.stored "r1" "x" "tea" (Sample.day 2) with status := .pending },
    Sample.stored "r2" "z" "rye" (Sample.day 1),
    { Sample.stored "r3" "w" "rye" (Sample.day 4) with status := .pending },
    Sample.stored "r4" "p" "milk" (Sample.day 5),
    Sample.stored "r5" "q" "rye" (Sample.day 7)]

/-- What each counter of that reconciliation shows. -/
def Sample.countedCounters : List (String × Nat) := [
  ("upstream_total", 4), ("upstream_new", 1), ("upstream_unchanged", 0),
  ("stored_total", 5),
  ("stored_matched_by_external_id", 1),
  ("stored_matched_by_attributes_unique", 1),
  ("stored_matched_by_attributes_optimistic", 1),
  ("stored_booked_not_matched", 1),
  ("stored_pending_not_matched", 1), ("stored_primary_key_updated", 1),
  ("stored_pending_to_booked", 1),
  ("stored_booked_to_pending", 0), ("stored_window_date_fallbacks", 0),
  ("upstream_quality_missing_external_ids", 2),
    ("upstream_quality_duplicate_external_ids", 0)]

theorem counted_counters_balance :
    ∃ i j', Returns (reconcileByIdAndAmount Sample.newId Sample.now "BANK"
      Sample.countedRows
        Sample.counted) .empty i j' ∧
      ∃ m, i.metrics = some m ∧ m.counters = Sample.countedCounters ∧
        m.Balance i Sample.countedRows Sample.counted := by
  let run : Run Instruction :=
    reconcileByIdAndAmount Sample.newId Sample.now "BANK" Sample.countedRows
      Sample.counted
  have hrun : (run.run.run .empty).1 =
      .ok ((run.run.run .empty).1.toOption.getD .empty) := by
    decide +kernel
  have hcounters : ((run.run.run .empty).1.toOption.getD .empty).metrics.map
      (·.counters) = some Sample.countedCounters := by decide +kernel
  obtain ⟨m, hm, hbalance⟩ := reconcile_counters_balance (returns_of_run hrun)
  rw [hm] at hcounters
  exact ⟨_, _, returns_of_run hrun, m, hm, Option.some.inj hcounters, hbalance⟩

end Reconcile

end LedgerSync
