import LedgerSync.Proofs.Sync.MatchSoundness
import LedgerSync.Proofs.Transaction.KeptAlike

/-!
# Optimistic picks

Where several live members are left for a record after all narrowing, the first
one is taken, and counted as an optimistic pick. Narrowing looks at amount,
date, status and description. Storage keeps more than these, so what is left may
still be told apart by the records that it gives: by the merchant, say, or by
the part of the amount that is less than a cent.

A pick is without significance exactly where storage keeps the same of all
members that are left (`reconcile_picks_optimistically`), and a run need not
have it so (`not_always_insignificant`).
-/

namespace LedgerSync

open Run Heuristic

namespace Stage

/-- All members that are left for the record would give equal records in its
place. -/
def Insignificant (stage : Stage) (now : DateTime) : Prop :=
  ∀ m ∈ stage.row.record.survivors stage.live,
    ∀ m' ∈ stage.row.record.survivors stage.live,
    stage.row.record.SameRecords now m.record m'.record

/-- Storage keeps the same of all members that are left for the record. -/
def LeavesAlike (stage : Stage) : Prop :=
  ∀ m ∈ stage.row.record.survivors stage.live,
    ∀ m' ∈ stage.row.record.survivors stage.live, m.record.KeptAlike m'.record

end Stage

namespace Stored

variable {s : Stored} {live : List (Member Reported)}

/-- An optimistic pick is the first member that is left. -/
theorem choice_of_picksOptimistically (h : s.picksOptimistically live = true) :
    (s.choice live).map (·.2) = (s.survivors live).head? := by
  obtain ⟨hnone, hseveral⟩ := Bool.and_eq_true_iff.1 h
  rw [List.isEmpty_iff] at hnone
  rw [decide_eq_true_iff] at hseveral
  unfold choice
  rw [hnone]
  match hsurvivors : s.survivors live with
  | [] =>
    rw [hsurvivors] at hseveral
    exact absurd hseveral (by decide)
  | [m] =>
    rw [hsurvivors] at hseveral
    exact absurd hseveral (by simp)
  | m :: m' :: rest => rfl

/-- Members that are left for a record have its date. -/
theorem date_of_survivor {m : Member Reported} (h : m ∈ s.survivors live) :
    m.record.date = s.date := by
  obtain ⟨-, hcontent⟩ := List.mem_filter.1 (s.survivors_subset live h)
  simp only [Reported.sharesContent, Bool.and_eq_true, beq_iff_eq] at hcontent
  exact hcontent.1.1

end Stored

/-- Members that are left are without significance exactly where storage keeps
the same of them. -/
theorem Stage.insignificant_iff (stage : Stage) (now : DateTime) :
    stage.Insignificant now ↔ stage.LeavesAlike := by
  refine forall₂_congr fun m hm => forall₂_congr fun m' hm' => ?_
  exact Stored.sameRecords_iff
    ((Stored.date_of_survivor hm).trans (Stored.date_of_survivor hm').symm)

section Reconcile

variable {newId : Nat → String} {now : DateTime} {provider : String}
  {stored : List (Member Stored)} {batch : List (Member Reported)}
  {i : Instruction} {j j' : Journal}

/-- A reconciliation by external id and amount counts its optimistic picks. Each
is the first member that is left for the record, and which one is picked has no
significance exactly where storage keeps the same of all that are left. -/
theorem reconcile_picks_optimistically (hcoherent : Member.Coherent batch)
    (h : Returns (reconcileByIdAndAmount newId now provider stored batch) j i
      j') :
    ∃ (plan : Plan) (moved fresh : List Assigned),
      plan.Tracks stored i.toDelete moved i.toUpdate i.toIgnore ∧
      i.toInsert = moved ++ fresh ∧ fresh.map (·.member) = plan.leaves batch ∧
      i.metrics.map (·.matchedOptimistically) =
        some ((plan.stages batch).countP (·.isOptimistic)) ∧
      ∀ stage ∈ plan.stages batch, stage.isOptimistic = true →
        stage.fate.member? = (stage.row.record.survivors stage.live).head? ∧
          (stage.Insignificant now ↔ stage.LeavesAlike) := by
  obtain ⟨p, plan, fresh, hfollows, rfl, hfresh⟩ := reconcile_stages hcoherent h
  refine ⟨plan, p.toReinsert, fresh, hfollows.tracks, rfl, hfresh, ?_, ?_⟩
  · rw [← hfollows.optimistic]
    rfl
  · intro stage hstage hoptimistic
    refine ⟨?_, stage.insignificant_iff now⟩
    rw [hfollows.chosen stage hstage]
    exact Stored.choice_of_picksOptimistically hoptimistic

/-- A payment without an external id at some merchant. -/
def Sample.unnamed (merchant : String) : Reported :=
  { Sample.reported "" "tea" (Sample.day 3) with
    externalId := none, merchant := some merchant }

/-- The row of such a payment. -/
def Sample.unnamedRow (merchant : String) : Member Stored :=
  ⟨0, { Sample.stored "r1" "" "tea" (Sample.day 3) with
    externalId := none, merchant := some merchant }⟩

theorem twins_picked_optimistically :
    ∃ (plan : Plan) (i : Instruction) (moved fresh : List Assigned),
      i.metrics.map (·.matchedOptimistically) = some 1 ∧
      plan.Tracks [Sample.unnamedRow "A"] i.toDelete moved i.toUpdate
        i.toIgnore ∧
      i.toInsert = moved ++ fresh ∧
      fresh.map (·.member) =
        plan.leaves (Member.ofList [Sample.unnamed "A", Sample.unnamed "A"]) ∧
      i.metrics.map (·.matchedOptimistically) =
        some ((plan.stages
          (Member.ofList [Sample.unnamed "A", Sample.unnamed "A"])).countP
          (·.isOptimistic)) ∧
      ∀ stage ∈ plan.stages
        (Member.ofList [Sample.unnamed "A", Sample.unnamed "A"]),
        stage.isOptimistic = true →
          stage.fate.member? = (stage.row.record.survivors stage.live).head? ∧
            (stage.Insignificant Sample.now ↔ stage.LeavesAlike) := by
  let run : Run Instruction :=
    reconcileByIdAndAmount Sample.newId Sample.now "BANK"
    [Sample.unnamedRow "A"]
      (Member.ofList [Sample.unnamed "A", Sample.unnamed "A"])
  have hrun : (run.run.run .empty).1 =
      .ok ((run.run.run .empty).1.toOption.getD .empty) := by
    decide +kernel
  have hcoherent : Member.Coherent
      (Member.ofList [Sample.unnamed "A", Sample.unnamed "A"]) := by
    unfold Member.Coherent
    decide +kernel
  obtain ⟨plan, moved, fresh, hpicks⟩ :=
    reconcile_picks_optimistically hcoherent (returns_of_run hrun)
  exact ⟨plan, _, moved, fresh, by decide +kernel, hpicks⟩

/-- Two payments at different merchants are both left for a row, and the records
that they would give in its place are different. -/
theorem not_always_insignificant :
    ¬∀ (newId : Nat → String) (now : DateTime) (provider : String)
      (stored : List (Member Stored))
      (batch : List (Member Reported)) (i : Instruction) (j j' : Journal),
      Member.Coherent batch →
      Returns (reconcileByIdAndAmount newId now provider stored batch) j i j' →
      ∃ (plan : Plan) (moved : List Assigned),
        plan.Tracks stored i.toDelete moved i.toUpdate i.toIgnore ∧
        ∀ stage ∈ plan.stages batch, stage.isOptimistic = true →
        stage.Insignificant now := by
  intro hall
  let batch := Member.ofList [Sample.unnamed "A", Sample.unnamed "B"]
  let run : Run Instruction :=
    reconcileByIdAndAmount Sample.newId Sample.now "BANK"
      [Sample.unnamedRow "B"] batch
  have hrun : (run.run.run .empty).1 =
      .ok ((run.run.run .empty).1.toOption.getD .empty) := by
    decide +kernel
  have hcoherent : Member.Coherent batch := by
    unfold Member.Coherent
    decide +kernel
  obtain ⟨plan, moved, htracks, hstages⟩ :=
    hall _ _ _ _ _ _ _ _ hcoherent (returns_of_run hrun)
  have hoptimistic : (Sample.unnamedRow "B").record.picksOptimistically batch =
      true := by
    decide +kernel
  have hsurvivors : (Sample.unnamedRow "B").record.survivors batch = batch := by
      decide +kernel
  -- the plan is for one row, whose stage comes with the whole batch
  obtain ⟨e, rest, rfl, hrow, -⟩ := List.map_eq_cons_iff.1 htracks.seen
  have hsame := hstages ⟨e, batch⟩ List.mem_cons_self
  unfold Stage.isOptimistic Stage.Insignificant at hsame
  simp only [hrow, hsurvivors] at hsame
  have hdifferent := Stored.keptAlike_of_sameRecords (hsame hoptimistic
    ⟨0, Sample.unnamed "A"⟩ List.mem_cons_self ⟨1, Sample.unnamed "B"⟩
    (List.mem_cons_of_mem _ List.mem_cons_self))
  exact absurd hdifferent.merchant (by decide)

end Reconcile

end LedgerSync
