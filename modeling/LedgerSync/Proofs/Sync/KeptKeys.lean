import LedgerSync.Proofs.Matching.ComparedFields
import LedgerSync.Proofs.Sync.Agreement
import LedgerSync.Proofs.Transaction.Unchanged

/-!
# What a reconciliation by a chain keeps of its rows

Whatever a reconciliation by a chain writes under the id of a row, or leaves in
it, belongs to a pair that the chain made, and every pair has a row of its own.
The matchers of the built-in providers compare the external id and the amount,
whatever else they compare, so a row keeps its external id and its amount in
cents (`ChainSync.instructionByChain_keeps_keys`).
-/

namespace LedgerSync

open Run Matching

namespace Matching

/-- The reported transaction of a pair under the id of its row. -/
def Matched.assigned (p : Matched) : Assigned :=
  ⟨p.reported, p.stored.record.id, .regular⟩

/-- Row and transaction of a pair have one external id, or both none, and one
amount in cents. So has the row whatever is derived for it from the
transaction. -/
structure Matched.KeepsKeys (p : Matched) : Prop where
  externalId : p.reported.record.externalId = p.stored.record.externalId
  cents : ∃ n, p.reported.record.cents = .ok n ∧ p.stored.record.cents = .ok n
  derived : ∀ account currency createdAt now d,
    p.assigned.toStored account currency createdAt now = .ok d →
    d.id = p.stored.record.id ∧
      d.externalId = p.stored.record.externalId ∧
      d.cents = p.stored.record.cents

/-- A pair that a chain makes keeps its keys, if all matchers compare the
external id and the amount. -/
theorem MatchResult.keepsKeys_of_playAll {ms : List Matcher}
    {reported : List (Member Reported)} {stored : List (Member Stored)}
    {final : MatchResult}
    (hms : ∀ m ∈ ms, m.Compares .externalId ∧ m.Compares .amount)
    (h : playAll ms (.start reported stored) = .ok final) {p : Matched}
    (hp : p ∈ final.matched) : p.KeepsKeys := by
  obtain ⟨a, b, ha, hb, hsame⟩ :=
    same_of_playAll (fun m hm => (hms m hm).1) h hp
  obtain ⟨a', b', ha', hb', hsame'⟩ :=
    same_of_playAll (fun m hm => (hms m hm).2) h hp
  have hid : p.reported.record.externalId = p.stored.record.externalId :=
    Field.externalId_eq_of_same ha hb hsame
  obtain ⟨n, hn, hn'⟩ : ∃ n, p.reported.record.cents = .ok n ∧
      p.stored.record.cents = .ok n :=
    Field.cents_eq_of_same ha' hb' hsame'
  refine ⟨hid, ⟨n, hn, hn'⟩, fun account currency createdAt now d hd => ?_⟩
  have hmirrors := Reported.mirrors_of_toStored hd
  exact ⟨(Reported.toStored_identity hd).1, hmirrors.externalId.trans hid,
    hmirrors.cents.trans (hn.trans hn'.symm)⟩

end Matching

namespace ChainSync

/-- Images in another order are the images of the elements in another order. -/
theorem exists_map_eq_of_perm {α β : Type} {f : α → β} {l : List α}
    {l' : List β} (h : l'.Perm (l.map f)) :
    ∃ k : List α, l' = k.map f ∧ k.Perm l := by
  have hall : List.Forall₂ (fun b a => b = f a) (l.map f) l :=
    List.forall₂_map_left_iff.2 (List.forall₂_same.2 fun _ _ => rfl)
  obtain ⟨k, hk, hperm⟩ := List.perm_comp_forall₂ h hall
  exact ⟨k, List.forall₂_eq_eq_eq ▸ List.forall₂_map_right_iff.2 hk, hperm⟩

/-- What the plan of some pairs keeps under the ids of rows are the pairs. -/
theorem assigned_planOf {now : DateTime} {pairs : List Matched}
    {ds : List Decided} (h : pairs.mapM (decidePair now) = .ok ds) :
    (planOf ds).assigned = pairs.map Matched.assigned := by
  obtain ⟨rfl, hds⟩ := decided_of_mapM h
  rw [planOf, Plan.assigned, List.filterMap_map, List.map_map,
    ← List.filterMap_eq_map]
  refine List.filterMap_congr fun d hd => ?_
  obtain ⟨-, -, hmember, -⟩ := decidePair_spec (hds d hd)
  show d.fate.member?.map _ = _
  rw [hmember]
  rfl

/-- A reconciliation by the chain of a built-in provider that returns writes or
leaves, under the ids of rows, its matched pairs and nothing else: what it moves
to another date, what it updates, and what it ignores. Each pair has a row of
its own, and the row keeps its external id and its amount in cents. -/
theorem instructionByChain_keeps_keys {newId : Nat → String} {now : DateTime}
    {backfillWindowDays : Int} {provider : Provider} {account : Option Uuid}
    {reported : List (Member Reported)} {stored : List (Member Stored)}
    {i : Instruction} {j j' : Journal}
    (hprovider : provider ∈ Registry.builtIn.providers)
    (h : Returns (instructionByChain newId now backfillWindowDays provider
    account reported stored) j i j') :
    ∃ w results j₁ j₂, Returns (cut provider reported stored) j w j₁ ∧
      Returns (provider.reconcile w.reported w.stored) j₁ results j₂ ∧
      ∃ (pairs : List Matched) (moved fresh : List Assigned),
      i.Inserts newId j j' moved fresh ∧ pairs.Perm results.last.matched ∧
        moved ++ i.toUpdate ++ i.toIgnore = pairs.map Matched.assigned ∧
        (pairs.map (·.stored)).Subperm stored ∧ ∀ p ∈ pairs, p.KeepsKeys := by
  obtain ⟨c, recent, history, htakes, rfl, hinserts, -⟩ := inserts_of_returns h
  obtain ⟨j₁, hcut⟩ := htakes.cuts.returns j
  obtain ⟨j₂, hresults⟩ := reconcile_of_links htakes.links j₁
  have hplayed := playAll_of_links htakes.links
  have hentries : (c.plan.select Fate.isMoved ++ c.plan.select Fate.isUpdated ++
      c.plan.select Fate.isIgnored).Perm
        (c.results.last.matched.map Matched.assigned) :=
    (Plan.select_perm_assigned _).trans
      (.of_eq (assigned_planOf htakes.decided))
  obtain ⟨pairs, hpairs, hperm⟩ := exists_map_eq_of_perm hentries
  have hstored : (pairs.map (·.stored)).Subperm stored := by
    have hmatched := MatchResult.playAll_start_stored_perm hplayed
    have hwindow := Window.truncate_sublist htakes.cuts.stored
    exact (hperm.map _).subperm.trans
      ((List.sublist_append_left _ _).subperm.trans
        (hmatched.subperm.trans hwindow.subperm))
  exact ⟨c.window, c.results, j₁, j₂, hcut, hresults, pairs, _, _, hinserts,
    hperm, hpairs, hstored,
    fun p hp => MatchResult.keepsKeys_of_playAll (fun m =>
      compares_of_builtIn hprovider) hplayed (hperm.subset hp)⟩

end ChainSync

/-- One transaction of the batch moves to another day, one has got another
description, and one is known. -/
theorem overlapping_keeps_keys :
    ∃ i j', Returns Sample.overlappingByChain .empty i j' ∧
      i.toDelete.length = 1 ∧ i.toUpdate.length = 1 ∧ i.toIgnore.length = 1 ∧
      ∃ (pairs : List Matched) (moved fresh : List Assigned),
        i.Inserts Sample.newId .empty j' moved fresh ∧
        moved ++ i.toUpdate ++ i.toIgnore = pairs.map Matched.assigned ∧
        (pairs.map (·.stored)).Subperm Sample.overlappingRows ∧ ∀ p ∈ pairs,
        p.KeepsKeys := by
  have hrun : (Sample.overlappingByChain.run.run .empty).1 =
      .ok ((Sample.overlappingByChain.run.run .empty).1.toOption.getD
        .empty) := by decide +kernel
  obtain ⟨w, results, j₁, j₂, -, -, pairs, moved, fresh, hinserts, -, hpairs,
    hstored, hkeeps⟩ :=
    ChainSync.instructionByChain_keeps_keys Sample.bank_mem
      (returns_of_run hrun)
  exact ⟨_, _, returns_of_run
    hrun, by decide +kernel, by decide +kernel, by decide +kernel, pairs, moved,
    fresh, hinserts, hpairs, hstored, hkeeps⟩

end LedgerSync
