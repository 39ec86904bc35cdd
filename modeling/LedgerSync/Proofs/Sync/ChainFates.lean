import LedgerSync.Proofs.Run
import LedgerSync.Proofs.Store.Plan

/-!
# What becomes of matched pairs

A reconciliation by a chain decides its matched pairs one after the other, but
no decision looks at another one (`decidePair`). So the loop over the pairs
succeeds when every pair can be decided, and what it has built then is read off
the list of decisions (`foldlM_step_eq_ok_iff`): the counters by counting them,
the four lists from their plan (`planOf`).

A row that is deleted is always moved, to another date (`decidePair_spec`).
-/

namespace LedgerSync.ChainSync

open Matching

/-- A matched pair and the fate of its row. -/
structure Decided where
  pair : Matched
  fate : Fate

/-- Decides one pair. -/
def decidePair (now : DateTime) (pair : Matched) : Except Failure Decided := do
  let record := pair.stored.record
  let derived ← pair.reported.record.toStored ⟨record.userId,
    record.accountId⟩ record.id record.currency .regular record.createdAt now
  if ← derived.same record then return ⟨pair, .ignored pair.reported⟩
  else if derived.date ≠ record.date then return ⟨pair, .moved pair.reported⟩
  else return ⟨pair, .updated pair.reported false⟩

/-- Counts a pair that was decided. -/
def countDecided (m : Metrics) (d : Decided) : Metrics :=
  let counted := countMatched d.pair.matcher m
  if d.fate.isMoved then { counted with keyUpdated := counted.keyUpdated + 1 }
  else counted

/-- The plan of pairs that were decided. -/
def planOf (ds : List Decided) : Plan := ds.map fun d => ⟨d.pair.stored, d.fate⟩

/-- The progress after some pairs were decided. -/
def Progress.after (p : Progress) (ds : List Decided) : Progress where
  metrics := ds.foldl countDecided p.metrics
  toDelete := p.toDelete ++ (planOf ds).deletes
  toReinsert := p.toReinsert ++ (planOf ds).select Fate.isMoved
  toUpdate := p.toUpdate ++ (planOf ds).select Fate.isUpdated
  toIgnore := p.toIgnore ++ (planOf ds).select Fate.isIgnored

variable {now : DateTime} {p p' : Progress} {pair : Matched}
  {pairs : List Matched} {d : Decided} {ds : List Decided}

theorem planOf_append (ds ds' : List Decided) :
    planOf (ds ++ ds') = planOf ds ++ planOf ds' :=
  List.map_append

theorem Progress.after_nil (p : Progress) : p.after [] = p := by
  simp [after, planOf, Plan.deletes, Plan.select]

theorem Progress.after_append (p : Progress) (ds ds' : List Decided) :
    p.after (ds ++ ds') = (p.after ds).after ds' := by
  simp [after, planOf_append]

/-! ## One pair -/

/-- What a decision says: the row has a fate that suits it, for the transaction
of the pair. It is deleted only to be moved to another date. -/
theorem decidePair_spec (h : decidePair now pair = .ok d) :
    d.pair = pair ∧ d.fate.Suits pair.stored.record ∧
    d.fate.member? = some pair.reported ∧
      (d.fate.isDeleted = true → d.fate = .moved pair.reported ∧
        pair.reported.record.date ≠ pair.stored.record.date) := by
  unfold decidePair at h
  obtain ⟨derived, hderived, h⟩ := bind_eq_ok_iff.1 h
  obtain ⟨same, hsame, h⟩ := bind_eq_ok_iff.1 h
  have hdate := (Reported.toStored_identity hderived).2.1
  cases same with
  | true =>
    obtain rfl := pure_eq_ok_iff.1 h
    exact ⟨rfl, ⟨_, _, _, derived, hderived, hsame⟩, rfl,
      fun hdeleted => by cases hdeleted⟩
  | false =>
    rw [if_neg Bool.false_ne_true] at h
    split at h
    · next hchanged =>
      obtain rfl := pure_eq_ok_iff.1 h
      exact ⟨rfl, trivial, rfl, fun _ => ⟨rfl, hdate ▸ hchanged⟩⟩
    · next hchanged =>
      obtain rfl := pure_eq_ok_iff.1 h
      have hsuits : pair.reported.record.date = pair.stored.record.date :=
        hdate.symm.trans (not_not.1 hchanged)
      exact ⟨rfl, hsuits, rfl, fun hdeleted => by cases hdeleted⟩

/-- What an ignored row adds to the progress. -/
theorem Progress.after_ignored (p : Progress) (pair : Matched) :
    p.after [⟨pair, .ignored pair.reported⟩] = { p with
      metrics := countMatched pair.matcher p.metrics
      toIgnore := p.toIgnore ++
        [⟨pair.reported, pair.stored.record.id, .regular⟩] } := by
  have hnone : p.after [⟨pair, .ignored pair.reported⟩] = {
      metrics := countMatched pair.matcher p.metrics
      toDelete := p.toDelete ++ [], toReinsert := p.toReinsert ++ [],
      toUpdate := p.toUpdate ++ []
      toIgnore := p.toIgnore ++
        [⟨pair.reported, pair.stored.record.id, .regular⟩] } := rfl
  rw [hnone, List.append_nil, List.append_nil, List.append_nil]

/-- What a moved row adds to the progress. -/
theorem Progress.after_moved (p : Progress) (pair : Matched) :
    p.after [⟨pair, .moved pair.reported⟩] =
      let metrics := countMatched pair.matcher p.metrics
      { p with
        metrics := { metrics with keyUpdated := metrics.keyUpdated + 1 }
        toDelete := p.toDelete ++ [pair.stored]
        toReinsert := p.toReinsert ++
          [⟨pair.reported, pair.stored.record.id, .regular⟩] } := by
  have hnone : p.after [⟨pair, .moved pair.reported⟩] =
      let metrics := countMatched pair.matcher p.metrics
      { metrics := { metrics with keyUpdated := metrics.keyUpdated + 1 }
        toDelete := p.toDelete ++ [pair.stored]
        toReinsert := p.toReinsert ++
        [⟨pair.reported, pair.stored.record.id, .regular⟩]
        toUpdate := p.toUpdate ++ [], toIgnore := p.toIgnore ++ [] } := rfl
  rw [hnone, List.append_nil, List.append_nil]

/-- What an updated row adds to the progress. -/
theorem Progress.after_updated (p : Progress) (pair : Matched) :
    p.after [⟨pair, .updated pair.reported false⟩] = { p with
      metrics := countMatched pair.matcher p.metrics
      toUpdate := p.toUpdate ++
        [⟨pair.reported, pair.stored.record.id, .regular⟩] } := by
  have hnone : p.after [⟨pair, .updated pair.reported false⟩] = {
      metrics := countMatched pair.matcher p.metrics
      toDelete := p.toDelete ++ [], toReinsert := p.toReinsert ++ []
      toUpdate := p.toUpdate ++
      [⟨pair.reported, pair.stored.record.id, .regular⟩]
      toIgnore := p.toIgnore ++ [] } := rfl
  rw [hnone, List.append_nil, List.append_nil, List.append_nil]

/-- A step of the loop adds the decision about its pair. -/
theorem step_eq (now : DateTime) (p : Progress) (pair : Matched) :
    step now p pair = (decidePair now pair).map fun d => p.after [d] := by
  unfold step decidePair Assigned.toStored
  dsimp only
  cases pair.reported.record.toStored ⟨pair.stored.record.userId,
    pair.stored.record.accountId⟩
    pair.stored.record.id pair.stored.record.currency .regular
      pair.stored.record.createdAt now with
  | error e => rfl
  | ok derived =>
    simp only [bind, Except.bind]
    cases derived.same pair.stored.record with
    | error e => rfl
    | ok same =>
      cases same with
      | true =>
        show _ = Except.ok (p.after [⟨pair, .ignored pair.reported⟩])
        rw [p.after_ignored]
        rfl
      | false =>
        dsimp only
        by_cases hchanged : derived.date ≠ pair.stored.record.date
        · simp only [if_pos hchanged, if_neg Bool.false_ne_true]
          show _ = Except.ok (p.after [⟨pair, .moved pair.reported⟩])
          rw [p.after_moved]
          rfl
        · simp only [if_neg hchanged, if_neg Bool.false_ne_true]
          show _ = Except.ok (p.after [⟨pair, .updated pair.reported false⟩])
          rw [p.after_updated]
          rfl

/-! ## All pairs -/

/-- The loop over the pairs succeeds when every pair can be decided, and adds
all decisions. -/
theorem foldlM_step_eq_ok_iff :
    pairs.foldlM (step now) p = .ok p' ↔
      ∃ ds, pairs.mapM (decidePair now) = .ok ds ∧ p' = p.after ds := by
  induction pairs generalizing p with
  | nil =>
    rw [List.foldlM_nil, List.mapM_nil, pure_eq_ok_iff]
    simp only [pure_eq_ok_iff, exists_eq_left, p.after_nil]
  | cons pair pairs ih =>
    rw [List.foldlM_cons, bind_eq_ok_iff, step_eq]
    constructor
    · rintro ⟨q, hstep, hrest⟩
      obtain ⟨ds, hds, rfl⟩ := ih.1 hrest
      cases hd : decidePair now pair with
      | error e =>
        rw [hd] at hstep
        cases hstep
      | ok d =>
        rw [hd] at hstep
        obtain rfl := Except.ok.inj hstep
        refine ⟨d :: ds, ?_, (p.after_append [d] ds).symm⟩
        exact mapM_eq_ok_iff.2 (.cons hd (mapM_eq_ok_iff.1 hds))
    · rintro ⟨ds, hds, rfl⟩
      obtain ⟨d, rest, hd, hrest, rfl⟩ :=
        List.forall₂_cons_left_iff.1 (mapM_eq_ok_iff.1 hds)
      refine ⟨p.after [d], by rw [hd]; rfl, ih.2 ⟨rest, mapM_eq_ok_iff.2 hrest, ?_⟩⟩
      exact p.after_append [d] rest

/-- Every decision is one about its own pair. -/
theorem decided_of_mapM (h : pairs.mapM (decidePair now) = .ok ds) :
    ds.map (·.pair) = pairs ∧ ∀ d ∈ ds, decidePair now d.pair = .ok d := by
  have hall := mapM_eq_ok_iff.1 h
  clear h
  induction hall with
  | nil => exact ⟨rfl, fun _ hd => absurd hd List.not_mem_nil⟩
  | cons hd _ ih =>
    obtain ⟨hpairs, hds⟩ := ih
    obtain ⟨rfl, -⟩ := decidePair_spec hd
    exact ⟨by rw [List.map_cons, hpairs], List.forall_mem_cons.2 ⟨hd, hds⟩⟩

/-- The decisions about some pairs are a plan for their rows and
transactions. -/
theorem planOf_spec (h : pairs.mapM (decidePair now) = .ok ds) :
    (planOf ds).Tracks (pairs.map (·.stored)) (planOf ds).deletes
    ((planOf ds).select Fate.isMoved)
        ((planOf ds).select Fate.isUpdated)
          ((planOf ds).select Fate.isIgnored) ∧
      (planOf ds).members = pairs.map (·.reported) ∧
      ∀ e ∈ planOf ds, e.fate.isDeleted = true →
        ∃ m, e.fate = .moved m ∧ m.record.date ≠ e.row.record.date := by
  obtain ⟨rfl, hds⟩ := decided_of_mapM h
  refine ⟨⟨?_, ?_, rfl, rfl, rfl, rfl⟩, ?_, ?_⟩
  · rw [planOf, List.map_map, List.map_map]
    rfl
  · intro e he
    obtain ⟨d, hd, rfl⟩ := List.mem_map.1 he
    exact (decidePair_spec (hds d hd)).2.1
  · rw [planOf, Plan.members, List.filterMap_map, List.map_map,
      ← List.filterMap_eq_map]
    exact List.filterMap_congr fun d hd => (decidePair_spec (hds d hd)).2.2.1
  · intro e he hdeleted
    obtain ⟨d, hd, rfl⟩ := List.mem_map.1 he
    obtain ⟨hmoved, hdate⟩ := (decidePair_spec (hds d hd)).2.2.2 hdeleted
    exact ⟨_, hmoved, hdate⟩

/-- An entry of the plan is for the row of a pair, and for its transaction. -/
theorem pair_of_mem_planOf (h : pairs.mapM (decidePair now) = .ok ds)
    {e : Planned} (he : e ∈ planOf ds) :
    ∃ x ∈ pairs, e.row = x.stored ∧ e.fate.member? = some x.reported := by
  obtain ⟨rfl, hds⟩ := decided_of_mapM h
  obtain ⟨d, hd, rfl⟩ := List.mem_map.1 he
  exact ⟨d.pair, List.mem_map_of_mem hd, rfl,
    (decidePair_spec (hds d hd)).2.2.1⟩

/-- What is moved keeps the ids of what is deleted. -/
theorem moved_ids (h : pairs.mapM (decidePair now) = .ok ds) :
    ((planOf ds).select Fate.isMoved).map (·.id) = (planOf ds).deletes.map
    (·.record.id) := by
  obtain ⟨-, -, hmoved⟩ := planOf_spec h
  refine Plan.moved_ids fun e he hdeleted => ?_
  obtain ⟨m, hfate, -⟩ := hmoved e he hdeleted
  rw [hfate]
  rfl

end LedgerSync.ChainSync
