import LedgerSync.Proofs.Store.Records
import LedgerSync.Proofs.Sync.LiveMembers

/-!
# Reconciling by external id and amount, as a plan

One step of the heuristic decides one stored record: it drops the record, or
takes one live member out of the index and ignores, updates or moves the record
for it (`step_decides`). A whole pass is therefore a plan for the stored
records, and the members it took together with those that are left are the batch
(`decide_plan`). The members that are left get fresh ids, so the instruction
carries the plan out (`carriesOut_of_reconcile`), and applying it leaves one
record for every member of the batch.
-/

namespace LedgerSync

open Run

namespace Heuristic

variable {x : Index} {s : Stored} {m : Member Reported} {now : DateTime}

/-! ## The counterpart is a member of the batch -/

theorem mem_of_findM? {α ε : Type} {f : α → Except ε Bool} {l : List α} {a : α}
    (h : l.findM? f = .ok (some a)) : a ∈ l := by
  induction l with
  | nil => cases h
  | cons b l ih =>
    rw [List.findM?, bind_eq_ok_iff] at h
    obtain ⟨found, -, h⟩ := h
    cases found with
    | true =>
      cases h
      exact List.mem_cons_self
    | false => exact List.mem_cons_of_mem _ (ih h)

theorem mem_of_amongSameId {candidates : List (Member Reported)}
    (h : amongSameId s candidates = .ok (some m)) : m ∈ candidates := by
  unfold amongSameId at h
  split at h
  · cases h
    exact List.mem_cons_self
  · obtain ⟨cents, -, h⟩ := bind_eq_ok_iff.1 h
    obtain ⟨best, hexact, h⟩ := bind_eq_ok_iff.1 h
    have hchoice := pure_eq_ok_iff.1 h
    cases best with
    | some m' =>
      cases hchoice
      exact (List.mem_filter.1 (mem_of_findM? hexact)).1
    | none => exact (List.mem_filter.1 (List.mem_of_mem_head? hchoice.symm)).1

theorem attributeCandidates_subset (s : Stored)
    (sameCents : List (Member Reported)) :
    attributeCandidates s sameCents ⊆ sameCents := by
  unfold attributeCandidates
  dsimp only
  split
  · exact List.nil_subset _
  · next heq => exact heq ▸ List.filter_subset_self _
  · exact fun m hm => List.filter_subset_self _ (List.filter_subset_self _ hm)

theorem mem_of_counterpart {found : Found}
    (h : counterpart x s = .ok (some (found, m))) :
    m ∈ x.arena.map (·.member) := by
  unfold counterpart at h
  split at h
  · obtain ⟨cents, -, h⟩ := bind_eq_ok_iff.1 h
    have hsub := attributeCandidates_subset s (x.withCents cents)
    split at h
    · cases h
    · next heq =>
      cases h
      exact x.membersAt_subset _ (hsub (heq ▸ List.mem_cons_self))
    · next heq =>
      cases h
      exact x.membersAt_subset _ (hsub (heq ▸ List.mem_cons_self))
  · obtain ⟨choice, hchoice, h⟩ := bind_eq_ok_iff.1 h
    obtain ⟨m', rfl, heq⟩ := Option.map_eq_some_iff.1 (pure_eq_ok_iff.1 h).symm
    cases heq
    exact x.withExternalId_subset _ (mem_of_amongSameId hchoice)

/-! ## Steps -/

/-- How much a choice adds to the counter of optimistic picks. -/
def optimism : Option (Found × Member Reported) → Nat
  | some (.optimistically, _) => 1
  | _ => 0

theorem matchedOptimistically_countUnmatched (status : Status)
    (metrics : Metrics) :
    (countUnmatched status metrics).matchedOptimistically =
      metrics.matchedOptimistically := by
  cases status <;> rfl

/-- Whatever else a match adds to the counters, an optimistic pick counts
once. -/
theorem matchedOptimistically_counted (changedKey : Bool)
    (before after : Status) (found : Found) (m : Member Reported)
    (metrics : Metrics) : (countKeyUpdate changedKey
      (countStatusChange before after
        (countFound found metrics))).matchedOptimistically =
          metrics.matchedOptimistically + optimism (some (found, m)) := by
  cases changedKey <;> cases before <;> cases after <;> cases found <;> rfl

/-- The progress after a record was decided: the record has a fate that suits
it, and the member of the fate is taken out of the index. -/
structure Progress.Decides (p : Progress) (e : Planned) (p' : Progress) :
    Prop where
  suits : e.fate.Suits e.row.record
  chosen : ∃ choice, counterpart p.index e.row.record = .ok choice ∧
    e.fate.member? = choice.map (·.2)
  untouched : e.fate.member? = none → p'.index = p.index
  taken : ∀ m, e.fate.member? = some m →
    m ∈ p.index.arena.map (·.member) ∧ p.index.remove m = .ok p'.index
  toDelete : p'.toDelete = p.toDelete ++ Plan.deletes [e]
  toReinsert : p'.toReinsert = p.toReinsert ++ Plan.select Fate.isMoved [e]
  toUpdate : p'.toUpdate = p.toUpdate ++ Plan.select Fate.isUpdated [e]
  toIgnore : p'.toIgnore = p.toIgnore ++ Plan.select Fate.isIgnored [e]
  redated : ∀ m, e.fate = .moved m → m.record.date ≠ e.row.record.date
  counted : ∀ choice, counterpart p.index e.row.record = .ok choice →
    p'.metrics.matchedOptimistically = p.metrics.matchedOptimistically +
    optimism choice

/-- A record that would be written unchanged has the date and the status of its
member. -/
theorem not_rewritten_of_same {fillKind : FillKind}
    {createdAt : Option DateTime} {derived : Stored}
    (hderived : m.record.toStored ⟨s.userId, s.accountId⟩ s.id s.currency
      fillKind createdAt now = .ok derived)
    (hsame : derived.same s = .ok true) :
    (m.record.date != s.date || m.record.status != s.status) = false := by
  obtain ⟨-, hdate, hstatus⟩ := Reported.toStored_identity hderived
  rw [← hdate, ← hstatus, Stored.date_eq_of_same hsame,
    Stored.status_eq_of_same hsame, bne_self_eq_false, bne_self_eq_false]
  rfl

/-- A row is deleted or not as its fate says. -/
theorem deletes_of_isDeleted {deleted : Bool} {e : Planned}
    (h : e.fate.isDeleted = deleted) (ms : List (Member Stored)) :
    (if deleted = true then ms ++ [e.row] else ms) =
      ms ++ Plan.deletes [e] := by
  subst h
  cases hd : e.fate.isDeleted with
  | true => simp [Plan.deletes, hd]
  | false => simp [Plan.deletes, hd]

/-- The progress when a member has been taken for a record, before it is known
whether the record is rewritten. -/
def Progress.taking (p : Progress) (s : Member Stored) (found : Found)
    (m : Member Reported) (index : Index) : Progress :=
  let changedKey := m.record.date != s.record.date || m.record.status !=
    s.record.status
  { p with
    index
    metrics := countKeyUpdate changedKey
      (countStatusChange s.record.status m.record.status
        (countFound found p.metrics))
    toDelete := if changedKey then p.toDelete ++ [s] else p.toDelete }

/-- A step finds no counterpart and drops the record, or it takes its
counterpart out of the index and ignores, moves or updates the record for it. -/
theorem step_cases {p p' : Progress} {s : Member Stored}
    (h : step now p s = .ok p') :
    (counterpart p.index s.record = .ok none ∧ p' = { p with
      toDelete := p.toDelete ++ [s], metrics :=
        countUnmatched s.record.status p.metrics }) ∨
    ∃ found m index derived same, counterpart p.index s.record =
      .ok (some (found, m)) ∧ p.index.remove m = .ok index ∧
      m.record.toStored ⟨s.record.userId, s.record.accountId⟩ s.record.id
        s.record.currency .regular s.record.createdAt now = .ok derived ∧
      derived.same s.record = .ok same ∧
      p' = if same = true then
          { p.taking s found m index with toIgnore :=
            p.toIgnore ++ [⟨m, s.record.id, .regular⟩] }
        else if (m.record.date != s.record.date) = true then
          { p.taking s found m index with toReinsert :=
            p.toReinsert ++ [⟨m, s.record.id, .regular⟩] } else
          { p.taking s found m index with toUpdate :=
            p.toUpdate ++ [⟨m, s.record.id, .regular⟩] } := by
  unfold step at h
  obtain ⟨choice, hchoice, h⟩ := bind_eq_ok_iff.1 h
  cases choice with
  | none => exact Or.inl ⟨hchoice, pure_eq_ok_iff.1 h⟩
  | some choice =>
    obtain ⟨found, m⟩ := choice
    obtain ⟨index, hindex, h⟩ := bind_eq_ok_iff.1 h
    obtain ⟨derived, hderived, h⟩ := bind_eq_ok_iff.1 h
    obtain ⟨same, hsame, h⟩ := bind_eq_ok_iff.1 h
    refine Or.inr ⟨found, m, index, derived, same, hchoice, hindex, hderived,
      hsame, ?_⟩
    cases same with
    | true => exact pure_eq_ok_iff.1 h
    | false =>
      rw [if_neg Bool.false_ne_true] at h ⊢
      split at h
      · next hchanged => exact (pure_eq_ok_iff.1 h).trans (if_pos hchanged).symm
      · next hchanged => exact (pure_eq_ok_iff.1 h).trans (if_neg hchanged).symm

/-- Every step decides its record. -/
theorem step_decides {p p' : Progress} {s : Member Stored}
    (h : step now p s = .ok p') : ∃ f, p.Decides ⟨s, f⟩ p' := by
  rcases step_cases h with
    ⟨hchoice, rfl⟩ | ⟨found, m, index, derived, same, hchoice, hindex, hderived,
      hsame, hp'⟩
  · refine ⟨.dropped, ⟨trivial, ⟨_, hchoice, rfl⟩, fun _ => rfl, fun _ hm =>
      (by cases hm), rfl, ?_, ?_, ?_, fun _ hf => (by cases hf), ?_⟩⟩
    · exact (List.append_nil _).symm
    · exact (List.append_nil _).symm
    · exact (List.append_nil _).symm
    · intro choice hchoice'
      obtain rfl := Except.ok.inj (hchoice.symm.trans hchoice')
      exact matchedOptimistically_countUnmatched _ _
  · have hm := mem_of_counterpart hchoice
    have htaken : ∀ f : Fate, f.member? = some m → ∀ m', f.member? = some m' →
        m' ∈ p.index.arena.map (·.member) ∧ p.index.remove m' = .ok index := by
      intro f hf m' hm'
      rw [hf] at hm'
      cases hm'
      exact ⟨hm, hindex⟩
    have hcounted : ∀ choice, counterpart p.index s.record = .ok choice →
        (p.taking s found m index).metrics.matchedOptimistically =
          p.metrics.matchedOptimistically + optimism choice := by
      intro choice hchoice'
      obtain rfl := Except.ok.inj (hchoice.symm.trans hchoice')
      exact matchedOptimistically_counted _ _ _ found m _
    cases same with
    | true =>
      rw [if_pos rfl] at hp'
      subst hp'
      refine ⟨.ignored m, ⟨⟨_, _, _, derived, hderived, hsame⟩,
        ⟨_, hchoice, rfl⟩, fun hf => (by cases hf),
        htaken _ rfl, ?_, ?_, ?_, rfl, fun _ hf => (by cases hf), hcounted⟩⟩
      · exact deletes_of_isDeleted (e := ⟨s, .ignored m⟩)
          (not_rewritten_of_same hderived hsame).symm p.toDelete
      · exact (List.append_nil _).symm
      · exact (List.append_nil _).symm
    | false =>
      rw [if_neg Bool.false_ne_true] at hp'
      split at hp'
      · next hchanged =>
        subst hp'
        refine ⟨.moved m, ⟨trivial, ⟨_, hchoice, rfl⟩, fun hf => (by cases hf),
          htaken _ rfl, ?_, rfl, ?_, ?_, ?_, hcounted⟩⟩
        · refine deletes_of_isDeleted (e := ⟨s, .moved m⟩) ?_ p.toDelete
          rw [hchanged, Bool.true_or]
          rfl
        · exact (List.append_nil _).symm
        · exact (List.append_nil _).symm
        · intro m' hm'
          cases hm'
          simpa using hchanged
      · next hchanged =>
        subst hp'
        have heq : m.record.date = s.record.date := by simpa using hchanged
        refine ⟨.updated m (m.record.status != s.record.status),
          ⟨heq, ⟨_, hchoice, rfl⟩, fun hf => (by cases hf), htaken _ rfl, ?_,
            ?_, rfl, ?_, fun _ hf => (by cases hf), hcounted⟩⟩
        · refine deletes_of_isDeleted (e := ⟨s, .updated m _⟩) ?_ p.toDelete
          rw [heq, bne_self_eq_false, Bool.false_or]
          rfl
        · exact (List.append_nil _).symm
        · exact (List.append_nil _).symm

namespace Progress.Decides

variable {p p' : Progress} {e : Planned}

/-- The lists of a plan are extended by those of the record that was decided. -/
theorem tracks (h : p.Decides e p') {plan : Plan} {seen : List (Member Stored)}
    (htracks : plan.Tracks seen p.toDelete p.toReinsert p.toUpdate p.toIgnore) :
    Plan.Tracks (plan ++ [e]) (seen ++ [e.row]) p'.toDelete p'.toReinsert
      p'.toUpdate p'.toIgnore := by
  rw [h.toDelete, h.toReinsert, h.toUpdate, h.toIgnore]
  exact htracks.append (.single h.suits)

theorem arena_eq (h : p.Decides e p') : p'.index.arena = p.index.arena := by
  cases hm : e.fate.member? with
  | none => rw [h.untouched hm]
  | some m => exact Index.remove_arena (h.taken m hm).2

/-- What the step took and what it left are the members that were there. -/
theorem members_perm (h : p.Decides e p')
    (hcoherent : Member.Coherent (p.index.arena.map (·.member))) :
    p.index.members.Perm (Plan.members [e] ++ p'.index.members) := by
  cases hm : e.fate.member? with
  | none =>
    rw [h.untouched hm, Plan.members, List.filterMap_cons, hm]
    exact List.Perm.refl _
  | some m =>
    obtain ⟨hmem, hremove⟩ := h.taken m hm
    rw [Plan.members, List.filterMap_cons, hm]
    exact Index.remove_perm hcoherent hmem hremove

end Progress.Decides

/-! ## A whole pass -/

/-- A pass is a plan for the stored records. What it took and what it left are
the batch. -/
theorem decide_plan {provider : String} {stored : List (Member Stored)}
    {batch : List (Member Reported)} {p : Progress}
    (h : decide now provider stored batch = .ok p) :
    ∃ plan : Plan, plan.Tracks stored p.toDelete p.toReinsert p.toUpdate
      p.toIgnore ∧ (∀ m ∈ batch, ∃ n, m.record.cents = .ok n) ∧
      (Member.Coherent batch →
        (plan.members ++ p.index.members).Perm batch) := by
  unfold decide at h
  obtain ⟨index, hindex, h⟩ := bind_eq_ok_iff.1 h
  obtain ⟨hmembers, harena, hcents⟩ := Index.ofBatch_spec hindex
  -- the arena of the index never changes, so every member that is looked up is
  -- one of the batch
  have hpass : ∃ plan : Plan,
      plan.Tracks stored p.toDelete p.toReinsert p.toUpdate p.toIgnore ∧
      p.index.arena = index.arena ∧
      (Member.Coherent batch →
        (plan.members ++ p.index.members).Perm batch) := by
    refine foldlM_ok_induction h (fun seen q => ∃ plan : Plan,
      plan.Tracks seen q.toDelete q.toReinsert q.toUpdate q.toIgnore ∧
      q.index.arena = index.arena ∧
      (Member.Coherent batch → (plan.members ++ q.index.members).Perm batch)) ?_
        ?_
    · exact ⟨[], .nil, rfl, fun _ => .of_eq hmembers⟩
    · rintro seen s q q' ⟨plan, htracks, hq, hperm⟩ hstep
      obtain ⟨f, hdecides⟩ := step_decides hstep
      refine ⟨plan ++ [⟨s, f⟩],
        hdecides.tracks htracks, by rw [hdecides.arena_eq, hq], ?_⟩
      intro hcoherent
      have hstepPerm := hdecides.members_perm
          (by rw [hq, harena]; exact hcoherent)
      refine List.Perm.trans ?_ (hperm hcoherent)
      rw [Plan.members_append, List.append_assoc]
      exact hstepPerm.symm.append_left _
  obtain ⟨plan, htracks, -, hperm⟩ := hpass
  exact ⟨plan, htracks, hcents, hperm⟩

end Heuristic

section Reconcile

variable {newId : Nat → String} {now later : DateTime} {provider : String}
  {s : Store} {account : Account} {currency : String}
  {stored : List (Member Stored)} {batch : List (Member Reported)}
  {i : Instruction} {j j' : Journal}

/-- The instruction carries out a plan for the stored records, and inserts what
the plan leaves. -/
theorem carriesOut_of_reconcile
    (h : Returns (reconcileByIdAndAmount newId now provider stored batch)
      j i j')
    (hstored : (stored.map (·.record)).Subperm s.rows)
    (hfresh : s.FreshIds newId j.drawn j'.drawn) :
    ∃ (plan : Plan) (fresh : List Assigned), i.CarriesOut s plan fresh ∧
      plan.rows = stored.map (·.record) ∧
      (∀ m ∈ batch, ∃ n, m.record.cents = .ok n) ∧
      (Member.Coherent batch →
        (plan.members ++ fresh.map (·.member)).Perm batch) := by
  simp only [reconcileByIdAndAmount, returns_bind, returns_ofExcept,
    returns_pure, returns_log] at h
  obtain ⟨p, _, ⟨hdecide, rfl⟩, fresh, _, hassign, _, _, rfl, rfl, rfl⟩ := h
  obtain ⟨plan, htracks, hcents, hperm⟩ := Heuristic.decide_plan hdecide
  obtain ⟨hmembers, hids, hdrawn⟩ := returns_assignFresh hassign
  simp only [hdrawn] at hfresh
  refine ⟨plan, fresh, ?_, htracks.rows_eq, hcents, ?_⟩
  · exact Plan.Tracks.carriesOut (i := p.instruction fresh) htracks rfl hstored
      hids hfresh
  · rw [hmembers]
    exact hperm

/-- Applied to the store, the instruction of a reconciliation by external id and
amount replaces the stored records by one record for every member of the batch,
and leaves all other rows. It can be applied unless an instant of the batch has
no place in the calendar of universal time. -/
theorem reconcile_replaces_stored (hids : s.HasDistinctIds)
    (haccount : s.BelongsTo account currency)
    (hstored : (stored.map (·.record)).Subperm s.rows)
    (hcoherent : Member.Coherent batch)
    (hfresh : s.FreshIds newId j.drawn j'.drawn)
    (h : Returns (reconcileByIdAndAmount newId now provider stored batch) j i
    j') : (∃ after records, s.apply account currency later i = .ok after ∧
      List.Forall₂ (fun m r => Stored.IsRecordOf account currency m r)
        batch records ∧
      after.rows.Perm (s.without (stored.map (·.record)) ++ records)) ∨
    (s.apply account currency later i = .error .beyondCalendar ∧
      ∃ m ∈ batch, m.record.dateTime.toUtc? = none) := by
  obtain ⟨plan, fresh, hc, hrows, hcents, hperm⟩ :=
    carriesOut_of_reconcile h hstored hfresh
  rcases hc.apply_total (hperm hcoherent) hcents with ⟨after, hafter⟩ | hbeyond
  · obtain ⟨records, hrecords, hresult⟩ :=
      hc.records hids haccount (hperm hcoherent) hcents hafter
    rw [hrows] at hresult
    exact Or.inl ⟨after, records, hafter, hrecords, hresult⟩
  · exact Or.inr hbeyond

/-- A store of two rows. -/
def Sample.store : Store :=
  ⟨[Sample.stored "r1" "x" "tea" (Sample.day 2),
    Sample.stored "r2" "z" "rye" (Sample.day 1)]⟩

/-- A batch that gives the first row another date, and has a new transaction. -/
def Sample.redating : List (Member Reported) :=
  Member.ofList
    [Sample.reported "x" "tea" (Sample.day 3),
      Sample.reported "y" "milk" (Sample.day 3)]

/-- The reconciliation of the first row with the batch. -/
def Sample.redated : Run Instruction :=
  reconcileByIdAndAmount Sample.newId Sample.now "BANK"
    (Member.ofList (Sample.store.rows.take 1)) Sample.redating

theorem redated_replaces_stored :
    ∃ i j', Returns Sample.redated .empty i j' ∧
      ((∃ after records, Sample.store.apply Sample.account "EUR" Sample.now i =
        .ok after ∧
        List.Forall₂ (fun m r => Stored.IsRecordOf Sample.account "EUR" m r)
          Sample.redating records ∧
        after.rows.Perm (Sample.store.without (Sample.store.rows.take 1) ++
          records)) ∨
      (Sample.store.apply Sample.account "EUR" Sample.now i =
        .error .beyondCalendar ∧
        ∃ m ∈ Sample.redating, m.record.dateTime.toUtc? = none)) := by
  have hrun : (Sample.redated.run.run .empty).1 =
      .ok ((Sample.redated.run.run .empty).1.toOption.getD .empty) := by
      decide +kernel
  have hdrawn : (Sample.redated.run.run .empty).2.drawn = 1 := by decide +kernel
  have hids : Sample.store.HasDistinctIds := by
    unfold Store.HasDistinctIds
    decide
  have haccount : Sample.store.BelongsTo Sample.account "EUR" := by
    unfold Store.BelongsTo
    decide +kernel
  have hstored : ((Member.ofList (Sample.store.rows.take 1)).map
      (·.record)).Subperm
      Sample.store.rows := List.Sublist.subperm (by decide +kernel)
  have hcoherent : Member.Coherent Sample.redating := by
    unfold Member.Coherent
    decide +kernel
  have hfresh : Sample.store.FreshIds Sample.newId Journal.empty.drawn
      (Sample.redated.run.run .empty).2.drawn := by
    rw [hdrawn]
    exact ⟨by decide, by decide +kernel⟩
  exact ⟨_, _, returns_of_run hrun,
    reconcile_replaces_stored hids haccount hstored hcoherent hfresh
      (returns_of_run hrun)⟩

end Reconcile

end LedgerSync
