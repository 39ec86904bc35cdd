import LedgerSync.Proofs.Sync.Stages

/-!
# What a record and its match have in common

A record is matched for one of two reasons. Either the member carries its
external id, and among several that do it has the date of the record, and the
amount too if one of them has both (`Stored.IdMatch`). Or no live member carries
that id, and the member has its date and its amount, is not pending where the
record is booked, and has its description where several members would do
(`Stored.ContentMatch`).

So the date of a record changes only for the one live member that carries its
external id, and a booked record becomes pending only for one that carries it
(`reconcile_matches_soundly`).
-/

namespace LedgerSync

open Run Heuristic

theorem Reported.sharesId_iff {t : Reported} {s : Stored} :
    t.sharesId s = true ↔ Index.isUsableId s.externalId = true ∧
    t.externalId = s.externalId := by
  simp [sharesId]

theorem Reported.sharesCents_iff {t : Reported} {s : Stored} :
    t.sharesCents s = true ↔ ∃ n, t.cents = .ok n ∧ s.cents = .ok n := by
  unfold sharesCents
  split
  · next a b ha hb =>
    constructor
    · intro h
      exact ⟨a, ha, eq_of_beq h ▸ hb⟩
    · rintro ⟨n, ht, hs⟩
      cases ha.symm.trans ht
      cases hb.symm.trans hs
      exact beq_self_eq_true _
  · next hne =>
    constructor
    · intro h
      cases h
    · rintro ⟨n, ht, hs⟩
      exact (hne n n ht hs).elim

namespace Stored

variable {s : Stored} {live : List (Member Reported)} {m : Member Reported}

/-- The member is matched to the record by external id. -/
structure IdMatch (s : Stored) (live : List (Member Reported))
    (m : Member Reported) : Prop where
  usable : Index.isUsableId s.externalId = true
  sameId : m.record.externalId = s.externalId
  sameDate : 1 < (live.filter (·.record.sharesId s)).length →
    m.record.date = s.date
  sameCents : 1 < (live.filter (·.record.sharesId s)).length →
    (∃ m' ∈ live, m'.record.externalId = s.externalId ∧
      m'.record.date = s.date ∧
      ∃ n, m'.record.cents = .ok n ∧ s.cents = .ok n) →
    ∃ n, m.record.cents = .ok n ∧ s.cents = .ok n

/-- The member is matched to the record by date and amount. A description that
is not there is an empty one. -/
structure ContentMatch (s : Stored) (live : List (Member Reported))
    (m : Member Reported) : Prop where
  noId : ¬∃ m' ∈ live, Index.isUsableId s.externalId = true ∧
    m'.record.externalId = s.externalId
  sameDate : m.record.date = s.date
  sameCents : ∃ n, m.record.cents = .ok n ∧ s.cents = .ok n
  status : ¬(s.status = .booked ∧ m.record.status = .pending)
  description : 1 < (live.filter (·.record.sharesContent s)).length →
    m.record.description.getD "" = s.description.getD ""

/-- Nothing that is live matches the record. Either several members carry its
external id, and none of them has its date; or none carries it, and members that
share its content are several, all with another description. -/
def Unmatched (s : Stored) (live : List (Member Reported)) : Prop :=
  (1 < (live.filter (·.record.sharesId s)).length ∧
    ∀ m ∈ live, m.record.sharesId s = true → m.record.date ≠ s.date) ∨
  (live.filter (·.record.sharesId s) = [] ∧
    ∀ m ∈ live, m.record.sharesContent s = true →
      1 < (live.filter (·.record.sharesContent s)).length ∧
        m.record.description.getD "" ≠ s.description.getD "")

/-! ## Narrowing -/

/-- The members that are left share the content of the record; several are
narrowed by description. -/
theorem survivors_cases (s : Stored) (live : List (Member Reported)) :
    ((live.filter (·.record.sharesContent s)).length ≤ 1 ∧
      s.survivors live = live.filter (·.record.sharesContent s)) ∨
    (1 < (live.filter (·.record.sharesContent s)).length ∧
      s.survivors live = (live.filter (·.record.sharesContent s)).filter
      fun m =>
        m.record.description.getD "" == s.description.getD "") := by
  have hfit : ((live.filter (·.record.sharesCents s)).filter fun m =>
      m.record.date == s.date && !(s.status == .booked && m.record.status ==
        .pending)) = live.filter (·.record.sharesContent s) := by
    rw [List.filter_filter]
    rfl
  unfold survivors attributeCandidates
  rw [hfit]
  generalize live.filter (·.record.sharesContent s) = fit
  match fit with
  | [] => exact Or.inl ⟨by decide, rfl⟩
  | [m] => exact Or.inl ⟨Nat.le_refl 1, rfl⟩
  | m :: m' :: rest => exact Or.inr ⟨by simp, rfl⟩

theorem survivors_subset (s : Stored) (live : List (Member Reported)) :
    s.survivors live ⊆ live.filter (·.record.sharesContent s) := by
  rcases s.survivors_cases live with ⟨-, heq⟩ | ⟨-, heq⟩
  · rw [heq]
    exact List.Subset.refl _
  · rw [heq]
    exact List.filter_subset_self _

/-- What is left for a record that no live member shares the external id with is
a match by content. -/
theorem contentMatch_of_survivors
    (hnone : live.filter (·.record.sharesId s) = [])
    (hm : m ∈ s.survivors live) : m ∈ live ∧ s.ContentMatch live m := by
  obtain ⟨hlive, hcontent⟩ := List.mem_filter.1 (s.survivors_subset live hm)
  simp only [Reported.sharesContent, Bool.and_eq_true, beq_iff_eq,
    Bool.not_eq_true', Bool.and_eq_false_iff, beq_eq_false_iff_ne] at hcontent
  obtain ⟨⟨hdate, hstatus⟩, hcents⟩ := hcontent
  refine ⟨hlive, ?_, hdate, Reported.sharesCents_iff.1 hcents, ?_, ?_⟩
  · rintro ⟨m', hm', hshares⟩
    exact List.filter_eq_nil_iff.1 hnone m' hm'
      (Reported.sharesId_iff.2 hshares)
  · rintro ⟨hbooked, hpending⟩
    rcases hstatus with h | h
    · exact h hbooked
    · exact h hpending
  · intro hseveral
    rcases s.survivors_cases live with ⟨hfew, -⟩ | ⟨-, heq⟩
    · omega
    · rw [heq] at hm
      exact eq_of_beq (List.mem_filter.1 hm).2

/-! ## Choices -/

/-- Of several members with its external id, a record gets one of its date, and
of its amount if there is one. -/
theorem idMatch_of_sameDate
    (h : (((live.filter (·.record.sharesId s)).filter fun m => m.record.date ==
      s.date).find? (·.record.sharesCents s) <|>
      ((live.filter (·.record.sharesId s)).filter fun m => m.record.date ==
        s.date).head?) = some m) : m ∈ live ∧ s.IdMatch live m := by
  have hmem : ∀ m', m' ∈ (live.filter (·.record.sharesId s)).filter (fun m =>
      m.record.date == s.date) ↔
      m' ∈ live ∧ m'.record.sharesId s = true ∧ m'.record.date = s.date := by
    intro m'
    rw [List.mem_filter, List.mem_filter, beq_iff_eq, and_assoc]
  generalize (live.filter (·.record.sharesId s)).filter (fun m =>
    m.record.date == s.date) = sameDate at h hmem
  have hchosen : m ∈ sameDate ∧
      ((∃ m' ∈ sameDate, m'.record.sharesCents s = true) →
        m.record.sharesCents s = true) := by
    cases hexact : sameDate.find? (·.record.sharesCents s) with
    | some best =>
      rw [hexact] at h
      cases h
      have hcents := List.find?_some hexact
      exact ⟨List.mem_of_find?_eq_some hexact, fun _ => hcents⟩
    | none =>
      rw [hexact] at h
      refine ⟨List.mem_of_mem_head? h, ?_⟩
      rintro ⟨m', hm', hcents⟩
      exact (List.find?_eq_none.1 hexact m' hm' hcents).elim
  obtain ⟨hm, hbest⟩ := hchosen
  obtain ⟨hlive, hshares, hdate⟩ := (hmem m).1 hm
  obtain ⟨husable, hid⟩ := Reported.sharesId_iff.1 hshares
  refine ⟨hlive, husable, hid, fun _ => hdate, ?_⟩
  rintro - ⟨m', hm', hid', hdate', hcents⟩
  refine Reported.sharesCents_iff.1
    (hbest ⟨m', ?_, Reported.sharesCents_iff.2 hcents⟩)
  exact (hmem m').2 ⟨hm', Reported.sharesId_iff.2 ⟨husable, hid'⟩, hdate'⟩

/-- What a record gets is a match, by external id or by content. -/
theorem choice_matches {found : Found} (h : s.choice live = some (found, m)) :
    m ∈ live ∧ (s.IdMatch live m ∨ s.ContentMatch live m) := by
  unfold choice at h
  split at h
  · next hnone =>
    have hm : m ∈ s.survivors live := by
      split at h
      · cases h
      · next heq =>
        cases h
        exact heq ▸ List.mem_cons_self
      · next heq =>
        cases h
        exact heq ▸ List.mem_cons_self
    obtain ⟨hlive, hmatch⟩ := contentMatch_of_survivors hnone hm
    exact ⟨hlive, Or.inr hmatch⟩
  · next hone =>
    cases h
    have hm : m ∈ live.filter (·.record.sharesId s) := hone ▸ List.mem_cons_self
    obtain ⟨hlive, hshares⟩ := List.mem_filter.1 hm
    obtain ⟨husable, hid⟩ := Reported.sharesId_iff.1 hshares
    refine ⟨hlive, Or.inl ⟨husable, hid, ?_, ?_⟩⟩
    · intro hseveral
      rw [hone] at hseveral
      exact absurd hseveral (by simp)
    · intro hseveral
      rw [hone] at hseveral
      exact absurd hseveral (by simp)
  · obtain ⟨m', hm', heq⟩ := Option.map_eq_some_iff.1 h
    cases heq
    obtain ⟨hlive, hmatch⟩ := idMatch_of_sameDate hm'
    exact ⟨hlive, Or.inl hmatch⟩

/-- Where no member is left, those that share the content of the record have
another description. -/
theorem description_of_no_survivors (h : s.survivors live = [])
    {m : Member Reported} (hm : m ∈ live)
    (hcontent : m.record.sharesContent s = true) :
    1 < (live.filter (·.record.sharesContent s)).length ∧
      m.record.description.getD "" ≠ s.description.getD "" := by
  have hfit : m ∈ live.filter (·.record.sharesContent s) :=
    List.mem_filter.2 ⟨hm, hcontent⟩
  rcases s.survivors_cases live with ⟨-, heq⟩ | ⟨hseveral, heq⟩
  · rw [← heq, h] at hfit
    cases hfit
  · refine ⟨hseveral, ?_⟩
    intro hsame
    rw [heq, List.filter_eq_nil_iff] at h
    exact h m hfit (beq_iff_eq.2 hsame)

/-- A record gets nothing only where nothing matches it. -/
theorem unmatched_of_choice (h : s.choice live = none) : s.Unmatched live := by
  unfold choice at h
  split at h
  · next hnone =>
    refine Or.inr ⟨hnone, fun m hm hcontent =>
      description_of_no_survivors ?_ hm hcontent⟩
    split at h
    · next heq => exact heq
    · cases h
    · cases h
  · cases h
  · next hsome hmany =>
    refine Or.inl ⟨?_, ?_⟩
    · match hfilter : live.filter (·.record.sharesId s) with
      | [] => exact (hsome hfilter).elim
      | [m] => exact (hmany m hfilter).elim
      | m :: m' :: rest =>
        rw [hfilter]
        simp
    · intro m hm hshares hdate
      -- the first member of the date would have been taken
      have hmem : m ∈ (live.filter (·.record.sharesId s)).filter fun m =>
          m.record.date == s.date :=
        List.mem_filter.2 ⟨List.mem_filter.2 ⟨hm, hshares⟩, beq_iff_eq.2 hdate⟩
      dsimp only at h
      generalize (live.filter (·.record.sharesId s)).filter (fun m =>
        m.record.date == s.date) = sameDate at h hmem
      cases hexact : sameDate.find? (·.record.sharesCents s) with
      | some best =>
        rw [hexact] at h
        cases h
      | none =>
        rw [hexact] at h
        rw [List.head?_eq_none_iff.1 (Option.map_eq_none_iff.1 h)] at hmem
        cases hmem

end Stored

/-! ## Sound stages -/

/-- The member of a stage is live and matches the record, and without one
nothing matches it. Where the member has another date, it is the only live one
with the external id of the record; where it is pending and the record is
booked, it carries that id. -/
structure Stage.Sound (stage : Stage) : Prop where
  matched : ∀ m, stage.fate.member? = some m → m ∈ stage.live ∧
    (stage.row.record.IdMatch stage.live m ∨
      stage.row.record.ContentMatch stage.live m)
  unmatched : stage.fate = .dropped → stage.row.record.Unmatched stage.live
  moved : ∀ m, stage.fate = .moved m → m.record.date ≠ stage.row.record.date
  redated : ∀ m, stage.fate.member? = some m →
    m.record.date ≠ stage.row.record.date →
    stage.live.filter (·.record.sharesId stage.row.record) = [m]
  unbooked : ∀ m, stage.fate.member? = some m →
    stage.row.record.status = .booked →
    m.record.status = .pending → stage.row.record.IdMatch stage.live m

/-- A match of another date is the only live member with the external id of the
record. -/
theorem Stored.only_of_redated {s : Stored} {live : List (Member Reported)}
    {m : Member Reported} (hlive : m ∈ live)
    (hmatch : s.IdMatch live m ∨ s.ContentMatch live m)
    (hdate : m.record.date ≠ s.date) :
    live.filter (·.record.sharesId s) = [m] := by
  rcases hmatch with hid | hcontent
  · have hm : m ∈ live.filter (·.record.sharesId s) :=
      List.mem_filter.2 ⟨hlive, Reported.sharesId_iff.2 ⟨hid.usable,
        hid.sameId⟩⟩
    have hone : (live.filter (·.record.sharesId s)).length = 1 := by
      have hpos := List.length_pos_of_mem hm
      have hfew : ¬1 < (live.filter (·.record.sharesId s)).length :=
        fun h => hdate (hid.sameDate h)
      omega
    obtain ⟨m', hm'⟩ := List.length_eq_one_iff.1 hone
    rw [hm', List.mem_singleton] at hm
    rw [hm', hm]
  · exact (hdate hcontent.sameDate).elim

/-- A stage that takes the choice of its record is sound. -/
theorem Stage.sound_of_choice {stage : Stage}
    (hchoice : stage.fate.member? =
      (stage.row.record.choice stage.live).map (·.2))
    (hmoved : ∀ m, stage.fate = .moved m →
      m.record.date ≠ stage.row.record.date) :
    stage.Sound := by
  have hmatched : ∀ m, stage.fate.member? = some m → m ∈ stage.live ∧
      (stage.row.record.IdMatch stage.live m ∨
        stage.row.record.ContentMatch stage.live m) := by
    intro m hm
    obtain ⟨⟨found, m'⟩, hfound, rfl⟩ :=
      Option.map_eq_some_iff.1 (hchoice.symm.trans hm)
    exact Stored.choice_matches hfound
  refine ⟨hmatched, ?_, hmoved, ?_, ?_⟩
  · intro hdropped
    rw [hdropped] at hchoice
    exact Stored.unmatched_of_choice (Option.map_eq_none_iff.1 hchoice.symm)
  · intro m hm hdate
    obtain ⟨hlive, hmatch⟩ := hmatched m hm
    exact Stored.only_of_redated hlive hmatch hdate
  · intro m hm hbooked hpending
    rcases (hmatched m hm).2 with hid | hcontent
    · exact hid
    · exact (hcontent.status ⟨hbooked, hpending⟩).elim

/-- The rows of a plan are those of its stages. -/
theorem Plan.mem_of_stage {p : Plan} {live : List (Member Reported)}
    {stage : Stage} (h : stage ∈ p.stages live) : stage.toPlanned ∈ p := by
  induction p generalizing live with
  | nil => cases h
  | cons e p ih =>
    rcases List.mem_cons.1 h with rfl | h
    · exact List.mem_cons_self
    · exact List.mem_cons_of_mem _ (ih h)

section Reconcile

variable {newId : Nat → String} {now : DateTime} {provider : String}
  {stored : List (Member Stored)} {batch : List (Member Reported)}
  {i : Instruction} {j j' : Journal}

/-- A reconciliation by external id and amount decides the records stage by
stage, and every stage is sound. The members that the last stage leaves are
inserted under fresh ids. -/
theorem reconcile_matches_soundly (hcoherent : Member.Coherent batch)
    (h : Returns (reconcileByIdAndAmount newId now provider stored batch) j i
      j') : ∃ (plan : Plan) (moved fresh : List Assigned),
      plan.Tracks stored i.toDelete moved i.toUpdate i.toIgnore ∧
      i.toInsert = moved ++ fresh ∧
      fresh.map (·.member) = plan.leaves batch ∧ ∀ stage ∈ plan.stages batch,
      stage.Sound := by
  obtain ⟨p, plan, fresh, hfollows, rfl, hfresh⟩ := reconcile_stages hcoherent h
  refine ⟨plan, p.toReinsert, fresh, hfollows.tracks, rfl, hfresh, ?_⟩
  intro stage hstage
  exact Stage.sound_of_choice (hfollows.chosen stage hstage)
    (hfollows.redated _ (Plan.mem_of_stage hstage))

/-- Two rows for the batch: one is found by its external id on another date, and
then the other one by its content. -/
def Sample.weaklyMatched : List (Member Stored) :=
  Member.ofList
    [Sample.stored "r1" "x" "tea" (Sample.day 2),
      Sample.stored "r2" "z" "milk" (Sample.day 3)]

theorem weaklyMatched_soundly :
    ∃ (plan : Plan) (i : Instruction) (moved fresh : List Assigned),
      i.toInsert.map (·.id) = ["r1"] ∧ i.toUpdate.map (·.id) = ["r2"] ∧
      plan.Tracks Sample.weaklyMatched i.toDelete moved i.toUpdate i.toIgnore ∧
      i.toInsert = moved ++ fresh ∧ fresh.map (·.member) =
        plan.leaves Sample.redating ∧
      ∀ stage ∈ plan.stages Sample.redating, stage.Sound := by
  let run : Run Instruction :=
    reconcileByIdAndAmount Sample.newId Sample.now "BANK"
    Sample.weaklyMatched Sample.redating
  have hrun : (run.run.run .empty).1 =
      .ok ((run.run.run .empty).1.toOption.getD .empty) := by
    decide +kernel
  have hcoherent : Member.Coherent Sample.redating := by
    unfold Member.Coherent
    decide +kernel
  obtain ⟨plan, moved, fresh, hsound⟩ :=
    reconcile_matches_soundly hcoherent (returns_of_run hrun)
  exact ⟨plan, _, moved, fresh, by decide +kernel, by decide +kernel, hsound⟩

end Reconcile

end LedgerSync
