import LedgerSync.Proofs.Sync.Minimality

/-!
# The stages of a pass

The records of a pass come up one after the other, each while some members of
the batch are live. A plan for the records tells which these are: the members of
the batch without those that earlier records took (`Plan.stages`).

The index is there to find counterparts fast, and has no say in which they are.
What a record gets is read off the live members in batch order
(`Stored.choice`): the first that shares its external id, or else the first that
shares its content, told apart as far as the two ways to look tell them apart.
Every step takes that choice (`choice_of_counterpart`), so a whole pass is its
stages, each with its choice (`decide_stages`).
-/

namespace LedgerSync

/-! ## Stages -/

/-- The members that stay live under a fate. -/
def Fate.leaves (f : Fate) (live : List (Member Reported)) :
    List (Member Reported) :=
  match f.member? with
  | none => live
  | some m => live.erase m

/-- A row with its fate, and the members that are live when its turn comes. -/
structure Stage extends Planned where
  live : List (Member Reported)

namespace Plan

variable {live : List (Member Reported)}

/-- The members that are live when all rows of a plan have had their turn. -/
def leaves (p : Plan) (live : List (Member Reported)) :
    List (Member Reported) :=
  p.foldl (fun live e => e.fate.leaves live) live

/-- The rows of a plan in their turn, beginning with some live members. -/
def stages : Plan → List (Member Reported) → List Stage
  | [], _ => []
  | e :: p, live => ⟨e, live⟩ :: stages p (e.fate.leaves live)

theorem leaves_concat (p : Plan) (e : Planned) (live : List (Member Reported)) :
    leaves (p ++ [e]) live = e.fate.leaves (leaves p live) := by
  rw [leaves, List.foldl_append]
  rfl

theorem stages_concat (p : Plan) (e : Planned) (live : List (Member Reported)) :
    stages (p ++ [e]) live = stages p live ++ [⟨e, leaves p live⟩] := by
  induction p generalizing live with
  | nil => rfl
  | cons e' p ih => exact congrArg (List.cons _) (ih _)

end Plan

/-! ## Choices among live members -/

namespace Reported

/-- The transaction carries the external id of the record, which is not
blank. -/
def sharesId (t : Reported) (s : Stored) : Bool :=
  Index.isUsableId s.externalId && t.externalId == s.externalId

/-- Both have the same value in cents. -/
def sharesCents (t : Reported) (s : Stored) : Bool :=
  match t.cents, s.cents with
  | .ok a, .ok b => a == b
  | _, _ => false

/-- Both have one date and one value in cents, and the transaction is not
pending where the record is booked. -/
def sharesContent (t : Reported) (s : Stored) : Bool :=
  t.date == s.date && !(s.status == .booked && t.status == .pending) &&
    t.sharesCents s

end Reported

namespace Stored

open Heuristic

/-- The live members that are left for a record when they are narrowed by
amount, date and status, and by description where that leaves several. -/
def survivors (s : Stored) (live : List (Member Reported)) :
    List (Member Reported) :=
  attributeCandidates s (live.filter (·.record.sharesCents s))

/-- What a record gets of the live members, and how it is found. -/
def choice (s : Stored) (live : List (Member Reported)) :
    Option (Found × Member Reported) :=
  match live.filter (·.record.sharesId s) with
  | [] =>
    match s.survivors live with
    | [] => none
    | [m] => some (.byAttributes, m)
    | m :: _ => some (.optimistically, m)
  | [m] => some (.byExternalId, m)
  | sameId =>
    let sameDate := sameId.filter fun m => m.record.date == s.date
    (sameDate.find? (·.record.sharesCents s) <|> sameDate.head?).map
      (.byExternalId, ·)

/-- No live member shares the external id of the record, and narrowing leaves
several. -/
def picksOptimistically (s : Stored) (live : List (Member Reported)) : Bool :=
  (live.filter (·.record.sharesId s)).isEmpty &&
    decide (1 < (s.survivors live).length)

end Stored

/-- The record gets the first of several members that are left for it. -/
def Stage.isOptimistic (stage : Stage) : Bool :=
  stage.row.record.picksOptimistically stage.live

namespace Index

variable {x : Index} {s : Stored}

theorem WellFormed.withExternalId_members (h : x.WellFormed) (s : Stored) :
    x.withExternalId s.externalId = x.members.filter (·.record.sharesId s) := by
  by_cases hid : isUsableId s.externalId = true
  · rw [h.withExternalId_eq hid, members_eq, List.filter_map]
    refine congrArg _ (List.filter_congr ?_)
    intro e _
    simp [Reported.sharesId, hid, Bool.beq_eq_decide_eq]
  · rw [withExternalId, if_neg hid, eq_comm, List.filter_eq_nil_iff]
    intro m _
    simp [Reported.sharesId, hid]

theorem WellFormed.withCents_members (h : x.WellFormed) {cents : Int}
    (hcents : s.cents = .ok cents) :
    x.withCents cents = x.members.filter (·.record.sharesCents s) := by
  rw [h.withCents_eq, members_eq, List.filter_map]
  refine congrArg _ (List.filter_congr ?_)
  intro e he
  simp [Reported.sharesCents, h.computed_of_live he, hcents,
    Bool.beq_eq_decide_eq]

end Index

namespace Heuristic

variable {x : Index} {s : Stored} {live : List (Member Reported)}

/-- Where a condition is computed by a function, a search finds what the
function says. -/
theorem find?_of_findM? {α ε : Type} {f : α → Except ε Bool} {p : α → Bool}
    {l : List α} {r : Option α} (h : l.findM? f = .ok r)
    (hp : ∀ a ∈ l, ∀ b, f a = .ok b → b = p a) : r = l.find? p := by
  induction l with
  | nil =>
    cases h
    rfl
  | cons a l ih =>
    rw [List.findM?, bind_eq_ok_iff] at h
    obtain ⟨b, hb, h⟩ := h
    rw [List.find?_cons, ← hp a List.mem_cons_self b hb]
    cases b with
    | true =>
      cases h
      rfl
    | false => exact ih h fun a' ha' => hp a' (List.mem_cons_of_mem a ha')

/-- Among members with the external id of a record the choice is by date and
amount. -/
theorem choice_of_amongSameId {sameId : List (Member Reported)}
    {r : Option (Member Reported)} (hmany : ∀ m, sameId ≠ [m])
    (h : amongSameId s sameId = .ok r) :
    r = ((sameId.filter fun m => m.record.date == s.date).find?
      (·.record.sharesCents s) <|>
      (sameId.filter fun m => m.record.date == s.date).head?) := by
  unfold amongSameId at h
  split at h
  · next m => exact (hmany m rfl).elim
  · obtain ⟨cents, hcents, h⟩ := bind_eq_ok_iff.1 h
    obtain ⟨best, hbest, h⟩ := bind_eq_ok_iff.1 h
    rw [pure_eq_ok_iff.1 h,
      find?_of_findM? hbest (p := (·.record.sharesCents s))]
    intro m _ b hb
    obtain ⟨n, hn, hb⟩ := bind_eq_ok_iff.1 hb
    rw [pure_eq_ok_iff.1 hb, Reported.sharesCents, hn, hcents]

/-- An index gives the choice among its live members. -/
theorem choice_of_counterpart {c : Option (Found × Member Reported)}
    (hx : x.WellFormed) (h : counterpart x s = .ok c) :
    c = s.choice x.members := by
  unfold counterpart at h
  unfold Stored.choice
  rw [hx.withExternalId_members s] at h
  generalize x.members.filter (·.record.sharesId s) = sameId at h ⊢
  match sameId with
  | [] =>
    obtain ⟨cents, hcents, h⟩ := bind_eq_ok_iff.1 h
    have hsurvivors : attributeCandidates s (x.withCents cents) =
        s.survivors x.members := by
      rw [hx.withCents_members hcents]
      rfl
    rw [hsurvivors] at h
    generalize s.survivors x.members = survivors at h ⊢
    match survivors with
    | [] => exact pure_eq_ok_iff.1 h
    | [m] => exact pure_eq_ok_iff.1 h
    | m :: m' :: rest => exact pure_eq_ok_iff.1 h
  | [m] =>
    obtain ⟨r, hr, h⟩ := bind_eq_ok_iff.1 h
    cases hr
    exact pure_eq_ok_iff.1 h
  | m :: m' :: rest =>
    obtain ⟨r, hr, h⟩ := bind_eq_ok_iff.1 h
    rw [pure_eq_ok_iff.1 h, choice_of_amongSameId (by simp) hr]

/-! ## A pass is its stages -/

theorem optimism_byExternalId (choice : Option (Member Reported)) :
    optimism (choice.map (.byExternalId, ·)) = 0 := by
  cases choice <;> rfl

/-- The counter of optimistic picks counts just these. -/
theorem optimism_choice (s : Stored) (live : List (Member Reported)) :
    optimism (s.choice live) = if s.picksOptimistically live then 1 else 0 := by
  unfold Stored.choice Stored.picksOptimistically
  split
  · next hnone =>
    rw [hnone]
    match s.survivors live with
    | [] => rfl
    | [m] => rfl
    | m :: m' :: rest => simp [optimism]
  · next hone =>
    rw [hone]
    rfl
  · next hsome hmany =>
    have hfalse : (live.filter (·.record.sharesId s)).isEmpty = false :=
      List.isEmpty_eq_false_iff.2 hsome
    rw [hfalse, Bool.false_and, if_neg Bool.false_ne_true]
    exact optimism_byExternalId _

/-- What a pass has decided about a part of the records, and what it has
left. -/
structure Progress.Follows (p : Progress) (plan : Plan)
    (seen : List (Member Stored)) (batch : List (Member Reported)) : Prop where
  tracks : plan.Tracks seen p.toDelete p.toReinsert p.toUpdate p.toIgnore
  wellFormed : p.index.WellFormed
  arena : p.index.arena.map (·.member) = batch
  left : p.index.members = plan.leaves batch
  chosen : ∀ stage ∈ plan.stages batch,
    stage.fate.member? = (stage.row.record.choice stage.live).map (·.2)
  redated : ∀ e ∈ plan, ∀ m, e.fate = .moved m →
    m.record.date ≠ e.row.record.date
  optimistic : p.metrics.matchedOptimistically = (plan.stages batch).countP
    (·.isOptimistic)

/-- One more record adds its stage. -/
theorem Progress.Follows.step {p p' : Progress} {plan : Plan}
    {seen : List (Member Stored)} {batch : List (Member Reported)}
    {now : DateTime} {s : Member Stored} (h : p.Follows plan seen batch)
    (hcoherent : Member.Coherent batch)
    (hstep : Heuristic.step now p s = .ok p') :
    ∃ f, p'.Follows (plan ++ [⟨s, f⟩]) (seen ++ [s]) batch := by
  obtain ⟨f, hdecides⟩ := step_decides hstep
  obtain ⟨c, hc, hmember⟩ := hdecides.chosen
  obtain ⟨hwell, harena⟩ := hdecides.wellFormed h.wellFormed
  have hchoice : c = s.record.choice (plan.leaves batch) := by
    rw [← h.left]
    exact choice_of_counterpart h.wellFormed hc
  have hleft : p'.index.members = f.leaves (plan.leaves batch) := by
    rw [← h.left]
    unfold Fate.leaves
    cases hm : f.member? with
    | none => rw [hdecides.untouched hm]
    | some m =>
      obtain ⟨found, rfl⟩ : ∃ found, c = some (found, m) := by
        obtain ⟨⟨found, m'⟩, hc', rfl⟩ :=
          Option.map_eq_some_iff.1 (hmember.symm.trans hm)
        exact ⟨found, hc'⟩
      have hlive := (serves_of_counterpart h.wellFormed hc).1
      exact h.wellFormed.members_of_remove (h.arena.symm ▸ hcoherent) hlive
        (hdecides.taken m hm).2
  refine ⟨f, hdecides.tracks h.tracks, hwell, harena ▸ h.arena, ?_, ?_, ?_, ?_⟩
  · rw [Plan.leaves_concat]
    exact hleft
  · intro stage hstage
    rw [Plan.stages_concat, List.mem_append, List.mem_singleton] at hstage
    rcases hstage with hstage | rfl
    · exact h.chosen stage hstage
    · rw [← hchoice]
      exact hmember
  · intro e he m hm
    rcases List.mem_append.1 he with he | he
    · exact h.redated e he m hm
    · obtain rfl := List.mem_singleton.1 he
      exact hdecides.redated m hm
  · rw [Plan.stages_concat, List.countP_append, List.countP_singleton,
      ← h.optimistic, hdecides.counted c hc, hchoice, optimism_choice]
    rfl

/-- A pass takes the choice of every stage, and leaves what the last one
left. -/
theorem decide_stages {now : DateTime} {provider : String}
    {stored : List (Member Stored)} {batch : List (Member Reported)}
    {p : Progress} (hcoherent : Member.Coherent batch)
    (h : decide now provider stored batch = .ok p) :
    ∃ plan, p.Follows plan stored batch := by
  unfold decide at h
  obtain ⟨x, hx, hpass⟩ := bind_eq_ok_iff.1 h
  obtain ⟨hwell, -, harena⟩ := Index.ofBatch_slots hx
  refine foldlM_ok_induction hpass (fun seen q =>
    ∃ plan, q.Follows plan seen batch) ?_ ?_
  · exact ⟨[], .nil, hwell, harena, (Index.ofBatch_spec hx).1, fun _ h =>
      absurd h List.not_mem_nil, fun _ h => absurd h List.not_mem_nil, rfl⟩
  · rintro seen s q q' ⟨plan, hfollows⟩ hstep
    obtain ⟨f, hnext⟩ := hfollows.step hcoherent hstep
    exact ⟨_, hnext⟩

end Heuristic

/-- A reconciliation by external id and amount is made of its stages, and
inserts under fresh ids what the last one leaves. -/
theorem reconcile_stages {newId : Nat → String} {now : DateTime}
    {provider : String} {stored : List (Member Stored)}
    {batch : List (Member Reported)} {i : Instruction} {j j' : Journal}
    (hcoherent : Member.Coherent batch)
    (h : Run.Returns (reconcileByIdAndAmount newId now provider stored batch) j
    i j') :
    ∃ (p : Heuristic.Progress) (plan : Plan) (fresh : List Assigned),
    p.Follows plan stored batch ∧
      i = p.instruction fresh ∧ fresh.map (·.member) = plan.leaves batch := by
  simp only [reconcileByIdAndAmount, Run.returns_bind, Run.returns_ofExcept,
    Run.returns_pure, Run.returns_log] at h
  obtain ⟨p, _, ⟨hdecide, rfl⟩, fresh, _, hassign, _, _, -, rfl, -⟩ := h
  obtain ⟨plan, hfollows⟩ := Heuristic.decide_stages hcoherent hdecide
  obtain ⟨hmembers, -, -⟩ := returns_assignFresh hassign
  exact ⟨p, plan, fresh, hfollows, rfl, hmembers.trans hfollows.left⟩

end LedgerSync
