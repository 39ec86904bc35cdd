import LedgerSync.Proofs.Failing
import LedgerSync.Proofs.Sync.Minimality

/-!
# Every slot of a batch is used once

A pass takes slots of the index and never gives one back. `Index.Spent` says
which slots are gone, each taken once and for the member that it holds, and that
exactly the others are live. A step either leaves the index alone or spends one
more slot (`Spent.remove`), so at the end the slots that nobody took are left in
batch order (`reconcile_spends_once`).

The removals themselves always find their slot in both maps: the counterpart of
a record is live, and a live member can be taken out of a well-formed index.
What can stop a pass is therefore only a value of a transaction
(`Heuristic.step_failsOnly`).
-/

namespace LedgerSync

open Run

namespace Index

variable {x x' : Index} {m : Member Reported} {arena : List Slot}
  {slots : List Nat} {taken : List (Member Reported)}

/-- Some slots of an arena were taken, each once and for the member that it
holds, and the others are live. -/
structure Spent (x : Index) (arena : List Slot) (slots : List Nat)
    (taken : List (Member Reported)) : Prop where
  arena_eq : x.arena = arena
  distinct : slots.Nodup
  taken : List.Forall₂ (fun n m => (arena.map (·.member))[n]? = some m)
    slots taken
  left : x.numbered = arena.zipIdx.filter fun s => s.2 ∉ slots

/-- Of a new index nothing is taken. -/
theorem Spent.ofSlots (arena : List Slot) :
    (ofSlots arena).Spent arena [] [] where
  arena_eq := rfl
  distinct := List.nodup_nil
  taken := .nil
  left := by
    rw [numbered_ofSlots, eq_comm, List.filter_eq_self]
    exact fun s _ => by simp

/-- Taking a member out spends one more slot. -/
theorem Spent.remove (h : x.Spent arena slots taken)
    (hcoherent : Member.Coherent (arena.map (·.member)))
    (hm : m ∈ arena.map (·.member)) (hremove : x.remove m = .ok x') :
    ∃ slot, x'.Spent arena (slots ++ [slot]) (taken ++ [m]) := by
  obtain ⟨slot, entry, hentry, hlive, hkey, harena, hset⟩ := remove_slot hremove
  rw [h.arena_eq] at hentry
  obtain rfl : entry.member = m :=
    hcoherent _ (List.mem_map_of_mem (List.mem_of_getElem? hentry)) _ hm hkey
  have hnew : slot ∉ slots := by
    have hnumbered : (entry, slot) ∈ x.numbered := by
      refine List.mem_filter.2
        ⟨List.mk_mem_zipIdx_iff_getElem?.2 (h.arena_eq ▸ hentry), ?_⟩
      rw [isLive, hlive]
      rfl
    rw [h.left] at hnumbered
    simpa using (List.mem_filter.1 hnumbered).2
  refine ⟨slot, harena.trans h.arena_eq, ?_, ?_, ?_⟩
  · rw [List.nodup_append']
    exact ⟨h.distinct, List.nodup_singleton slot, by simpa using hnew⟩
  · refine List.rel_append h.taken (.cons ?_ .nil)
    rw [List.getElem?_map, hentry]
    rfl
  · rw [numbered_set slot harena hset, h.left, List.filter_filter]
    refine List.filter_congr fun s _ => ?_
    simp [and_comm]

/-- The live members are those of the slots that nobody took, in the order of
the batch. -/
theorem Spent.members_eq (h : x.Spent arena slots taken) :
    x.members = ((arena.map (·.member)).zipIdx.filter fun s => s.2 ∉ slots).map
      (·.1) := by
  rw [x.members_eq, liveSlots, h.left, List.zipIdx_map, List.filter_map,
    List.map_map, List.map_map]
  rfl

end Index

namespace Heuristic

variable {now : DateTime} {p p' : Progress} {x : Index}

/-- A step that decides a record spends a slot for the member of its fate, if it
has one. -/
theorem Progress.Decides.spends {e : Planned} (h : p.Decides e p')
    {arena : List Slot} {slots : List Nat} {taken : List (Member Reported)}
    (hspent : p.index.Spent arena slots taken)
    (hcoherent : Member.Coherent (arena.map (·.member))) :
    ∃ slots', p'.index.Spent arena slots' (taken ++ Plan.members [e]) := by
  cases hm : e.fate.member? with
  | none =>
    refine ⟨slots, ?_⟩
    rw [h.untouched hm, Plan.members, List.filterMap_cons, hm,
      List.filterMap_nil, List.append_nil]
    exact hspent
  | some m =>
    obtain ⟨hmem, hremove⟩ := h.taken m hm
    rw [hspent.arena_eq] at hmem
    obtain ⟨slot, hslot⟩ := hspent.remove hcoherent hmem hremove
    refine ⟨slots ++ [slot], ?_⟩
    rw [Plan.members, List.filterMap_cons, hm]
    exact hslot

/-- A pass is a plan for the stored records, and it spends one slot for every
member of the plan. -/
theorem decide_spends {provider : String} {stored : List (Member Stored)}
    {batch : List (Member Reported)}
    (h : decide now provider stored batch = .ok p)
    (hcoherent : Member.Coherent batch) :
    ∃ (plan : Plan) (arena : List Slot) (slots : List Nat),
    arena.map (·.member) = batch ∧
      plan.Tracks stored p.toDelete p.toReinsert p.toUpdate p.toIgnore ∧
      p.index.Spent arena slots plan.members := by
  obtain ⟨x, hx, hpass⟩ := bind_eq_ok_iff.1 h
  obtain ⟨arena, harena, hx⟩ := bind_eq_ok_iff.1 hx
  obtain rfl := pure_eq_ok_iff.1 hx
  obtain ⟨rfl, -⟩ := Index.fill_spec harena
  have hrun : ∃ (plan : Plan) (slots : List Nat),
      plan.Tracks stored p.toDelete p.toReinsert p.toUpdate p.toIgnore ∧
      p.index.Spent arena slots plan.members := by
    refine foldlM_ok_induction hpass (fun seen q =>
      ∃ (plan : Plan) (slots : List Nat),
      plan.Tracks seen q.toDelete q.toReinsert q.toUpdate q.toIgnore ∧
      q.index.Spent arena slots plan.members) ?_ ?_
    · exact ⟨[], [], .nil, .ofSlots arena⟩
    · rintro seen s q q' ⟨plan, slots, htracks, hspent⟩ hstep
      obtain ⟨f, hdecides⟩ := step_decides hstep
      obtain ⟨slots', hspent'⟩ := hdecides.spends hspent hcoherent
      refine ⟨plan ++ [⟨s, f⟩], slots', hdecides.tracks htracks, ?_⟩
      rw [Plan.members_append]
      exact hspent'
  obtain ⟨plan, slots, htracks, hspent⟩ := hrun
  exact ⟨plan, arena, slots, rfl, htracks, hspent⟩

/-! ## What can stop a pass -/

theorem amongSameId_failsOnly {s : Stored}
    {candidates : List (Member Reported)} :
    FailsOnly Failure.IsOfValue (amongSameId s candidates) := by
  unfold amongSameId
  split
  · exact .ok _
  · refine .bind Stored.cents_failsOnly fun cents _ =>
      .bind (.findM? fun m _ => ?_) fun _ _ => .ok _
    exact .bind Reported.cents_failsOnly fun _ _ => .ok _

theorem counterpart_failsOnly {s : Stored} :
    FailsOnly Failure.IsOfValue (counterpart x s) := by
  unfold counterpart
  split
  · refine .bind Stored.cents_failsOnly fun cents _ => ?_
    split <;> exact .ok _
  · exact .bind amongSameId_failsOnly fun _ _ => .ok _

/-- A step over a well-formed index never asks for a slot that is not there. -/
theorem step_failsOnly (hx : p.index.WellFormed) (s : Member Stored) :
    FailsOnly Failure.IsOfValue (step now p s) := by
  unfold step
  refine .bind counterpart_failsOnly fun choice hchoice => ?_
  cases choice with
  | none => exact .ok _
  | some choice =>
    obtain ⟨found, m⟩ := choice
    obtain ⟨hlive, -⟩ := serves_of_counterpart hx hchoice
    obtain ⟨index, _, _, _, hremove, -⟩ := hx.remove_of_mem hlive
    refine .bind (.of_ok hremove) fun _ _ => .bind Reported.toStored_failsOnly
      fun _ _ => ?_
    refine .bind Stored.same_failsOnly fun same _ => ?_
    cases same with
    | true => exact .ok _
    | false =>
      rw [if_neg Bool.false_ne_true]
      split <;> exact .ok _

theorem decide_failsOnly {provider : String} {stored : List (Member Stored)}
    {batch : List (Member Reported)} :
    FailsOnly Failure.IsOfValue (decide now provider stored batch) := by
  have hindex : FailsOnly Failure.IsOfValue (Index.ofBatch batch) :=
    .bind (.mapM fun m _ => .bind Reported.cents_failsOnly fun _ _ => .ok _)
      fun _ _ => .ok _
  refine .bind hindex fun x hx => ?_
  refine .foldlM (fun q => q.index.WellFormed) (Index.ofBatch_slots hx).1 ?_ ?_
  · intro q s q' hq hstep
    obtain ⟨f, hdecides⟩ := step_decides hstep
    exact (hdecides.wellFormed hq).1
  · exact fun q s hq => step_failsOnly hq s

end Heuristic

/-! ## The instruction -/

/-- An instruction uses every slot of a batch once. The slots that stored
records took belong to the members of a plan for these records; the members of
all other slots are inserted in the order of the batch, under ids of their
own. -/
structure Instruction.SpendsOnce (i : Instruction)
    (stored : List (Member Stored)) (batch : List (Member Reported))
    (plan : Plan) (slots : List Nat) (moved fresh : List Assigned) : Prop where
  tracks : plan.Tracks stored i.toDelete moved i.toUpdate i.toIgnore
  toInsert : i.toInsert = moved ++ fresh
  named : i.named.Perm (plan.assigned ++ fresh)
  unmatched : ∀ e ∈ plan, e.assigned? = none → e.row ∈ i.toDelete
  distinct : slots.Nodup
  taken : List.Forall₂ (fun n m => batch[n]? = some m) slots plan.members
  left : fresh.map (·.member) = (batch.zipIdx.filter fun s =>
    s.2 ∉ slots).map (·.1)
  members : (i.named.map (·.member)).Perm batch

section Reconcile

variable {newId : Nat → String} {now : DateTime} {provider : String}
  {stored : List (Member Stored)} {batch : List (Member Reported)} {j : Journal}

/-- A reconciliation by external id and amount that returns uses every slot of
the batch once, and draws one id for every slot that no record took. One that
fails is stopped by a value of a transaction, never by its index. -/
theorem reconcile_spends_once (hcoherent : Member.Coherent batch) :
    (∀ i j', Returns (reconcileByIdAndAmount newId now provider stored batch) j
      i j' → ∃ (plan : Plan) (slots : List Nat) (moved fresh : List Assigned),
        i.SpendsOnce stored batch plan slots moved fresh ∧
        fresh.map (·.id) = (List.range' j.drawn fresh.length).map newId ∧
        j'.drawn = j.drawn + fresh.length) ∧
    ∀ e, Fails (reconcileByIdAndAmount newId now provider stored batch) j e →
    e.IsOfValue := by
  constructor
  · intro i j' h
    simp only [reconcileByIdAndAmount, returns_bind, returns_ofExcept,
      returns_pure, returns_log] at h
    obtain ⟨p, _, ⟨hdecide, rfl⟩, fresh, _, hassign, _, _, rfl, rfl, rfl⟩ := h
    obtain ⟨plan, arena, slots, rfl, htracks, hspent⟩ :=
      Heuristic.decide_spends hdecide hcoherent
    obtain ⟨hmembers, hids, hdrawn⟩ := returns_assignFresh hassign
    have hnamed : (p.instruction fresh).named.Perm (plan.assigned ++ fresh) :=
      Plan.named_perm (htracks.moved ▸ rfl) htracks.updated htracks.ignored
    refine ⟨plan, slots, p.toReinsert, fresh,
      ⟨htracks, rfl, hnamed, ?_, hspent.distinct,
      hspent.taken, hmembers.trans hspent.members_eq, ?_⟩, hids, hdrawn⟩
    · intro e he hnone
      have hdropped := Fate.isDeleted_of_member?
          (Option.map_eq_none_iff.1 hnone)
      show e.row ∈ p.toDelete
      rw [htracks.toDelete]
      exact Plan.mem_deletes.2 ⟨e, he, hdropped, rfl⟩
    · obtain ⟨plan', htracks', -, hperm⟩ := Heuristic.decide_plan hdecide
      have hnamed' : (p.instruction fresh).named.Perm
          (plan'.assigned ++ fresh) :=
        Plan.named_perm (htracks'.moved ▸ rfl) htracks'.updated htracks'.ignored
      refine (hnamed'.map _).trans ?_
      rw [List.map_append, Plan.assigned_members, hmembers]
      exact hperm hcoherent
  · intro e h
    rcases fails_bind.1 h with h | ⟨p, _, -, h⟩
    · exact Heuristic.decide_failsOnly e (fails_ofExcept.1 h)
    rcases fails_bind.1 h with h | ⟨fresh, _, -, h⟩
    · obtain ⟨fresh, _, hreturns⟩ :=
        assignFresh_returns newId .regular p.index.members _
      exact (not_fails_of_returns hreturns h).elim
    rcases fails_bind.1 h with h | ⟨_, _, -, h⟩
    · exact (not_fails_log h).elim
    · exact (not_fails_pure h).elim

/-- A batch that lists a payment of the first row twice, and has a payment with
a blank id and one without an id. -/
def Sample.relisted : List (Member Reported) :=
  let tea : Member Reported := ⟨0, Sample.reported "x" "tea" (Sample.day 2)⟩
  [tea, ⟨1, Sample.reported " " "milk" (Sample.day 5)⟩, tea,
    ⟨2, { Sample.reported "x" "rye" (Sample.day 2) with externalId := none }⟩]

/-- The reconciliation of both rows with the batch. -/
def Sample.relistedRun : Run Instruction :=
  reconcileByIdAndAmount Sample.newId Sample.now "BANK"
    (Member.ofList Sample.store.rows) Sample.relisted

theorem relisted_spends_once :
    ∃ i j', Returns Sample.relistedRun .empty i j' ∧ i.toDelete.length = 1 ∧
      ∃ (plan : Plan) (slots : List Nat) (moved fresh : List Assigned),
        i.SpendsOnce (Member.ofList Sample.store.rows) Sample.relisted plan
          slots moved fresh ∧
        fresh.map (·.id) = (List.range' 0 fresh.length).map Sample.newId ∧
        j'.drawn = 0 + fresh.length := by
  have hrun : (Sample.relistedRun.run.run .empty).1 =
      .ok ((Sample.relistedRun.run.run .empty).1.toOption.getD .empty) := by
      decide +kernel
  have hcoherent : Member.Coherent Sample.relisted := by
    unfold Member.Coherent
    decide +kernel
  exact ⟨_, _, returns_of_run hrun, by decide +kernel,
    (reconcile_spends_once hcoherent).1 _ _ (returns_of_run hrun)⟩

end Reconcile

end LedgerSync
