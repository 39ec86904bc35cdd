import LedgerSync.Proofs.Sync.HeuristicPlan
import LedgerSync.Proofs.Sync.LiveSlots
import LedgerSync.Proofs.Sync.Selection
import LedgerSync.Proofs.Transaction.Unchanged

/-!
# Rows that find their own slots

A batch that was written to a store and is fetched again changes nothing when
every row finds the slot that it came from. Where a row looks closest it can
tell two members apart by date, amount and external id, or by date, amount,
description and status if its external id is blank; a slot that agrees in all of
these resembles the row (`Reported.Resembles`). The first live slot that
resembles a row is its counterpart (`counterpart_of_resembles`). So a row takes
its own slot unless an earlier one resembles it, and is ignored
(`step_of_repeats`).

Rows in an order in which each finds its own slot clear the batch (`Clears`).
The order of the batch is such an order, because then the own slot is the first
live one (`clears_zip`); and every order is one when no slot resembles the row
of another (`clears_of_pairwise`).
-/

namespace LedgerSync

open Run

/-- Where the row looks closest it cannot tell the transaction from its own. -/
def Reported.Resembles (t : Reported) (s : Stored) : Prop :=
  t.date = s.date ∧ t.cents = s.cents ∧
    if Index.isUsableId s.externalId then t.externalId = s.externalId
    else t.description.getD "" = s.description.getD "" ∧
    ¬(s.status = .booked ∧ t.status = .pending)

/-- A transaction resembles every row that repeats it. -/
theorem Stored.Repeats.resembles {s : Stored} {t : Reported} (h : s.Repeats t) :
    t.Resembles s := by
  have hm := h.mirrors
  refine ⟨hm.date.symm, hm.cents.symm, ?_⟩
  split
  · exact hm.externalId.symm
  · refine ⟨by rw [hm.description], ?_⟩
    rintro ⟨hbooked, hpending⟩
    rw [hm.status, hpending] at hbooked
    cases hbooked

namespace Heuristic

variable {x : Index} {s : Stored} {e : Slot} {before after : List Slot}

theorem findM?_append {α ε : Type} {f : α → Except ε Bool}
    {before after : List α} {a : α} (hbefore : ∀ b ∈ before, f b = .ok false)
    (ha : f a = .ok true) :
    (before ++ a :: after).findM? f = .ok (some a) := by
  induction before with
  | nil =>
    rw [List.nil_append, List.findM?, ha]
    rfl
  | cons b before ih =>
    rw [List.cons_append, List.findM?, hbefore b List.mem_cons_self]
    exact ih fun b' hb' => hbefore b' (List.mem_cons_of_mem b hb')

/-- Of the slots with the external id of a record, the first one of its date and
amount is taken. -/
theorem amongSameId_of_first (hdate : e.member.record.date = s.date)
    (hcents : s.cents = .ok e.cents)
    (hcomputed : ∀ f ∈ before ++ e :: after,
      f.member.record.cents = .ok f.cents)
    (hbefore : ∀ f ∈ before, f.member.record.date = s.date →
      f.cents ≠ e.cents) :
    amongSameId s ((before ++ e :: after).map (·.member)) =
      .ok (some e.member) := by
  unfold amongSameId
  split
  · next m heq =>
    have hmem : e.member ∈ (before ++ e :: after).map (·.member) :=
      List.mem_map_of_mem (List.mem_append_right _ List.mem_cons_self)
    rw [heq, List.mem_singleton] at hmem
    rw [hmem]
  · -- among those of the record's date, the ones before the slot have other
    -- amounts
    have hsameDate : ((before ++ e :: after).map (·.member)).filter
        (·.record.date == s.date) =
        (before.filter (·.member.record.date == s.date)).map (·.member) ++
          e.member :: (after.filter (·.member.record.date == s.date)).map
            (·.member) := by
      rw [List.filter_map, List.filter_append,
        List.filter_cons_of_pos (by simpa using hdate),
        List.map_append, List.map_cons]
      rfl
    have hexact : (((before ++ e :: after).map (·.member)).filter
        (·.record.date == s.date)).findM?
        (fun m => do return (← m.record.cents) == e.cents) =
          .ok (some e.member) := by
      rw [hsameDate]
      refine findM?_append ?_ ?_
      · intro m hm
        obtain ⟨f, hf, rfl⟩ := List.mem_map.1 hm
        obtain ⟨hf, hfdate⟩ := List.mem_filter.1 hf
        have hne : (f.cents == e.cents) = false :=
          beq_eq_false_iff_ne.2 (hbefore f hf (eq_of_beq hfdate))
        rw [hcomputed f (List.mem_append_left _ hf)]
        exact congrArg Except.ok hne
      · rw [hcomputed e (List.mem_append_right _ List.mem_cons_self)]
        exact congrArg Except.ok (beq_self_eq_true e.cents)
    rw [hcents]
    show (do
      let exact ← (((before ++ e :: after).map (·.member)).filter
        (·.record.date == s.date)).findM?
        (fun m => do return (← m.record.cents) == e.cents)
      pure (exact <|> (((before ++ e :: after).map (·.member)).filter
        (·.record.date == s.date)).head?) : Except Failure
          (Option (Member Reported))) = _
    rw [hexact]
    rfl

/-- Of the slots with the amount of a record, the first one of its date and
description is taken, if its status fits. -/
theorem attributeCandidates_of_first (hdate : e.member.record.date = s.date)
    (hstatus : ¬(s.status = .booked ∧ e.member.record.status = .pending))
    (hdescription : e.member.record.description.getD "" = s.description.getD "")
    (hbefore : ∀ f ∈ before, f.member.record.date = s.date →
      ¬(s.status = .booked ∧ f.member.record.status = .pending) →
      f.member.record.description.getD "" ≠ s.description.getD "") :
    ∃ rest, attributeCandidates s ((before ++ e :: after).map (·.member)) =
      e.member :: rest := by
  let fits : Member Reported → Bool := fun m =>
    m.record.date == s.date &&
      !(s.status == .booked && m.record.status == .pending)
  let isNamed : Member Reported → Bool := fun m =>
    m.record.description.getD "" == s.description.getD ""
  have hfits : ((before ++ e :: after).map (·.member)).filter fits =
      (before.map (·.member)).filter fits ++ e.member ::
      (after.map (·.member)).filter fits := by
    have he : fits e.member = true := by
      simpa [fits, hdate] using not_and_or.1 hstatus
    rw [List.map_append, List.map_cons, List.filter_append,
      List.filter_cons_of_pos he]
  have hnone : ((before.map (·.member)).filter fits).filter isNamed = [] := by
    rw [List.filter_eq_nil_iff]
    intro m hm
    obtain ⟨hm, hmfits⟩ := List.mem_filter.1 hm
    obtain ⟨f, hf, rfl⟩ := List.mem_map.1 hm
    obtain ⟨hfdate, hfstatus⟩ : f.member.record.date = s.date ∧
        (¬s.status = .booked ∨ ¬f.member.record.status = .pending) := by
      simpa [fits] using hmfits
    simpa [isNamed] using hbefore f hf hfdate (not_and_or.2 hfstatus)
  have hnamed : isNamed e.member = true := by simpa [isNamed] using hdescription
  unfold attributeCandidates
  dsimp only
  split
  · next heq =>
    have hnil := hfits.symm.trans heq
    exact (List.append_ne_nil_of_right_ne_nil _ (List.cons_ne_nil _ _)
      hnil).elim
  · next m heq =>
    have hsingle := hfits.symm.trans heq
    have hmem : e.member ∈ [m] := by
      rw [← hsingle]
      exact List.mem_append_right _ List.mem_cons_self
    rw [List.mem_singleton.1 hmem]
    exact ⟨[], rfl⟩
  · show ∃ rest, (((before ++ e :: after).map (·.member)).filter fits).filter
      isNamed = e.member :: rest
    rw [hfits, List.filter_append, hnone, List.nil_append,
      List.filter_cons_of_pos hnamed]
    exact ⟨_, rfl⟩

/-- The slots of a list that meet a condition, around one that does. -/
theorem map_filter_around {α β : Type} {p : α → Bool} {f : α → β}
    {before after : List α} {a : α} (ha : p a = true) :
    ((before ++ a :: after).filter p).map f =
      (before.filter p ++ a :: after.filter p).map f := by
  rw [List.filter_append, List.filter_cons_of_pos ha]

/-- A record with a usable external id takes the first live slot that resembles
it. -/
theorem counterpart_of_same_id (hx : x.WellFormed)
    (hlive : x.liveSlots = before ++ e :: after)
    (hid : Index.isUsableId s.externalId = true)
    (he : e.member.record.Resembles s)
    (hbefore : ∀ f ∈ before, ¬f.member.record.Resembles s) :
    counterpart x s = .ok (some (.byExternalId, e.member)) := by
  obtain ⟨hdate, hcents, hclose⟩ := he
  rw [if_pos hid] at hclose
  have hlive' : e ∈ x.liveSlots :=
    hlive ▸ List.mem_append_right _ List.mem_cons_self
  rw [hx.computed_of_live hlive', eq_comm] at hcents
  have hcandidates : x.withExternalId s.externalId =
      ((before.filter fun f => f.member.record.externalId = s.externalId) ++
        e :: after.filter fun f => f.member.record.externalId =
          s.externalId).map (·.member) := by
    rw [hx.withExternalId_eq hid, hlive]
    exact map_filter_around (by simpa using hclose)
  have hcomputed : ∀ f ∈ (before.filter fun f => f.member.record.externalId =
      s.externalId) ++
      e :: after.filter fun f => f.member.record.externalId = s.externalId,
      f.member.record.cents = .ok f.cents := by
    intro f hf
    refine hx.computed_of_live (hlive ▸ ?_)
    rw [← List.filter_cons_of_pos (by simpa using hclose), ← List.filter_append]
      at hf
    exact List.mem_of_mem_filter hf
  have hchoice : amongSameId s (x.withExternalId s.externalId) =
      .ok (some e.member) := by
    rw [hcandidates]
    refine amongSameId_of_first hdate hcents hcomputed ?_
    intro f hf hfdate hfcents
    obtain ⟨hf, hfid⟩ := List.mem_filter.1 hf
    have hf' : f ∈ x.liveSlots := hlive ▸ List.mem_append_left _ hf
    refine hbefore f hf
      ⟨hfdate, by rw [hcents, hx.computed_of_live hf', hfcents], ?_⟩
    rw [if_pos hid]
    simpa using hfid
  unfold counterpart
  split
  · next hnil =>
    rw [hcandidates] at hnil
    simp at hnil
  · rw [hchoice]
    rfl

/-- A record without a usable external id takes the first live slot that
resembles it. -/
theorem counterpart_of_same_content (hx : x.WellFormed)
    (hlive : x.liveSlots = before ++ e :: after)
    (hid : ¬Index.isUsableId s.externalId = true)
    (he : e.member.record.Resembles s)
    (hbefore : ∀ f ∈ before, ¬f.member.record.Resembles s) :
    ∃ found, counterpart x s = .ok (some (found, e.member)) := by
  obtain ⟨hdate, hcents, hclose⟩ := he
  rw [if_neg hid] at hclose
  have hlive' : e ∈ x.liveSlots :=
    hlive ▸ List.mem_append_right _ List.mem_cons_self
  rw [hx.computed_of_live hlive', eq_comm] at hcents
  obtain ⟨rest, hrest⟩ : ∃ rest, attributeCandidates s (x.withCents e.cents) =
      e.member :: rest := by
    rw [hx.withCents_eq, hlive, map_filter_around (by simp)]
    refine attributeCandidates_of_first hdate hclose.2 hclose.1 ?_
    intro f hf hfdate hfstatus hfdescription
    obtain ⟨hf, hfcents⟩ := List.mem_filter.1 hf
    have hf' : f ∈ x.liveSlots := hlive ▸ List.mem_append_left _ hf
    refine hbefore f hf ⟨hfdate, ?_, ?_⟩
    · rw [hcents, hx.computed_of_live hf', of_decide_eq_true hfcents]
    · rw [if_neg hid]
      exact ⟨hfdescription, hfstatus⟩
  have hnone : x.withExternalId s.externalId = [] := by
    rw [Index.withExternalId, if_neg hid]
  unfold counterpart
  rw [hnone, hcents]
  dsimp only [bind, Except.bind]
  rw [hrest]
  cases rest with
  | nil => exact ⟨_, rfl⟩
  | cons => exact ⟨_, rfl⟩

/-- The first live slot that resembles a record is its counterpart. -/
theorem counterpart_of_resembles (hx : x.WellFormed)
    (hlive : x.liveSlots = before ++ e :: after)
    (he : e.member.record.Resembles s)
    (hbefore : ∀ f ∈ before, ¬f.member.record.Resembles s) :
    ∃ found, counterpart x s = .ok (some (found, e.member)) := by
  by_cases hid : Index.isUsableId s.externalId = true
  · exact ⟨_, counterpart_of_same_id hx hlive hid he hbefore⟩
  · exact counterpart_of_same_content hx hlive hid he hbefore

/-! ## Passes that ignore every row -/

/-- Whether slots of one key are one slot's worth: the member and its amount. -/
theorem eq_of_key_eq (hx : x.WellFormed)
    (hcoherent : Member.Coherent (x.arena.map (·.member))) {f : Slot}
    (he : e ∈ x.liveSlots) (hf : f ∈ x.liveSlots)
    (hkey : f.member.key = e.member.key) :
    f = e := by
  have hsub := x.liveSlots_sublist.subset
  have hmember : f.member = e.member :=
    hcoherent _ (List.mem_map_of_mem (hsub hf)) _
    (List.mem_map_of_mem (hsub he)) hkey
  have hcents := (hx.computed_of_live hf).symm.trans
      (hmember ▸ hx.computed_of_live he)
  obtain ⟨m, n⟩ := f
  obtain rfl : n = e.cents := Except.ok.inj hcents
  obtain rfl : m = e.member := hmember
  rfl

/-- A row that repeats the first live slot that resembles it is ignored. -/
theorem step_of_repeats (now : DateTime) {p : Progress} {s : Member Stored}
    (hx : p.index.WellFormed)
    (hcoherent : Member.Coherent (p.index.arena.map (·.member)))
    (hlive : p.index.liveSlots = before ++ e :: after)
    (hown : s.record.Repeats e.member.record)
    (hbefore : ∀ f ∈ before, ¬f.member.record.Resembles s.record) :
    ∃ p', step now p s = .ok p' ∧ p'.index.WellFormed ∧
    p'.index.arena = p.index.arena ∧
      p'.index.liveSlots = before ++ after ∧ p'.toDelete = p.toDelete ∧
      p'.toReinsert = p.toReinsert ∧ p'.toUpdate = p.toUpdate ∧
      p'.toIgnore = p.toIgnore ++ [⟨e.member, s.record.id, .regular⟩] := by
  have he : e ∈ p.index.liveSlots := by
    rw [hlive]
    exact List.mem_append_right _ List.mem_cons_self
  obtain ⟨found, hfound⟩ :=
    counterpart_of_resembles hx hlive hown.resembles hbefore
  -- a slot of the same key before it would resemble the row too
  have hkeys : ∀ f ∈ before, f.member.key ≠ e.member.key := by
    intro f hf hkey
    have hf' : f ∈ p.index.liveSlots := by
      rw [hlive]
      exact List.mem_append_left _ hf
    exact hbefore f hf (eq_of_key_eq hx hcoherent he hf' hkey ▸ hown.resembles)
  obtain ⟨index, hremove, hwell, harena, hleft⟩ :=
    hx.remove_of_live hlive rfl hkeys
  obtain ⟨d, hderived, hsame⟩ := hown.derived .regular s.record.createdAt now
  have hunchanged := not_rewritten_of_same hderived hsame
  refine ⟨_, bind_eq_ok_iff.2 ⟨_, hfound, bind_eq_ok_iff.2 ⟨index, hremove,
    bind_eq_ok_iff.2 ⟨d, hderived, bind_eq_ok_iff.2 ⟨true, hsame, rfl⟩⟩⟩⟩,
    hwell, harena, hleft, ?_, rfl, rfl, rfl⟩
  show (if (e.member.record.date != s.record.date || e.member.record.status !=
    s.record.status) = true
    then p.toDelete ++ [s] else p.toDelete) = p.toDelete
  rw [hunchanged]
  rfl

end Heuristic

/-- Rows in an order in which each finds its own slot: the first live slot that
resembles the row is the one that it repeats. Every slot finds its row. -/
inductive Clears : List Slot → List (Slot × Stored) → Prop
  | nil : Clears [] []
  | cons {before after : List Slot} {e : Slot} {s : Stored}
    {pairs : List (Slot × Stored)}
      (own : s.Repeats e.member.record) (first : ∀ f ∈ before,
        ¬f.member.record.Resembles s)
      (rest : Clears (before ++ after) pairs) :
      Clears (before ++ e :: after) ((e, s) :: pairs)

namespace Clears

variable {slots : List Slot} {pairs : List (Slot × Stored)}

/-- The entry for a row that stays under its id. -/
def entry (q : Slot × Stored) : Assigned := ⟨q.1.member, q.2.id, .regular⟩

/-- A pass over rows in such an order ignores all of them and leaves no slot. -/
theorem foldlM_step (h : Clears slots pairs) (now : DateTime)
    {stored : List (Member Stored)}
    (hstored : stored.map (·.record) = pairs.map (·.2)) {p : Heuristic.Progress}
    (hx : p.index.WellFormed)
    (hcoherent : Member.Coherent (p.index.arena.map (·.member)))
    (hlive : p.index.liveSlots = slots) :
    ∃ p', stored.foldlM (Heuristic.step now) p = .ok p' ∧
    p'.index.members = [] ∧
      p'.toDelete = p.toDelete ∧ p'.toReinsert = p.toReinsert ∧
      p'.toUpdate = p.toUpdate ∧
      p'.toIgnore = p.toIgnore ++ pairs.map entry := by
  induction h generalizing stored p with
  | nil =>
    obtain rfl := List.map_eq_nil_iff.1 hstored
    refine ⟨p, rfl, ?_, rfl, rfl, rfl, (List.append_nil _).symm⟩
    rw [Index.members_eq, hlive]
    rfl
  | cons own first rest ih =>
    obtain ⟨s, stored, rfl, rfl, hrest⟩ := List.map_eq_cons_iff.1 hstored
    obtain ⟨p₁, hstep, hx₁, harena, hleft, hdelete, hreinsert, hupdate,
      hignore⟩ :=
      Heuristic.step_of_repeats now hx hcoherent hlive own first
    obtain ⟨p', hpass, hmembers, hdelete', hreinsert', hupdate', hignore'⟩ :=
      ih hrest hx₁ (harena ▸ hcoherent) hleft
    refine ⟨p', ?_, hmembers, hdelete'.trans hdelete,
      hreinsert'.trans hreinsert, hupdate'.trans hupdate, ?_⟩
    · rw [List.foldlM_cons]
      exact bind_eq_ok_iff.2 ⟨p₁, hstep, hpass⟩
    · rw [hignore', hignore, List.append_assoc]
      rfl

/-- In the order of the batch the own slot of a row is the first live one. -/
theorem zip {rows : List Stored}
    (h : List.Forall₂ (fun e r => r.Repeats e.member.record) slots rows) :
    Clears slots (slots.zip rows) := by
  induction h with
  | nil => exact .nil
  | @cons e r slots rows hown _ ih =>
    show Clears ([] ++ e :: slots) _
    exact Clears.cons hown (fun _ hf => (by cases hf)) ih

end Clears

/-- The two slots of a batch cannot be confused: they have different dates or
amounts, or external ids that tell them apart. -/
def Member.Apart (m m' : Member Reported) : Prop :=
  (m.record.date, m.record.cents) ≠ (m'.record.date, m'.record.cents) ∨
    Index.isUsableId m.record.externalId = true ∧
    Index.isUsableId m'.record.externalId = true ∧
      m.record.externalId ≠ m'.record.externalId

/-- A member that is apart from the one that a row repeats does not resemble the
row. -/
theorem Member.Apart.not_resembles {m m' : Member Reported} {s : Stored}
    (h : m.Apart m') (hown : s.Repeats m'.record) : ¬m.record.Resembles s := by
  rintro ⟨hdate, hcents, hclose⟩
  have hm := hown.mirrors
  rcases h with h | ⟨-, hid, hne⟩
  · exact h (Prod.ext (hdate.trans hm.date) (hcents.trans hm.cents))
  · rw [hm.externalId, if_pos hid] at hclose
    exact hne hclose

/-- When no two slots can be confused, every order of the rows is one in which
each finds its own slot. -/
theorem Clears.of_pairwise {slots : List Slot} {pairs : List (Slot × Stored)}
    (hslots : (pairs.map (·.1)).Perm slots)
    (hown : ∀ q ∈ pairs, q.2.Repeats q.1.member.record)
    (hapart : slots.Pairwise fun e f => e.member.Apart f.member) :
    Clears slots pairs := by
  induction pairs generalizing slots with
  | nil =>
    obtain rfl := List.nil_perm.1 hslots
    exact .nil
  | cons q pairs ih =>
    obtain ⟨e, s⟩ := q
    obtain ⟨before, after, rfl⟩ :=
      List.append_of_mem (hslots.subset List.mem_cons_self)
    obtain ⟨hbefore, hafter, hcross⟩ := List.pairwise_append.1 hapart
    have hsub : (before ++ after).Sublist (before ++ e :: after) :=
      (List.sublist_cons_self e after).append_left before
    refine .cons (hown _ List.mem_cons_self) ?_ ?_
    · intro f hf
      exact (hcross f hf e List.mem_cons_self).not_resembles
        (hown _ List.mem_cons_self)
    · refine ih ?_ (fun q hq => hown q (List.mem_cons_of_mem _ hq))
        (hapart.sublist hsub)
      exact (hslots.trans List.perm_middle).cons_inv

section Reconcile

variable {newId : Nat → String} {now : DateTime} {provider : String}
  {stored : List (Member Stored)} {batch : List (Member Reported)} {j : Journal}

/-- A reconciliation in which every row finds its own slot changes nothing. -/
theorem reconcile_of_clears {x : Index} {pairs : List (Slot × Stored)}
    (newId : Nat → String) (now : DateTime) (provider : String) (j : Journal)
    (hx : Index.ofBatch batch = .ok x) (hcoherent : Member.Coherent batch)
    (hclears : Clears x.arena pairs)
    (hstored : stored.map (·.record) = pairs.map (·.2)) :
    ∃ i j', Returns (reconcileByIdAndAmount newId now provider stored batch) j i
      j' ∧
      i.toDelete = [] ∧ i.toInsert = [] ∧ i.toUpdate = [] ∧
      i.toIgnore = pairs.map Clears.entry ∧ i.oldestChanged = none := by
  obtain ⟨hwell, hlive, hbatch⟩ := Index.ofBatch_slots hx
  obtain ⟨p, hpass, hmembers, hdelete, hreinsert, hupdate, hignore⟩ :=
    hclears.foldlM_step now hstored
      (p := Heuristic.start provider stored.length x) hwell
      (hbatch ▸ hcoherent) hlive
  have hdecide : Heuristic.decide now provider stored batch = .ok p :=
    bind_eq_ok_iff.2 ⟨x, hx, hpass⟩
  obtain ⟨j', hreturns⟩ :
      ∃ j', Returns (reconcileByIdAndAmount newId now provider stored batch) j
      (p.instruction []) j' := by
    simp only [reconcileByIdAndAmount, returns_bind, returns_ofExcept,
      returns_pure, returns_log]
    refine ⟨_, p, j, ⟨hdecide, rfl⟩, [], j, ?_, (), _, rfl, rfl, rfl⟩
    rw [hmembers]
    exact returns_pure.2 ⟨rfl, rfl⟩
  refine ⟨p.instruction [], j', hreturns, hdelete, ?_, hupdate, hignore, ?_⟩
  · show p.toReinsert ++ [] = []
    rw [hreinsert]
    rfl
  · show Instruction.oldestChange p.toDelete (p.toReinsert ++ []) p.toUpdate =
      none
    rw [hdelete, hreinsert, hupdate]
    rfl

/-- The rows of a batch, one for every slot. -/
theorem forall₂_repeats {x : Index} {rows : List Stored}
    (hx : Index.ofBatch batch = .ok x)
    (hnan : ∀ m ∈ batch, m.record.hasNan = false)
    (hrows : List.Forall₂ (fun m r => r.DerivedFrom m.record) batch rows) :
    List.Forall₂ (fun e r => r.Repeats e.member.record) x.arena rows := by
  obtain ⟨hwell, -, rfl⟩ := Index.ofBatch_slots hx
  rw [List.forall₂_map_left_iff] at hrows
  have hnumbers : ∀ e ∈ x.arena, e.member.record.cents = .ok e.cents ∧
      e.member.record.hasNan = false :=
    fun e he => ⟨hwell.computed e he, hnan _ (List.mem_map_of_mem he)⟩
  refine List.Forall₂.imp ?_ ((List.forall₂_and_left _ _).2 ⟨hnumbers, hrows⟩)
  rintro e r ⟨⟨hcents, hnan⟩, hr⟩
  exact Stored.repeats_of_derivedFrom hr hcents hnan

/-- The entries of a batch and its rows. -/
theorem map_entry_zip {slots : List Slot} (rows : List Stored) :
    (slots.zip rows).map Clears.entry =
      List.zipWith (fun m r => ⟨m, r.id, .regular⟩) (slots.map (·.member))
        rows := by
  rw [List.zipWith_map_left, ← List.map_uncurry_zip_eq_zipWith]
  rfl

/-- A batch whose slots cannot be confused changes nothing when it is fetched
again, in whatever order its rows are listed: every transaction is ignored under
the id of its row. -/
theorem reconcile_ignores_in_any_order {rows : List Stored}
    (hcoherent : Member.Coherent batch)
    (hcents : ∀ m ∈ batch, ∃ n, m.record.cents = .ok n)
    (hnan : ∀ m ∈ batch, m.record.hasNan = false)
    (hapart : batch.Pairwise Member.Apart)
    (hrows : List.Forall₂ (fun m r => r.DerivedFrom m.record) batch rows)
    (hstored : (stored.map (·.record)).Perm rows) :
    ∃ i j', Returns (reconcileByIdAndAmount newId now provider stored batch) j i
      j' ∧ i.toDelete = [] ∧ i.toInsert = [] ∧ i.toUpdate = [] ∧
      i.toIgnore.Perm (List.zipWith (fun m r => ⟨m, r.id, .regular⟩) batch
        rows) := by
  obtain ⟨x, hx⟩ := Index.ofBatch_total hcents
  obtain ⟨hwell, -, hbatch⟩ := Index.ofBatch_slots hx
  have hown := forall₂_repeats hx hnan hrows
  -- the slots and their rows, in the order of the stored rows
  have hlength := hown.length_eq
  have hrows' : List.Forall₂ (fun r (q : Slot × Stored) => r = q.2) rows
      (x.arena.zip rows) := by
    rw [← List.forall₂_map_right_iff, List.map_snd_zip (by omega),
      List.forall₂_eq_eq_eq]
  obtain ⟨pairs, hpairs, hperm⟩ := List.perm_comp_forall₂ hstored hrows'
  rw [← List.forall₂_map_right_iff, List.forall₂_eq_eq_eq] at hpairs
  have hclears : Clears x.arena pairs := by
    refine Clears.of_pairwise ?_ ?_ ?_
    · have hfirst : (x.arena.zip rows).map (·.1) = x.arena :=
        List.map_fst_zip (by omega)
      exact hfirst ▸ hperm.map (·.1)
    · intro q hq
      exact List.forall₂_zip hown (hperm.subset hq)
    · rw [← hbatch, List.pairwise_map] at hapart
      exact hapart
  obtain ⟨i, j', hreturns, hdelete, hinsert, hupdate, hignore, -⟩ :=
    reconcile_of_clears newId now provider j hx hcoherent hclears hpairs
  refine ⟨i, j', hreturns, hdelete, hinsert, hupdate, ?_⟩
  rw [hignore, ← hbatch, ← map_entry_zip]
  exact hperm.map _

/-- Two payments of one day with different ids, and one of the next day with an
id of the day before. -/
def Sample.distinguishable : List (Member Reported) :=
  Member.ofList
    [Sample.reported "x" "tea" (Sample.day 3),
      Sample.reported "y" "tea" (Sample.day 3),
      Sample.reported "x" "tea" (Sample.day 4)]

/-- The record of a transaction in the account. -/
def Sample.record (id : String) (t : Reported) : Stored :=
  (t.toStored Sample.account id "EUR" .regular none Sample.now).toOption.getD
    (Sample.stored id "" "" (Sample.day 0))

/-- The records of the payments. -/
def Sample.distinguishableRows : List Stored :=
  List.zipWith (fun id m => Sample.record id m.record) ["r1", "r2",
    "r3"] Sample.distinguishable

theorem reversed_ignores_in_any_order :
    ∃ i j', Returns (reconcileByIdAndAmount Sample.newId Sample.now "BANK"
        (Member.ofList Sample.distinguishableRows.reverse)
          Sample.distinguishable) .empty i j' ∧
      i.toDelete = [] ∧ i.toInsert = [] ∧ i.toUpdate = [] ∧
      i.toIgnore.Perm (List.zipWith (fun m r => ⟨m, r.id, .regular⟩)
        Sample.distinguishable
        Sample.distinguishableRows) := by
  have hcoherent : Member.Coherent Sample.distinguishable := by
    unfold Member.Coherent
    decide +kernel
  have hcents : ∀ m ∈ Sample.distinguishable, m.record.cents = .ok (-1250) := by
      decide +kernel
  have hapart : Sample.distinguishable.Pairwise Member.Apart := by
    unfold Member.Apart
    decide +kernel
  have hrows : List.Forall₂ (fun m r => m.record.toStored Sample.account r.id
      "EUR" .regular none
      Sample.now = .ok r) Sample.distinguishable
        Sample.distinguishableRows := by decide +kernel
  exact reconcile_ignores_in_any_order hcoherent (fun m hm => ⟨_, hcents m hm⟩)
    (by decide +kernel)
    hapart (hrows.imp fun _ _ h => ⟨_, _, _, _, _, h⟩)
    (by rw [Member.ofList_records]; exact List.reverse_perm _)

end Reconcile

end LedgerSync
