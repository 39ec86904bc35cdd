import LedgerSync.Proofs.Run
import Mathlib.Data.List.Perm.Basic

/-!
# The live members of an index

An index is used up by taking members out of it. Whatever its two maps hold, a
removal that succeeds takes exactly one live slot, so the members that were
taken and those that are left are the batch (`remove_perm`). The slot holds the
very member that was asked for, because the key of a member tells which record
of the batch it is (`Member.Coherent`).
-/

namespace LedgerSync

/-- Members with one key are one record. -/
def Member.Coherent (batch : List (Member Reported)) : Prop :=
  ∀ m ∈ batch, ∀ m' ∈ batch, m.key = m'.key → m = m'

namespace Index

variable {x x' : Index} {m : Member Reported} {batch : List (Member Reported)}

/-- Clearing the flag of a live slot takes its member out. -/
theorem live_set_perm {arena : List Slot} {live : List Bool} {slot : Nat}
    {entry : Slot} (ha : arena[slot]? = some entry)
    (hl : live[slot]? = some true) :
    (((arena.zip live).filter (·.2)).map (·.1.member)).Perm
      (entry.member ::
        ((arena.zip (live.set slot false)).filter (·.2)).map (·.1.member)) := by
  induction arena generalizing live slot with
  | nil => cases ha
  | cons a arena ih =>
    cases live with
    | nil => cases hl
    | cons l live =>
      cases slot with
      | zero =>
        cases ha
        cases hl
        exact List.Perm.refl _
      | succ slot =>
        have hrest : (((arena.zip live).filter (·.2)).map (·.1.member)).Perm
            (entry.member ::
            ((arena.zip (live.set slot false)).filter (·.2)).map
              (·.1.member)) := ih ha hl
        cases l with
        | false => exact hrest
        | true =>
          exact (hrest.cons a.member).trans
            (List.Perm.swap entry.member a.member _)

/-- A removal clears the first live slot of the record, and erases it from both
maps. -/
theorem remove_eq (h : x.remove m = .ok x') :
    ∃ slot entry byExternalId byCents, x.firstLiveSlot? m = some slot ∧
    x.arena[slot]? = some entry ∧
      x.byExternalId.erase? entry.member.record.externalId slot =
        some byExternalId ∧ x.byCents.erase? entry.cents slot = some byCents ∧
      x' = { x with live := x.live.set slot false, byExternalId, byCents } := by
  cases hslot : x.firstLiveSlot? m with
  | none =>
    simp only [remove, hslot] at h
    split at h <;> cases h
  | some slot =>
  simp only [remove, hslot] at h
  split at h
  · cases h
  split at h
  case h_2 => cases h
  next entry hentry =>
  split at h
  case h_2 => cases h
  next byExternalId hid =>
  split at h
  case h_2 => cases h
  next byCents hcents =>
  cases h
  exact ⟨slot, entry, byExternalId, byCents, rfl, hentry, hid, hcents, rfl⟩

/-- A removal takes a live slot of the record's key. -/
theorem remove_slot (h : x.remove m = .ok x') :
    ∃ slot entry, x.arena[slot]? = some entry ∧ x.live[slot]? = some true ∧
      entry.member.key = m.key ∧ x'.arena = x.arena ∧
      x'.live = x.live.set slot false := by
  obtain ⟨slot, entry, _, _, hslot, hentry, -, -, rfl⟩ := remove_eq h
  have hlive : x.live[slot]? = some true := by
    have hisLive := List.find?_some hslot
    rw [isLive] at hisLive
    cases hl : x.live[slot]? with
    | none =>
      rw [hl] at hisLive
      cases hisLive
    | some l =>
      rw [hl] at hisLive
      rw [show l = true from hisLive]
  have hkey : entry.member.key = m.key := by
    obtain ⟨⟨e, k⟩, he, rfl⟩ := List.mem_map.1 (List.mem_of_find?_eq_some hslot)
    obtain ⟨hmem, hk⟩ := List.mem_filter.1 he
    rw [List.mk_mem_zipIdx_iff_getElem?] at hmem
    rw [hmem] at hentry
    cases hentry
    exact eq_of_beq hk
  exact ⟨slot, entry, hentry, hlive, hkey, rfl, rfl⟩

theorem remove_arena (h : x.remove m = .ok x') : x'.arena = x.arena := by
  obtain ⟨_, _, -, -, -, harena, -⟩ := remove_slot h
  exact harena

/-- What was taken out and what is left are the members that were there. -/
theorem remove_perm (hcoherent : Member.Coherent (x.arena.map (·.member)))
    (hm : m ∈ x.arena.map (·.member)) (h : x.remove m = .ok x') :
    x.members.Perm (m :: x'.members) := by
  obtain ⟨slot, entry, ha, hl, hkey, harena, hlive⟩ := remove_slot h
  obtain rfl : entry.member = m :=
    hcoherent _ (List.mem_map_of_mem (List.mem_of_getElem? ha)) _ hm hkey
  rw [members, members, harena, hlive]
  exact live_set_perm ha hl

/-- Members are found among those of the arena. -/
theorem membersAt_subset (x : Index) (slots : List Nat) :
    x.membersAt slots ⊆ x.arena.map (·.member) := by
  intro m hm
  obtain ⟨slot, -, h⟩ := List.mem_filterMap.1 hm
  obtain ⟨entry, hentry, rfl⟩ := Option.map_eq_some_iff.1 h
  exact List.mem_map_of_mem (List.mem_of_getElem? hentry)

theorem withExternalId_subset (x : Index) (id : Option String) :
    x.withExternalId id ⊆ x.arena.map (·.member) := by
  unfold withExternalId
  split
  · exact x.membersAt_subset _
  · exact List.nil_subset _

/-- The slots of a batch hold its members, all of which have a value in
cents. -/
theorem fill_spec {slots : List Slot} (h : fill batch = .ok slots) :
    slots.map (·.member) = batch ∧
      ∀ m ∈ batch, ∃ n, m.record.cents = .ok n := by
  induction batch generalizing slots with
  | nil =>
    cases h
    exact ⟨rfl, fun _ hm => absurd hm List.not_mem_nil⟩
  | cons m batch ih =>
    rw [fill, mapM_eq_ok_iff, List.forall₂_cons_left_iff] at h
    obtain ⟨slot, rest, hslot, hrest, rfl⟩ := h
    obtain ⟨n, hn, hslot⟩ := bind_eq_ok_iff.1 hslot
    obtain rfl := pure_eq_ok_iff.1 hslot
    obtain ⟨hmembers, hcents⟩ := ih (mapM_eq_ok_iff.2 hrest)
    refine ⟨by rw [List.map_cons, hmembers], ?_⟩
    intro m' hm'
    rcases List.mem_cons.1 hm' with rfl | hm'
    · exact ⟨n, hn⟩
    · exact hcents m' hm'

theorem members_ofSlots (slots : List Slot) :
    (ofSlots slots).members = slots.map (·.member) := by
  show ((slots.zip (slots.map fun _ => true)).filter (·.2)).map (·.1.member) = _
  induction slots with
  | nil => rfl
  | cons slot slots ih => exact congrArg (List.cons slot.member) ih

/-- A new index holds the batch. -/
theorem ofBatch_spec (h : ofBatch batch = .ok x) :
    x.members = batch ∧ x.arena.map (·.member) = batch ∧
      ∀ m ∈ batch, ∃ n, m.record.cents = .ok n := by
  obtain ⟨slots, hslots, h⟩ := bind_eq_ok_iff.1 h
  obtain rfl := pure_eq_ok_iff.1 h
  obtain ⟨hmembers, hcents⟩ := fill_spec hslots
  exact ⟨(members_ofSlots slots).trans hmembers, hmembers, hcents⟩

theorem ofBatch_total (h : ∀ m ∈ batch, ∃ n, m.record.cents = .ok n) :
    ∃ x, ofBatch batch = .ok x := by
  obtain ⟨slots, hslots⟩ : ∃ slots, fill batch = .ok slots := by
    refine mapM_total ?_
    intro m hm
    obtain ⟨n, hn⟩ := h m hm
    exact ⟨⟨m, n⟩, by rw [hn]; rfl⟩
  exact ⟨ofSlots slots, bind_eq_ok_iff.2 ⟨slots, hslots, rfl⟩⟩

end Index

end LedgerSync
