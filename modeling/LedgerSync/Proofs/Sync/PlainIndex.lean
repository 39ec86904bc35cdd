import LedgerSync.Proofs.Store.Records
import LedgerSync.Proofs.Sync.IdCounts

/-!
# The index as a plain list of slots

All that an index of a batch answers can be told from the plain list of its live
slots (`Index.Refines`). The list begins as the whole batch, and a removal takes
the earliest slot of a record out of it, or fails and changes nothing. An index
keeps up with the list through every run of removals (`Index.ofBatch_refines`):
it represents the list (`Index.Represents`), which holds of a new index, is
preserved by each removal, and is enough to answer.
-/

namespace LedgerSync

/-! ## Buckets -/

namespace Multimap

variable {κ : Type} [DecidableEq κ] {m m' : Multimap κ} {k : κ} {n : Nat}

/-- No bucket is empty. -/
def Occupied (m : Multimap κ) : Prop := ∀ b ∈ m.buckets, b.2 ≠ []

theorem Occupied.add (h : m.Occupied) (k : κ) (n : Nat) :
    (m.add k n).Occupied := by
  obtain ⟨buckets⟩ := m
  show ∀ b ∈ add.go k n buckets, b.2 ≠ []
  unfold Occupied at h
  induction buckets with
  | nil => simp [add.go]
  | cons b buckets ih =>
    obtain ⟨hb, hbuckets⟩ := List.forall_mem_cons.1 h
    unfold add.go
    split
    · exact List.forall_mem_cons.2 ⟨by simp, hbuckets⟩
    · exact List.forall_mem_cons.2 ⟨hb, ih hbuckets⟩

/-- A map that is filled entry by entry has no empty bucket. -/
theorem occupied_foldl {α : Type} (key : α → κ) (entries : List (α × Nat)) :
    (entries.foldl (fun m e => m.add (key e.1) e.2) empty).Occupied := by
  suffices hgo : ∀ m : Multimap κ, m.Occupied →
      (entries.foldl (fun m e => m.add (key e.1) e.2) m).Occupied from
    hgo empty fun b hb => absurd hb List.not_mem_nil
  induction entries with
  | nil => exact fun m h => h
  | cons e entries ih => exact fun m h => ih _ (h.add _ _)

theorem Occupied.erase? (h : m.Occupied) (herase : m.erase? k n = some m') :
    m'.Occupied := by
  obtain ⟨left, hleft, rfl⟩ := Option.map_eq_some_iff.1 herase
  obtain ⟨buckets⟩ := m
  show ∀ b ∈ left, b.2 ≠ []
  unfold Occupied at h
  dsimp only at hleft h
  clear herase
  induction buckets generalizing left with
  | nil => cases hleft
  | cons b buckets ih =>
    obtain ⟨hb, hbuckets⟩ := List.forall_mem_cons.1 h
    unfold erase?.go at hleft
    split at hleft
    · split at hleft
      case isFalse => cases hleft
      split at hleft
      · obtain rfl := Option.some.inj hleft
        exact hbuckets
      · next hne =>
        obtain rfl := Option.some.inj hleft
        exact List.forall_mem_cons.2 ⟨hne, hbuckets⟩
    · obtain ⟨rest, hrest, rfl⟩ := Option.map_eq_some_iff.1 hleft
      exact List.forall_mem_cons.2 ⟨hb, ih rest hbuckets hrest⟩

end Multimap

/-! ## The plain list -/

/-- A plain list of live slots: the member of each, and its place in the
batch. -/
abbrev PlainIndex := List (Member Reported × Nat)

namespace PlainIndex

/-- The members, in batch order. -/
def members (l : PlainIndex) : List (Member Reported) := l.map (·.1)

/-- A record has a live slot. -/
def Lists (l : PlainIndex) (m : Member Reported) : Prop :=
  ∃ s ∈ l, s.1.key = m.key

/-- Without the earliest slot of a record; nothing changes where it has none. -/
def remove (l : PlainIndex) (m : Member Reported) : PlainIndex :=
  l.eraseP fun s => s.1.key == m.key

theorem remove_of_not_lists {l : PlainIndex} {m : Member Reported}
    (h : ¬l.Lists m) : l.remove m = l :=
  List.eraseP_of_forall_not fun s hs hkey => h ⟨s, hs, eq_of_beq hkey⟩

/-- What removals leave stays in batch order. -/
theorem foldl_remove_sublist (l : PlainIndex)
    (removals : List (Member Reported)) :
    (removals.foldl remove l).Sublist l := by
  induction removals generalizing l with
  | nil => exact List.Sublist.refl l
  | cons m removals ih => exact (ih _).trans (List.eraseP_sublist ..)

/-- A listed record has an earliest slot. -/
theorem Lists.split {l : PlainIndex} {m : Member Reported} (h : l.Lists m) :
    ∃ before s after, l = before ++ s :: after ∧ s.1.key = m.key ∧
    (∀ s' ∈ before, s'.1.key ≠ m.key) ∧ l.remove m = before ++ after := by
  obtain ⟨s, hs, hkey⟩ := h
  obtain ⟨s', before, after, hbefore, hkey', heq, hremove⟩ :=
    List.exists_of_eraseP (p := fun s : Member Reported × Nat =>
      s.1.key == m.key) hs (by simpa using hkey)
  exact ⟨before, s', after,
    heq, by simpa using hkey', by simpa using hbefore, hremove⟩

end PlainIndex

namespace Index

variable {x x' : Index} {m : Member Reported} {batch : List (Member Reported)}
  {l : PlainIndex}

/-- All that the index of a batch answers is told by a plain list of live
slots. -/
structure Refines (x : Index) (batch : List (Member Reported))
    (l : PlainIndex) : Prop where
  members : x.members = l.members
  isLive : ∀ n, x.isLive n = true ↔ n ∈ l.map (·.2)
  size : x.size = l.length
  contains : ∀ m, x.contains m = true ↔ l.Lists m
  withExternalId : ∀ id, x.withExternalId id =
    if isUsableId id then
      l.members.filter fun m => m.record.externalId = id else []
  withCents : ∀ cents, x.withCents cents = l.members.filter fun m =>
    m.record.cents = .ok cents
  groups_distinct : (x.groups.map (·.1)).Nodup
  groups : ∀ id ms, (id, ms) ∈ x.groups ↔
    ms ≠ [] ∧ ms = l.members.filter fun m => m.record.externalId = id
  remove_ok : ∀ m, (∃ x', x.remove m = .ok x') ↔ l.Lists m
  remove_notListed : ∀ m, (∀ m' ∈ batch, m'.key ≠ m.key) →
    x.remove m = .error (.index (.notListed m.record.label))
  remove_removed : ∀ m, (∃ m' ∈ batch, m'.key = m.key) → ¬l.Lists m →
    x.remove m = .error (.index (.alreadyRemoved m.record.label))

/-- The live slots of the index of a batch are those of a plain list, and its
maps file them. -/
structure Represents (x : Index) (batch : List (Member Reported))
    (l : PlainIndex) : Prop where
  wellFormed : x.WellFormed
  occupied : x.byExternalId.Occupied
  flagged : x.live.length = x.arena.length
  arena : x.arena.map (·.member) = batch
  numbered : (x.numbered.map fun s => (s.1.member, s.2)) = l

namespace Represents

/-! ## Answers -/

theorem members (h : x.Represents batch l) : x.members = l.members := by
  rw [members_eq, liveSlots, PlainIndex.members, ← h.numbered, List.map_map,
    List.map_map]
  rfl

theorem isLive_iff (h : x.Represents batch l) (n : Nat) :
    x.isLive n = true ↔ n ∈ l.map (·.2) := by
  have hnumbers : l.map (·.2) = x.numbered.map (·.2) := by
    rw [← h.numbered, List.map_map]
    rfl
  rw [hnumbers]
  constructor
  · intro hlive
    have hn : n < x.arena.length := by
      rw [← h.flagged]
      by_contra hn
      rw [isLive, List.getElem?_eq_none (Nat.le_of_not_lt hn)] at hlive
      cases hlive
    refine List.mem_map.2 ⟨(x.arena[n], n), List.mem_filter.2 ⟨?_, hlive⟩, rfl⟩
    exact List.mk_mem_zipIdx_iff_getElem?.2 (List.getElem?_eq_getElem hn)
  · intro hn
    obtain ⟨⟨e, n⟩, hs, rfl⟩ := List.mem_map.1 hn
    exact (getElem?_of_numbered hs).2

theorem size (h : x.Represents batch l) : x.size = l.length := by
  have hmembers : x.members.length = l.length := by
      rw [h.members, PlainIndex.members, List.length_map]
  have hflags : (x.arena.zip x.live).map (·.2) = x.live :=
    List.map_snd_zip (by rw [h.flagged])
  rw [← hmembers, Index.members, List.length_map,
    ← List.countP_eq_length_filter, Index.size, ← List.countP_eq_length_filter]
  conv_lhs => rw [← hflags, List.countP_map]
  rfl

theorem lists_iff (h : x.Represents batch l) (m : Member Reported) :
    l.Lists m ↔ ∃ s ∈ x.numbered, s.1.member.key = m.key := by
  rw [← h.numbered]
  constructor
  · rintro ⟨_, hmem, hkey⟩
    obtain ⟨s, hs, rfl⟩ := List.mem_map.1 hmem
    exact ⟨s, hs, hkey⟩
  · rintro ⟨s, hs, hkey⟩
    exact ⟨_, List.mem_map_of_mem hs, hkey⟩

theorem contains_iff (h : x.Represents batch l) (m : Member Reported) :
    x.contains m = true ↔ l.Lists m := by
  rw [h.lists_iff, contains, firstLiveSlot?_eq, Option.isSome_map,
    List.find?_isSome]
  simp

theorem withExternalId (h : x.Represents batch l) (id : Option String) :
    x.withExternalId id =
    if isUsableId id then l.members.filter fun m => m.record.externalId = id
    else [] := by
  split
  · next hid =>
    rw [h.wellFormed.withExternalId_eq hid, ← h.members, members_eq,
      List.filter_map]
    rfl
  · next hid => rw [Index.withExternalId, if_neg hid]

theorem withCents (h : x.Represents batch l) (cents : Int) :
    x.withCents cents =
      l.members.filter fun m => m.record.cents = .ok cents := by
  rw [h.wellFormed.withCents_eq, ← h.members, members_eq, List.filter_map]
  refine congrArg (List.map Slot.member) (List.filter_congr fun e he => ?_)
  simp [h.wellFormed.computed_of_live he]

/-- The members of a bucket are the live members with its id. -/
theorem membersAt_bucket (h : x.Represents batch l)
    {b : Option String × List Nat} (hb : b ∈ x.byExternalId.buckets) :
    x.membersAt b.2 = l.members.filter fun m => m.record.externalId = b.1 := by
  rw [h.wellFormed.externalIds.bucket_eq hb,
    membersAt_numbers (List.filter_subset_self x.numbered),
    ← h.members, members_eq, liveSlots, List.map_map, List.filter_map]
  rfl

theorem groups_distinct (h : x.Represents batch l) :
    (x.groups.map (·.1)).Nodup := by
  rw [Index.groups, List.map_map]
  exact h.wellFormed.externalIds.distinct

theorem mem_groups_iff (h : x.Represents batch l) (id : Option String)
    (ms : List (Member Reported)) :
    (id, ms) ∈ x.groups ↔ ms ≠ [] ∧ ms = l.members.filter fun m =>
    m.record.externalId = id := by
  constructor
  · intro hmem
    obtain ⟨b, hb, heq⟩ := List.mem_map.1 hmem
    obtain ⟨rfl, rfl⟩ := Prod.mk.inj heq
    refine ⟨fun hnil => ?_, h.membersAt_bucket hb⟩
    have hslots := h.wellFormed.externalIds.bucket_eq hb
    rw [hslots, membersAt_numbers (List.filter_subset_self x.numbered),
      List.map_eq_nil_iff] at hnil
    exact h.occupied b hb (by rw [hslots, hnil, List.map_nil])
  · rintro ⟨hne, rfl⟩
    obtain ⟨m, hm⟩ := List.exists_mem_of_ne_nil _ hne
    obtain ⟨hm, hid⟩ := List.mem_filter.1 hm
    rw [← h.members, members_eq, liveSlots, List.map_map] at hm
    obtain ⟨s, hs, rfl⟩ := List.mem_map.1 hm
    obtain ⟨b, hb, hkey⟩ := List.mem_map.1 (h.wellFormed.externalIds.key_mem hs)
    obtain rfl : b.1 = id := hkey.trans (of_decide_eq_true hid)
    exact List.mem_map.2 ⟨b, hb, Prod.ext rfl (h.membersAt_bucket hb)⟩

/-! ## Removals -/

/-- A listed record is taken out of its earliest slot, and the list keeps up. -/
theorem remove_of_lists (h : x.Represents batch l) (hm : l.Lists m) :
    ∃ x', x.remove m = .ok x' ∧ x'.Represents batch (l.remove m) := by
  obtain ⟨before, s, after, heq, hkey, hbefore, hremove⟩ := hm.split
  obtain ⟨pre, rest, hnumbered, rfl, hrest⟩ :=
    List.map_eq_append_iff.1 (h.numbered.trans heq)
  obtain ⟨⟨e, n⟩, post, rfl, rfl, rfl⟩ := List.map_eq_cons_iff.1 hrest
  obtain ⟨x', hok, hwell, harena, hleft⟩ :=
    h.wellFormed.remove_of_numbered hnumbered hkey fun s hs =>
    hbefore _ (List.mem_map_of_mem hs)
  refine ⟨x', hok, hwell, ?_, ?_, ?_, ?_⟩
  · obtain ⟨slot, entry, byExternalId, byCents, -, -, herase, -, rfl⟩ :=
      remove_eq hok
    exact h.occupied.erase? herase
  · obtain ⟨slot, entry, -, -, -, -, hlive⟩ := remove_slot hok
    rw [hlive, List.length_set, h.flagged, harena]
  · rw [harena, h.arena]
  · rw [hleft, hremove, List.map_append]

theorem slotsOf_isEmpty_iff (h : x.Represents batch l) (m : Member Reported) :
    (x.slotsOf m).isEmpty = true ↔ ∀ m' ∈ batch, m'.key ≠ m.key := by
  have hbatch : batch = x.arena.zipIdx.map fun s => s.1.member := by
    have hmembers : (x.arena.zipIdx.map (·.1)).map (·.member) = batch := by
      rw [List.zipIdx_map_fst, h.arena]
    rw [← hmembers, List.map_map]
    rfl
  rw [slotsOf, List.isEmpty_iff, List.map_eq_nil_iff, List.filter_eq_nil_iff,
    hbatch, List.forall_mem_map]
  simp only [beq_iff_eq, ne_eq]

/-- A record that is not listed has no live slot to be taken out of. -/
theorem firstLiveSlot?_of_not_lists (h : x.Represents batch l)
    (hm : ¬l.Lists m) : x.firstLiveSlot? m = none := by
  have hcontains := (h.contains_iff m).not.2 hm
  rwa [contains, Option.not_isSome_iff_eq_none] at hcontains

theorem remove_notListed (h : x.Represents batch l)
    (hm : ∀ m' ∈ batch, m'.key ≠ m.key) :
    x.remove m = .error (.index (.notListed m.record.label)) := by
  rw [remove, if_pos ((h.slotsOf_isEmpty_iff m).2 hm)]
  rfl

theorem remove_removed (h : x.Represents batch l)
    (hm : ∃ m' ∈ batch, m'.key = m.key) (hgone : ¬l.Lists m) :
    x.remove m = .error (.index (.alreadyRemoved m.record.label)) := by
  have hslots : ¬(x.slotsOf m).isEmpty = true := by
    rw [h.slotsOf_isEmpty_iff]
    obtain ⟨m', hm', hkey⟩ := hm
    exact fun hnone => hnone m' hm' hkey
  rw [remove, if_neg hslots, h.firstLiveSlot?_of_not_lists hgone]
  rfl

theorem remove_ok_iff (h : x.Represents batch l) (m : Member Reported) :
    (∃ x', x.remove m = .ok x') ↔ l.Lists m := by
  constructor
  · rintro ⟨x', hok⟩
    by_contra hgone
    obtain ⟨slot, _, _, _, hslot, -⟩ := remove_eq hok
    rw [h.firstLiveSlot?_of_not_lists hgone] at hslot
    cases hslot
  · intro hm
    obtain ⟨x', hok, -⟩ := h.remove_of_lists hm
    exact ⟨x', hok⟩

/-- Whatever represents a plain list answers as the list does. -/
theorem refines (h : x.Represents batch l) : x.Refines batch l where
  members := h.members
  isLive := h.isLive_iff
  size := h.size
  contains := h.contains_iff
  withExternalId := h.withExternalId
  withCents := h.withCents
  groups_distinct := h.groups_distinct
  groups := h.mem_groups_iff
  remove_ok := h.remove_ok_iff
  remove_notListed _ := h.remove_notListed
  remove_removed _ := h.remove_removed

end Represents

/-- A new index represents the whole batch. -/
theorem represents_ofBatch (h : ofBatch batch = .ok x) :
    x.Represents batch batch.zipIdx := by
  obtain ⟨hwell, -, harena⟩ := ofBatch_slots h
  obtain ⟨slots, -, h⟩ := bind_eq_ok_iff.1 h
  obtain rfl := pure_eq_ok_iff.1 h
  refine ⟨hwell, ?_, List.length_map _, harena, ?_⟩
  · exact Multimap.occupied_foldl (fun e : Slot => e.member.record.externalId)
      slots.zipIdx
  · rw [numbered_ofSlots, ← harena]
    exact (List.zipIdx_map ..).symm

/-! ## Runs of removals -/

/-- The index after an attempt to take a record out; one that fails leaves it as
it was. -/
def attempt (x : Index) (m : Member Reported) : Index :=
  (x.remove m).toOption.getD x

/-- An attempt keeps up with the plain list, and the counters do not change. -/
theorem Represents.attempt (h : x.Represents batch l) (m : Member Reported) :
    (x.attempt m).Represents batch (l.remove m) ∧ (x.attempt m).duplicateIds =
      x.duplicateIds ∧ (x.attempt m).missingIds = x.missingIds := by
  unfold Index.attempt
  cases hremove : x.remove m with
  | error e =>
    have hgone : ¬l.Lists m := by
      intro hm
      obtain ⟨x', hok⟩ := (h.remove_ok_iff m).2 hm
      rw [hok] at hremove
      cases hremove
    rw [PlainIndex.remove_of_not_lists hgone]
    exact ⟨h, rfl, rfl⟩
  | ok x' =>
    obtain ⟨y, hok, hleft⟩ :=
      h.remove_of_lists ((h.remove_ok_iff m).1 ⟨x', hremove⟩)
    obtain rfl := Except.ok.inj (hok.symm.trans hremove)
    obtain ⟨_, _, _, _, -, -, -, -, rfl⟩ := remove_eq hok
    exact ⟨hleft, rfl, rfl⟩

theorem Represents.attempts (h : x.Represents batch l)
    (removals : List (Member Reported)) :
    (removals.foldl Index.attempt x).Represents batch
    (removals.foldl PlainIndex.remove l) ∧
      (removals.foldl Index.attempt x).duplicateIds = x.duplicateIds ∧
      (removals.foldl Index.attempt x).missingIds = x.missingIds := by
  induction removals generalizing x l with
  | nil => exact ⟨h, rfl, rfl⟩
  | cons m removals ih =>
    obtain ⟨hnext, hduplicate, hmissing⟩ := h.attempt m
    obtain ⟨hrest, hduplicates, hmissings⟩ := ih hnext
    exact ⟨hrest, hduplicates.trans hduplicate, hmissings.trans hmissing⟩

/-- A batch of transactions with amounts in cents has an index. After any run of
attempts to take records out, successful or not, it answers as the plain list of
slots which the same removals leave of the batch, in batch order, and counts the
duplicate and the missing external ids as it did at first. -/
theorem ofBatch_refines {batch : List (Member Reported)}
    (hcents : ∀ m ∈ batch, ∃ n, m.record.cents = .ok n) :
    ∃ x, ofBatch batch = .ok x ∧ ∀ removals : List (Member Reported),
      (removals.foldl attempt x).Refines batch
        (removals.foldl PlainIndex.remove batch.zipIdx) ∧
        (removals.foldl PlainIndex.remove batch.zipIdx).Sublist batch.zipIdx ∧
        (removals.foldl attempt x).duplicateIds = x.duplicateIds ∧
        (removals.foldl attempt x).missingIds = x.missingIds := by
  obtain ⟨x, hx⟩ := ofBatch_total hcents
  refine ⟨x, hx, fun removals => ?_⟩
  obtain ⟨hrepresents, hcounters⟩ := (represents_ofBatch hx).attempts removals
  exact ⟨hrepresents.refines, PlainIndex.foldl_remove_sublist _ _, hcounters⟩

/-- A payment, and another one. -/
def Sample.repeatedPayment : Member Reported :=
  ⟨0, Sample.reported "x" "tea" (Sample.day 3)⟩

def Sample.singlePayment : Member Reported :=
  ⟨1, Sample.reported "y" "milk" (Sample.day 3)⟩

/-- A batch that lists the first payment twice. -/
def Sample.listedTwice : List (Member Reported) :=
  [Sample.repeatedPayment, Sample.singlePayment, Sample.repeatedPayment]

theorem listedTwice_refines : ∃ x, ofBatch Sample.listedTwice = .ok x ∧
    let once := x.attempt Sample.repeatedPayment
    let twice := once.attempt Sample.repeatedPayment
    once.members = Sample.listedTwice.tail ∧
    once.duplicateIds = x.duplicateIds ∧
      twice.withCents (-1250) = [Sample.singlePayment] ∧
      ∃ label, twice.remove Sample.repeatedPayment =
        .error (.index (.alreadyRemoved label)) := by
  have hcents : ∀ m ∈ Sample.listedTwice, ∃ n, m.record.cents = .ok n := by
    intro m hm
    refine ⟨-1250, ?_⟩
    revert m
    decide +kernel
  obtain ⟨x, hx, hruns⟩ := ofBatch_refines hcents
  obtain ⟨honce, -, hcount, -⟩ := hruns [Sample.repeatedPayment]
  obtain ⟨htwice, -⟩ := hruns [Sample.repeatedPayment, Sample.repeatedPayment]
  refine ⟨x, hx, honce.members.trans (by decide), hcount, ?_, _,
    htwice.remove_removed _ ?_ ?_⟩
  · exact (htwice.withCents _).trans (by decide +kernel)
  · exact ⟨_, List.mem_cons_self, rfl⟩
  · unfold PlainIndex.Lists
    decide

end Index

end LedgerSync
