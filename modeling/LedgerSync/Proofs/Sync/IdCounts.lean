import LedgerSync.Proofs.Matching.Groups
import LedgerSync.Proofs.Sync.LiveSlots

/-!
# Counting external ids

The index of a batch counts the members without an external id and those that
share theirs. The buckets of a map that files the slots under their ids are the
groups of the slots by id (`Multimap.Files.buckets_perm`), so the second counter
is the number of slots whose id is usable and occurs again
(`Index.duplicateIds_eq`). Neither counter depends on the order of the batch
(`Index.ofBatch_perm`).
-/

namespace LedgerSync

namespace Multimap

variable {α κ : Type} [DecidableEq κ] {m : Multimap κ} {key : α → κ}
  {entries : List (α × Nat)}

/-- A bucket holds the numbers that are filed under its key. -/
theorem Files.bucket_eq (h : m.Files key entries) {b : κ × List Nat}
    (hb : b ∈ m.buckets) :
    b.2 = (entries.filter fun e => key e.1 = b.1).map (·.2) := by
  obtain ⟨k, ns⟩ := b
  rw [← h.slots_eq, slots]
  have hdistinct := h.distinct
  revert hdistinct hb
  clear h
  induction m.buckets with
  | nil => exact fun hb => absurd hb List.not_mem_nil
  | cons first rest ih =>
    intro hb hdistinct
    rw [List.map_cons, List.nodup_cons] at hdistinct
    rcases List.mem_cons.1 hb with rfl | hb
    · rw [List.lookup_cons_self]
      rfl
    · have hne : k ≠ first.1 := by
        rintro rfl
        exact hdistinct.1 (List.mem_map_of_mem (f := (·.1)) hb)
      rw [List.lookup_cons, beq_eq_false_iff_ne.2 hne]
      exact ih hb hdistinct.2

/-- The key of every entry has a bucket. -/
theorem Files.key_mem (h : m.Files key entries) {e : α × Nat}
    (he : e ∈ entries) : key e.1 ∈ m.buckets.map (·.1) := by
  have hslot : e.2 ∈ m.slots (key e.1) := by
    rw [h.slots_eq]
    exact List.mem_map_of_mem (List.mem_filter.2 ⟨he, decide_eq_true rfl⟩)
  rw [slots] at hslot
  cases hlookup : m.buckets.lookup (key e.1) with
  | none =>
    rw [hlookup] at hslot
    cases hslot
  | some ns =>
    obtain ⟨l₁, l₂, heq, -⟩ := List.lookup_eq_some_iff.1 hlookup
    rw [heq, List.map_append, List.map_cons]
    exact List.mem_append_right _ List.mem_cons_self

/-- The buckets that are chosen by key and size are the entries that are chosen
by their key and by how many entries share it. -/
theorem Files.buckets_perm (h : m.Files key entries) (p : κ → Nat → Bool) :
    ((m.buckets.filter fun b => p b.1 b.2.length).flatMap (·.2)).Perm
      ((entries.filter fun e => p (key e.1) (entries.countP fun e' => key e'.1 =
        key e.1)).map (·.2)) := by
  have hsize : ∀ b ∈ m.buckets, b.2.length = entries.countP fun e =>
      key e.1 = b.1 := by
    intro b hb
    rw [h.bucket_eq hb, List.length_map, List.countP_eq_length_filter]
  have hbuckets : (m.buckets.filter fun b => p b.1 b.2.length).flatMap (·.2) =
      (((m.buckets.filter fun b => p b.1 b.2.length).map (·.1)).flatMap fun k =>
        (entries.filter fun e => p (key e.1) (entries.countP fun e' =>
          key e'.1 = key e.1)).filter
          fun e => decide (key e.1 = k)).map (·.2) := by
    rw [List.map_flatMap, List.flatMap_map]
    refine List.flatMap_congr fun b hb => ?_
    obtain ⟨hb, hchosen⟩ := List.mem_filter.1 hb
    rw [hsize b hb] at hchosen
    rw [h.bucket_eq hb, List.filter_filter]
    refine congrArg (List.map Prod.snd) (List.filter_congr fun e _ => ?_)
    by_cases hkey : key e.1 = b.1
    · simp [hkey, hchosen]
    · simp [hkey]
  rw [hbuckets]
  refine (Matching.Matcher.flatMap_filter_perm (fun e : α × Nat => key e.1) _ ?_
    _ ?_).map _
  · exact h.distinct.sublist (List.filter_sublist.map _)
  · intro e he
    obtain ⟨he, hchosen⟩ := List.mem_filter.1 he
    obtain ⟨b, hb, hkey⟩ := List.mem_map.1 (h.key_mem he)
    refine List.mem_map.2 ⟨b, List.mem_filter.2 ⟨hb, ?_⟩, hkey⟩
    rw [hsize b hb, hkey]
    exact hchosen

end Multimap

namespace Index

variable {arena arena' : List Slot} {batch batch' : List (Member Reported)}
  {x : Index}

/-- How many slots have an external id. -/
def idCount (arena : List Slot) (id : Option String) : Nat :=
  arena.countP fun s => s.member.record.externalId = id

/-- The members that share their id are the slots whose id is usable and occurs
more than once. -/
theorem duplicateIds_eq (arena : List Slot) :
    (ofSlots arena).duplicateIds = arena.countP fun s =>
      isUsableId s.member.record.externalId &&
        decide (1 < idCount arena s.member.record.externalId) := by
  have hfiles := Multimap.files_foldl (fun s : Slot =>
      s.member.record.externalId) arena.zipIdx
  have hperm := hfiles.buckets_perm fun id n => isUsableId id && decide (1 < n)
  have hcount : ∀ p : Slot → Bool, (arena.zipIdx.countP fun e => p e.1) =
      arena.countP p := by
    intro p
    have hmap := List.countP_map (p := p) (f := Prod.fst) (l := arena.zipIdx)
    rw [List.zipIdx_map_fst] at hmap
    exact hmap.symm
  have hid : ∀ id, (arena.zipIdx.countP fun e =>
      e.1.member.record.externalId = id) =
        idCount arena id :=
        fun id => hcount fun s => s.member.record.externalId = id
  have hlength := hperm.length_eq
  simp only [List.length_map, ← List.countP_eq_length_filter, hid] at hlength
  exact hlength.trans (hcount fun s => isUsableId s.member.record.externalId &&
    decide (1 < idCount arena s.member.record.externalId))

theorem missingIds_eq (arena : List Slot) :
    (ofSlots arena).missingIds = arena.countP fun s =>
    !isUsableId s.member.record.externalId :=
  (List.countP_eq_length_filter ..).symm

/-- The counters of a batch do not depend on its order. -/
theorem ofBatch_perm (hperm : batch.Perm batch') (h : ofBatch batch = .ok x) :
    ∃ x', ofBatch batch' = .ok x' ∧ x'.missingIds = x.missingIds ∧
      x'.duplicateIds = x.duplicateIds := by
  obtain ⟨slots, hslots, h⟩ := bind_eq_ok_iff.1 h
  obtain rfl := pure_eq_ok_iff.1 h
  obtain ⟨slots', hslots', harena⟩ := mapM_perm hperm hslots
  refine ⟨ofSlots slots', bind_eq_ok_iff.2 ⟨slots', hslots', rfl⟩, ?_, ?_⟩
  · rw [missingIds_eq, missingIds_eq, harena.countP_eq]
  · have hid : ∀ id, idCount slots' id = idCount slots id :=
      fun id => (harena.countP_eq _).symm
    simp only [duplicateIds_eq, hid]
    exact (harena.countP_eq _).symm

end Index

end LedgerSync
