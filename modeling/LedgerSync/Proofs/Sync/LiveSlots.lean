import LedgerSync.Proofs.Sync.LiveMembers
import Mathlib.Data.List.Nodup

/-!
# The live slots of an index

Everything that an index answers is a question about its live slots in batch
order. `Index.WellFormed` says that the two maps of an index file exactly these
slots, and that their amounts were computed. A new index is well formed and has
all slots of the batch (`ofBatch_slots`), and taking a member out removes the
first live slot of its key and leaves the index well formed (`remove_of_live`).
So the members with an external id or an amount are always those of the live
slots that have it (`WellFormed.withExternalId_eq`, `WellFormed.withCents_eq`).
-/

namespace LedgerSync

namespace Multimap

variable {α κ : Type} [DecidableEq κ] {m m' : Multimap κ} {key : α → κ}
  {entries : List (α × Nat)}

/-- The map files the numbers of the entries under their keys, in order, and
nothing else. -/
structure Files (m : Multimap κ) (key : α → κ) (entries : List (α × Nat)) :
    Prop where
  distinct : (m.buckets.map (·.1)).Nodup
  slots_eq : ∀ k, m.slots k = (entries.filter fun e => key e.1 = k).map (·.2)

theorem slots_add (m : Multimap κ) (k : κ) (n : Nat) (k' : κ) :
    (m.add k n).slots k' = if k = k' then m.slots k' ++ [n]
    else m.slots k' := by
  obtain ⟨buckets⟩ := m
  unfold slots add
  induction buckets with
  | nil =>
    by_cases h : k = k'
    · simp [add.go, h]
    · simp [add.go, List.lookup_cons, h, beq_eq_false_iff_ne.2 (Ne.symm h)]
  | cons b buckets ih =>
    obtain ⟨kb, ns⟩ := b
    dsimp only at ih ⊢
    unfold add.go
    by_cases hb : kb = k
    · rw [if_pos hb]
      by_cases hk : k' = kb
      · simp [hk, hb]
      · have hne : k ≠ k' := fun h => hk (h.symm.trans hb.symm)
        simp [List.lookup_cons, beq_eq_false_iff_ne.2 hk, hne]
    · rw [if_neg hb]
      by_cases hk : k' = kb
      · have hne : k ≠ k' := fun h => hb (hk.symm.trans h.symm)
        simp [hk, Ne.symm hb]
      · simpa [List.lookup_cons, beq_eq_false_iff_ne.2 hk] using ih

theorem keys_add (m : Multimap κ) (k : κ) (n : Nat) :
    (m.add k n).buckets.map (·.1) =
      if k ∈ m.buckets.map (·.1) then m.buckets.map (·.1)
      else m.buckets.map (·.1) ++ [k] := by
  obtain ⟨buckets⟩ := m
  show (add.go k n buckets).map (·.1) = _
  induction buckets with
  | nil => rfl
  | cons b buckets ih =>
    obtain ⟨kb, ns⟩ := b
    unfold add.go
    by_cases hb : kb = k
    · simp [hb]
    · rw [if_neg hb, List.map_cons, ih]
      by_cases hk : k ∈ buckets.map (·.1)
      · simp [hk]
      · simp [hk, Ne.symm hb]

theorem Files.add (h : m.Files key entries) (a : α) (n : Nat) :
    (m.add (key a) n).Files key (entries ++ [(a, n)]) := by
  constructor
  · rw [keys_add]
    split
    · exact h.distinct
    · next hnew =>
      rw [List.nodup_append']
      exact ⟨h.distinct, List.nodup_singleton _, by simpa using hnew⟩
  · intro k
    rw [slots_add, h.slots_eq, List.filter_append, List.map_append]
    by_cases hk : key a = k
    · simp [hk]
    · simp [hk]

theorem files_empty (key : α → κ) : (empty : Multimap κ).Files key [] :=
  ⟨List.nodup_nil, fun _ => rfl⟩

/-- A map that is filled entry by entry files all of them. -/
theorem files_foldl (key : α → κ) (entries : List (α × Nat)) :
    (entries.foldl (fun m e => m.add (key e.1) e.2) empty).Files key
      entries := by
  suffices hgo : ∀ (rest seen : List (α × Nat)) (m : Multimap κ),
      m.Files key seen →
      (rest.foldl (fun m e => m.add (key e.1) e.2) m).Files key
        (seen ++ rest) from
    hgo entries [] empty (files_empty key)
  intro rest
  induction rest with
  | nil =>
    intro seen m h
    rw [List.append_nil]
    exact h
  | cons e rest ih =>
    intro seen m h
    rw [List.append_cons]
    exact ih _ _ (h.add e.1 e.2)

/-- Erasing a number that is filed leaves the other numbers of its key and all
other keys. -/
theorem erase?_of_mem (h : (m.buckets.map (·.1)).Nodup) {k : κ} {n : Nat}
    (hn : n ∈ m.slots k) :
    ∃ m', m.erase? k n = some m' ∧
    (m'.buckets.map (·.1)).Sublist (m.buckets.map (·.1)) ∧
      ∀ k', m'.slots k' = if k = k' then (m.slots k').erase n
      else m.slots k' := by
  obtain ⟨buckets⟩ := m
  suffices hgo : ∃ left, erase?.go k n buckets = some left ∧
      (left.map (·.1)).Sublist (buckets.map (·.1)) ∧
      ∀ k', (left.lookup k').getD [] =
        if k = k' then ((buckets.lookup k').getD []).erase n
        else (buckets.lookup k').getD [] by
    obtain ⟨left, hleft, hsub, hslots⟩ := hgo
    refine ⟨⟨left⟩, ?_, hsub, hslots⟩
    unfold erase?
    rw [hleft]
    rfl
  unfold slots at hn
  induction buckets with
  | nil => cases hn
  | cons b buckets ih =>
    obtain ⟨kb, ns⟩ := b
    obtain ⟨hnew, hrest⟩ := List.nodup_cons.1 h
    unfold erase?.go
    by_cases hb : kb = k
    · subst hb
      have hmem : n ∈ ns := by simpa [List.lookup_cons] using hn
      -- the key stands nowhere else, so without its bucket nothing is filed
      -- under it
      have habsent : buckets.lookup kb = none := by
        rw [List.lookup_eq_none_iff]
        intro p hp
        have hne : kb ≠ p.1 := by
          rintro rfl
          exact hnew (List.mem_map_of_mem (f := (·.1)) hp)
        simpa using hne
      rw [if_pos rfl, if_pos hmem]
      cases herase : ns.erase n with
      | nil =>
        refine ⟨buckets, rfl, List.sublist_cons_self _ _, ?_⟩
        intro k'
        by_cases hk : kb = k'
        · subst hk
          simp [habsent, herase]
        · simp [List.lookup_cons, hk, beq_eq_false_iff_ne.2 (Ne.symm hk)]
      | cons n' left =>
        refine ⟨_, rfl, List.Sublist.refl _, ?_⟩
        intro k'
        by_cases hk : kb = k'
        · subst hk
          simp [herase]
        · simp [List.lookup_cons, hk, beq_eq_false_iff_ne.2 (Ne.symm hk)]
    · have hlookup : ((⟨kb, ns⟩ :: buckets).lookup k) = buckets.lookup k := by
        simp [List.lookup_cons, beq_eq_false_iff_ne.2 (Ne.symm hb)]
      rw [hlookup] at hn
      obtain ⟨left, hleft, hsub, hslots⟩ := ih hrest hn
      rw [if_neg hb, hleft]
      refine ⟨(kb, ns) :: left, rfl, hsub.cons_cons _, ?_⟩
      intro k'
      by_cases hk : k' = kb
      · subst hk
        simp [Ne.symm hb]
      · simpa [List.lookup_cons, beq_eq_false_iff_ne.2 hk] using hslots k'

/-- Erasing the number of an entry files the entries of other numbers. -/
theorem Files.erase (h : m.Files key entries)
    (hnumbers : (entries.map (·.2)).Nodup) {a : α} {n : Nat}
    (ha : (a, n) ∈ entries) :
    ∃ m', m.erase? (key a) n = some m' ∧
    m'.Files key (entries.filter fun e => e.2 ≠ n) := by
  have hn : n ∈ m.slots (key a) := by
    rw [h.slots_eq]
    exact List.mem_map.2 ⟨(a, n), List.mem_filter.2 ⟨ha, by simp⟩, rfl⟩
  obtain ⟨m', herase, hsub, hslots⟩ := erase?_of_mem h.distinct hn
  refine ⟨m', herase, hsub.nodup h.distinct, ?_⟩
  intro k
  have hswap : ((entries.filter fun e => e.2 ≠ n).filter fun e => key e.1 =
      k).map (·.2) = (m.slots k).filter (· ≠ n) := by
    rw [h.slots_eq, List.filter_map, List.filter_filter, List.filter_filter]
    simp only [Function.comp_def, Bool.and_comm]
  have hnodup : (m.slots k).Nodup := by
    rw [h.slots_eq]
    exact (List.filter_sublist.map _).nodup hnumbers
  rw [hslots, hswap]
  by_cases hk : key a = k
  · rw [if_pos hk, hnodup.erase_eq_filter]
    exact List.filter_congr fun n' _ => by by_cases h : n' = n <;> simp [h]
  · rw [if_neg hk, eq_comm, List.filter_eq_self]
    intro n' hn'
    rw [h.slots_eq] at hn'
    obtain ⟨⟨a', n''⟩, hmem, rfl⟩ := List.mem_map.1 hn'
    obtain ⟨hentry, hkey⟩ := List.mem_filter.1 hmem
    simp only [decide_eq_true_eq] at hkey ⊢
    -- a number stands in one entry, and the entry of `n` has another key
    rintro rfl
    have heq := List.inj_on_of_nodup_map hnumbers hentry ha rfl
    cases heq
    exact hk hkey

end Multimap

namespace Index

variable {x x' : Index} {m : Member Reported} {batch : List (Member Reported)}

/-- The live slots with their numbers. -/
def numbered (x : Index) : List (Slot × Nat) :=
  x.arena.zipIdx.filter fun s => x.isLive s.2

/-- The live slots in batch order. -/
def liveSlots (x : Index) : List Slot := x.numbered.map (·.1)

/-- The maps file the live slots, and the amount of every slot is that of its
member. -/
structure WellFormed (x : Index) : Prop where
  externalIds : x.byExternalId.Files (·.member.record.externalId) x.numbered
  amounts : x.byCents.Files (·.cents) x.numbered
  computed : ∀ e ∈ x.arena, e.member.record.cents = .ok e.cents

theorem numbered_numbers_nodup (x : Index) : (x.numbered.map (·.2)).Nodup := by
  have hall : (x.arena.zipIdx.map (·.2)).Nodup := by
    rw [List.zipIdx_map_snd]
    exact List.nodup_range'
  exact (List.filter_sublist.map _).nodup hall

theorem getElem?_of_numbered {e : Slot} {n : Nat} (h : (e, n) ∈ x.numbered) :
    x.arena[n]? = some e ∧ x.isLive n = true := by
  obtain ⟨hmem, hlive⟩ := List.mem_filter.1 h
  exact ⟨List.mk_mem_zipIdx_iff_getElem?.1 hmem, hlive⟩

theorem liveSlots_sublist (x : Index) : x.liveSlots.Sublist x.arena := by
  have h := (List.filter_sublist (l := x.arena.zipIdx)
    (p := fun s => x.isLive s.2)).map (·.1)
  rwa [List.zipIdx_map_fst] at h

/-- The live members are those of the live slots. -/
theorem members_eq (x : Index) : x.members = x.liveSlots.map (·.member) := by
  unfold members liveSlots numbered isLive
  suffices hgo : ∀ (arena : List Slot) (live before : List Bool),
      ((arena.zip live).filter (·.2)).map (·.1.member) =
        (((arena.zipIdx before.length).filter fun s =>
          (before ++ live)[s.2]?.getD false).map
          (·.1)).map (·.member) from hgo x.arena x.live []
  intro arena
  induction arena with
  | nil => exact fun _ _ => rfl
  | cons e arena ih =>
    intro live before
    cases live with
    | nil =>
      rw [List.zip_nil_right, List.filter_nil, List.filter_eq_nil_iff.2]
      · rfl
      · intro s hs
        have hle := List.le_snd_of_mem_zipIdx hs
        simp [List.getElem?_eq_none hle]
    | cons l live =>
      have hrest := ih live (before ++ [l])
      rw [List.length_append, List.length_singleton, List.append_assoc,
        List.singleton_append] at hrest
      have hflag : (before ++ l :: live)[before.length]?.getD false = l := by
          simp
      rw [List.zipIdx_cons, List.zip_cons_cons, List.filter_cons,
        List.filter_cons]
      simp only [hflag]
      cases l with
      | false => exact hrest
      | true => exact congrArg (List.cons e.member) hrest

/-! ## Lookups -/

/-- Looking slots up by the numbers of live ones gives their members. -/
theorem membersAt_numbers {es : List (Slot × Nat)} (h : es ⊆ x.numbered) :
    x.membersAt (es.map (·.2)) = es.map (·.1.member) := by
  induction es with
  | nil => rfl
  | cons e es ih =>
    obtain ⟨he, hes⟩ := List.cons_subset.1 h
    have hslot := (getElem?_of_numbered he).1
    rw [List.map_cons, membersAt, List.filterMap_cons, hslot]
    exact congrArg (List.cons e.1.member) (ih hes)

theorem WellFormed.computed_of_live (h : x.WellFormed) {e : Slot}
    (he : e ∈ x.liveSlots) :
    e.member.record.cents = .ok e.cents :=
      h.computed e (x.liveSlots_sublist.subset he)

theorem WellFormed.withExternalId_eq (h : x.WellFormed) {id : Option String}
    (hid : isUsableId id = true) :
    x.withExternalId id =
      (x.liveSlots.filter fun e => e.member.record.externalId = id).map
        (·.member) := by
  rw [withExternalId, if_pos hid, h.externalIds.slots_eq,
    membersAt_numbers (List.filter_subset_self x.numbered), liveSlots,
      List.filter_map, List.map_map]
  rfl

theorem WellFormed.withCents_eq (h : x.WellFormed) (cents : Int) :
    x.withCents cents = (x.liveSlots.filter fun e => e.cents = cents).map
      (·.member) := by
  rw [withCents, h.amounts.slots_eq,
    membersAt_numbers (List.filter_subset_self x.numbered),
    liveSlots, List.filter_map, List.map_map]
  rfl

/-! ## Making an index -/

theorem fill_computed {slots : List Slot} (h : fill batch = .ok slots) :
    ∀ e ∈ slots, e.member.record.cents = .ok e.cents := by
  intro e he
  obtain ⟨m, -, hm⟩ := exists_of_forall₂_right (mapM_eq_ok_iff.1 h) he
  obtain ⟨n, hn, hm⟩ := bind_eq_ok_iff.1 hm
  obtain rfl := pure_eq_ok_iff.1 hm
  exact hn

theorem numbered_ofSlots (slots : List Slot) :
    (ofSlots slots).numbered = slots.zipIdx := by
  refine List.filter_eq_self.2 ?_
  intro s hs
  have hlt : s.2 < slots.length := List.snd_lt_of_mem_zipIdx hs
  show ((slots.map fun _ => true)[s.2]?).getD false = true
  simp [hlt]

/-- A new index is well formed, and its live slots are the batch with its
amounts. -/
theorem ofBatch_slots (h : ofBatch batch = .ok x) :
    x.WellFormed ∧ x.liveSlots = x.arena ∧ x.arena.map (·.member) = batch := by
  obtain ⟨slots, hslots, h⟩ := bind_eq_ok_iff.1 h
  obtain rfl := pure_eq_ok_iff.1 h
  refine ⟨⟨?_, ?_, fill_computed hslots⟩, ?_, (fill_spec hslots).1⟩
  · rw [numbered_ofSlots]
    exact Multimap.files_foldl (fun e : Slot => e.member.record.externalId)
      slots.zipIdx
  · rw [numbered_ofSlots]
    exact Multimap.files_foldl (fun e : Slot => e.cents) slots.zipIdx
  · rw [liveSlots, numbered_ofSlots, List.zipIdx_map_fst]
    rfl

/-! ## Taking a member out -/

theorem firstLiveSlot?_eq (x : Index) (m : Member Reported) :
    x.firstLiveSlot? m = (x.numbered.find? fun s => s.1.member.key == m.key).map
      (·.2) := by
  rw [firstLiveSlot?, slotsOf, numbered, List.find?_map, List.find?_filter,
    List.find?_filter]
  simp only [Function.comp_apply, and_comm]

/-- Without the flag of one slot, the others are live. -/
theorem numbered_set (n : Nat) (ha : x'.arena = x.arena)
    (hl : x'.live = x.live.set n false) :
    x'.numbered = x.numbered.filter fun s => s.2 ≠ n := by
  rw [numbered, numbered, List.filter_filter, ha]
  refine List.filter_congr ?_
  intro s _
  unfold isLive
  rw [hl, List.getElem?_set]
  by_cases h : n = s.2
  · rw [if_pos h]
    split <;> simp [h]
  · simp [h, Ne.symm h]

/-- Leaving out a number leaves out one slot. -/
theorem filter_numbers_ne {before after : List (Slot × Nat)} {e : Slot}
    {n : Nat} (h : ((before ++ (e, n) :: after).map (·.2)).Nodup) :
    ((before ++ (e, n) :: after).filter fun s => s.2 ≠ n) =
      before ++ after := by
  rw [List.map_append, List.map_cons, List.nodup_append'] at h
  obtain ⟨-, hafter, hdisjoint⟩ := h
  have hbefore : ∀ s ∈ before, s.2 ≠ n := by
    intro s hs heq
    exact hdisjoint (List.mem_map_of_mem hs) (heq ▸ List.mem_cons_self)
  have hafter' : ∀ s ∈ after, s.2 ≠ n := by
    intro s hs heq
    exact (List.nodup_cons.1 hafter).1
      (heq ▸ List.mem_map_of_mem (f := (·.2)) hs)
  rw [List.filter_append, List.filter_cons_of_neg (by simp),
    List.filter_eq_self.2 (by simpa using hbefore),
      List.filter_eq_self.2 (by simpa using hafter')]

/-- A member that is live is taken out of the first live slot of its key, which
has a number. -/
theorem WellFormed.remove_of_numbered (h : x.WellFormed)
    {before after : List (Slot × Nat)} {e : Slot} {n : Nat}
    (hnumbered : x.numbered = before ++ (e, n) :: after)
    (hkey : e.member.key = m.key)
    (hbefore : ∀ s ∈ before, s.1.member.key ≠ m.key) :
    ∃ x', x.remove m = .ok x' ∧ x'.WellFormed ∧ x'.arena = x.arena ∧
      x'.numbered = before ++ after := by
  have hmem : (e, n) ∈ x.numbered := by
    rw [hnumbered]
    exact List.mem_append_right _ List.mem_cons_self
  have hfirst : x.firstLiveSlot? m = some n := by
    rw [firstLiveSlot?_eq,
      List.find?_eq_some_iff_append.2
        ⟨by simpa using hkey, before, after, hnumbered, ?_⟩]
    · rfl
    · intro s hs
      simpa using hbefore s hs
  have hslots : (x.slotsOf m).isEmpty = false := by
    rw [List.isEmpty_eq_false_iff]
    exact List.ne_nil_of_mem (List.mem_of_find?_eq_some hfirst)
  obtain ⟨harena, -⟩ := getElem?_of_numbered hmem
  have hnumbers := x.numbered_numbers_nodup
  obtain ⟨byId, hid, hfilesId⟩ := h.externalIds.erase hnumbers hmem
  obtain ⟨byCents, hcents, hfilesCents⟩ := h.amounts.erase hnumbers hmem
  obtain ⟨next, hnext⟩ : ∃ next, next = { x with
      live := x.live.set n false, byExternalId := byId, byCents := byCents } :=
        ⟨_, rfl⟩
  have hremove : x.remove m = .ok next := by
    simp only [remove, hslots, hfirst, harena, hid, hcents, hnext]
    rfl
  have hleft : next.numbered = x.numbered.filter fun s => s.2 ≠ n :=
    numbered_set n (by rw [hnext]) (by rw [hnext])
  refine ⟨next, hremove, ⟨?_, ?_, ?_⟩, by rw [hnext], ?_⟩
  · rw [hleft, hnext]
    exact hfilesId
  · rw [hleft, hnext]
    exact hfilesCents
  · rw [hnext]
    exact h.computed
  · rw [hnumbered] at hnumbers
    rw [hleft, hnumbered, filter_numbers_ne hnumbers]

/-- A member that is live is taken out of the first live slot of its key. -/
theorem WellFormed.remove_of_live (h : x.WellFormed) {before after : List Slot}
    {e : Slot} (hlive : x.liveSlots = before ++ e :: after)
    (hkey : e.member.key = m.key)
    (hbefore : ∀ f ∈ before, f.member.key ≠ m.key) :
    ∃ x', x.remove m = .ok x' ∧ x'.WellFormed ∧ x'.arena = x.arena ∧
      x'.liveSlots = before ++ after := by
  obtain ⟨pre, rest, hnumbered, rfl, hrest⟩ := List.map_eq_append_iff.1 hlive
  obtain ⟨⟨f, n⟩, post, rfl, hf, rfl⟩ := List.map_eq_cons_iff.1 hrest
  obtain rfl : f = e := hf
  obtain ⟨x', hremove, hwell, harena, hleft⟩ :=
    h.remove_of_numbered hnumbered hkey fun s hs =>
    hbefore s.1 (List.mem_map_of_mem hs)
  exact ⟨x', hremove, hwell, harena, by rw [liveSlots, hleft, List.map_append]⟩

/-- A live member has a first live slot of its key. -/
theorem exists_first_live (hm : m ∈ x.members) :
    ∃ before e after, x.liveSlots = before ++ e :: after ∧
    e.member.key = m.key ∧ ∀ f ∈ before, f.member.key ≠ m.key := by
  rw [members_eq] at hm
  obtain ⟨f, hf, rfl⟩ := List.mem_map.1 hm
  have hfirst : (x.liveSlots.find? fun e => e.member.key ==
      f.member.key).isSome = true :=
    List.find?_isSome.2 ⟨f, hf, beq_self_eq_true _⟩
  obtain ⟨e, he⟩ := Option.isSome_iff_exists.1 hfirst
  obtain ⟨hkey, before, after, hlive, hbefore⟩ :=
    List.find?_eq_some_iff_append.1 he
  exact ⟨before, e, after, hlive, eq_of_beq hkey,
    fun g hg => by simpa using hbefore g hg⟩

/-- Every live member can be taken out, and only one slot of its key goes. -/
theorem WellFormed.remove_of_mem (h : x.WellFormed) (hm : m ∈ x.members) :
    ∃ x' before e after, x.remove m = .ok x' ∧ x'.WellFormed ∧
    x'.arena = x.arena ∧
      x.liveSlots = before ++ e :: after ∧ e.member.key = m.key ∧
      x'.liveSlots = before ++ after := by
  obtain ⟨before, e, after, hlive, hkey, hbefore⟩ := exists_first_live hm
  obtain ⟨x', hremove, hwell, harena, hleft⟩ :=
    h.remove_of_live hlive hkey hbefore
  exact ⟨x', before, e, after, hremove, hwell, harena, hlive, hkey, hleft⟩

/-- Taking a member out erases it from the live members. -/
theorem WellFormed.members_of_remove (h : x.WellFormed)
    (hcoherent : Member.Coherent (x.arena.map (·.member))) (hm : m ∈ x.members)
    (hremove : x.remove m = .ok x') : x'.members = x.members.erase m := by
  obtain ⟨before, e, after, hlive, hkey, hbefore⟩ := exists_first_live hm
  obtain ⟨y, hremove', -, -, hleft⟩ := h.remove_of_live hlive hkey hbefore
  obtain rfl := Except.ok.inj (hremove'.symm.trans hremove)
  have hsub : x.members ⊆ x.arena.map (·.member) := by
    rw [members_eq]
    exact (x.liveSlots_sublist.map _).subset
  -- the first slot with the key of the member holds the member itself
  have he : e.member ∈ x.members := by
    rw [members_eq, hlive]
    exact List.mem_map_of_mem (List.mem_append_right _ List.mem_cons_self)
  obtain rfl : e.member = m := hcoherent _ (hsub he) _ (hsub hm) hkey
  have hnot : e.member ∉ before.map (·.member) := by
    intro hmem
    obtain ⟨f, hf, heq⟩ := List.mem_map.1 hmem
    exact hbefore f hf (congrArg Member.key heq)
  rw [members_eq, members_eq, hleft, hlive, List.map_append, List.map_append,
    List.map_cons, List.erase_append_right _ hnot, List.erase_cons_head]

end Index

end LedgerSync
