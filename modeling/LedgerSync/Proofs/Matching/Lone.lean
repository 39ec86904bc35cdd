import LedgerSync.Proofs.Matching.Verdicts

/-!
# Transactions alone with their key

What a round does can be read off the unmatched transactions without its groups
and representatives. The `tag` of a transaction is the core of its usable key. A
transaction is alone when it has a tag that no other one of its side has
(`isLone`). A round pairs two transactions when both are alone and have one tag
(`Sides.mem_pairs_iff`), and it judges a transaction peerless when it is alone
and no transaction alone on the other side has its tag
(`Side.mem_peerless_iff`).
-/

namespace LedgerSync.Matching

/-- What equal usable keys have in common. -/
abbrev Tag : Type := Multiset (String × Option (Content ⊕ (Int ⊕ Moment)))

/-- The two transactions of a pair. -/
def Matched.pair (p : Matched) : Member Reported × Member Stored :=
  (p.reported, p.stored)

namespace Matcher

variable {m : Matcher} {v : View}

/-- What the usable keys have in common that equal the one which the matcher
gives a view. -/
def tag (m : Matcher) (v : View) : Option Tag :=
  match m.keyOf v with
  | .ok (key, true) => some key.core
  | _ => none

theorem tag_of_keyOf {key : Key} (h : m.keyOf v = .ok (key, true)) :
    m.tag v = some key.core := by
  rw [tag, h]

theorem tag_eq_none_of_keyOf {key : Key} (h : m.keyOf v = .ok (key, false)) :
    m.tag v = none := by
  rw [tag, h]

theorem exists_keyOf_of_tag {c : Tag} (h : m.tag v = some c) :
    ∃ key, m.keyOf v = .ok (key, true) ∧ key.core = c := by
  unfold tag at h
  split at h
  · next key hkey => exact ⟨key, hkey, Option.some.inj h⟩
  · cases h

/-- A key is shared when it is usable on both sides and has one tag. -/
theorem sharesKey_iff {t : Member Reported} {s : Member Stored} :
    m.SharesKey t s ↔ ∃ c, m.tag (view t) = some c ∧
    m.tag (view s) = some c := by
  constructor
  · rintro ⟨key, key', hkey, hkey', hsame⟩
    refine ⟨key.core, tag_of_keyOf hkey, ?_⟩
    rw [tag_of_keyOf hkey',
      (Key.same_iff_core_eq (isSet_of_keyOf hkey)).1 hsame]
  · rintro ⟨c, ht, hs⟩
    obtain ⟨key, hkey, rfl⟩ := exists_keyOf_of_tag ht
    obtain ⟨key', hkey', hcore⟩ := exists_keyOf_of_tag hs
    exact ⟨key, key', hkey, hkey',
      (Key.same_iff_core_eq (isSet_of_keyOf hkey)).2 hcore.symm⟩

instance (t : Member Reported) (s : Member Stored) :
    Decidable (m.SharesKey t s) :=
  decidable_of_iff ((m.tag (view t)).isSome ∧
    m.tag (view t) = m.tag (view s)) <| by
    rw [sharesKey_iff, Option.isSome_iff_exists]
    constructor
    · rintro ⟨⟨c, hc⟩, heq⟩
      exact ⟨c, hc, heq ▸ hc⟩
    · rintro ⟨c, ht, hs⟩
      exact ⟨⟨c, ht⟩, ht.trans hs.symm⟩

section Lone

variable {α : Type} [Viewable α] {ts ts' : List α} {t t' : α}

/-- How many of the transactions have a tag. -/
def tagCount (m : Matcher) (ts : List α) (c : Tag) : Nat :=
  ts.countP fun t => decide (m.tag (view t) = some c)

/-- Whether a view has a tag that exactly one of the transactions has. -/
def isLone (m : Matcher) (ts : List α) (v : View) : Bool :=
  (m.tag v).any fun c => m.tagCount ts c == 1

theorem isLone_iff :
    m.isLone ts v = true ↔ ∃ c, m.tag v = some c ∧ m.tagCount ts c = 1 := by
  rw [isLone, Option.any_eq_true]
  simp only [beq_iff_eq]

theorem tagCount_append (c : Tag) :
    m.tagCount (ts ++ ts') c = m.tagCount ts c + m.tagCount ts' c :=
      List.countP_append

theorem tagCount_pos_iff {c : Tag} :
    0 < m.tagCount ts c ↔ ∃ t ∈ ts, m.tag (view t) = some c := by
  rw [tagCount, List.countP_pos_iff]
  simp only [decide_eq_true_iff]

theorem tagCount_perm (h : ts.Perm ts') (c : Tag) :
    m.tagCount ts c = m.tagCount ts' c :=
  h.countP_eq _

theorem isLone_perm (h : ts.Perm ts') : m.isLone ts v = m.isLone ts' v := by
  unfold isLone
  simp only [tagCount_perm h]

/-- Two transactions with the tag of one that is alone are the same. -/
theorem eq_of_tagCount_eq_one {c : Tag} (h : m.tagCount ts c = 1) (ht : t ∈ ts)
    (htag : m.tag (view t) = some c) (ht' : t' ∈ ts)
    (htag' : m.tag (view t') = some c) : t = t' := by
  rw [tagCount, List.countP_eq_length_filter] at h
  obtain ⟨a, ha⟩ := List.length_eq_one_iff.1 h
  have hall : ∀ x ∈ ts, m.tag (view x) = some c → x = a := by
    intro x hx hxtag
    have hmem : x ∈ ts.filter fun t => decide (m.tag (view t) = some c) :=
      List.mem_filter.2 ⟨hx, decide_eq_true hxtag⟩
    rw [ha] at hmem
    exact List.mem_singleton.1 hmem
  rw [hall t ht htag, hall t' ht' htag']

/-- Those that are alone have distinct tags. -/
theorem lone_tags_nodup (m : Matcher) (ts : List α) :
    ((ts.filter fun t => m.isLone ts (view t)).map fun t => m.tag
      (view t)).Nodup := by
  rw [List.nodup_iff_count_le_one]
  intro o
  rw [List.count, List.countP_map, List.countP_filter]
  cases o with
  | none =>
    refine Nat.le_trans (Nat.le_of_eq (List.countP_eq_zero.2 fun t _ => ?_))
      (Nat.zero_le 1)
    simp only [Function.comp_apply, Bool.and_eq_true, beq_iff_eq, isLone_iff,
      not_and, not_exists]
    intro hnone c hc
    rw [hnone] at hc
    cases hc
  | some c =>
    by_cases hc : m.tagCount ts c = 1
    · refine Nat.le_trans (List.countP_mono_left fun t _ h => ?_)
        (Nat.le_of_eq hc)
      simp only [Function.comp_apply, Bool.and_eq_true, beq_iff_eq] at h
      exact decide_eq_true h.1
    · refine Nat.le_trans (Nat.le_of_eq (List.countP_eq_zero.2 fun t _ => ?_))
        (Nat.zero_le 1)
      simp only [Function.comp_apply, Bool.and_eq_true, beq_iff_eq, isLone_iff,
        not_and, not_exists]
      intro htag c' hc'
      rw [htag] at hc'
      cases hc'
      exact hc

end Lone

/-! ## One side of a round -/

namespace Side

variable {α : Type} [Viewable α]
  {entries peerless rejected duplicate : List (Unmatched α)}
  {found : Key → Bool} {keyed : List (Keyed α)} {t : α}

theorem tag_of_mem_keyed
    (h : Side m entries found keyed peerless rejected duplicate) {k : Keyed α}
    (hk : k ∈ keyed) : m.tag (view k.entry.transaction) = some k.key.core :=
  tag_of_keyOf ((splitUsable_spec h.split).2.1 k hk).2

/-- As many transactions have the tag of a key as are in its group. -/
theorem tagCount_eq (h : Side m entries found keyed peerless rejected duplicate)
    {key : Key} (hkey : key.IsSet) :
    m.tagCount (entries.map (·.transaction)) key.core =
      (group keyed key).length := by
  rw [← tagCount_perm (splitUsable_spec h.split).1, tagCount_append]
  have hrejected : m.tagCount (rejected.map (·.transaction)) key.core = 0 := by
    rw [tagCount, List.countP_eq_zero]
    intro t ht
    obtain ⟨u, hu, rfl⟩ := List.mem_map.1 ht
    obtain ⟨key', hkey'⟩ := h.mem_rejected hu
    rw [tag_eq_none_of_keyOf hkey']
    simp
  rw [hrejected, Nat.add_zero, tagCount, List.countP_map, group,
    ← List.countP_eq_length_filter]
  refine List.countP_congr fun k hk => ?_
  rw [Function.comp_apply, decide_eq_true_iff, h.tag_of_mem_keyed hk,
    Option.some.injEq, Key.same_iff_core_eq hkey]
  exact eq_comm

/-- The unique entries are those that are alone. -/
theorem exists_unique_iff
    (h : Side m entries found keyed peerless rejected duplicate) {c : Tag} :
    (∃ k ∈ uniques keyed, k.entry.transaction = t ∧ k.key.core = c) ↔
      t ∈ entries.map (·.transaction) ∧ m.tag (view t) = some c ∧
        m.tagCount (entries.map (·.transaction)) c = 1 := by
  constructor
  · rintro ⟨k, hk, rfl, rfl⟩
    have hmem := (uniques_sublist keyed).subset hk
    refine ⟨List.mem_map_of_mem ((splitUsable_spec h.split).2.1 k hmem).1,
      h.tag_of_mem_keyed hmem, ?_⟩
    rw [h.tagCount_eq (h.haveSets k hmem), group_of_mem_uniques h.haveSets hk]
    rfl
  · rintro ⟨ht, htag, hcount⟩
    -- an entry with a tag is not rejected, and in a group of one it is not
    -- repeated
    have hkeyed : t ∈ keyed.map (·.entry.transaction) := by
      rcases List.mem_append.1 ((splitUsable_spec h.split).1.mem_iff.2 ht)
        with hk | hr
      · exact hk
      · obtain ⟨u, hu, rfl⟩ := List.mem_map.1 hr
        obtain ⟨key, hkey⟩ := h.mem_rejected hu
        rw [tag_eq_none_of_keyOf hkey] at htag
        cases htag
    obtain ⟨k, hk, rfl⟩ := List.mem_map.1 hkeyed
    obtain rfl := Option.some.inj ((h.tag_of_mem_keyed hk).symm.trans htag)
    rw [h.tagCount_eq (h.haveSets k hk)] at hcount
    rcases List.mem_append.1
      ((uniques_append_repeated_perm h.haveSets).mem_iff.2 hk) with hu | hr
    · exact ⟨k, hu, rfl, rfl⟩
    · exact ((group_of_mem_repeated h.haveSets hr).2 hcount).elim

/-- What a round judges peerless is alone, and its tag was not found on the
other side. -/
theorem lone_of_mem_peerless
    (h : Side m entries found keyed peerless rejected duplicate)
    (ht : t ∈ peerless.map (·.transaction)) :
    m.isLone (entries.map (·.transaction)) (view t) = true ∧
      ∃ key, m.keyOf (view t) = .ok (key, true) ∧ found key = false := by
  obtain ⟨u, hu, rfl⟩ := List.mem_map.1 ht
  obtain ⟨k, hk, hfound, htransaction, hkey⟩ := h.mem_peerless hu
  obtain ⟨-, htag, hcount⟩ :=
    h.exists_unique_iff.1 ⟨k, hk, htransaction.symm, rfl⟩
  exact ⟨isLone_iff.2 ⟨_, htag, hcount⟩, k.key, hkey, hfound⟩

/-- What is alone is paired or judged peerless. -/
theorem reason_of_lone
    (h : Side m entries found keyed peerless rejected duplicate)
    (hlone : m.isLone (entries.map (·.transaction)) (view t) = true)
    {u : Unmatched α} (hu : u ∈ peerless ++ rejected ++ duplicate)
    (ht : u.transaction = t) : u.reason = .peerless := by
  obtain ⟨c, htag, hcount⟩ := isLone_iff.1 hlone
  subst ht
  rcases List.mem_append.1 hu with hu | hu
  · rcases List.mem_append.1 hu with hu | hu
    · obtain ⟨k, -, hverdict⟩ := mem_of_mapM h.peerless hu
      exact (verdict_spec hverdict).2
    · obtain ⟨key, hkey⟩ := h.mem_rejected hu
      rw [tag_eq_none_of_keyOf hkey] at htag
      cases htag
  · obtain ⟨k, hk, -, hkey⟩ := h.mem_duplicate hu
    obtain ⟨hmem, hseveral⟩ := group_of_mem_repeated h.haveSets hk
    obtain rfl := Option.some.inj ((tag_of_keyOf hkey).symm.trans htag)
    rw [h.tagCount_eq (h.haveSets k hmem)] at hcount
    exact (hseveral hcount).elim

/-- A transaction that was peerless stays so. -/
theorem reason_of_peerless
    (h : Side m entries found keyed peerless rejected duplicate)
    (hentries : ∀ e ∈ entries, e.transaction = t → e.reason = .peerless)
    {u : Unmatched α} (hu : u ∈ peerless ++ rejected ++ duplicate)
    (ht : u.transaction = t) : u.reason = .peerless := by
  have hcarried : ∀ {k : Keyed α} {reason : Reason}, k.entry ∈ entries →
      m.carry k reason = .ok u → reason.weight < 3 → u.reason = .peerless := by
    intro k reason hk hcarry hweight
    have hpeerless := hentries k.entry hk (by rw [← (carry_spec hcarry).1, ht])
    have hlight : k.entry.reason.atMost reason = false := by
      rw [hpeerless, Reason.atMost, decide_eq_false_iff_not]
      exact Nat.not_le_of_lt hweight
    rw [carry, hlight] at hcarry
    obtain rfl := Except.ok.inj hcarry
    exact hpeerless
  rcases List.mem_append.1 hu with hu | hu
  · rcases List.mem_append.1 hu with hu | hu
    · obtain ⟨k, -, hverdict⟩ := mem_of_mapM h.peerless hu
      exact (verdict_spec hverdict).2
    · obtain ⟨e, he, key, -, hcarry⟩ := (splitUsable_spec h.split).2.2 u hu
      exact hcarried he hcarry (by decide)
  · obtain ⟨k, hk, hcarry⟩ := mem_of_mapM h.duplicate hu
    have hmem := (group_of_mem_repeated h.haveSets hk).1
    exact hcarried ((splitUsable_spec h.split).2.1 k hmem).1 hcarry (by decide)

/-- A round leaves nothing unprocessed. -/
theorem reason_ne_unprocessed
    (h : Side m entries found keyed peerless rejected duplicate)
    {u : Unmatched α} (hu : u ∈ peerless ++ rejected ++ duplicate) :
    u.reason ≠ .unprocessed := by
  have hcarried : ∀ {k : Keyed α} {reason : Reason}, m.carry k reason = .ok u →
      reason ≠ .unprocessed → u.reason ≠ .unprocessed := by
    intro k reason hcarry hreason
    unfold carry at hcarry
    split at hcarry
    · rw [(verdict_spec hcarry).2]
      exact hreason
    · next hheavy =>
      obtain rfl := Except.ok.inj hcarry
      intro hr
      rw [hr] at hheavy
      exact hheavy (decide_eq_true (Nat.zero_le _))
  rcases List.mem_append.1 hu with hu | hu
  · rcases List.mem_append.1 hu with hu | hu
    · obtain ⟨k, -, hverdict⟩ := mem_of_mapM h.peerless hu
      rw [(verdict_spec hverdict).2]
      exact Reason.noConfusion
    · obtain ⟨e, -, key, -, hcarry⟩ := (splitUsable_spec h.split).2.2 u hu
      exact hcarried hcarry Reason.noConfusion
  · obtain ⟨k, -, hcarry⟩ := mem_of_mapM h.duplicate hu
    exact hcarried hcarry Reason.noConfusion

end Side

/-! ## Both sides of a round -/

namespace Sides

variable {previous : MatchResult} {r : Round}
  {reported : List (Keyed (Member Reported))}
  {stored : List (Keyed (Member Stored))}

/-- A round pairs those that are alone on their sides with one tag. -/
theorem mem_pairs_iff (h : Sides m previous r reported stored)
    {p : Member Reported × Member Stored} : p ∈ r.matched.map (·.pair) ↔
      ∃ c, (p.1 ∈ previous.unmatchedReported.map (·.transaction) ∧
        m.tag (view p.1) = some c ∧
          m.tagCount (previous.unmatchedReported.map (·.transaction)) c = 1) ∧
        (p.2 ∈ previous.unmatchedStored.map (·.transaction) ∧
          m.tag (view p.2) = some c ∧
          m.tagCount (previous.unmatchedStored.map (·.transaction)) c = 1) := by
  have hreportedSets :=
    h.reportedSide.haveSets.sublist (uniques_sublist reported)
  have hcores := uniques_cores_nodup h.storedSide.haveSets
  simp only [← h.reportedSide.exists_unique_iff,
    ← h.storedSide.exists_unique_iff]
  rw [h.matched, List.map_filterMap, List.mem_filterMap]
  constructor
  · rintro ⟨k, hk, hp⟩
    rw [Option.map_map, Option.map_eq_some_iff] at hp
    obtain ⟨s, hs, rfl⟩ := hp
    obtain ⟨hs, hcore⟩ := (find?_eq_some_iff hcores (hreportedSets k hk)).1 hs
    exact ⟨k.key.core, ⟨k, hk, rfl, rfl⟩, s, hs, rfl, hcore.symm⟩
  · rintro ⟨c, ⟨k, hk, hreported, rfl⟩, s, hs, hstored, hcore⟩
    refine ⟨k, hk, ?_⟩
    rw [(find?_eq_some_iff hcores (hreportedSets k hk)).2 ⟨hs, hcore.symm⟩]
    exact congrArg some (Prod.ext hreported hstored)

/-- A reported transaction that a round pairs is alone. -/
theorem lone_of_mem_matched (h : Sides m previous r reported stored)
    {x : Matched} (hx : x ∈ r.matched) :
    m.isLone (previous.unmatchedReported.map (·.transaction))
      (view x.reported) = true := by
  obtain ⟨c, ⟨-, htag, hcount⟩, -⟩ := h.mem_pairs_iff.1 (List.mem_map_of_mem hx)
  exact isLone_iff.2 ⟨c, htag, hcount⟩

/-- A round pairs no two transactions twice. -/
theorem pairs_nodup (h : Sides m previous r reported stored) :
    (r.matched.map (·.pair)).Nodup := by
  refine List.Nodup.of_map (fun p => m.tag (view p.2)) ?_
  have hsets := h.reportedSide.haveSets.sublist (uniques_sublist reported)
  have htags : (r.matched.map (·.pair)).map (fun p => m.tag (view p.2)) =
      (((uniques reported).filterMap fun k => find? (uniques stored) k.key).map
        (·.key.core)).map some := by
    have hstored : (r.matched.map (·.pair)).map (fun p => m.tag (view p.2)) =
        (r.matched.map (·.stored)).map fun s => m.tag (view s) := by
      rw [List.map_map, List.map_map]
      rfl
    rw [hstored, h.matched_stored, List.map_map, List.map_map]
    refine List.map_congr_left fun s hs => ?_
    obtain ⟨k, -, hfound⟩ := List.mem_filterMap.1 hs
    have hmem := (uniques_sublist stored).subset
        (List.mem_of_find?_eq_some hfound)
    exact h.storedSide.tag_of_mem_keyed hmem
  rw [htags]
  refine List.Nodup.map (fun _ _ => Option.some.inj) ?_
  exact (uniques_cores_nodup h.reportedSide.haveSets).sublist
    (filterMap_find?_cores_sublist hsets _)

/-- What a round judges peerless on the stored side is alone, and no reported
transaction that is alone has its tag. -/
theorem stored_peerless (h : Sides m previous r reported stored)
    {s : Member Stored} (hs : s ∈ r.storedPeerless.map (·.transaction)) :
    ∃ c, m.tag (view s) = some c ∧
      m.tagCount (previous.unmatchedStored.map (·.transaction)) c = 1 ∧
      m.tagCount (previous.unmatchedReported.map (·.transaction)) c ≠ 1 := by
  obtain ⟨hlone, key, hkey, hfound⟩ := h.storedSide.lone_of_mem_peerless hs
  obtain ⟨c, htag, hcount⟩ := isLone_iff.1 hlone
  refine ⟨c, htag, hcount, ?_⟩
  intro hreported
  obtain rfl := Option.some.inj ((tag_of_keyOf hkey).symm.trans htag)
  obtain ⟨t, ht, httag⟩ :=
    tagCount_pos_iff.1 (Nat.lt_of_lt_of_eq Nat.zero_lt_one hreported.symm)
  obtain ⟨k, hk, -, hcore⟩ :=
    h.reportedSide.exists_unique_iff.2 ⟨ht, httag, hreported⟩
  have hsome := (find?_isSome_iff (isSet_of_keyOf hkey)).2 ⟨k, hk, hcore.symm⟩
  rw [hfound] at hsome
  cases hsome

end Sides

end Matcher

end LedgerSync.Matching
