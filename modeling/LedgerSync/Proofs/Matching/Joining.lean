import LedgerSync.Proofs.Matching.Conservation
import LedgerSync.Proofs.Matching.Lone
import Mathlib.Data.Set.Basic

/-!
# A round is a join

A round pairs unmatched transactions by groups, representatives and lookups, but
it can be said without them. The key of a transaction is the set of the
attributes that the selectors extract (`Matcher.keySet`), and the transaction is
accepted when every selector accepts its attribute (`Matcher.Accepts`). Two
entries are paired exactly where both are accepted, have one key, and no other
accepted entry of either side has it (`Matcher.Pairs`). Of the others, what is
not accepted is rejected, what shares its key on its own side is a duplicate,
and the rest is peerless (`Matcher.Sorts`).
-/

namespace LedgerSync.Matching

open Run

/-- A pair is determined by its transactions, its matcher and its key. -/
theorem Matched.eq_of_pair {x y : Matched} (hmatcher : x.matcher = y.matcher)
    (hpair : x.pair = y.pair) (hattributes : x.attributes = y.attributes) :
    x = y := by
  obtain ⟨matcher, reported, stored, attributes⟩ := x
  obtain ⟨hreported, hstored⟩ := Prod.mk.inj hpair
  subst hmatcher hattributes
  rw [show reported = y.reported from hreported,
    show stored = y.stored from hstored]

/-! ## Keys as sets -/

namespace Key

/-- The attributes that equal one of the key. -/
def holds (k : Key) : Set Attribute := {a | ∃ b ∈ k, b.same a = true}

theorem mem_holds_iff {k : Key} {a : Attribute} :
    a ∈ k.holds ↔ a.core ∈ k.map Attribute.core := by
  rw [List.mem_map]
  exact exists_congr fun b => and_congr_right fun _ =>
    Attribute.same_iff_core_eq b a

/-- Sets have one core when they hold the same. -/
theorem core_eq_iff_holds_eq {k l : Key} (hk : k.IsSet) (hl : l.IsSet) :
    k.core = l.core ↔ k.holds = l.holds := by
  rw [core, core, Multiset.coe_eq_coe, List.perm_ext_iff_of_nodup hk hl]
  constructor
  · intro h
    ext a
    rw [mem_holds_iff, mem_holds_iff, h]
  · intro h c
    have hsubset : ∀ {k l : Key}, k.holds = l.holds → c ∈ k.map Attribute.core →
        c ∈ l.map Attribute.core := by
      intro k l h hc
      obtain ⟨a, ha, rfl⟩ := List.mem_map.1 hc
      rw [← mem_holds_iff, ← h, mem_holds_iff]
      exact hc
    exact ⟨hsubset h, hsubset h.symm⟩

/-- A set that is made of attributes holds them and no others. -/
theorem holds_ofList (as : List Attribute) :
    (ofList as).holds = {a | ∃ b ∈ as, b.same a = true} := by
  suffices hgo : ∀ (as : List Attribute) (k : Key) (c : _),
      c ∈ (as.foldl (fun k a => if k.any a.same then k else k ++ [a]) k).map
        Attribute.core ↔ c ∈ k.map Attribute.core ∨ c ∈ as.map Attribute.core by
    ext a
    rw [mem_holds_iff, ofList, hgo as [] a.core, List.map_nil,
      Set.mem_ofPred_eq]
    refine (or_iff_right List.not_mem_nil).trans ?_
    exact mem_holds_iff.symm
  intro as
  induction as with
  | nil => exact fun k c => (or_iff_left List.not_mem_nil).symm
  | cons a as ih =>
    intro k c
    rw [List.foldl_cons, ih, List.map_cons, List.mem_cons, ← or_assoc]
    refine or_congr_left ?_
    split
    · next hold =>
      -- an attribute that is there already adds nothing
      rw [any_same_iff] at hold
      exact ⟨Or.inl, fun h => h.elim id fun h => h ▸ hold⟩
    · rw [List.map_append, List.mem_append, List.map_singleton,
        List.mem_singleton]

end Key

namespace Matcher

variable {m : Matcher} {v w : View}

/-- All selectors of the matcher accept what they extract from a view. -/
def Accepts (m : Matcher) (v : View) : Prop :=
  ∀ s ∈ m.selectors, ∃ a, s.select v = .ok (a, true)

/-- The attributes that the selectors of the matcher extract from a view, as a
set. -/
def keySet (m : Matcher) (v : View) : Set Attribute :=
  {a | ∃ s ∈ m.selectors, ∃ b, s.extract v = .ok b ∧ b.same a = true}

theorem extract_of_select {s : Selector} {a : Attribute} {usable : Bool}
    (h : s.select v = .ok (a, usable)) : s.extract v = .ok a := by
  obtain ⟨b, hb, h⟩ := bind_eq_ok_iff.1 h
  obtain ⟨_, -, h⟩ := bind_eq_ok_iff.1 h
  cases h
  exact hb

/-- What is computed as the key of a view is its key, and is usable when the
view is accepted. -/
theorem keyOf_spec {key : Key} {usable : Bool}
    (h : m.keyOf v = .ok (key, usable)) :
    key.holds = m.keySet v ∧ (usable = true ↔ m.Accepts v) := by
  obtain ⟨results, hresults, h⟩ := bind_eq_ok_iff.1 h
  obtain ⟨usable', husable, h⟩ := bind_eq_ok_iff.1 h
  cases h
  have hall := mapM_eq_ok_iff.1 hresults
  have hback : ∀ r ∈ results, ∃ s ∈ m.selectors, s.select v = .ok r :=
    fun r hr => exists_of_forall₂_right hall hr
  have hforth : ∀ s ∈ m.selectors, ∃ r ∈ results,
      s.select v = .ok r := fun s hs =>
    exists_of_forall₂_right (R := fun r s => s.select v = .ok r) hall.flip hs
  constructor
  · rw [Key.holds_ofList]
    ext a
    constructor
    · rintro ⟨b, hb, hsame⟩
      obtain ⟨r, hr, rfl⟩ := List.mem_map.1 hb
      obtain ⟨s, hs, hselect⟩ := hback r hr
      exact ⟨s, hs, r.1, extract_of_select hselect, hsame⟩
    · rintro ⟨s, hs, b, hextract, hsame⟩
      obtain ⟨r, hr, hselect⟩ := hforth s hs
      obtain rfl := Except.ok.inj
        (hextract.symm.trans (extract_of_select hselect))
      exact ⟨r.1, List.mem_map_of_mem hr, hsame⟩
  · unfold allUsable at husable
    split at husable
    · cases husable
    · obtain rfl := Except.ok.inj husable
      rw [List.all_eq_true]
      constructor
      · intro h s hs
        obtain ⟨⟨a, b⟩, hr, hselect⟩ := hforth s hs
        obtain rfl : b = true := h b (List.mem_map_of_mem hr)
        exact ⟨a, hselect⟩
      · intro h b hb
        obtain ⟨r, hr, rfl⟩ := List.mem_map.1 hb
        obtain ⟨s, hs, hselect⟩ := hback r hr
        obtain ⟨a, ha⟩ := h s hs
        obtain rfl := Except.ok.inj (hselect.symm.trans ha)
        rfl

/-- A view that is accepted has the tag of its key. -/
theorem exists_tag_iff (h : m.Reads v) :
    (∃ c, m.tag v = some c) ↔ m.Accepts v := by
  obtain ⟨key, usable, hkey⟩ := h
  rw [← (keyOf_spec hkey).2]
  cases usable with
  | true => simp [tag_of_keyOf hkey]
  | false => simp [tag_eq_none_of_keyOf hkey]

/-- The views of one tag are those that are accepted with one key. -/
theorem tag_eq_iff {c : Tag} (hv : m.tag v = some c) (hw : m.Reads w) :
    m.tag w = some c ↔ m.Accepts w ∧ m.keySet w = m.keySet v := by
  obtain ⟨key, hkey, rfl⟩ := exists_keyOf_of_tag hv
  obtain ⟨key', usable, hkey'⟩ := hw
  rw [← (keyOf_spec hkey').2, ← (keyOf_spec hkey').1, ← (keyOf_spec hkey).1,
    ← Key.core_eq_iff_holds_eq (isSet_of_keyOf hkey') (isSet_of_keyOf hkey)]
  cases usable with
  | true => simp [tag_of_keyOf hkey']
  | false => simp [tag_eq_none_of_keyOf hkey']

/-! ## The join -/

open scoped Classical in
/-- The entries with a property, in order. -/
noncomputable def having {α : Type} (p : Unmatched α → Prop)
    (entries : List (Unmatched α)) :
    List (Unmatched α) := entries.filter fun e => decide (p e)

section Entries

variable {α : Type} [Viewable α]

/-- Another accepted entry of the side has the key of this one. -/
def Shared (m : Matcher) (entries : List (Unmatched α)) (e : Unmatched α) :
    Prop :=
  ∃ before after, entries = before ++ e :: after ∧ ∃ other ∈ before ++ after,
    m.Accepts (view other.transaction) ∧
      m.keySet (view other.transaction) = m.keySet (view e.transaction)

/-- The entry is accepted, and no other accepted entry of its side has its
key. -/
def Alone (m : Matcher) (entries : List (Unmatched α)) (e : Unmatched α) :
    Prop :=
  e ∈ entries ∧ m.Accepts (view e.transaction) ∧ ¬ m.Shared entries e

/-- What a round with a verdict on an entry leaves of it: the verdict with the
key of the matcher, unless the entry has a heavier one. -/
def Leaves (m : Matcher) (reason : Reason) (e u : Unmatched α) : Prop :=
  ∃ key usable, m.keyOf (view e.transaction) = .ok (key, usable) ∧
    u = if e.reason.atMost reason
      then ⟨m.name, e.transaction, key, reason⟩ else e

/-- A round gives its verdict to the entries with a property, each of them
once. -/
def GivesVerdict (m : Matcher) (reason : Reason) (entries : List (Unmatched α))
    (p : Unmatched α → Prop) (us : List (Unmatched α)) : Prop :=
  ∃ es, es.Perm (having p entries) ∧ List.Forall₂ (m.Leaves reason) es us

/-- The entries of a side are paired where they are alone and have a partner.
Without one they are peerless, where they share their key they are duplicates,
and where they are not accepted they are rejected. -/
structure Sorts (m : Matcher) (entries : List (Unmatched α))
    (partnered : Unmatched α → Prop) (paired : List α)
    (peerless rejected duplicate : List (Unmatched α)) : Prop where
  paired : paired.Perm
    ((having (fun e => m.Alone entries e ∧ partnered e) entries).map
      (·.transaction))
  peerless : m.GivesVerdict .peerless entries
    (fun e => m.Alone entries e ∧ ¬ partnered e) peerless
  rejected : m.GivesVerdict .rejected entries
    (fun e => ¬ m.Accepts (view e.transaction)) rejected
  duplicate : m.GivesVerdict .duplicate entries
    (fun e => m.Accepts (view e.transaction) ∧ m.Shared entries e) duplicate

end Entries

/-- Two unmatched entries are alone on their sides with one key. -/
def Pairs (m : Matcher) (previous : MatchResult)
    (u : Unmatched (Member Reported)) (s : Unmatched (Member Stored)) : Prop :=
  m.Alone previous.unmatchedReported u ∧ m.Alone previous.unmatchedStored s ∧
    m.keySet (view u.transaction) = m.keySet (view s.transaction)

/-- A round is the join of the two sides on keys that are unique on each. -/
structure Joins (m : Matcher) (previous : MatchResult) (r : Round) : Prop where
  matched : ∀ x, x ∈ r.matched ↔ ∃ u s, m.Pairs previous u s ∧
    m.keyOf (view u.transaction) = .ok (x.attributes, true) ∧
    x.matcher = m.name ∧ x.reported = u.transaction ∧ x.stored = s.transaction
  once : r.matched.Nodup
  attributes : ∀ x ∈ r.matched, x.attributes.holds = m.keySet (view x.reported)
  reported : m.Sorts previous.unmatchedReported
    (fun u => ∃ s, m.Pairs previous u s)
    (r.matched.map (·.reported)) r.reportedPeerless r.reportedRejected
      r.reportedDuplicate
  stored : m.Sorts previous.unmatchedStored (fun s => ∃ u, m.Pairs previous u s)
    (r.matched.map (·.stored)) r.storedPeerless r.storedRejected
      r.storedDuplicate

/-! ## Verdicts -/

section Having

variable {α : Type} {entries : List (Unmatched α)} {e : Unmatched α}
  {p : Unmatched α → Prop}

/-- The entries with a property are those for which it was computed. -/
theorem having_eq_filter {q : Unmatched α → Bool}
    (h : ∀ e ∈ entries, (q e = true ↔ p e)) :
    having p entries = entries.filter q := by
  classical
  refine List.filter_congr fun e he => ?_
  rw [Bool.eq_iff_iff, decide_eq_true_iff, h e he]

theorem having_cons_of_pos (he : p e) :
    having p (e :: entries) = e :: having p entries := by
  classical
  exact List.filter_cons_of_pos (decide_eq_true he)

theorem having_cons_of_neg (he : ¬ p e) :
    having p (e :: entries) = having p entries := by
  classical
  exact List.filter_cons_of_neg (by simpa using he)

end Having

section Entries

variable {α : Type} [Viewable α] {entries rejected : List (Unmatched α)}
  {keyed : List (Keyed α)} {e u : Unmatched α} {k : Keyed α} {reason : Reason}
  {usable : Bool}

theorem leaves_of_carry
    (hkey : m.keyOf (view k.entry.transaction) = .ok (k.key, usable))
    (h : m.carry k reason = .ok u) : m.Leaves reason k.entry u := by
  refine ⟨k.key, usable, hkey, ?_⟩
  unfold carry at h
  split at h
  · next hlight =>
    rw [if_pos hlight]
    exact Unmatched.make_eq_ok h
  · next hheavy =>
    rw [if_neg hheavy]
    exact (Except.ok.inj h).symm

/-- No verdict is heavier than peerless. -/
theorem leaves_of_verdict
    (hkey : m.keyOf (view k.entry.transaction) = .ok (k.key, usable))
    (h : m.verdict k .peerless = .ok u) : m.Leaves .peerless k.entry u := by
  refine leaves_of_carry hkey ?_
  rw [carry, if_pos]
  · exact h
  · cases k.entry.reason <;> rfl

/-- The verdicts of a list are left of its entries. -/
theorem leaves_of_mapM {f : Keyed α → Except Failure (Unmatched α)}
    {ks : List (Keyed α)} {us : List (Unmatched α)}
    (hks : ∀ k ∈ ks, m.keyOf (view k.entry.transaction) = .ok (k.key, usable))
    (hf : ∀ {k u}, m.keyOf (view k.entry.transaction) = .ok (k.key, usable) →
    f k = .ok u → m.Leaves reason k.entry u)
    (h : ks.mapM f = .ok us) :
    List.Forall₂ (m.Leaves reason) (ks.map (·.entry)) us := by
  rw [List.forall₂_map_left_iff]
  have hall := (List.forall₂_and_left ks us).2 ⟨hks, mapM_eq_ok_iff.1 h⟩
  exact hall.imp fun k u hku => hf hku.1 hku.2

/-- A split keeps the accepted entries and rejects the others, in order. -/
theorem splitUsable_having (h : m.splitUsable entries = .ok (keyed, rejected)) :
    keyed.map (·.entry) =
      having (fun e => m.Accepts (view e.transaction)) entries ∧
      List.Forall₂ (m.Leaves .rejected)
        (having (fun e => ¬ m.Accepts (view e.transaction)) entries)
          rejected := by
  induction entries generalizing keyed rejected with
  | nil =>
    cases h
    exact ⟨rfl, .nil⟩
  | cons e entries ih =>
    rw [splitUsable] at h
    obtain ⟨⟨key, usable⟩, hkey, h⟩ := bind_eq_ok_iff.1 h
    have haccepts := (keyOf_spec hkey).2
    cases usable with
    | true =>
      obtain ⟨⟨keyed', rejected'⟩, hrest, h⟩ := bind_eq_ok_iff.1 h
      cases h
      have hyes : m.Accepts (view e.transaction) := haccepts.1 rfl
      rw [having_cons_of_pos hyes, having_cons_of_neg (not_not_intro hyes),
        List.map_cons, (ih hrest).1]
      exact ⟨rfl, (ih hrest).2⟩
    | false =>
      obtain ⟨u, hu, h⟩ := bind_eq_ok_iff.1 h
      obtain ⟨⟨keyed', rejected'⟩, hrest, h⟩ := bind_eq_ok_iff.1 h
      cases h
      have hno : ¬ m.Accepts (view e.transaction) :=
        fun h => Bool.false_ne_true (haccepts.2 h)
      rw [having_cons_of_neg hno, having_cons_of_pos hno]
      exact ⟨(ih hrest).1, .cons (leaves_of_carry (k := ⟨e, key⟩) hkey hu)
        (ih hrest).2⟩

/-- An entry with a tag shares its key when the tag does not occur once. -/
theorem shared_iff {c : Tag}
    (hreads : ∀ o ∈ entries, m.Reads (view o.transaction)) (he : e ∈ entries)
    (htag : m.tag (view e.transaction) = some c) :
    m.Shared entries e ↔ m.tagCount (entries.map (·.transaction)) c ≠ 1 := by
  have hcount : ∀ before after : List (Unmatched α),
      entries = before ++ e :: after →
      m.tagCount (entries.map (·.transaction)) c =
        1 + m.tagCount ((before ++ after).map (·.transaction)) c := by
    rintro before after rfl
    have hperm : ((before ++ e :: after).map (·.transaction)).Perm
        ([e.transaction] ++ (before ++ after).map (·.transaction)) :=
      List.Perm.map (fun e : Unmatched α => e.transaction) List.perm_middle
    rw [tagCount_perm hperm, tagCount_append]
    congr 1
    simp [tagCount, htag]
  have hother : ∀ before after : List (Unmatched α),
      entries = before ++ e :: after →
      ∀ o ∈ before ++ after, m.Reads (view o.transaction) := by
    rintro before after rfl o ho
    refine hreads o ?_
    rcases List.mem_append.1 ho with ho | ho
    · exact List.mem_append_left _ ho
    · exact List.mem_append_right _ (List.mem_cons_of_mem _ ho)
  constructor
  · rintro ⟨before, after, heq, o, ho, haccepts, hsame⟩ hone
    rw [hcount before after heq] at hone
    have hpos : 0 < m.tagCount ((before ++ after).map (·.transaction)) c :=
      tagCount_pos_iff.2 ⟨o.transaction, List.mem_map_of_mem ho,
        (tag_eq_iff htag (hother before after heq o ho)).2 ⟨haccepts, hsame⟩⟩
    omega
  · intro hseveral
    obtain ⟨before, after, heq⟩ := List.append_of_mem he
    rw [hcount before after heq] at hseveral
    obtain ⟨t, ht, htag'⟩ := tagCount_pos_iff.1 (show
      0 < m.tagCount ((before ++ after).map (·.transaction)) c by omega)
    obtain ⟨o, ho, rfl⟩ := List.mem_map.1 ht
    exact ⟨before, after, heq, o, ho,
      (tag_eq_iff htag (hother before after heq o ho)).1 htag'⟩

/-- An entry is alone when it has a tag that occurs once. -/
theorem alone_iff (hreads : ∀ o ∈ entries, m.Reads (view o.transaction)) :
    m.Alone entries e ↔ e ∈ entries ∧ ∃ c, m.tag (view e.transaction) = some c ∧
      m.tagCount (entries.map (·.transaction)) c = 1 := by
  refine and_congr_right fun he => ?_
  rw [← exists_tag_iff (hreads e he), ← exists_and_right]
  refine exists_congr fun c => and_congr_right fun htag => ?_
  rw [shared_iff hreads he htag, not_not]

/-- The tag of an entry that is alone occurs once. -/
theorem tagCount_eq_one_of_alone {c : Tag}
    (hreads : ∀ o ∈ entries, m.Reads (view o.transaction))
    (h : m.Alone entries e) (htag : m.tag (view e.transaction) = some c) :
    m.tagCount (entries.map (·.transaction)) c = 1 := by
  obtain ⟨-, c', htag', hcount⟩ := (alone_iff hreads).1 h
  obtain rfl := Option.some.inj (htag.symm.trans htag')
  exact hcount

end Entries

/-! ## One side of a round -/

namespace Side

variable {α : Type} [Viewable α]
  {entries peerless rejected duplicate : List (Unmatched α)}
  {found : Key → Bool} {keyed : List (Keyed α)} {k : Keyed α}

/-- Repeated keys are those that entries share. -/
theorem shared_iff_group
    (h : Side m entries found keyed peerless rejected duplicate)
    (hreads : ∀ e ∈ entries, m.Reads (view e.transaction)) (hk : k ∈ keyed) :
    m.Shared entries k.entry ↔ (group keyed k.key).length ≠ 1 := by
  rw [shared_iff hreads ((splitUsable_spec h.split).2.1 k hk).1
    (h.tag_of_mem_keyed hk), h.tagCount_eq (h.haveSets k hk)]

/-- The entries whose keys have a property are those of the side that have
it. -/
theorem map_entry_filter
    (h : Side m entries found keyed peerless rejected duplicate)
    {q : Keyed α → Bool} {p : Unmatched α → Prop}
    (hq : ∀ k ∈ keyed, (q k = true ↔ p k.entry))
    (hp : ∀ e, p e → m.Accepts (view e.transaction)) :
    (keyed.filter q).map (·.entry) = having p entries := by
  classical
  have hkeyed : keyed.filter q = keyed.filter ((fun e => decide (p e)) ∘
      fun k => k.entry) := by
    refine List.filter_congr fun k hk => ?_
    rw [Bool.eq_iff_iff, hq k hk, Function.comp_apply, decide_eq_true_iff]
  rw [hkeyed, ← List.filter_map, (splitUsable_having h.split).1, having,
    List.filter_filter]
  refine (having_eq_filter fun e _ => ?_).symm
  rw [Bool.and_eq_true, decide_eq_true_iff, decide_eq_true_iff]
  exact and_iff_left_of_imp (hp e)

/-- The unique entries are those that occur once. -/
theorem uniques_perm_filter
    (h : Side m entries found keyed peerless rejected duplicate) :
    (uniques keyed).Perm
    (keyed.filter fun k => (group keyed k.key).length == 1) := by
  have hsplit := (uniques_append_repeated_perm h.haveSets).filter
    fun k => (group keyed k.key).length == 1
  rw [List.filter_append, List.filter_eq_self.2, List.filter_eq_nil_iff.2,
    List.append_nil] at hsplit
  · exact hsplit
  · intro k hk
    rw [beq_iff_eq]
    exact (group_of_mem_repeated h.haveSets hk).2
  · intro k hk
    rw [beq_iff_eq]
    exact ((mem_uniques_iff h.haveSets).1 hk).2

/-- The repeated entries are the others. -/
theorem repeated_perm_filter
    (h : Side m entries found keyed peerless rejected duplicate) :
    (repeated keyed).Perm
    (keyed.filter fun k => (group keyed k.key).length != 1) := by
  have hsplit := (uniques_append_repeated_perm h.haveSets).filter
    fun k => (group keyed k.key).length != 1
  rw [List.filter_append, List.filter_eq_nil_iff.2, List.nil_append,
    List.filter_eq_self.2] at hsplit
  · exact hsplit
  · intro k hk
    rw [bne_iff_ne]
    exact (group_of_mem_repeated h.haveSets hk).2
  · intro k hk
    rw [bne_iff_ne, not_not]
    exact ((mem_uniques_iff h.haveSets).1 hk).2

/-- A side whose lookups tell which of its entries have a partner is sorted. -/
theorem sorts (h : Side m entries found keyed peerless rejected duplicate)
    (hreads : ∀ e ∈ entries, m.Reads (view e.transaction))
    {partnered : Unmatched α → Prop}
    (hfound : ∀ k ∈ keyed, m.Alone entries k.entry →
      (found k.key = true ↔ partnered k.entry))
    {paired : List α} (hpaired : paired.Perm
      (((uniques keyed).filter fun k => found k.key).map
      (·.entry.transaction))) :
    m.Sorts entries partnered paired peerless rejected duplicate := by
  have hspec := (splitUsable_spec h.split).2.1
  have haccepts : ∀ k ∈ keyed, m.Accepts (view k.entry.transaction) :=
    fun k hk => (keyOf_spec (hspec k hk).2).2.1 rfl
  have halone : ∀ k ∈ keyed, ((group keyed k.key).length == 1) = true ↔
      m.Alone entries k.entry := by
    intro k hk
    rw [beq_iff_eq, Alone, h.shared_iff_group hreads hk, not_not]
    exact ⟨fun hone => ⟨(hspec k hk).1, haccepts k hk, hone⟩, fun halone =>
      halone.2.2⟩
  have huniques : ∀ (q : Keyed α → Bool) (p : Unmatched α → Prop),
      (∀ k ∈ keyed, m.Alone entries k.entry → (q k = true ↔ p k.entry)) →
      (((uniques keyed).filter q).map (·.entry)).Perm
        (having (fun e => m.Alone entries e ∧ p e) entries) := by
    intro q p hqp
    refine ((h.uniques_perm_filter.filter q).map _).trans (List.Perm.of_eq ?_)
    rw [List.filter_filter]
    refine h.map_entry_filter (fun k hk => ?_) fun e he => he.1.2.1
    rw [Bool.and_eq_true, halone k hk, and_comm]
    exact and_congr_right (hqp k hk)
  have hunpaired := huniques (fun k => !found k.key) (fun e => ¬ partnered e)
      fun k hk hlone => by
    rw [Bool.not_eq_true', ← Bool.not_eq_true, hfound k hk hlone]
  have hdoubled : ((repeated keyed).map (·.entry)).Perm
      (having (fun e => m.Accepts (view e.transaction) ∧ m.Shared entries e)
        entries) := by
    refine (h.repeated_perm_filter.map _).trans (List.Perm.of_eq ?_)
    refine h.map_entry_filter (fun k hk => ?_) fun e he => he.1
    rw [bne_iff_ne, ← h.shared_iff_group hreads hk]
    exact (and_iff_right (haccepts k hk)).symm
  have hpeerless : List.Forall₂ (m.Leaves .peerless)
      (((uniques keyed).filter fun k => !found k.key).map (·.entry)) peerless :=
    leaves_of_mapM (fun k hk =>
      (hspec k ((uniques_sublist keyed).subset (List.mem_of_mem_filter hk))).2)
      (fun hkey hu => leaves_of_verdict hkey hu) h.peerless
  have hduplicate : List.Forall₂ (m.Leaves .duplicate)
      ((repeated keyed).map (·.entry)) duplicate :=
    leaves_of_mapM (fun k hk => (hspec k (repeated_subset h.haveSets hk)).2)
      (fun hkey hu => leaves_of_carry hkey hu) h.duplicate
  refine ⟨hpaired.trans ?_, ⟨_, hunpaired, hpeerless⟩,
    ⟨_, .refl _, (splitUsable_having h.split).2⟩, ⟨_, hdoubled, hduplicate⟩⟩
  have hperm := (huniques (fun k => found k.key) partnered hfound).map
      (·.transaction)
  rw [List.map_map] at hperm
  exact hperm

/-- A key is found among the unique entries of a side when it is that of an
entry that is alone. -/
theorem find?_uniques_iff
    (h : Side m entries found keyed peerless rejected duplicate) {key : Key}
    (hkey : key.IsSet) : (find? (uniques keyed) key).isSome = true ↔
      ∃ e ∈ entries, m.tag (view e.transaction) = some key.core ∧
        m.tagCount (entries.map (·.transaction)) key.core = 1 := by
  rw [find?_isSome_iff hkey]
  constructor
  · rintro ⟨k, hk, hcore⟩
    have hmem := (uniques_sublist keyed).subset hk
    obtain ⟨-, htag⟩ := h.exists_unique_iff.1 ⟨k, hk, rfl, hcore.symm⟩
    exact ⟨k.entry, ((splitUsable_spec h.split).2.1 k hmem).1, htag⟩
  · rintro ⟨e, he, htag⟩
    obtain ⟨k, hk, -, hcore⟩ :=
      h.exists_unique_iff.2 ⟨List.mem_map_of_mem he, htag⟩
    exact ⟨k, hk, hcore.symm⟩

end Side

/-! ## Both sides of a round -/

namespace Sides

variable {previous : MatchResult} {r : Round}
  {reported : List (Keyed (Member Reported))}
  {stored : List (Keyed (Member Stored))}

/-- Two entries are partners when one tag occurs once on either side, and both
have it. -/
theorem pairs_iff
    (hreported : ∀ u ∈ previous.unmatchedReported,
      m.Reads (view u.transaction))
    (hstored : ∀ s ∈ previous.unmatchedStored, m.Reads (view s.transaction))
    {u : Unmatched (Member Reported)} {s : Unmatched (Member Stored)} :
    m.Pairs previous u s ↔ ∃ c,
      (u ∈ previous.unmatchedReported ∧ m.tag (view u.transaction) = some c ∧
        m.tagCount (previous.unmatchedReported.map (·.transaction)) c = 1) ∧
      (s ∈ previous.unmatchedStored ∧ m.tag (view s.transaction) = some c ∧
        m.tagCount (previous.unmatchedStored.map (·.transaction)) c = 1) := by
  rw [Pairs, alone_iff hreported, alone_iff hstored]
  constructor
  · rintro ⟨⟨hu, c, htag, hcount⟩, ⟨hs, c', htag', hcount'⟩, hkey⟩
    have haccepts := (exists_tag_iff (hstored s hs)).1 ⟨c', htag'⟩
    obtain rfl : c = c' := by
      have hsame := (tag_eq_iff htag (hstored s hs)).2 ⟨haccepts, hkey.symm⟩
      exact Option.some.inj (hsame.symm.trans htag')
    exact ⟨c, ⟨hu, htag, hcount⟩, hs, htag', hcount'⟩
  · rintro ⟨c, ⟨hu, htag, hcount⟩, hs, htag', hcount'⟩
    exact ⟨⟨hu, c, htag, hcount⟩, ⟨hs, c, htag', hcount'⟩,
      ((tag_eq_iff htag (hstored s hs)).1 htag').2.symm⟩

/-- The pairs of a round are its partners. -/
theorem exists_pairs_iff (h : Sides m previous r reported stored)
    (hreported : ∀ u ∈ previous.unmatchedReported, m.Reads (view u.transaction))
    (hstored : ∀ s ∈ previous.unmatchedStored, m.Reads (view s.transaction))
    {t : Member Reported} {t' : Member Stored} :
    (∃ u s, m.Pairs previous u s ∧ t = u.transaction ∧ t' = s.transaction) ↔
      (t, t') ∈ r.matched.map (·.pair) := by
  rw [h.mem_pairs_iff]
  constructor
  · rintro ⟨u, s, hpairs, rfl, rfl⟩
    obtain ⟨c, ⟨hu, hc⟩, hs, hc'⟩ := (pairs_iff hreported hstored).1 hpairs
    exact ⟨c, ⟨List.mem_map_of_mem hu, hc⟩, List.mem_map_of_mem hs, hc'⟩
  · rintro ⟨c, ⟨ht, hc⟩, ht', hc'⟩
    obtain ⟨u, hu, rfl⟩ := List.mem_map.1 ht
    obtain ⟨s, hs, rfl⟩ := List.mem_map.1 ht'
    exact ⟨u, s, (pairs_iff hreported hstored).2 ⟨c, ⟨hu, hc⟩, hs, hc'⟩, rfl,
      rfl⟩

/-- A pair names the matcher, and has the key that the matcher gives its
reported transaction. -/
theorem matched_spec (h : Sides m previous r reported stored) {x : Matched}
    (hx : x ∈ r.matched) :
    x.matcher = m.name ∧ m.keyOf (view x.reported) =
      .ok (x.attributes, true) := by
  rw [h.matched, List.mem_filterMap] at hx
  obtain ⟨k, hk, hx⟩ := hx
  obtain ⟨s, -, rfl⟩ := Option.map_eq_some_iff.1 hx
  have hmem := (uniques_sublist reported).subset hk
  exact ⟨rfl, ((splitUsable_spec h.reportedSide.split).2.1 k hmem).2⟩

/-- The two sides of a round join. -/
theorem joins (h : Sides m previous r reported stored)
    (hreported : ∀ u ∈ previous.unmatchedReported, m.Reads (view u.transaction))
    (hstored : ∀ s ∈ previous.unmatchedStored, m.Reads (view s.transaction)) :
    m.Joins previous r where
  matched := by
    intro x
    constructor
    · intro hx
      obtain ⟨hname, hkey⟩ := h.matched_spec hx
      obtain ⟨u, s, hpairs, hu, hs⟩ :=
        (h.exists_pairs_iff hreported hstored).2
          (List.mem_map_of_mem (f := Matched.pair) hx)
      exact ⟨u, s, hpairs, hu ▸ hkey, hname, hu, hs⟩
    · rintro ⟨u, s, hpairs, hkey, hname, hu, hs⟩
      obtain ⟨y, hy, heq⟩ := List.mem_map.1
        ((h.exists_pairs_iff hreported hstored).1 ⟨u, s, hpairs, hu, hs⟩)
      obtain ⟨hname', hkey'⟩ := h.matched_spec hy
      -- a pair is determined by its transactions
      have hreported' : y.reported = x.reported := congrArg Prod.fst heq
      have hattributes : y.attributes = x.attributes := by
        rw [hreported', hu, hkey] at hkey'
        exact (congrArg Prod.fst (Except.ok.inj hkey')).symm
      have hyx : y = x := Matched.eq_of_pair (hname'.trans hname.symm)
        heq hattributes
      exact hyx ▸ hy
  once := h.pairs_nodup.of_map
  attributes := fun x hx => (keyOf_spec (h.matched_spec hx).2).1
  reported := by
    refine h.reportedSide.sorts hreported (fun k hk halone => ?_)
      (.of_eq h.matched_reported)
    have htag := h.reportedSide.tag_of_mem_keyed hk
    have hcount := tagCount_eq_one_of_alone hreported halone htag
    rw [h.storedSide.find?_uniques_iff (h.reportedSide.haveSets k hk)]
    refine exists_congr fun s => ?_
    rw [pairs_iff hreported hstored]
    constructor
    · exact fun hs => ⟨k.key.core, ⟨halone.1, htag, hcount⟩, hs⟩
    · rintro ⟨c, ⟨-, htag', -⟩, hs⟩
      obtain rfl := Option.some.inj (htag.symm.trans htag')
      exact hs
  stored := by
    refine h.storedSide.sorts hstored (fun k hk halone => ?_)
      h.matched_stored_perm
    have htag := h.storedSide.tag_of_mem_keyed hk
    have hcount := tagCount_eq_one_of_alone hstored halone htag
    rw [h.reportedSide.find?_uniques_iff (h.storedSide.haveSets k hk)]
    refine exists_congr fun u => ?_
    rw [pairs_iff hreported hstored]
    constructor
    · exact fun hu => ⟨k.key.core, hu, halone.1, htag, hcount⟩
    · rintro ⟨c, hu, -, htag', -⟩
      obtain rfl := Option.some.inj (htag.symm.trans htag')
      exact hu

end Sides

/-- A matcher whose attributes can be extracted always comes to a result. The
result keeps the earlier pairs and ties, and what the round adds and leaves is
the join of the unmatched transactions on keys that are unique on either
side. -/
theorem run_joins (m : Matcher) (previous : MatchResult) (j : Journal)
    (hreported : ∀ u ∈ previous.unmatchedReported, m.Extracts
      (view u.transaction))
    (hstored : ∀ s ∈ previous.unmatchedStored, m.Extracts
      (view s.transaction)) :
    ∃ r next j', Returns (m.run previous) j next j' ∧ m.Joins previous r ∧
      next.matched = previous.matched ++ r.matched ∧
      next.multiMatched = previous.multiMatched ∧
      next.unmatchedReported = r.reportedPeerless ++ r.reportedRejected ++
        r.reportedDuplicate ∧
      next.unmatchedStored = r.storedPeerless ++ r.storedRejected ++
        r.storedDuplicate := by
  have hreads : ∀ u ∈ previous.unmatchedReported,
      m.Reads (view u.transaction) :=
    fun u hu => (hreported u hu).reads
  have hreads' : ∀ s ∈ previous.unmatchedStored, m.Reads (view s.transaction) :=
    fun s hs => (hstored s hs).reads
  obtain ⟨r, hround⟩ := round_total hreads hreads'
  obtain ⟨reported, stored, hsides⟩ := round_sides hround
  exact ⟨r, _, _, returns_run hround j, hsides.joins hreads hreads', rfl,
    rfl, rfl, rfl⟩

/-- A result with a pair and a tie whose unmatched transactions meet all
verdicts: one of either side has a blank external id, two reported ones share
theirs, one has it with a stored one, and one stored one is peerless. -/
def Sample.crowded : MatchResult :=
  { Sample.tied with
    unmatchedReported := Sample.mixedBatch.map .untouched
    unmatchedStored := Sample.mixedRows.map .untouched }

theorem crowded_joined :
    (∀ u ∈ Sample.crowded.unmatchedReported,
      BuiltIn.externalIdAmountStrict.matcher.Extracts (view u.transaction)) ∧
    (∀ s ∈ Sample.crowded.unmatchedStored,
      BuiltIn.externalIdAmountStrict.matcher.Extracts (view s.transaction)) ∧
    ∃ r next j', Returns
      (BuiltIn.externalIdAmountStrict.matcher.run Sample.crowded)
      .empty next j' ∧
      BuiltIn.externalIdAmountStrict.matcher.Joins Sample.crowded r ∧
      next.matched = Sample.crowded.matched ++ r.matched ∧
      next.multiMatched = Sample.crowded.multiMatched ∧
      next.unmatchedReported = r.reportedPeerless ++ r.reportedRejected ++
        r.reportedDuplicate ∧
      next.unmatchedStored = r.storedPeerless ++ r.storedRejected ++
        r.storedDuplicate :=
  ⟨by decide +kernel, by decide +kernel,
    run_joins BuiltIn.externalIdAmountStrict.matcher Sample.crowded .empty
      (by decide +kernel) (by decide +kernel)⟩

end Matcher

end LedgerSync.Matching
