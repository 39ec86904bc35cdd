import LedgerSync.Proofs.Matching.Completion

/-!
# Chains over transactions and their doubles

When a batch was stored and is reported again, every reported transaction has a
double on the stored side, and beside the doubles there may be a rest. To most
matchers a transaction and its double look alike (`Matcher.Agrees`). Where they
do not, they stray: neither shares a key with anything on the other side
(`Matcher.Strays`). Over such sides (`Matcher.AlikeOrStray`) a round pairs the
transactions whose doubles look alike and are alone, each with its own double
(`Doubled.matched_perm`), and leaves the others and the rest (`Doubled.after`).
What a chain leaves unpaired is therefore a matter of the pairs alone
(`unpaired`), and no double that is left and always looks alike is judged
peerless (`Doubled.playAll`).
-/

namespace LedgerSync.Matching

open Matcher

variable {m : Matcher} {ms : List Matcher}
  {pairs : List (Member Reported × Member Stored)} {rest : List (Member Stored)}
  {p : Member Reported × Member Stored} {q final : MatchResult}
  {round : Matcher.Round}

namespace Matcher

/-- The matcher gives both transactions of a pair the same tag. -/
def Agrees (m : Matcher) (p : Member Reported × Member Stored) : Prop :=
  m.tag (view p.1) = m.tag (view p.2)

instance (m : Matcher) (p : Member Reported × Member Stored) :
    Decidable (m.Agrees p) := by
  unfold Agrees
  infer_instance

/-- The matcher agrees with all pairs. -/
def Alike (m : Matcher) (pairs : List (Member Reported × Member Stored)) :
    Prop :=
  ∀ p ∈ pairs, m.Agrees p

/-- Neither transaction of a pair shares a key with the other side. -/
def Strays (m : Matcher) (pairs : List (Member Reported × Member Stored))
    (rest : List (Member Stored)) (p : Member Reported × Member Stored) :
    Prop :=
  (∀ s ∈ pairs.map (·.2) ++ rest, ¬ m.SharesKey p.1 s) ∧
    ∀ t ∈ pairs.map (·.1), ¬ m.SharesKey t p.2

/-- The transactions of a pair look alike or stray. -/
def AlikeOrStray (m : Matcher)
    (pairs : List (Member Reported × Member Stored))
    (rest : List (Member Stored)) : Prop :=
  ∀ p ∈ pairs, m.Agrees p ∨ m.Strays pairs rest p

theorem Alike.orStray (h : m.Alike pairs) (rest : List (Member Stored)) :
    m.AlikeOrStray pairs rest :=
  fun p hp => Or.inl (h p hp)

/-- The two sides of the pairs have as many transactions with the tag of one
that looks like its double. -/
theorem AlikeOrStray.tagCount_eq (h : m.AlikeOrStray pairs rest)
    (hp : p ∈ pairs) (hagrees : m.Agrees p) {c : Tag}
    (hc : m.tag (view p.1) = some c) :
    m.tagCount (pairs.map (·.1)) c = m.tagCount (pairs.map (·.2)) c := by
  rw [tagCount, tagCount, List.countP_map, List.countP_map]
  refine List.countP_congr fun p' hp' => ?_
  rw [Function.comp_apply, Function.comp_apply, decide_eq_true_iff,
    decide_eq_true_iff]
  rcases h p' hp' with hagrees' | ⟨hstored, hreported⟩
  · rw [hagrees']
  · -- one that strays does not have the tag on either side
    refine iff_of_false (fun hc' => ?_) fun hc' => ?_
    · exact hstored p.2 (List.mem_append_left _ (List.mem_map_of_mem hp))
        (sharesKey_iff.2 ⟨c, hc', hagrees.symm.trans hc⟩)
    · exact hreported p.1 (List.mem_map_of_mem hp)
        (sharesKey_iff.2 ⟨c, hc, hc'⟩)

/-- Whether the second transaction of a pair looks like the first one, and is
alone among those of the pairs and the rest. -/
def parts (m : Matcher) (pairs : List (Member Reported × Member Stored))
    (rest : List (Member Stored)) (p : Member Reported × Member Stored) :
    Bool :=
  decide (m.Agrees p) && m.isLone (pairs.map (·.2) ++ rest) (view p.2)

theorem parts_iff : m.parts pairs rest p = true ↔
    m.Agrees p ∧ m.isLone (pairs.map (·.2) ++ rest) (view p.2) = true := by
  rw [parts, Bool.and_eq_true, decide_eq_true_iff]

/-- A pair whose double is alone has the only transaction of its tag on either
side. -/
theorem AlikeOrStray.counts_of_parts (h : m.AlikeOrStray pairs rest)
    (hp : p ∈ pairs) (hparts : m.parts pairs rest p = true) :
    ∃ c, m.tag (view p.1) = some c ∧ m.tag (view p.2) = some c ∧
      m.tagCount (pairs.map (·.1)) c = 1 ∧
      m.tagCount (pairs.map (·.2) ++ rest) c = 1 := by
  obtain ⟨hagrees, hlone⟩ := parts_iff.1 hparts
  obtain ⟨c, htag, hcount⟩ := isLone_iff.1 hlone
  have hpos : 0 < m.tagCount (pairs.map (·.2)) c :=
    tagCount_pos_iff.2 ⟨p.2, List.mem_map_of_mem hp, htag⟩
  have hsum := hcount
  rw [tagCount_append] at hsum
  refine ⟨c, hagrees.trans htag, htag, ?_, hcount⟩
  rw [h.tagCount_eq hp hagrees (hagrees.trans htag)]
  omega

end Matcher

/-- What is unmatched are pairs, and a rest on the stored side. -/
structure Doubled (pairs : List (Member Reported × Member Stored))
    (rest : List (Member Stored)) (q : MatchResult) : Prop where
  reported : (q.unmatchedReported.map (·.transaction)).Perm (pairs.map (·.1))
  stored : (q.unmatchedStored.map (·.transaction)).Perm
    (pairs.map (·.2) ++ rest)

/-- The pairs that a matcher leaves unpaired. -/
abbrev Matcher.unparted (m : Matcher)
    (pairs : List (Member Reported × Member Stored))
    (rest : List (Member Stored)) : List (Member Reported × Member Stored) :=
  pairs.filter fun p => !m.parts pairs rest p

/-- The pairs that a chain leaves unpaired. -/
def unpaired : List Matcher → List (Member Reported × Member Stored) →
    List (Member Stored) → List (Member Reported × Member Stored)
  | [], pairs, _ => pairs
  | m :: ms, pairs, rest => unpaired ms (m.unparted pairs rest) rest

theorem unpaired_sublist (ms : List Matcher)
    (pairs : List (Member Reported × Member Stored))
    (rest : List (Member Stored)) : (unpaired ms pairs rest).Sublist pairs := by
  induction ms generalizing pairs with
  | nil => exact List.Sublist.refl _
  | cons m ms ih => exact (ih _).trans List.filter_sublist

/-- For every matcher of a chain, the pairs that are left when it is its turn
look alike or stray. -/
def AlikeOrStrayAlong : List Matcher →
    List (Member Reported × Member Stored) → List (Member Stored) → Prop
  | [], _, _ => True
  | m :: ms, pairs, rest => m.AlikeOrStray pairs rest ∧
    AlikeOrStrayAlong ms (m.unparted pairs rest) rest

theorem alikeOrStrayAlong_of_alike (h : ∀ m ∈ ms, m.Alike pairs)
    (rest : List (Member Stored)) : AlikeOrStrayAlong ms pairs rest := by
  induction ms generalizing pairs with
  | nil => trivial
  | cons m ms ih =>
    refine ⟨(h m List.mem_cons_self).orStray rest, ih fun m' hm' p hp => ?_⟩
    exact h m' (List.mem_cons_of_mem m hm') p (List.mem_of_mem_filter hp)

/-! ## One round -/

namespace Doubled

/-- A round pairs the transactions whose doubles are alone with their
doubles. -/
theorem matched_perm (h : Doubled pairs rest q)
    (halike : m.AlikeOrStray pairs rest) (hround : m.round q = .ok round) :
    (round.matched.map (·.pair)).Perm
    (pairs.filter fun p => m.parts pairs rest p) := by
  obtain ⟨_, _, hsides⟩ := Matcher.round_sides hround
  have hreported := tagCount_perm (m := m) h.reported
  have hstored := tagCount_perm (m := m) h.stored
  have hfiltered : (pairs.filter fun p => m.parts pairs rest p).Nodup := by
    refine List.Nodup.of_map (fun p => m.tag (view p.2)) ?_
    have hall := lone_tags_nodup m (pairs.map (·.2) ++ rest)
    rw [List.filter_append, List.map_append, List.nodup_append',
      List.filter_map, List.map_map] at hall
    refine hall.1.sublist (List.Sublist.map _ ?_)
    exact List.monotone_filter_right _ fun p hp => (parts_iff.1 hp).2
  rw [List.perm_ext_iff_of_nodup hsides.pairs_nodup hfiltered]
  rintro ⟨t, s⟩
  rw [hsides.mem_pairs_iff, List.mem_filter]
  constructor
  · rintro ⟨c, ⟨ht, httag, htcount⟩, hs, hstag, hscount⟩
    rw [hstored] at hscount
    obtain ⟨⟨t', s'⟩, hp, rfl⟩ := List.mem_map.1 (h.reported.mem_iff.1 ht)
    have hs' := h.stored.mem_iff.1 hs
    -- the reported transaction shares a key, so its double has the tag too, and
    -- only one has it
    have hagrees : m.Agrees (t', s') := (halike _ hp).resolve_right
      fun hstrays => hstrays.1 s hs' (sharesKey_iff.2 ⟨c, httag, hstag⟩)
    have hdouble : s' = s := eq_of_tagCount_eq_one hscount
      (List.mem_append_left _ (List.mem_map_of_mem hp))
        (hagrees.symm.trans httag) hs' hstag
    subst hdouble
    exact ⟨hp, parts_iff.2 ⟨hagrees, isLone_iff.2 ⟨c, hstag, hscount⟩⟩⟩
  · rintro ⟨hp, hparts⟩
    obtain ⟨c, httag, hstag, htcount, hscount⟩ :=
      halike.counts_of_parts hp hparts
    refine ⟨c, ⟨h.reported.mem_iff.2 (List.mem_map_of_mem hp), httag, ?_⟩,
      h.stored.mem_iff.2 (List.mem_append_left _ (List.mem_map_of_mem hp)),
        hstag, ?_⟩
    · rw [hreported]
      exact htcount
    · rw [hstored]
      exact hscount

/-- A round leaves the transactions whose doubles are not alone, their doubles
and the rest. -/
theorem after (h : Doubled pairs rest q) (halike : m.AlikeOrStray pairs rest)
    (hround : m.round q = .ok round) :
    Doubled (m.unparted pairs rest) rest (round.after q) := by
  have hmatched := h.matched_perm halike hround
  have hsplit := List.filter_append_perm (fun p => m.parts pairs rest p) pairs
  have hreported : (round.matched.map (·.reported)).Perm
      ((pairs.filter fun p => m.parts pairs rest p).map (·.1)) := by
    refine List.Perm.trans (List.Perm.of_eq ?_) (hmatched.map (·.1))
    rw [List.map_map]
    rfl
  have hstored : (round.matched.map (·.stored)).Perm
      ((pairs.filter fun p => m.parts pairs rest p).map (·.2)) := by
    refine List.Perm.trans (List.Perm.of_eq ?_) (hmatched.map (·.2))
    rw [List.map_map]
    rfl
  refine ⟨?_, ?_⟩
  · rw [← List.perm_append_left_iff (round.matched.map (·.reported))]
    refine (Matcher.round_reported_perm hround).trans (h.reported.trans ?_)
    refine (hsplit.map (·.1)).symm.trans ?_
    rw [List.map_append]
    exact hreported.symm.append_right _
  · rw [← List.perm_append_left_iff (round.matched.map (·.stored))]
    refine (Matcher.round_stored_perm hround).trans (h.stored.trans ?_)
    refine ((hsplit.map (·.2)).symm.append_right rest).trans ?_
    rw [List.map_append, List.append_assoc]
    exact hstored.symm.append_right _

/-- No double that looks alike is judged peerless. -/
theorem not_mem_peerless (h : Doubled pairs rest q)
    (halike : m.AlikeOrStray pairs rest) (hround : m.round q = .ok round)
    (hp : p ∈ pairs) (hagrees : m.Agrees p) :
    p.2 ∉ round.storedPeerless.map (·.transaction) := by
  intro hpeerless
  obtain ⟨_, _, hsides⟩ := Matcher.round_sides hround
  obtain ⟨c, htag, hstored, hreported⟩ := hsides.stored_peerless hpeerless
  rw [tagCount_perm h.stored] at hstored
  rw [tagCount_perm h.reported] at hreported
  obtain ⟨c', -, htag', hcount, -⟩ := halike.counts_of_parts hp
    (parts_iff.2 ⟨hagrees, isLone_iff.2 ⟨c, htag, hstored⟩⟩)
  obtain rfl := Option.some.inj (htag.symm.trans htag')
  exact hreported hcount

/-! ## A chain -/

/-- One link of a chain over pairs. -/
theorem link (h : Doubled pairs rest q) (halike : m.AlikeOrStray pairs rest)
    {next : MatchResult}
    (hstep : (if q.hasUnmatched then m.apply q else .ok q) = .ok next) :
    Doubled (m.unparted pairs rest) rest next ∧
      (next.matched.map (·.pair) ++ m.unparted pairs rest).Perm
        (q.matched.map (·.pair) ++ pairs) ∧
      ∀ p ∈ m.unparted pairs rest, m.Agrees p →
        ∀ u ∈ next.unmatchedStored, u.transaction = p.2 →
          u.reason = .peerless →
          ∃ v ∈ q.unmatchedStored, v.transaction = p.2 ∧
            v.reason = .peerless := by
  split at hstep
  · obtain ⟨round, hround, rfl⟩ := MatchResult.apply_eq_ok_iff.1 hstep
    refine ⟨h.after halike hround, ?_, ?_⟩
    · show ((q.matched ++ round.matched).map (·.pair) ++ _).Perm _
      rw [List.map_append, List.append_assoc]
      refine List.Perm.append_left _ ?_
      refine ((h.matched_perm halike hround).append_right _).trans ?_
      exact List.filter_append_perm (fun p => m.parts pairs rest p) pairs
    · intro p hp hagrees u hu ht hreason
      obtain ⟨_, _, hside⟩ := Party.stored.side hround
      rcases hside.peerless_of_reason hu hreason with hnew | hold
      · exact (h.not_mem_peerless halike hround (List.mem_of_mem_filter hp)
          hagrees (ht ▸ List.mem_map_of_mem hnew)).elim
      · exact ⟨u, hold, ht, hreason⟩
  · next hmatched =>
    obtain rfl := Except.ok.inj hstep
    -- nothing is unmatched, so there are no pairs
    have hnone : pairs = [] := by
      cases hpairs : pairs with
      | nil => rfl
      | cons p ps =>
        have hmem : p.1 ∈ q.unmatchedReported.map (·.transaction) :=
          h.reported.mem_iff.2 (by rw [hpairs]; exact List.mem_cons_self)
        obtain ⟨u, hu, -⟩ := List.mem_map.1 hmem
        exact (hmatched (Party.reported.hasUnmatched hu)).elim
    subst hnone
    exact ⟨h, .refl _, fun _ hp => absurd hp List.not_mem_nil⟩

/-- A chain over pairs leaves those that are unpaired and the rest, and has
paired the others. A double that is left is not judged peerless if all matchers
of the chain agree with its pair. -/
theorem playAll (h : Doubled pairs rest q)
    (halike : AlikeOrStrayAlong ms pairs rest)
    (hplayed : MatchResult.playAll ms q = .ok final) :
    Doubled (unpaired ms pairs rest) rest final ∧
      (final.matched.map (·.pair) ++ unpaired ms pairs rest).Perm
        (q.matched.map (·.pair) ++ pairs) ∧
      ∀ p ∈ unpaired ms pairs rest, (∀ m ∈ ms, m.Agrees p) →
        ∀ u ∈ final.unmatchedStored, u.transaction = p.2 →
          u.reason = .peerless →
          ∃ v ∈ q.unmatchedStored, v.transaction = p.2 ∧
            v.reason = .peerless := by
  induction ms generalizing q pairs with
  | nil =>
    obtain rfl := pure_eq_ok_iff.1 hplayed
    exact ⟨h, .refl _, fun p _ _ u hu ht hr => ⟨u, hu, ht, hr⟩⟩
  | cons m ms ih =>
    unfold MatchResult.playAll at hplayed
    rw [List.foldlM_cons] at hplayed
    obtain ⟨next, hstep, hrest⟩ := bind_eq_ok_iff.1 hplayed
    obtain ⟨hnext, hperm, hreason⟩ := h.link halike.1 hstep
    obtain ⟨hfinal, hperm', hreason'⟩ := ih hnext halike.2 hrest
    refine ⟨hfinal, hperm'.trans hperm, ?_⟩
    intro p hp hagrees u hu ht hr
    obtain ⟨v, hv, hvt, hvr⟩ := hreason' p hp
      (fun m' hm' => hagrees m' (List.mem_cons_of_mem m hm')) u hu ht hr
    exact hreason p ((unpaired_sublist _ _ _).subset hp)
      (hagrees m List.mem_cons_self) v hv hvt hvr

end Doubled

end LedgerSync.Matching
