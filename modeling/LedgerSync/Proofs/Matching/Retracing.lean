import LedgerSync.Proofs.Matching.ComparedFields
import LedgerSync.Proofs.Matching.Doubles

/-!
# Retracing a run of a chain

A chain has run over a batch and what was stored then, and runs again over the
batch and its doubles. The second run retraces the first (`Traced`): whatever
the first run has joined by some round, the second has parted by then, and the
rest is what the first one left on the stored side.

A matcher need not agree with a pair that the first run ignored, because its
timestamp may have been written in a way that is cut to another instant. But the
first run has joined that pair. If it can have done so in the next and last
round only, by a matcher that this one covers (`FallsBack`), then the pair
strays here (`Traced.strays`), and no other transaction takes its place. So the
pairs that are left look alike or stray all along, and what is unpaired in the
end always looked alike (`Traced.along`).

If none of the transactions shares a key with the rest, nothing is unpaired that
the first run has accounted for (`Traced.unpaired_eq_nil`), and the second run
judges of the rest as the first one did (`Traced.rest_peerless`).
-/

namespace LedgerSync.Matching

open Matcher

variable {m m' : Matcher} {ms chain : List Matcher}
  {pairs : List (Member Reported × Member Stored)} {rest : List (Member Stored)}
  {p : Member Reported × Member Stored} {q next final : MatchResult}
  {round round' : Matcher.Round} {x : Matched}

/-! ## What rounds add -/

namespace MatchResult

/-- The pairs that a later result has beside those of an earlier one. -/
def added (q final : MatchResult) : List Matched :=
  final.matched.drop q.matched.length

theorem added_self (q : MatchResult) : q.added q = [] :=
  List.drop_eq_nil_of_le (Nat.le_refl _)

/-- A round adds what it has paired. -/
theorem added_after (q : MatchResult) (round : Matcher.Round) :
    q.added (round.after q) = round.matched :=
  List.drop_left

/-- A chain keeps the pairs that there were. -/
theorem matched_append_added (h : playAll ms q = .ok final) :
    q.matched ++ q.added final = final.matched := by
  refine List.prefix_iff_eq_append.1 ?_
  refine playAll_induction h (fun q' => q.matched <+: q'.matched)
    (List.prefix_refl _) ?_
  exact fun m q' round hq _ => hq.trans (List.prefix_append _ _)

/-- What is added is added by a round or by those after it. -/
theorem added_eq_append (h : playAll ms (round.after q) = .ok final) :
    q.added final = round.matched ++ (round.after q).added final := by
  rw [added, ← matched_append_added h]
  show ((q.matched ++ round.matched) ++ _).drop _ = _
  rw [List.append_assoc, List.drop_left]

/-- Of the reported transactions that were unmatched, some were added, and the
others are left. -/
theorem added_reported_perm (h : playAll ms q = .ok final) :
    ((q.added final).map (·.reported) ++
      final.unmatchedReported.map (·.transaction)).Perm
      (q.unmatchedReported.map (·.transaction)) := by
  have hperm := playAll_reported_perm h
  rw [← matched_append_added h, List.map_append, List.append_assoc] at hperm
  exact (List.perm_append_left_iff _).1 hperm

/-- Of the stored ones likewise. -/
theorem added_stored_perm (h : playAll ms q = .ok final) :
    ((q.added final).map (·.stored) ++
      final.unmatchedStored.map (·.transaction)).Perm
      (q.unmatchedStored.map (·.transaction)) := by
  have hperm := playAll_stored_perm h
  rw [← matched_append_added h, List.map_append, List.append_assoc] at hperm
  exact (List.perm_append_left_iff _).1 hperm

/-- What is added shares a key of some matcher. -/
theorem sharesKey_of_added (h : playAll ms q = .ok final)
    (hx : x ∈ q.added final) : ∃ m ∈ ms, m.SharesKey x.reported x.stored := by
  induction ms generalizing q with
  | nil =>
    obtain rfl := pure_eq_ok_iff.1 h
    rw [added_self] at hx
    exact absurd hx List.not_mem_nil
  | cons m ms ih =>
    unfold playAll at h
    rw [List.foldlM_cons] at h
    obtain ⟨next, hstep, hrest⟩ := bind_eq_ok_iff.1 h
    have hlater : x ∈ next.added final → ∃ m' ∈ m :: ms,
        m'.SharesKey x.reported x.stored := by
      intro hx'
      obtain ⟨m', hm', hshared⟩ := ih hrest hx'
      exact ⟨m', List.mem_cons_of_mem m hm', hshared⟩
    split at hstep
    · obtain ⟨round, hround, rfl⟩ := apply_eq_ok_iff.1 hstep
      rw [added_eq_append hrest] at hx
      rcases List.mem_append.1 hx with hx | hx
      · exact ⟨m, List.mem_cons_self, Matcher.sharesKey_of_round hround hx⟩
      · exact hlater hx
    · obtain rfl := Except.ok.inj hstep
      exact hlater hx

/-- A single matcher that adds something has played its round. -/
theorem after_of_added (h : playAll [m] q = .ok final)
    (hx : x ∈ q.added final) :
    ∃ round, m.round q = .ok round ∧ final = round.after q := by
  unfold playAll at h
  rw [List.foldlM_cons] at h
  obtain ⟨next, hstep, h⟩ := bind_eq_ok_iff.1 h
  obtain rfl := pure_eq_ok_iff.1 h
  split at hstep
  · exact apply_eq_ok_iff.1 hstep
  · obtain rfl := Except.ok.inj hstep
    rw [added_self] at hx
    exact absurd hx List.not_mem_nil

end MatchResult

namespace Matcher

/-- The tag of a pair that a round has made: it was the only one of its tag on
either side, and nothing is left with it. -/
theorem tag_of_mem_matched (hround : m.round q = .ok round)
    (hx : x ∈ round.matched) :
    ∃ c, m.tag (view x.reported) = some c ∧ m.tag (view x.stored) = some c ∧
      m.tagCount (q.unmatchedReported.map (·.transaction)) c = 1 ∧
      m.tagCount (q.unmatchedStored.map (·.transaction)) c = 1 ∧
      m.tagCount ((round.after q).unmatchedReported.map (·.transaction)) c =
        0 ∧
      m.tagCount ((round.after q).unmatchedStored.map (·.transaction)) c =
        0 := by
  obtain ⟨_, _, hsides⟩ := round_sides hround
  obtain ⟨c, ⟨-, ht, htcount⟩, -, hs, hscount⟩ :=
    hsides.mem_pairs_iff.1 (List.mem_map_of_mem hx)
  refine ⟨c, ht, hs, htcount, hscount, ?_, ?_⟩
  · have hsum := tagCount_perm (m := m) (round_reported_perm hround) c
    have hpos : 0 < m.tagCount (round.matched.map (·.reported)) c :=
      tagCount_pos_iff.2 ⟨x.reported, List.mem_map_of_mem hx, ht⟩
    rw [tagCount_append, htcount] at hsum
    omega
  · have hsum := tagCount_perm (m := m) (round_stored_perm hround) c
    have hpos : 0 < m.tagCount (round.matched.map (·.stored)) c :=
      tagCount_pos_iff.2 ⟨x.stored, List.mem_map_of_mem hx, hs⟩
    rw [tagCount_append, hscount] at hsum
    omega

/-- A round pairs nothing whose tag occurs twice. -/
theorem tagCount_after_of_two (hround : m.round q = .ok round) {c : Tag}
    (htwo : 2 ≤ m.tagCount (q.unmatchedReported.map (·.transaction)) c) :
    m.tagCount ((round.after q).unmatchedReported.map (·.transaction)) c =
      m.tagCount (q.unmatchedReported.map (·.transaction)) c := by
  have hnone : m.tagCount (round.matched.map (·.reported)) c = 0 := by
    by_contra hne
    obtain ⟨_, hmem, hc⟩ := tagCount_pos_iff.1 (Nat.pos_of_ne_zero hne)
    obtain ⟨x, hx, rfl⟩ := List.mem_map.1 hmem
    obtain ⟨c', hc', -, hone, -⟩ := tag_of_mem_matched hround hx
    obtain rfl := Option.some.inj (hc.symm.trans hc')
    omega
  rw [← tagCount_perm (round_reported_perm hround) c, tagCount_append, hnone,
    Nat.zero_add]

/-- A round pairs one stored transaction of a tag. -/
theorem stored_eq_of_tag_eq (hround : m.round q = .ok round) {y : Matched}
    (hx : x ∈ round.matched) (hy : y ∈ round.matched)
    (h : m.tag (view x.stored) = m.tag (view y.stored)) :
    x.stored = y.stored := by
  have hmem : ∀ {z : Matched}, z ∈ round.matched →
      z.stored ∈ q.unmatchedStored.map (·.transaction) := fun hz =>
    (round_stored_perm hround).subset
      (List.mem_append_left _ (List.mem_map_of_mem hz))
  obtain ⟨c, -, hc, -, hone, -⟩ := tag_of_mem_matched hround hx
  exact eq_of_tagCount_eq_one hone (hmem hx) hc (hmem hy) (h.symm.trans hc)

/-- What has the tag of a view has its tag of a matcher that is covered. -/
theorem Covers.tag_eq (h : m.Covers m') {v w : View} {c d : Tag}
    (hv : m.tag v = some c) (hd : m'.tag v = some d) (hw : m.tag w = some c) :
    m'.tag w = some d := by
  obtain ⟨d', hd', hw'⟩ := h v w c hv hw
  obtain rfl := Option.some.inj (hd.symm.trans hd')
  exact hw'

theorem Covers.tagCount_le {α : Type} [Viewable α] (h : m.Covers m') {v : View}
    {c d : Tag} (hc : m.tag v = some c) (hd : m'.tag v = some d)
    (ts : List α) : m.tagCount ts c ≤ m'.tagCount ts d :=
  List.countP_mono_left fun _ _ ht =>
    decide_eq_true (h.tag_eq hc hd (of_decide_eq_true ht))

/-- A tag is one of the record. -/
theorem tagCount_records (m : Matcher) (ss : List (Member Stored)) (c : Tag) :
    m.tagCount (ss.map (·.record)) c = m.tagCount ss c := List.countP_map

/-- A matcher looks at records. -/
theorem tag_eq_of_record {s s' : Member Stored} (h : s.record = s'.record) :
    m.tag (view s) = m.tag (view s') :=
  congrArg (fun r : Stored => m.tag (view r)) h

/-- A matcher by which a pair was made agrees with it. -/
theorem SharesKey.agrees (h : m.SharesKey x.reported x.stored)
    (hreported : x.reported = p.1) (hstored : x.stored.record = p.2.record) :
    m.SharesKey p.1 p.2 ∧ m.Agrees p := by
  obtain ⟨c, ht, hs⟩ := sharesKey_iff.1 h
  rw [hreported] at ht
  rw [tag_eq_of_record hstored] at hs
  exact ⟨sharesKey_iff.2 ⟨c, ht, hs⟩, ht.trans hs.symm⟩

end Matcher

/-! ## The run that is retraced -/

/-- The second run over pairs and a rest retraces a run that has come so far and
ends in a final result. That run has not joined the transactions of the pairs so
far, it leaves the rest, and where a matcher of the chain does not agree with a
pair, it still joins the two. -/
structure Traced (chain : List Matcher)
    (pairs : List (Member Reported × Member Stored))
    (rest : List (Member Stored)) (q final : MatchResult) : Prop where
  reported : (pairs.map (·.1)).Subperm (q.unmatchedReported.map (·.transaction))
  rest : (rest.map (·.record)).Subperm
    ((final.unmatchedStored.map (·.transaction)).map (·.record))
  joined : ∀ p ∈ pairs, (∀ m ∈ chain, m.Agrees p) ∨
    ∃ x ∈ q.added final, x.reported = p.1 ∧ x.stored.record = p.2.record

/-- After a matcher that does not agree with a pair, the two can share a key of
the last matcher only, which must be the next one and be covered by this
one. -/
def FallsBack (pairs : List (Member Reported × Member Stored)) :
    List Matcher → Prop
  | [] => True
  | m :: ms =>
    (∀ p ∈ pairs, ¬ m.Agrees p → ∀ m' ∈ ms, m'.SharesKey p.1 p.2 →
      ms = [m'] ∧ m.Covers m') ∧ FallsBack pairs ms

theorem FallsBack.sublist {pairs' : List (Member Reported × Member Stored)}
    (h : FallsBack pairs ms) (hsub : pairs' ⊆ pairs) : FallsBack pairs' ms := by
  induction ms with
  | nil => trivial
  | cons m ms ih =>
    exact ⟨fun p hp => h.1 p (hsub hp), ih h.2⟩

namespace Traced

/-- The rest has a tag at most as often as what the first run leaves. -/
theorem tagCount_rest_le (h : Traced chain pairs rest q final) (m : Matcher)
    (c : Tag) :
    m.tagCount rest c ≤
      m.tagCount (final.unmatchedStored.map (·.transaction)) c := by
  rw [← tagCount_records, ← tagCount_records]
  exact h.rest.countP_le _

theorem reported_mem (h : Traced chain pairs rest q final) (hp : p ∈ pairs) :
    p.1 ∈ q.unmatchedReported.map (·.transaction) :=
  h.reported.subset (List.mem_map_of_mem hp)

theorem hasUnmatched (h : Traced chain pairs rest q final) (hp : p ∈ pairs) :
    q.hasUnmatched = true := by
  obtain ⟨u, hu, -⟩ := List.mem_map.1 (h.reported_mem hp)
  exact Party.reported.hasUnmatched hu

/-- A matcher does not join a pair with which it does not agree, so a later one
does. -/
theorem joined_later (h : Traced chain pairs rest q final) (hm : m ∈ chain)
    (hround : m.round q = .ok round)
    (hrest : MatchResult.playAll ms (round.after q) = .ok final)
    (hp : p ∈ pairs) (hodd : ¬ m.Agrees p) :
    ∃ x ∈ (round.after q).added final, x.reported = p.1 ∧
      x.stored.record = p.2.record := by
  obtain ⟨x, hx, hreported, hstored⟩ :=
    (h.joined p hp).resolve_left fun hall => hodd (hall m hm)
  rw [MatchResult.added_eq_append hrest] at hx
  rcases List.mem_append.1 hx with hx | hx
  · have hshared := sharesKey_of_round hround hx
    exact (hodd (hshared.agrees hreported hstored).2).elim
  · exact ⟨x, hx, hreported, hstored⟩

/-- A pair that looks alike is parted when the first run has left its tag to one
reported transaction, and the rest does not have it. -/
theorem parts_of_tagCount (h : Traced chain pairs rest q final)
    (halike : m.AlikeOrStray pairs rest) (hp : p ∈ pairs)
    (hagrees : m.Agrees p) {c : Tag} (hc : m.tag (view p.1) = some c)
    (hone : m.tagCount (q.unmatchedReported.map (·.transaction)) c = 1)
    (hrest : m.tagCount rest c = 0) : m.parts pairs rest p = true := by
  have hle : m.tagCount (pairs.map (·.1)) c ≤ 1 :=
    hone ▸ h.reported.countP_le _
  have hpos : 0 < m.tagCount (pairs.map (·.1)) c :=
    tagCount_pos_iff.2 ⟨p.1, List.mem_map_of_mem hp, hc⟩
  refine parts_iff.2 ⟨hagrees, isLone_iff.2 ⟨c, hagrees.symm.trans hc, ?_⟩⟩
  rw [tagCount_append, ← halike.tagCount_eq hp hagrees hc, hrest]
  omega

/-- What a round of the first run joins is parted in the second. -/
theorem parts_of_matched (h : Traced chain pairs rest q final)
    (halike : m.AlikeOrStray pairs rest) (hround : m.round q = .ok round)
    (hrest : MatchResult.playAll ms (round.after q) = .ok final)
    (hp : p ∈ pairs) (hagrees : m.Agrees p) (hx : x ∈ round.matched)
    (hreported : x.reported = p.1) : m.parts pairs rest p = true := by
  obtain ⟨c, ht, -, hone, -, -, hgone⟩ := tag_of_mem_matched hround hx
  have hleft : m.tagCount (final.unmatchedStored.map (·.transaction)) c ≤ 0 :=
    hgone ▸ (Party.stored.left_subperm hrest).countP_le _
  have hrestCount := h.tagCount_rest_le m c
  exact h.parts_of_tagCount halike hp hagrees (hreported ▸ ht) hone (by omega)

/-- The rounds after one go on with the pairs that it does not part. -/
theorem after (h : Traced chain pairs rest q final) (hm : m ∈ chain)
    (halike : m.AlikeOrStray pairs rest) (hround : m.round q = .ok round)
    (hrest : MatchResult.playAll ms (round.after q) = .ok final) :
    Traced chain (m.unparted pairs rest) rest (round.after q) final where
  reported := by
    have hsub := (List.filter_sublist (p := fun p =>
      !m.parts pairs rest p)).map (·.1) |>.subperm.trans h.reported
    -- none of these is matched by the round, so all of them are still there
    rw [List.subperm_ext_iff]
    intro t ht
    obtain ⟨p, hp, rfl⟩ := List.mem_map.1 ht
    obtain ⟨hpair, hnot⟩ := List.mem_filter.1 hp
    have hunmatched : p.1 ∉ round.matched.map (·.reported) := by
      intro hmem
      obtain ⟨x, hx, hreported⟩ := List.mem_map.1 hmem
      by_cases hagrees : m.Agrees p
      · rw [h.parts_of_matched halike hround hrest hpair hagrees hx
          hreported] at hnot
        cases hnot
      · -- it is joined later, so it is left by this round
        obtain ⟨c, ht, -, -, -, hgone, -⟩ := tag_of_mem_matched hround hx
        obtain ⟨y, hy, hreported', -⟩ :=
          h.joined_later hm hround hrest hpair hagrees
        have hleft := (MatchResult.added_reported_perm hrest).subset
          (List.mem_append_left _ (List.mem_map_of_mem hy))
        have hpos := tagCount_pos_iff.2 ⟨_, hleft,
          (hreported'.trans hreported.symm) ▸ ht⟩
        rw [hgone] at hpos
        exact Nat.lt_irrefl 0 hpos
    have hcount := (round_reported_perm hround).count_eq p.1
    rw [List.count_append, List.count_eq_zero_of_not_mem hunmatched,
      Nat.zero_add] at hcount
    rw [hcount]
    exact hsub.count_le p.1
  rest := h.rest
  joined p hp := by
    obtain ⟨hpair, hnot⟩ := List.mem_filter.1 hp
    refine (h.joined p hpair).imp_right ?_
    rintro ⟨x, hx, hreported, hstored⟩
    rw [MatchResult.added_eq_append hrest] at hx
    rcases List.mem_append.1 hx with hx | hx
    · have hagrees := ((sharesKey_of_round hround hx).agrees hreported
        hstored).2
      rw [h.parts_of_matched halike hround hrest hpair hagrees hx
        hreported] at hnot
      cases hnot
    · exact ⟨x, hx, hreported, hstored⟩

/-- Two pairs whose first transactions have one tag make it occur twice. -/
theorem two_le_tagCount {p' : Member Reported × Member Stored} {c : Tag}
    (hp : p ∈ pairs) (hp' : p' ∈ pairs) (hne : p ≠ p')
    (hc : m.tag (view p.1) = some c) (hc' : m.tag (view p'.1) = some c) :
    2 ≤ m.tagCount (pairs.map (·.1)) c := by
  have hsub : [p, p'].Subperm pairs :=
    List.subperm_of_subset (by simpa using hne) (by simp [hp, hp'])
  rw [tagCount, List.countP_map]
  refine Nat.le_trans ?_ (hsub.countP_le _)
  simp [hc, hc']

/-- Where a single matcher is left, it joins the pairs with which a matcher does
not agree. -/
theorem joined_last (h : Traced chain pairs rest q final) (hm : m ∈ chain)
    (hround : m.round q = .ok round)
    (hrest : MatchResult.playAll [m'] (round.after q) = .ok final)
    (hp : p ∈ pairs) (hodd : ¬ m.Agrees p) :
    ∃ round', m'.round (round.after q) = .ok round' ∧
      final = round'.after (round.after q) ∧
      ∀ p' ∈ pairs, ¬ m.Agrees p' → ∃ x ∈ round'.matched,
        x.reported = p'.1 ∧ x.stored.record = p'.2.record := by
  obtain ⟨x, hx, -⟩ := h.joined_later hm hround hrest hp hodd
  obtain ⟨round', hround', rfl⟩ := MatchResult.after_of_added hrest hx
  refine ⟨round', hround', rfl, fun p' hp' hodd' => ?_⟩
  rw [← MatchResult.added_after (round.after q) round']
  exact h.joined_later hm hround hrest hp' hodd'

/-- A pair with which a matcher does not agree strays, if a single matcher is
left, and this one is covered. -/
theorem strays (h : Traced chain pairs rest q final) (hm : m ∈ chain)
    (hround : m.round q = .ok round)
    (hrest : MatchResult.playAll [m'] (round.after q) = .ok final)
    (hcovers : m.Covers m') (hp : p ∈ pairs)
    (hodd : ¬ m.Agrees p) : m.Strays pairs rest p := by
  obtain ⟨round', hround', rfl, hlast⟩ :=
    h.joined_last hm hround hrest hp hodd
  obtain ⟨x, hx, hreported, hstored⟩ := hlast p hp hodd
  -- the last matcher joins the pair, so nothing else has its tag then
  obtain ⟨d, hd, hd', hone, -, -, hgone⟩ := tag_of_mem_matched hround' hx
  have hleft := (round_reported_perm hround').subset
    (List.mem_append_left _ (List.mem_map_of_mem hx))
  have hleft' := (round_stored_perm hround').subset
    (List.mem_append_left _ (List.mem_map_of_mem hx))
  refine ⟨fun s hs hshared => ?_, fun t ht hshared => ?_⟩
  · obtain ⟨c, hc, hsc⟩ := sharesKey_iff.1 hshared
    rw [← hreported] at hc
    have hsd := hcovers.tag_eq hc hd hsc
    rcases List.mem_append.1 hs with hs | hs
    · obtain ⟨p', hp', rfl⟩ := List.mem_map.1 hs
      by_cases hagrees : m.Agrees p'
      · -- the two pairs have one tag, so this round joins neither, and the last
        -- one finds both
        have hne : p ≠ p' := fun heq => hodd (heq ▸ hagrees)
        have htwo := Nat.le_trans (two_le_tagCount hp hp' hne (hreported ▸ hc)
          (hagrees.trans hsc)) (h.reported.countP_le _)
        have hle := hcovers.tagCount_le hc hd
          ((round.after q).unmatchedReported.map (·.transaction))
        rw [tagCount_after_of_two hround htwo] at hle
        exact absurd (Nat.le_trans htwo hle) (by omega)
      · -- the last matcher joins the other pair too, so it is the same row
        obtain ⟨y, hy, -, hystored⟩ := hlast p' hp' hagrees
        have heq := stored_eq_of_tag_eq hround' hx hy
          (hd'.trans ((tag_eq_of_record hystored).trans hsd).symm)
        rw [heq] at hstored
        have hrecord := hystored.symm.trans hstored
        exact hodd ((hreported ▸ hc).trans
          ((tag_eq_of_record hrecord).symm.trans hsc).symm)
    · -- the rest is what the first run has left
      have hpos : 0 < m'.tagCount rest d := tagCount_pos_iff.2 ⟨s, hs, hsd⟩
      have hle := h.tagCount_rest_le m' d
      omega
  · obtain ⟨c, htc, hc⟩ := sharesKey_iff.1 hshared
    rw [← tag_eq_of_record hstored] at hc
    have htd := hcovers.tag_eq hc hd' htc
    rcases List.mem_append.1 ((round_reported_perm hround).mem_iff.2
      (h.reported.subset ht)) with hmatched | hunmatched
    · -- this round would have joined it with another row of the tag
      obtain ⟨y, hy, rfl⟩ := List.mem_map.1 hmatched
      obtain ⟨c', hc', -, -, -, -, hnone⟩ := tag_of_mem_matched hround hy
      obtain rfl := Option.some.inj (htc.symm.trans hc')
      have hpos := tagCount_pos_iff.2 ⟨_, hleft', hc⟩
      omega
    · have heq : t = x.reported :=
        eq_of_tagCount_eq_one hone hunmatched htd hleft hd
      rw [heq, hreported] at htc
      exact hodd (htc.trans ((tag_eq_of_record hstored).symm.trans hc).symm)

/-- One link of the chain. -/
theorem link (h : Traced chain pairs rest q final) (hm : m ∈ chain)
    (hfalls : FallsBack pairs (m :: ms))
    (hstep : (if q.hasUnmatched then m.apply q else .ok q) = .ok next)
    (hrest : MatchResult.playAll ms next = .ok final) :
    m.AlikeOrStray pairs rest ∧
      Traced chain (m.unparted pairs rest) rest next final ∧
      FallsBack (m.unparted pairs rest) ms := by
  refine and_assoc.1 ⟨?_, hfalls.2.sublist List.filter_sublist.subset⟩
  split at hstep
  · obtain ⟨round, hround, rfl⟩ := MatchResult.apply_eq_ok_iff.1 hstep
    have halike : m.AlikeOrStray pairs rest := by
      intro p hp
      by_cases hagrees : m.Agrees p
      · exact Or.inl hagrees
      obtain ⟨x, hx, hreported, hstored⟩ :=
        h.joined_later hm hround hrest hp hagrees
      obtain ⟨m', hm', hshared⟩ := MatchResult.sharesKey_of_added hrest hx
      obtain ⟨rfl, hcovers⟩ :=
        hfalls.1 p hp hagrees m' hm' (hshared.agrees hreported hstored).1
      exact Or.inr (h.strays hm hround hrest hcovers hp hagrees)
    exact ⟨halike, h.after hm halike hround hrest⟩
  · next hmatched =>
    obtain rfl := Except.ok.inj hstep
    -- nothing is unmatched, so there are no pairs
    have hnone : pairs = [] :=
      List.eq_nil_iff_forall_not_mem.2 fun p hp =>
        hmatched (h.hasUnmatched hp)
    subst hnone
    exact ⟨fun p hp => absurd hp List.not_mem_nil, h⟩

/-- The pairs that are left look alike or stray all along, and those that are
left in the end look alike to all matchers. -/
theorem along (h : Traced chain pairs rest q final) (hms : ms ⊆ chain)
    (hfalls : FallsBack pairs ms)
    (hplayed : MatchResult.playAll ms q = .ok final) :
    AlikeOrStrayAlong ms pairs rest ∧
      ∀ p ∈ unpaired ms pairs rest, ∀ m ∈ chain, m.Agrees p := by
  induction ms generalizing q pairs with
  | nil =>
    obtain rfl := pure_eq_ok_iff.1 hplayed
    refine ⟨trivial, fun p hp => (h.joined p hp).resolve_right ?_⟩
    rw [MatchResult.added_self]
    exact fun ⟨_, hx, _⟩ => List.not_mem_nil hx
  | cons m ms ih =>
    obtain ⟨hm, hms⟩ := List.cons_subset.1 hms
    unfold MatchResult.playAll at hplayed
    rw [List.foldlM_cons] at hplayed
    obtain ⟨next, hstep, hrest⟩ := bind_eq_ok_iff.1 hplayed
    obtain ⟨halike, hnext, hfalls'⟩ := h.link hm hfalls hstep hrest
    obtain ⟨halong, hunpaired⟩ := ih hnext hms hfalls' hrest
    exact ⟨⟨halike, halong⟩, hunpaired⟩

end Traced

/-! ## What both runs account for -/

/-- No first transaction of a pair shares a key of the chain with the rest. -/
def Apart (ms : List Matcher) (pairs : List (Member Reported × Member Stored))
    (rest : List (Member Stored)) : Prop :=
  ∀ m ∈ ms, ∀ p ∈ pairs, ∀ s ∈ rest, ¬ m.SharesKey p.1 s

theorem Apart.sublist {pairs' : List (Member Reported × Member Stored)}
    (h : Apart ms pairs rest) (hsub : pairs' ⊆ pairs) : Apart ms pairs' rest :=
  fun m hm p hp => h m hm p (hsub hp)

/-- Where the reported transactions share no key with the rest, the rest has
none of their tags. -/
theorem Apart.tagCount_rest (h : Apart ms pairs rest) (hm : m ∈ ms)
    (hp : p ∈ pairs) {c : Tag} (htag : m.tag (view p.1) = some c) :
    m.tagCount rest c = 0 := by
  by_contra hne
  obtain ⟨s, hs, hstag⟩ := tagCount_pos_iff.1 (Nat.pos_of_ne_zero hne)
  exact h m hm p hp s hs (sharesKey_iff.2 ⟨c, htag, hstag⟩)

/-- A single matcher that has accounted for both sides leaves nothing on the
stored side that shares a key with a reported transaction. -/
theorem not_sharesKey_of_single {reported : List (Member Reported)}
    {stored : List (Member Stored)}
    (h : MatchResult.playAll [m] (.start reported stored) = .ok final)
    (hreported : ∀ u ∈ final.unmatchedReported, u.reason = .peerless)
    (hstored : ∀ u ∈ final.unmatchedStored, u.reason = .peerless)
    {t : Member Reported} (ht : t ∈ reported) {s : Member Stored}
    (hs : s ∈ final.unmatchedStored.map (·.transaction)) :
    ¬ m.SharesKey t s := by
  intro hshared
  obtain ⟨c, httag, hstag⟩ := sharesKey_iff.1 hshared
  obtain ⟨u, hu, rfl⟩ := List.mem_map.1 hs
  obtain ⟨previous, round, hplays, hrest⟩ :=
    Party.stored.exists_playsAt h (k := 0) rfl hu
  obtain rfl := pure_eq_ok_iff.1 hplays.before
  obtain rfl := pure_eq_ok_iff.1 hrest
  obtain ⟨_, _, hsides⟩ := Matcher.round_sides hplays.played
  -- the stored one is peerless, so the tag is not that of a single reported
  -- transaction
  have hpeerless : u.transaction ∈ round.storedPeerless.map
      (·.transaction) := by
    rcases hsides.storedSide.peerless_of_reason hu (hstored u hu)
      with hnew | hold
    · exact List.mem_map_of_mem hnew
    · exact (not_peerless_of_untouched stored u hold (hstored u hu)).elim
  obtain ⟨c', htag', -, hcount⟩ := hsides.stored_peerless hpeerless
  obtain rfl := Option.some.inj (hstag.symm.trans htag')
  -- but the reported one is matched or peerless, and alone either way
  have hlone : m.isLone
      ((MatchResult.start reported stored).unmatchedReported.map
      (·.transaction)) (view t) = true := by
    have hmem : t ∈ round.matched.map (·.reported) ++
        ((round.after (.start reported stored)).unmatchedReported).map
          (·.transaction) := by
      rw [(Matcher.round_reported_perm hplays.played).mem_iff]
      exact List.mem_map.2 ⟨_, List.mem_map_of_mem ht, rfl⟩
    rcases List.mem_append.1 hmem with hmatched | hleft
    · obtain ⟨x, hx, rfl⟩ := List.mem_map.1 hmatched
      exact hsides.lone_of_mem_matched hx
    · obtain ⟨v, hv, rfl⟩ := List.mem_map.1 hleft
      rcases hsides.reportedSide.peerless_of_reason hv (hreported v hv)
        with hnew | hold
      · exact (hsides.reportedSide.lone_of_mem_peerless
          (List.mem_map_of_mem hnew)).1
      · exact (not_peerless_of_untouched reported v hold (hreported v hv)).elim
  obtain ⟨c', htag', hone⟩ := isLone_iff.1 hlone
  obtain rfl := Option.some.inj (httag.symm.trans htag')
  exact hcount hone

namespace Traced

/-- What a link of the first run finds peerless, it had found so before, unless
the second run parts it. -/
theorem peerless_before (h : Traced chain pairs rest q final) (hm : m ∈ chain)
    (halike : m.AlikeOrStray pairs rest) (hapart : Apart chain pairs rest)
    (hstep : (if q.hasUnmatched then m.apply q else .ok q) = .ok next)
    (hp : p ∈ m.unparted pairs rest) (hagrees : m.Agrees p)
    {u : Unmatched (Member Reported)} (hu : u ∈ next.unmatchedReported)
    (ht : u.transaction = p.1) (hr : u.reason = .peerless) :
    ∃ v ∈ q.unmatchedReported, v.transaction = p.1 ∧ v.reason = .peerless := by
  split at hstep
  case isFalse =>
    obtain rfl := Except.ok.inj hstep
    exact ⟨u, hu, ht, hr⟩
  obtain ⟨round, hround, rfl⟩ := MatchResult.apply_eq_ok_iff.1 hstep
  obtain ⟨_, _, hsides⟩ := Matcher.round_sides hround
  rcases hsides.reportedSide.peerless_of_reason hu hr with hnew | hold
  case inr => exact ⟨u, hold, ht, hr⟩
  -- it was alone, and then the second run parts it
  have hlone := (hsides.reportedSide.lone_of_mem_peerless
      (List.mem_map_of_mem hnew)).1
  rw [ht] at hlone
  obtain ⟨c, hc, hone⟩ := isLone_iff.1 hlone
  obtain ⟨hpair, hnot⟩ := List.mem_filter.1 hp
  rw [h.parts_of_tagCount halike hpair hagrees hc hone
    (hapart.tagCount_rest hm hpair hc)] at hnot
  cases hnot

/-- What the chain leaves unpaired, the first run leaves unmatched, and judges
nothing of it peerless that was not so from the start. -/
theorem unpaired_peerless (h : Traced chain pairs rest q final)
    (hms : ms ⊆ chain) (hfalls : FallsBack pairs ms)
    (hapart : Apart chain pairs rest)
    (hplayed : MatchResult.playAll ms q = .ok final)
    (hp : p ∈ unpaired ms pairs rest) :
    p.1 ∈ final.unmatchedReported.map (·.transaction) ∧
      ∀ u ∈ final.unmatchedReported, u.transaction = p.1 →
        u.reason = .peerless →
        ∃ v ∈ q.unmatchedReported, v.transaction = p.1 ∧
          v.reason = .peerless := by
  have hagrees := (h.along hms hfalls hplayed).2 p hp
  induction ms generalizing q pairs with
  | nil =>
    obtain rfl := pure_eq_ok_iff.1 hplayed
    exact ⟨h.reported_mem hp, fun u hu ht hr => ⟨u, hu, ht, hr⟩⟩
  | cons m ms ih =>
    obtain ⟨hm, hms⟩ := List.cons_subset.1 hms
    unfold MatchResult.playAll at hplayed
    rw [List.foldlM_cons] at hplayed
    obtain ⟨next, hstep, hrest⟩ := bind_eq_ok_iff.1 hplayed
    obtain ⟨halike, hnext, hfalls'⟩ := h.link hm hfalls hstep hrest
    obtain ⟨hleft, hreasons⟩ := ih hnext hms hfalls'
      (hapart.sublist List.filter_sublist.subset) hrest hp
    refine ⟨hleft, fun u hu ht hr => ?_⟩
    obtain ⟨v, hv, hvt, hvr⟩ := hreasons u hu ht hr
    exact h.peerless_before hm halike hapart hstep
      ((unpaired_sublist _ _ _).subset hp) (hagrees m hm) hv hvt hvr

/-- A chain that has accounted for the reported transactions leaves none of them
unpaired. -/
theorem unpaired_eq_nil {reported : List (Member Reported)}
    {stored : List (Member Stored)}
    (h : Traced chain pairs rest (.start reported stored) final)
    (hfalls : FallsBack pairs chain) (hapart : Apart chain pairs rest)
    (hplayed : MatchResult.playAll chain (.start reported stored) = .ok final)
    (hpeerless : ∀ u ∈ final.unmatchedReported, u.reason = .peerless) :
    unpaired chain pairs rest = [] := by
  rw [List.eq_nil_iff_forall_not_mem]
  intro p hp
  obtain ⟨hleft, hreasons⟩ :=
    h.unpaired_peerless (List.Subset.refl _) hfalls hapart hplayed hp
  obtain ⟨u, hu, ht⟩ := List.mem_map.1 hleft
  obtain ⟨v, hv, -, hr⟩ := hreasons u hu ht (hpeerless u hu)
  exact not_peerless_of_untouched reported v hv hr

/-- A transaction of the rest that is alone among what the first run has left is
alone over the pairs. -/
theorem lone_of_mem_rest (h : Traced chain pairs rest q final)
    (hm : m ∈ chain) (hapart : Apart chain pairs rest)
    (hround : m.round q = .ok round)
    (hrest : MatchResult.playAll ms (round.after q) = .ok final)
    {s : Member Stored} (hs : s ∈ rest)
    (hlone : m.isLone (q.unmatchedStored.map (·.transaction)) (view s) =
      true) :
    m.isLone (pairs.map (·.2) ++ rest) (view s) = true := by
  obtain ⟨c, hc, hone⟩ := isLone_iff.1 hlone
  have hpos : 0 < m.tagCount rest c := tagCount_pos_iff.2 ⟨s, hs, hc⟩
  have hrestCount := h.tagCount_rest_le m c
  have hround' := (Party.stored.left_subperm hrest).countP_le
    fun s => decide (m.tag (view s) = some c)
  have hsum := tagCount_perm (m := m) (round_stored_perm hround) c
  have hsum' :=
    tagCount_perm (m := m) (MatchResult.added_stored_perm hrest) c
  rw [tagCount_append] at hsum hsum'
  have hnone : m.tagCount (pairs.map (·.2)) c = 0 := by
    by_contra hne
    obtain ⟨_, hmem, hpc⟩ := tagCount_pos_iff.1 (Nat.pos_of_ne_zero hne)
    obtain ⟨p, hp, rfl⟩ := List.mem_map.1 hmem
    by_cases hagrees : m.Agrees p
    · exact hapart m hm p hp s hs
        (sharesKey_iff.2 ⟨c, hagrees.trans hpc, hc⟩)
    · -- the double is joined later, so it is another one of the tag
      obtain ⟨x, hx, -, hstored⟩ :=
        h.joined_later hm hround hrest hp hagrees
      have hadded := tagCount_pos_iff.2 ⟨x.stored,
        List.mem_map_of_mem (f := (·.stored)) hx,
        (tag_eq_of_record hstored).trans hpc⟩
      omega
  refine isLone_iff.2 ⟨c, hc, ?_⟩
  rw [tagCount_append, hnone]
  omega

/-- When the first run judges a record of the rest peerless, the run over the
pairs does so too, or it was so from the start. -/
theorem rest_peerless {q' final' : MatchResult}
    (h : Traced chain pairs rest q final) (hdoubled : Doubled pairs rest q')
    (hms : ms ⊆ chain) (hfalls : FallsBack pairs ms)
    (hapart : Apart chain pairs rest)
    (hplayed : MatchResult.playAll ms q = .ok final)
    (hplayed' : MatchResult.playAll ms q' = .ok final')
    {s : Member Stored} (hs : s ∈ rest)
    (hjudged : ∃ u ∈ final.unmatchedStored, u.transaction.record = s.record ∧
      u.reason = .peerless) :
    (∃ u ∈ q.unmatchedStored, u.transaction.record = s.record ∧
      u.reason = .peerless) ∨
      ∀ u ∈ final'.unmatchedStored, u.transaction = s →
      u.reason = .peerless := by
  -- both runs go along; it is the first round to call the record peerless that
  -- decides
  induction ms generalizing q q' pairs with
  | nil =>
    obtain rfl := pure_eq_ok_iff.1 hplayed
    exact Or.inl hjudged
  | cons m ms ih =>
    obtain ⟨hm, hms⟩ := List.cons_subset.1 hms
    unfold MatchResult.playAll at hplayed hplayed'
    rw [List.foldlM_cons] at hplayed hplayed'
    obtain ⟨next, hstep, hrest⟩ := bind_eq_ok_iff.1 hplayed
    obtain ⟨next', hstep', hrest'⟩ := bind_eq_ok_iff.1 hplayed'
    obtain ⟨halike, hnext, hfalls'⟩ := h.link hm hfalls hstep hrest
    have hlater := ih hnext (hdoubled.link halike hstep').1 hms hfalls'
      (hapart.sublist List.filter_sublist.subset) hrest hrest'
    rcases hlater with ⟨u, hu, ht, hr⟩ | hall
    case inr => exact Or.inr hall
    split at hstep
    case isFalse =>
      obtain rfl := Except.ok.inj hstep
      exact Or.inl ⟨u, hu, ht, hr⟩
    obtain ⟨round, hround, rfl⟩ := MatchResult.apply_eq_ok_iff.1 hstep
    obtain ⟨_, _, hside⟩ := Party.stored.side hround
    rcases hside.peerless_of_reason hu hr with hnew | hold
    case inr => exact Or.inl ⟨u, hold, ht, hr⟩
    -- the record is alone in this round of one run, and so it is among the
    -- pairs and the rest
    right
    have hlone := (hside.lone_of_mem_peerless (List.mem_map_of_mem hnew)).1
    rw [show view u.transaction = view u.transaction.record from rfl,
      ht] at hlone
    have hlone' := h.lone_of_mem_rest hm hapart hround hrest hs hlone
    have hnext : ∀ u ∈ next'.unmatchedStored, u.transaction = s →
        u.reason = .peerless := by
      obtain ⟨u', hu', -⟩ :=
        List.mem_map.1
          (hdoubled.stored.mem_iff.2 (List.mem_append_right _ hs))
      rw [if_pos (Party.stored.hasUnmatched hu')] at hstep'
      obtain ⟨round', hround', rfl⟩ := MatchResult.apply_eq_ok_iff.1 hstep'
      obtain ⟨_, _, hside'⟩ := Party.stored.side hround'
      rw [isLone_perm hdoubled.stored.symm] at hlone'
      exact fun u hu ht => hside'.reason_of_lone hlone' hu ht
    exact Party.stored.reason_of_peerless hnext hrest'

end Traced

end LedgerSync.Matching
