import LedgerSync.Matching.Provider
import LedgerSync.Proofs.Matching.Doubles

/-!
# Transactions and their partners

Where every reported transaction has a tag of its own, and every stored one has
the tag of a reported one, its partner, the round of the matcher pairs each
stored transaction with its partner (`Partners.matched_perm`). It leaves nothing
on the stored side, so the rounds after it pair nothing more, and what it leaves
on the reported side is peerless for good (`Partners.playAll`).

The strict matcher gives such tags where external ids are distinct and not blank
(`externalId_eq_of_strictTag`).
-/

namespace LedgerSync.Matching

open Run Matcher

variable {m : Matcher} {ms : List Matcher} {reported : List (Member Reported)}
  {pairs : List (Member Reported × Member Stored)} {q final : MatchResult}
  {round : Matcher.Round}

/-- A chain has nothing to pair when nothing is left on the stored side. -/
theorem MatchResult.matched_of_no_stored (h : playAll ms q = .ok final)
    (hq : q.unmatchedStored = []) :
    final.unmatchedStored = [] ∧ final.matched = q.matched := by
  refine playAll_induction h (fun q' => q'.unmatchedStored = [] ∧
    q'.matched = q.matched)
    ⟨hq, rfl⟩ ?_
  rintro m q' round ⟨hnone, hmatched⟩ hround
  have hperm := Matcher.round_stored_perm hround
  rw [hnone] at hperm
  obtain ⟨hpaired, hleft⟩ := List.append_eq_nil_iff.1 (List.perm_nil.1 hperm)
  refine ⟨List.map_eq_nil_iff.1 hleft, ?_⟩
  show q'.matched ++ round.matched = q.matched
  rw [List.map_eq_nil_iff.1 hpaired, List.append_nil, hmatched]

/-- A tag occurs once where no two transactions have the same. -/
theorem Matcher.tagCount_eq_one {α : Type} [Viewable α] {ts : List α}
    (h : (ts.map fun t => m.tag (view t)).Nodup) {t : α} (ht : t ∈ ts) {c : Tag}
    (hc : m.tag (view t) = some c) : m.tagCount ts c = 1 := by
  have hmem : some c ∈ ts.map fun t => m.tag (view t) :=
    List.mem_map.2 ⟨t, ht, hc⟩
  have hcount := List.count_eq_one_of_mem h hmem
  rw [List.count, List.countP_map] at hcount
  rw [← hcount, tagCount]
  exact List.countP_congr fun t _ => by simp

/-- Every reported transaction has a tag of its own, and the stored ones have
the tags of their partners. -/
structure Matcher.Partners (m : Matcher) (reported : List (Member Reported))
    (pairs : List (Member Reported × Member Stored)) : Prop where
  nonempty : reported ≠ []
  tagged : ∀ t ∈ reported, ∃ c, m.tag (view t) = some c
  distinct : (reported.map fun t => m.tag (view t)).Nodup
  distinct_stored : (pairs.map fun p => m.tag (view p.2)).Nodup
  mem : ∀ p ∈ pairs, p.1 ∈ reported
  alike : m.Alike pairs

namespace Matcher.Partners

/-- The round of the matcher pairs the stored transactions with their
partners. -/
theorem matched_perm (h : m.Partners reported pairs)
    (hround : m.round (.start reported (pairs.map (·.2))) = .ok round) :
    (round.matched.map (·.pair)).Perm pairs := by
  obtain ⟨_, _, hsides⟩ := Matcher.round_sides hround
  rw [List.perm_ext_iff_of_nodup hsides.pairs_nodup
    (.of_map _ h.distinct_stored)]
  rintro ⟨t, s⟩
  rw [hsides.mem_pairs_iff, MatchResult.start_reported,
    MatchResult.start_stored]
  constructor
  · rintro ⟨c, ⟨ht, htag, hcount⟩, hs, hstag, -⟩
    obtain ⟨p, hp, rfl⟩ := List.mem_map.1 hs
    -- the partner has the tag of the stored transaction, and only one reported
    -- one has it
    have hpartner : p.1 = t := eq_of_tagCount_eq_one hcount (h.mem p hp)
      ((h.alike p hp).trans hstag) ht htag
    exact hpartner ▸ hp
  · intro hp
    obtain ⟨c, hc⟩ := h.tagged t (h.mem _ hp)
    have hstag : m.tag (view s) = some c := (h.alike _ hp).symm.trans hc
    have hs : s ∈ pairs.map (·.2) := List.mem_map_of_mem hp
    refine ⟨c, ⟨h.mem _ hp, hc, tagCount_eq_one h.distinct (h.mem _ hp) hc⟩, hs,
      hstag, ?_⟩
    refine tagCount_eq_one ?_ hs hstag
    rw [List.map_map]
    exact h.distinct_stored

/-- The round leaves nothing on the stored side. -/
theorem after_stored (h : m.Partners reported pairs)
    (hround : m.round (.start reported (pairs.map (·.2))) = .ok round) :
    (round.after (.start reported (pairs.map (·.2)))).unmatchedStored = [] := by
  have hpairs := (h.matched_perm hround).length_eq
  have hstored := (Matcher.round_stored_perm hround).length_eq
  rw [MatchResult.start_stored] at hstored
  simp only [List.length_append, List.length_map] at hpairs hstored
  exact List.eq_nil_of_length_eq_zero (by omega)

/-- What the round leaves on the reported side is peerless. -/
theorem after_reported (h : m.Partners reported pairs)
    (hround : m.round (.start reported (pairs.map (·.2))) = .ok round) :
    ∀ u ∈ (round.after (.start reported (pairs.map (·.2)))).unmatchedReported,
      u.reason = .peerless := by
  intro u hu
  obtain ⟨_, _, hsides⟩ := Matcher.round_sides hround
  have hleft := (Matcher.round_reported_perm hround).subset
    (List.mem_append_right _ (List.mem_map_of_mem hu))
  rw [MatchResult.start_reported] at hleft
  obtain ⟨c, hc⟩ := h.tagged _ hleft
  refine hsides.reportedSide.reason_of_lone (isLone_iff.2 ⟨c, hc, ?_⟩) hu rfl
  rw [MatchResult.start_reported]
  exact tagCount_eq_one h.distinct hleft hc

/-- A chain that begins with the matcher plays its round first. -/
theorem playAll_cons_iff (h : m.Partners reported pairs) :
    MatchResult.playAll (m :: ms) (.start reported (pairs.map (·.2))) =
      .ok final ↔
      ∃ round, m.round (.start reported (pairs.map (·.2))) = .ok round ∧
        MatchResult.playAll ms
          (round.after (.start reported (pairs.map (·.2)))) = .ok final := by
  have hunmatched : (MatchResult.start reported
      (pairs.map (·.2))).hasUnmatched = true := by
    obtain ⟨t, ts, rfl⟩ := List.exists_cons_of_ne_nil h.nonempty
    rfl
  unfold MatchResult.playAll
  rw [List.foldlM_cons, if_pos hunmatched, bind_eq_ok_iff]
  simp only [MatchResult.apply_eq_ok_iff]
  constructor
  · rintro ⟨_, ⟨round, hround, rfl⟩, hrest⟩
    exact ⟨round, hround, hrest⟩
  · rintro ⟨round, hround, hrest⟩
    exact ⟨_, ⟨round, hround, rfl⟩, hrest⟩

/-- A chain that begins with the matcher pairs the stored transactions with
their partners, and finds all other reported ones peerless. -/
theorem playAll (h : m.Partners reported pairs)
    (hplayed : MatchResult.playAll (m :: ms)
      (.start reported (pairs.map (·.2))) = .ok final) :
    (final.matched.map (·.pair)).Perm pairs ∧ final.unmatchedStored = [] ∧
      (∀ u ∈ final.unmatchedReported, u.reason = .peerless) ∧
      (pairs.map (·.1) ++ final.unmatchedReported.map (·.transaction)).Perm
        reported := by
  obtain ⟨round, hround, hrest⟩ := h.playAll_cons_iff.1 hplayed
  obtain ⟨hnone, hmatched⟩ :=
    MatchResult.matched_of_no_stored hrest (h.after_stored hround)
  have hpairs : (final.matched.map (·.pair)).Perm pairs := by
    rw [hmatched]
    exact h.matched_perm hround
  refine ⟨hpairs, hnone, ?_, ?_⟩
  · intro u hu
    refine Party.reported.reason_of_peerless (fun v hv _ => ?_) hrest u hu rfl
    exact h.after_reported hround v hv
  · have hreported := (hpairs.map (·.1)).symm
    rw [List.map_map] at hreported
    exact (hreported.append_right _).trans
      (MatchResult.playAll_start_reported_perm hplayed)

/-- Such a chain comes to an end where its other matchers can look at the
reported transactions. -/
theorem playAll_total (h : m.Partners reported pairs)
    (hreads : ∀ m' ∈ ms, ∀ t ∈ reported, m'.Reads (view t)) :
    ∃ final, MatchResult.playAll (m :: ms) (.start reported (pairs.map (·.2))) =
      .ok final := by
  have hreported : ∀ t ∈ reported, m.Reads (view t) := by
    intro t ht
    obtain ⟨c, hc⟩ := h.tagged t ht
    obtain ⟨key, hkey, -⟩ := exists_keyOf_of_tag hc
    exact ⟨key, true, hkey⟩
  have hstored : ∀ s ∈ pairs.map (·.2), m.Reads (view s) := by
    intro s hs
    obtain ⟨p, hp, rfl⟩ := List.mem_map.1 hs
    obtain ⟨c, hc⟩ := h.tagged p.1 (h.mem p hp)
    obtain ⟨key, hkey, -⟩ := exists_keyOf_of_tag ((h.alike p hp).symm.trans hc)
    exact ⟨key, true, hkey⟩
  obtain ⟨round, hround⟩ : ∃ round,
      m.round (.start reported (pairs.map (·.2))) = .ok round := by
    refine Matcher.round_total (fun u hu => hreported _ ?_) fun u hu =>
      hstored _ ?_
    · rw [← MatchResult.start_reported reported (pairs.map (·.2))]
      exact List.mem_map_of_mem hu
    · rw [← MatchResult.start_stored reported (pairs.map (·.2))]
      exact List.mem_map_of_mem hu
  obtain ⟨final, hfinal⟩ : ∃ final,
      MatchResult.playAll ms (round.after (.start reported (pairs.map (·.2)))) =
        .ok final := by
    refine MatchResult.playAll_total (fun m' hm' t ht => hreads m' hm' t ?_)
      fun _ _ t ht => ?_
    · have hleft := (Matcher.round_reported_perm hround).subset
          (List.mem_append_right _ ht)
      rwa [MatchResult.start_reported] at hleft
    · -- only the reported side matters, because nothing is left on the other
      -- one
      rw [h.after_stored hround] at ht
      cases ht
  exact ⟨final, h.playAll_cons_iff.2 ⟨round, hround, hfinal⟩⟩

end Matcher.Partners

/-! ## The strict matcher -/

/-- What the strict matcher files a transaction under. -/
def strictTag (id : String) (cents : Int) : Tag :=
  {(Field.externalId.name, some (.inl (.text id))),
    (Field.amount.name, some (.inl (.cents cents)))}

/-- An external id that is not blank and an amount make a tag. -/
theorem tag_strict {v : View} {id : String} {n : Int}
    (hid : v.externalId = some id) (hcontent : Text.hasContent id = true)
    (hcents : v.cents = .ok n) :
    BuiltIn.externalIdAmountStrict.matcher.tag v = some (strictTag id n) := by
  have hfirst : (Selector.restricted .notBlank (.plain .externalId)).select v =
      .ok (⟨Field.externalId.name, some (.text id)⟩, true) := by
    have hextract : Field.externalId.extract v = .ok ⟨Field.externalId.name,
        some (.text id)⟩ := by
      unfold Field.extract
      rw [hid]
      rfl
    refine bind_eq_ok_iff.2 ⟨_, hextract, bind_eq_ok_iff.2 ⟨true, ?_, rfl⟩⟩
    exact if_pos hcontent
  have hsecond : (BuiltIn.present .amount).select v =
      .ok (⟨Field.amount.name, some (.cents n)⟩, true) := by
    have hextract : Field.amount.extract v = .ok ⟨Field.amount.name,
        some (.cents n)⟩ :=
      bind_eq_ok_iff.2 ⟨n, hcents, rfl⟩
    exact bind_eq_ok_iff.2 ⟨_, hextract, bind_eq_ok_iff.2 ⟨true, rfl, rfl⟩⟩
  have hresults : BuiltIn.externalIdAmountStrict.matcher.selectors.mapM
      (fun s => s.select v) =
      .ok [(⟨Field.externalId.name, some (.text id)⟩, true),
        (⟨Field.amount.name, some (.cents n)⟩, true)] :=
    mapM_eq_ok_iff.2 (.cons hfirst (.cons hsecond .nil))
  have hkey : BuiltIn.externalIdAmountStrict.matcher.keyOf v = .ok
      ([⟨Field.externalId.name, some (.text id)⟩,
        ⟨Field.amount.name, some (.cents n)⟩], true) :=
    bind_eq_ok_iff.2 ⟨_, hresults, rfl⟩
  exact Matcher.tag_of_keyOf hkey

end LedgerSync.Matching
