import LedgerSync.Proofs.Matching.Completion

/-!
# Matching does not depend on the order of a side

Which key a transaction has, whether the key is unique on its side and whether
it is found on the other one are questions about the sides as multisets. So a
round over reordered sides gives the same pairs and verdicts in another order
(`Matcher.round_reorders`), and so does every round after it: the results of two
chains over reordered sides are reorderings of each other, result by result
(`Provider.links_reorders`).
-/

namespace LedgerSync.Matching

open Run

/-- Two results are alike but for the order of their entries. -/
structure MatchResult.Reorders (r r' : MatchResult) : Prop where
  matched : r.matched.Perm r'.matched
  multiMatched : r.multiMatched.Perm r'.multiMatched
  unmatchedReported : r.unmatchedReported.Perm r'.unmatchedReported
  unmatchedStored : r.unmatchedStored.Perm r'.unmatchedStored

/-- Two chains are alike, result by result, but for the order of entries. -/
structure MatchResults.Reorders (c c' : MatchResults) : Prop where
  earlier : List.Forall₂ MatchResult.Reorders c.earlier c'.earlier
  last : c.last.Reorders c'.last

namespace Matcher

variable {m : Matcher}

/-! ## Splitting a side -/

section Split

variable {α : Type} [Viewable α]
  {entries entries' rejected rejected' : List (Unmatched α)}
  {keyed keyed' : List (Keyed α)}

/-- What becomes of one entry when its side is split: it has a usable key, or it
is rejected. -/
def judge (m : Matcher) (entry : Unmatched α) :
    Except Failure (Keyed α ⊕ Unmatched α) := do
  let (key, usable) ← m.keyOf (view entry.transaction)
  if usable then return .inl ⟨entry, key⟩
  else return .inr (← m.carry ⟨entry, key⟩ .rejected)

/-- Splitting a side judges its entries one by one. -/
theorem splitUsable_eq_ok_iff : m.splitUsable entries = .ok (keyed, rejected) ↔
    ∃ js, entries.mapM m.judge = .ok js ∧ keyed = js.filterMap Sum.getLeft? ∧
      rejected = js.filterMap Sum.getRight? := by
  induction entries generalizing keyed rejected with
  | nil =>
    constructor
    · intro h
      cases h
      exact ⟨[], rfl, rfl, rfl⟩
    · rintro ⟨js, hjs, rfl, rfl⟩
      obtain rfl := pure_eq_ok_iff.1 hjs
      rfl
  | cons e entries ih =>
    rw [splitUsable, List.mapM_cons]
    constructor
    · intro h
      obtain ⟨⟨key, usable⟩, hkey, h⟩ := bind_eq_ok_iff.1 h
      cases usable with
      | true =>
        obtain ⟨⟨keyed, rejected⟩, hrest, h⟩ := bind_eq_ok_iff.1 h
        obtain ⟨js, hjs, rfl, rfl⟩ := ih.1 hrest
        cases h
        refine ⟨.inl ⟨e, key⟩ :: js, bind_eq_ok_iff.2 ⟨.inl ⟨e, key⟩, ?_, ?_⟩,
          rfl, rfl⟩
        · exact bind_eq_ok_iff.2 ⟨_, hkey, rfl⟩
        · exact bind_eq_ok_iff.2 ⟨_, hjs, rfl⟩
      | false =>
        obtain ⟨u, hu, h⟩ := bind_eq_ok_iff.1 h
        obtain ⟨⟨keyed, rejected⟩, hrest, h⟩ := bind_eq_ok_iff.1 h
        obtain ⟨js, hjs, rfl, rfl⟩ := ih.1 hrest
        cases h
        refine ⟨.inr u :: js, bind_eq_ok_iff.2 ⟨.inr u, ?_, ?_⟩, rfl, rfl⟩
        · exact bind_eq_ok_iff.2 ⟨_, hkey, bind_eq_ok_iff.2 ⟨u, hu, rfl⟩⟩
        · exact bind_eq_ok_iff.2 ⟨_, hjs, rfl⟩
    · rintro ⟨js, h, rfl, rfl⟩
      obtain ⟨j, hj, h⟩ := bind_eq_ok_iff.1 h
      obtain ⟨js, hjs, h⟩ := bind_eq_ok_iff.1 h
      cases h
      have hrest := ih.2 ⟨js, hjs, rfl, rfl⟩
      obtain ⟨⟨key, usable⟩, hkey, hj⟩ := bind_eq_ok_iff.1 hj
      refine bind_eq_ok_iff.2 ⟨_, hkey, ?_⟩
      cases usable with
      | true =>
        cases hj
        exact bind_eq_ok_iff.2 ⟨_, hrest, rfl⟩
      | false =>
        obtain ⟨u, hu, hj⟩ := bind_eq_ok_iff.1 hj
        cases hj
        exact bind_eq_ok_iff.2 ⟨u, hu, bind_eq_ok_iff.2 ⟨_, hrest, rfl⟩⟩

theorem splitUsable_perm (hperm : entries.Perm entries')
    (h : m.splitUsable entries = .ok (keyed, rejected)) :
    ∃ keyed' rejected', m.splitUsable entries' = .ok (keyed', rejected') ∧
    keyed.Perm keyed' ∧ rejected.Perm rejected' := by
  obtain ⟨js, hjs, rfl, rfl⟩ := splitUsable_eq_ok_iff.1 h
  obtain ⟨js', hjs', hjudged⟩ := mapM_perm hperm hjs
  exact ⟨_, _, splitUsable_eq_ok_iff.2 ⟨js', hjs', rfl, rfl⟩,
    hjudged.filterMap _, hjudged.filterMap _⟩

/-- One side of a round after its entries were split in another order, when the
same keys are found. -/
theorem Side.reorders {found : Key → Bool} (found' : Key → Bool)
    {peerless duplicate : List (Unmatched α)}
    (h : Side m entries found keyed peerless rejected duplicate)
    (hsplit : m.splitUsable entries' = .ok (keyed', rejected'))
    (hkeyed : keyed.Perm keyed')
    (hfound : ∀ k ∈ keyed, found k.key = found' k.key) :
    ∃ peerless' duplicate', Side m entries' found' keyed' peerless' rejected'
      duplicate' ∧ peerless.Perm peerless' ∧ duplicate.Perm duplicate' := by
  obtain ⟨duplicate', hduplicate, hduplicatePerm⟩ :=
    mapM_perm (repeated_perm h.haveSets hkeyed) h.duplicate
  have hleft : ((uniques keyed).filter fun k => !found k.key).Perm
      ((uniques keyed').filter fun k => !found' k.key) := by
    have hsame : ((uniques keyed).filter fun k => !found k.key) =
        (uniques keyed).filter fun k => !found' k.key :=
      List.filter_congr fun k hk => by
        rw [hfound k ((uniques_sublist keyed).subset hk)]
    rw [hsame]
    exact (uniques_perm h.haveSets hkeyed).filter _
  obtain ⟨peerless', hpeerless, hpeerlessPerm⟩ := mapM_perm hleft h.peerless
  exact ⟨peerless', duplicate', ⟨hsplit, hduplicate, hpeerless⟩, hpeerlessPerm,
    hduplicatePerm⟩

end Split

/-! ## One round -/

/-- A round over reordered sides comes to an end when the round over the sides
does, and its result differs in order alone. -/
theorem round_reorders {previous previous' : MatchResult} {r : Round}
    (hprevious : previous.Reorders previous') (h : m.round previous = .ok r) :
    ∃ r', m.round previous' = .ok r' ∧
    (r.after previous).Reorders (r'.after previous') := by
  obtain ⟨reported, stored, hsides⟩ := round_sides h
  have hreportedSets := hsides.reportedSide.haveSets
  have hstoredSets := hsides.storedSide.haveSets
  obtain ⟨reported', reportedRejected, hsplitReported, hreported,
    hreportedRejected⟩ :=
    splitUsable_perm hprevious.unmatchedReported hsides.reportedSide.split
  obtain ⟨stored', storedRejected, hsplitStored, hstored, hstoredRejected⟩ :=
    splitUsable_perm hprevious.unmatchedStored hsides.storedSide.split
  obtain ⟨reportedPeerless, reportedDuplicate, hreportedSide, hreportedPeerless,
      hreportedDuplicate⟩ := hsides.reportedSide.reorders
    (fun key => (find? (uniques stored') key).isSome) hsplitReported hreported
    fun k hk => by
    rw [find?_uniques_perm hstoredSets hstored (hreportedSets k hk)]
  obtain ⟨storedPeerless, storedDuplicate, hstoredSide, hstoredPeerless,
      hstoredDuplicate⟩ := hsides.storedSide.reorders
    (fun key => (find? (uniques reported') key).isSome) hsplitStored hstored
    fun k hk => by
    rw [find?_uniques_perm hreportedSets hreported (hstoredSets k hk)]
  have hsides' : Sides m previous' ⟨_, reportedPeerless, reportedRejected,
      reportedDuplicate,
      storedPeerless, storedRejected, storedDuplicate⟩ reported' stored' :=
    ⟨hreportedSide, hstoredSide, rfl⟩
  refine ⟨_, hsides'.round_eq, ?_, hprevious.multiMatched, ?_, ?_⟩
  · refine hprevious.matched.append ?_
    rw [hsides.matched]
    refine ((uniques_perm hreportedSets hreported).filterMap _).trans
      (List.Perm.of_eq ?_)
    refine List.filterMap_congr fun k hk => ?_
    have hset := hreportedSide.haveSets.sublist (uniques_sublist reported') k hk
    rw [find?_uniques_perm hstoredSets hstored hset]
  · exact (hreportedPeerless.append hreportedRejected).append hreportedDuplicate
  · exact (hstoredPeerless.append hstoredRejected).append hstoredDuplicate

end Matcher

/-! ## Chains -/

namespace MatchResult

variable {r r' : MatchResult}

theorem Reorders.hasUnmatched (h : r.Reorders r') :
    r.hasUnmatched = r'.hasUnmatched := by
  unfold MatchResult.hasUnmatched
  rw [h.unmatchedReported.isEmpty_eq, h.unmatchedStored.isEmpty_eq]

/-- Chains that start with reordered sides start alike. -/
theorem start_reorders {reported reported' : List (Member Reported)}
    {stored stored' : List (Member Stored)}
    (hreported : reported.Perm reported') (hstored : stored.Perm stored') :
    (start reported stored).Reorders (start reported' stored') :=
  ⟨.refl _, .refl _, hreported.map _, hstored.map _⟩

end MatchResult

section Chains

variable {c c' d : MatchResults} {m : Matcher} {ms : List Matcher}

theorem MatchResults.Reorders.toList (h : c.Reorders c') :
    List.Forall₂ MatchResult.Reorders c.toList c'.toList :=
  List.rel_append h.earlier (.cons h.last .nil)

theorem link_reorders (hc : c.Reorders c') (h : link c m = .ok d) :
    ∃ d', link c' m = .ok d' ∧ d.Reorders d' := by
  rcases link_eq_ok_iff.1 h with ⟨hunmatched, round, hround,
    rfl⟩ | ⟨hmatched, rfl⟩
  · obtain ⟨round', hround', hafter⟩ := Matcher.round_reorders hc.last hround
    rw [hc.last.hasUnmatched] at hunmatched
    exact ⟨_, link_eq_ok_iff.2 (Or.inl ⟨hunmatched, round', hround', rfl⟩),
      hc.toList, hafter⟩
  · rw [hc.last.hasUnmatched] at hmatched
    exact ⟨c', link_eq_ok_iff.2 (Or.inr ⟨hmatched, rfl⟩), hc⟩

/-- The links of a chain keep two chains alike. -/
theorem foldlM_link_reorders (hc : c.Reorders c')
    (h : ms.foldlM link c = .ok d) :
    ∃ d', ms.foldlM link c' = .ok d' ∧ d.Reorders d' := by
  induction ms generalizing c c' with
  | nil =>
    obtain rfl := pure_eq_ok_iff.1 h
    exact ⟨c', rfl, hc⟩
  | cons m ms ih =>
    rw [List.foldlM_cons] at h
    obtain ⟨next, hlink, hrest⟩ := bind_eq_ok_iff.1 h
    obtain ⟨next', hlink', hnext⟩ := link_reorders hc hlink
    obtain ⟨d', hrest', hd⟩ := ih hnext hrest
    refine ⟨d', ?_, hd⟩
    rw [List.foldlM_cons]
    exact bind_eq_ok_iff.2 ⟨next', hlink', hrest'⟩

theorem requireBooked_perm {α : Type} [Viewable α] {side : LedgerSync.Side}
    {ts ts' : List α} (h : ts.Perm ts') :
    requireBooked side ts = requireBooked side ts' := by
  unfold requireBooked
  rw [h.all_eq]

variable {provider : Provider} {reported reported' : List (Member Reported)}
  {stored stored' : List (Member Stored)}

/-- The chain of a provider over reordered sides comes to an end when the chain
over the sides does, and its results differ in order alone. -/
theorem Provider.links_reorders (hreported : reported.Perm reported')
    (hstored : stored.Perm stored')
    (h : provider.links reported stored = .ok c) :
    ∃ c', provider.links reported' stored' = .ok c' ∧ c.Reorders c' := by
  obtain ⟨_, hbooked, h⟩ := bind_eq_ok_iff.1 h
  obtain ⟨_, hbooked', h⟩ := bind_eq_ok_iff.1 h
  rw [requireBooked_perm hreported] at hbooked
  rw [requireBooked_perm hstored] at hbooked'
  have hstart : (MatchResults.of (.start reported stored)).Reorders
      (.of (.start reported' stored')) :=
        ⟨.nil, MatchResult.start_reorders hreported hstored⟩
  obtain ⟨c', hc', hreorders⟩ := foldlM_link_reorders hstart h
  exact ⟨c', bind_eq_ok_iff.2 ⟨_, hbooked, bind_eq_ok_iff.2 ⟨_, hbooked', hc'⟩⟩,
    hreorders⟩

end Chains

/-! ## Reports -/

/-- The report on a chain is written when that on the chain over reordered sides
is. -/
theorem MatchResults.Reorders.logText {c c' : MatchResults} (h : c.Reorders c')
    {provider : String} {account : Option Uuid} {window : Window}
    {reported reported' : List (Member Reported)}
    {stored stored' : List (Member Stored)}
    (htext : ∃ text, c.logText provider account window reported stored =
      .ok text) :
    ∃ text, c'.logText provider account window reported' stored' =
      .ok text := by
  rw [logText_returns_iff] at htext ⊢
  have hlater := List.forall₂_drop 1 h.toList
  rw [List.drop_one, List.drop_one] at hlater
  intro q' hq' u hu
  obtain ⟨q, hq, hreorders⟩ := exists_of_forall₂_right hlater hq'
  exact htext q hq u (hreorders.unmatchedReported.mem_iff.2 hu)

end LedgerSync.Matching
