import LedgerSync.Matching.Chain
import LedgerSync.Proofs.Matching.Groups
import LedgerSync.Proofs.Run

/-!
# Rounds lose nothing

A round splits each side by the usability and the multiplicity of its keys
(`Side`). What is paired off and what is left of a side are together what was
unmatched before (`round_reported_perm`, `round_stored_perm`). A chain is a fold
of rounds (`MatchResult.playAll`, `playAll_of_links`), so its last result holds
every transaction of both sides once, paired or unmatched. What the run of a
chain returns does not depend on its journal (`links_of_reconcile`,
`reconcile_of_links`).
-/

namespace LedgerSync.Matching

open Run

/-! ## Verdicts -/

theorem Unmatched.make_eq_ok {α : Type} {matcher : String} {t : α}
    {attributes : Key} {reason : Reason} {u : Unmatched α}
    (h : make matcher t attributes reason = .ok u) :
    u = ⟨matcher, t, attributes, reason⟩ := by
  unfold make at h
  split at h
  · cases h
  · cases h
    rfl

namespace Matcher

variable {α : Type} {m : Matcher} {k : Keyed α} {reason : Reason}
  {u : Unmatched α}

theorem verdict_spec (h : m.verdict k reason = .ok u) :
    u.transaction = k.entry.transaction ∧ u.reason = reason := by
  rw [Unmatched.make_eq_ok h]
  exact ⟨rfl, rfl⟩

/-- A verdict is that of the round, or the one that was carried over. -/
theorem carry_spec (h : m.carry k reason = .ok u) :
    u.transaction = k.entry.transaction ∧
    (u.reason = reason ∨ u = k.entry) := by
  unfold carry at h
  split at h
  · obtain ⟨ht, hr⟩ := verdict_spec h
    exact ⟨ht, Or.inl hr⟩
  · cases h
    exact ⟨rfl, Or.inr rfl⟩

/-- The transactions of a list of verdicts. -/
theorem transactions_of_mapM {f : Keyed α → Except Failure (Unmatched α)}
    {ks : List (Keyed α)} {us : List (Unmatched α)}
    (hf : ∀ k u, f k = .ok u → u.transaction = k.entry.transaction)
    (h : ks.mapM f = .ok us) :
    us.map (·.transaction) = ks.map (·.entry.transaction) := by
  rw [mapM_eq_ok_iff] at h
  induction h with
  | nil => rfl
  | cons hu _ ih => rw [List.map_cons, List.map_cons, ih, hf _ _ hu]

/-- Every verdict of a list was given for an element. -/
theorem mem_of_mapM {f : Keyed α → Except Failure (Unmatched α)}
    {ks : List (Keyed α)} {us : List (Unmatched α)} (h : ks.mapM f = .ok us)
    (hu : u ∈ us) : ∃ k ∈ ks, f k = .ok u := by
  rw [mapM_eq_ok_iff] at h
  induction h with
  | nil => cases hu
  | cons hk _ ih =>
    rcases List.mem_cons.1 hu with rfl | hu
    · exact ⟨_, List.mem_cons_self, hk⟩
    · obtain ⟨k, hmem, hk⟩ := ih hu
      exact ⟨k, List.mem_cons_of_mem _ hmem, hk⟩

/-! ## One side of a round -/

section Side

variable [Viewable α]

theorem isSet_of_keyOf {v : View} {key : Key} {usable : Bool}
    (h : m.keyOf v = .ok (key, usable)) :
    key.IsSet := by
  unfold keyOf at h
  obtain ⟨results, -, h⟩ := bind_eq_ok_iff.1 h
  obtain ⟨usable', -, h⟩ := bind_eq_ok_iff.1 h
  cases h
  exact Key.isSet_ofList _

/-- What a split says of its parts: usable entries have their key, and the
others were rejected. -/
theorem splitUsable_spec {entries rejected : List (Unmatched α)}
    {keyed : List (Keyed α)}
    (h : m.splitUsable entries = .ok (keyed, rejected)) :
    (keyed.map (·.entry.transaction) ++ rejected.map (·.transaction)).Perm
      (entries.map (·.transaction)) ∧
    (∀ k ∈ keyed, k.entry ∈ entries ∧
      m.keyOf (view k.entry.transaction) = .ok (k.key, true)) ∧
    ∀ u ∈ rejected, ∃ e ∈ entries, ∃ key, m.keyOf (view e.transaction) =
      .ok (key, false) ∧ m.carry ⟨e, key⟩ .rejected = .ok u := by
  induction entries generalizing keyed rejected with
  | nil =>
    cases h
    exact ⟨.refl _, fun _ hk => absurd hk List.not_mem_nil,
      fun _ hu => absurd hu List.not_mem_nil⟩
  | cons e entries ih =>
    rw [splitUsable] at h
    obtain ⟨⟨key, usable⟩, hkey, h⟩ := bind_eq_ok_iff.1 h
    cases usable with
    | true =>
      obtain ⟨⟨keyed', rejected'⟩, hrest, h⟩ := bind_eq_ok_iff.1 h
      cases h
      obtain ⟨hperm, hkeyed, hrejected⟩ := ih hrest
      refine ⟨hperm.cons e.transaction, ?_, ?_⟩
      · intro k hk
        rcases List.mem_cons.1 hk with rfl | hk
        · exact ⟨List.mem_cons_self, hkey⟩
        · exact ⟨List.mem_cons_of_mem _ (hkeyed k hk).1, (hkeyed k hk).2⟩
      · intro u hu
        obtain ⟨e', he', hspec⟩ := hrejected u hu
        exact ⟨e', List.mem_cons_of_mem _ he', hspec⟩
    | false =>
      obtain ⟨verdict, hverdict, h⟩ := bind_eq_ok_iff.1 h
      obtain ⟨⟨keyed', rejected'⟩, hrest, h⟩ := bind_eq_ok_iff.1 h
      cases h
      obtain ⟨hperm, hkeyed, hrejected⟩ := ih hrest
      refine ⟨?_, ?_, ?_⟩
      · rw [List.map_cons, (carry_spec hverdict).1]
        exact List.perm_middle.trans (hperm.cons e.transaction)
      · intro k hk
        exact ⟨List.mem_cons_of_mem _ (hkeyed k hk).1, (hkeyed k hk).2⟩
      · intro u hu
        rcases List.mem_cons.1 hu with rfl | hu
        · exact ⟨e, List.mem_cons_self, key, hkey, hverdict⟩
        · obtain ⟨e', he', hspec⟩ := hrejected u hu
          exact ⟨e', List.mem_cons_of_mem _ he', hspec⟩

/-- One side of a round: the entries with usable keys, and the verdicts on what
is not paired. A unique key is paired when it is found on the other side. -/
structure Side (m : Matcher) (entries : List (Unmatched α)) (found : Key → Bool)
    (keyed : List (Keyed α))
    (peerless rejected duplicate : List (Unmatched α)) : Prop where
  split : m.splitUsable entries = .ok (keyed, rejected)
  duplicate : (repeated keyed).mapM (m.carry · .duplicate) = .ok duplicate
  peerless : ((uniques keyed).filter fun k => !found k.key).mapM
    (m.verdict · .peerless) = .ok peerless

namespace Side

variable {entries peerless rejected duplicate : List (Unmatched α)}
  {keyed : List (Keyed α)} {found : Key → Bool}

theorem haveSets (h : Side m entries found keyed peerless rejected duplicate) :
    HaveSets keyed :=
  fun k hk => isSet_of_keyOf ((splitUsable_spec h.split).2.1 k hk).2

/-- What is paired and what is left is what was there. -/
theorem transactions_perm
    (h : Side m entries found keyed peerless rejected duplicate) :
    (((uniques keyed).filter fun k => found k.key).map (·.entry.transaction) ++
      (peerless ++ rejected ++ duplicate).map (·.transaction)).Perm
      (entries.map (·.transaction)) := by
  have hpeerless := transactions_of_mapM (fun _ _ hu => (verdict_spec hu).1)
      h.peerless
  have hduplicate :=
    transactions_of_mapM (fun _ _ hu => (carry_spec hu).1) h.duplicate
  have huniques : (((uniques keyed).filter fun k => found k.key).map
      (·.entry.transaction) ++
      peerless.map (·.transaction)).Perm
        ((uniques keyed).map (·.entry.transaction)) := by
    rw [hpeerless, ← List.map_append]
    exact (List.filter_append_perm (fun k : Keyed α => found k.key) _).map _
  have hkeyed : ((uniques keyed).map (·.entry.transaction) ++
      duplicate.map (·.transaction)).Perm
        (keyed.map (·.entry.transaction)) := by
    rw [hduplicate, ← List.map_append]
    exact (uniques_append_repeated_perm h.haveSets).map _
  -- the rejected ones stand between the two parts of the keyed ones, so they
  -- are moved to the end
  refine List.Perm.trans ?_ (splitUsable_spec h.split).1
  rw [List.map_append, List.map_append, List.append_assoc, ← List.append_assoc]
  refine (huniques.append_right _).trans ?_
  refine List.Perm.trans ?_ (hkeyed.append_right _)
  rw [List.append_assoc]
  exact List.perm_append_comm.append_left _

/-- A peerless transaction has a unique key that was not found on the other
side. -/
theorem mem_peerless
    (h : Side m entries found keyed peerless rejected duplicate)
    (hu : u ∈ peerless) : ∃ k ∈ uniques keyed, found k.key = false ∧
      u.transaction = k.entry.transaction ∧ m.keyOf (view u.transaction) =
        .ok (k.key, true) := by
  obtain ⟨k, hk, hverdict⟩ := mem_of_mapM h.peerless hu
  obtain ⟨hunique, hfound⟩ := List.mem_filter.1 hk
  have ht := (verdict_spec hverdict).1
  have hkey := ((splitUsable_spec h.split).2.1 k
      ((uniques_sublist keyed).subset hunique)).2
  exact ⟨k, hunique, by simpa using hfound, ht, by rw [ht]; exact hkey⟩

/-- A rejected transaction has an unusable key. -/
theorem mem_rejected
    (h : Side m entries found keyed peerless rejected duplicate)
    (hu : u ∈ rejected) :
    ∃ key, m.keyOf (view u.transaction) = .ok (key, false) := by
  obtain ⟨e, -, key, hkey, hcarry⟩ := (splitUsable_spec h.split).2.2 u hu
  exact ⟨key, by rw [(carry_spec hcarry).1]; exact hkey⟩

/-- A duplicate has a repeated key. -/
theorem mem_duplicate
    (h : Side m entries found keyed peerless rejected duplicate)
    (hu : u ∈ duplicate) : ∃ k ∈ repeated keyed,
      u.transaction = k.entry.transaction ∧ m.keyOf (view u.transaction) =
        .ok (k.key, true) := by
  obtain ⟨k, hk, hcarry⟩ := mem_of_mapM h.duplicate hu
  have ht := (carry_spec hcarry).1
  have hmem := (group_of_mem_repeated h.haveSets hk).1
  exact ⟨k, hk, ht, by rw [ht]; exact ((splitUsable_spec h.split).2.1 k hmem).2⟩

/-- A transaction that is left with the verdict peerless got it in this round or
had it before. -/
theorem peerless_of_reason
    (h : Side m entries found keyed peerless rejected duplicate)
    (hu : u ∈ peerless ++ rejected ++ duplicate)
    (hreason : u.reason = .peerless) :
    u ∈ peerless ∨ u ∈ entries := by
  rcases List.mem_append.1 hu with hu | hu
  · rcases List.mem_append.1 hu with hu | hu
    · exact Or.inl hu
    · obtain ⟨e, he, key, -, hcarry⟩ := (splitUsable_spec h.split).2.2 u hu
      rcases (carry_spec hcarry).2 with hr | rfl
      · rw [hr] at hreason
        cases hreason
      · exact Or.inr he
  · obtain ⟨k, hk, hcarry⟩ := mem_of_mapM h.duplicate hu
    rcases (carry_spec hcarry).2 with hr | rfl
    · rw [hr] at hreason
      cases hreason
    · have hmem := (group_of_mem_repeated h.haveSets hk).1
      exact Or.inr ((splitUsable_spec h.split).2.1 k hmem).1

end Side

end Side

/-! ## Both sides of a round -/

/-- A round with the entries of both sides that have usable keys. -/
structure Sides (m : Matcher) (previous : MatchResult) (r : Round)
    (reported : List (Keyed (Member Reported)))
    (stored : List (Keyed (Member Stored))) : Prop where
  reportedSide : Side m previous.unmatchedReported (fun key =>
    (find? (uniques stored) key).isSome)
    reported r.reportedPeerless r.reportedRejected r.reportedDuplicate
  storedSide : Side m previous.unmatchedStored (fun key =>
    (find? (uniques reported) key).isSome)
    stored r.storedPeerless r.storedRejected r.storedDuplicate
  matched : r.matched = (uniques reported).filterMap fun k =>
    (find? (uniques stored) k.key).map fun s =>
      ⟨m.name, k.entry.transaction, s.entry.transaction, k.key⟩

theorem round_sides {previous : MatchResult} {r : Round}
    (h : m.round previous = .ok r) :
    ∃ reported stored, Sides m previous r reported stored := by
  unfold round at h
  obtain ⟨⟨reported, reportedRejected⟩, hreported, h⟩ := bind_eq_ok_iff.1 h
  obtain ⟨⟨stored, storedRejected⟩, hstored, h⟩ := bind_eq_ok_iff.1 h
  obtain ⟨reportedDuplicate, hreportedDuplicate, h⟩ := bind_eq_ok_iff.1 h
  obtain ⟨storedDuplicate, hstoredDuplicate, h⟩ := bind_eq_ok_iff.1 h
  obtain ⟨reportedPeerless, hreportedPeerless, h⟩ := bind_eq_ok_iff.1 h
  obtain ⟨storedPeerless, hstoredPeerless, h⟩ := bind_eq_ok_iff.1 h
  obtain rfl := pure_eq_ok_iff.1 h
  simp only [← Option.not_isSome] at hreportedPeerless hstoredPeerless
  exact ⟨reported, stored, ⟨hreported, hreportedDuplicate, hreportedPeerless⟩,
    ⟨hstored, hstoredDuplicate, hstoredPeerless⟩, rfl⟩

namespace Sides

variable {previous : MatchResult} {r : Round}
  {reported : List (Keyed (Member Reported))}
  {stored : List (Keyed (Member Stored))}

/-- The two sides of a round make the round. -/
theorem round_eq (h : Sides m previous r reported stored) :
    m.round previous = .ok r := by
  have hreported := h.reportedSide.peerless
  have hstored := h.storedSide.peerless
  simp only [Option.not_isSome] at hreported hstored
  unfold round
  refine bind_eq_ok_iff.2 ⟨_, h.reportedSide.split,
    bind_eq_ok_iff.2 ⟨_, h.storedSide.split, ?_⟩⟩
  refine bind_eq_ok_iff.2 ⟨_, h.reportedSide.duplicate, ?_⟩
  refine bind_eq_ok_iff.2 ⟨_, h.storedSide.duplicate, ?_⟩
  refine bind_eq_ok_iff.2 ⟨_, hreported, bind_eq_ok_iff.2 ⟨_, hstored, ?_⟩⟩
  rw [← h.matched]
  rfl

theorem matched_reported (h : Sides m previous r reported stored) :
    r.matched.map (·.reported) =
      ((uniques reported).filter fun k =>
        (find? (uniques stored) k.key).isSome).map
        (·.entry.transaction) := by
  rw [h.matched]
  induction uniques reported with
  | nil => rfl
  | cons k ks ih =>
    rw [List.filterMap_cons, List.filter_cons]
    cases find? (uniques stored) k.key with
    | none => exact ih
    | some s => exact congrArg (List.cons k.entry.transaction) ih

theorem matched_stored (h : Sides m previous r reported stored) :
    r.matched.map (·.stored) =
      ((uniques reported).filterMap fun k => find? (uniques stored) k.key).map
        (·.entry.transaction) := by
  rw [h.matched, List.map_filterMap, List.map_filterMap]
  congr 1
  funext k
  rw [Option.map_map]
  rfl

/-- The stored transactions that are paired are those whose key is found on the
other side. -/
theorem matched_stored_perm (h : Sides m previous r reported stored) :
    (r.matched.map (·.stored)).Perm
      (((uniques stored).filter fun k =>
        (find? (uniques reported) k.key).isSome).map
        (·.entry.transaction)) := by
  have hreportedSets := h.reportedSide.haveSets
  have hstoredSets := h.storedSide.haveSets
  rw [h.matched_stored]
  refine List.Perm.map _ ?_
  exact filterMap_find?_perm (hreportedSets.sublist (uniques_sublist _))
    (hstoredSets.sublist (uniques_sublist _))
      (uniques_cores_nodup hreportedSets)
    (uniques_cores_nodup hstoredSets)

end Sides

/-- What a round pairs off and what it leaves of the reported side is what was
unmatched before. -/
theorem round_reported_perm {previous : MatchResult} {r : Round}
    (h : m.round previous = .ok r) :
    (r.matched.map (·.reported) ++ (r.after previous).unmatchedReported.map
      (·.transaction)).Perm
      (previous.unmatchedReported.map (·.transaction)) := by
  obtain ⟨reported, stored, hsides⟩ := round_sides h
  rw [hsides.matched_reported]
  exact hsides.reportedSide.transactions_perm

/-- What a round pairs off and what it leaves of the stored side is what was
unmatched before. -/
theorem round_stored_perm {previous : MatchResult} {r : Round}
    (h : m.round previous = .ok r) :
    (r.matched.map (·.stored) ++ (r.after previous).unmatchedStored.map
      (·.transaction)).Perm
      (previous.unmatchedStored.map (·.transaction)) := by
  obtain ⟨reported, stored, hsides⟩ := round_sides h
  exact (hsides.matched_stored_perm.append_right _).trans
    hsides.storedSide.transactions_perm

/-- A round holds as many transactions as the result before it. -/
theorem count_after {previous : MatchResult} {r : Round}
    (h : m.round previous = .ok r) :
    (r.after previous).count = previous.count := by
  have hreported := (round_reported_perm h).length_eq
  have hstored := (round_stored_perm h).length_eq
  simp only [List.length_append, List.length_map] at hreported hstored
  show (previous.matched ++ r.matched).length * 2 +
    previous.multiMatched.length +
    (previous.multiMatched.flatMap (·.stored)).length +
    (r.after previous).unmatchedReported.length +
    (r.after previous).unmatchedStored.length = _
  rw [List.length_append, MatchResult.count]
  omega

end Matcher

/-! ## Chains of rounds -/

namespace MatchResult

/-- The result after the rounds of some matchers; a round is skipped when
nothing is left. -/
def playAll (matchers : List Matcher) (r : MatchResult) :
    Except Failure MatchResult :=
  matchers.foldlM (fun r m => if r.hasUnmatched then m.apply r else .ok r) r

variable {m : Matcher} {ms ms' : List Matcher} {r r' : MatchResult}

/-- Before the first round, the reported transactions are all unmatched. -/
theorem start_reported (reported : List (Member Reported))
    (stored : List (Member Stored)) :
    (start reported stored).unmatchedReported.map
    (·.transaction) = reported := by
  simp [start, Unmatched.untouched, Function.comp_def]

/-- Before the first round, the stored transactions are all unmatched. -/
theorem start_stored (reported : List (Member Reported))
    (stored : List (Member Stored)) :
    (start reported stored).unmatchedStored.map (·.transaction) = stored := by
  simp [start, Unmatched.untouched, Function.comp_def]

theorem playAll_append : playAll (ms ++ ms') r = playAll ms r >>= playAll ms' :=
  List.foldlM_append

theorem apply_eq_ok_iff : m.apply r = .ok r' ↔ ∃ round, m.round r = .ok round ∧
    r' = round.after r := by
  unfold Matcher.apply
  rw [bind_eq_ok_iff]
  simp only [pure_eq_ok_iff]

/-- A property that rounds keep is kept by a chain. -/
theorem playAll_induction (h : playAll ms r = .ok r')
    (motive : MatchResult → Prop) (hr : motive r)
    (hround : ∀ (m : Matcher) (q : MatchResult) (round : Matcher.Round),
    motive q → m.round q = .ok round → motive (round.after q)) : motive r' := by
  refine foldlM_ok_induction h (fun _ => motive) hr ?_
  intro _ m q q' hq hstep
  split at hstep
  · obtain ⟨round, hplayed, rfl⟩ := apply_eq_ok_iff.1 hstep
    exact hround m q round hq hplayed
  · cases hstep
    exact hq

/-- A round pairs or leaves every reported transaction. -/
theorem after_reported_perm {round : Matcher.Round}
    (h : m.round r = .ok round) :
    ((round.after r).matched.map (·.reported) ++
      (round.after r).unmatchedReported.map (·.transaction)).Perm
      (r.matched.map (·.reported) ++ r.unmatchedReported.map
        (·.transaction)) := by
  show ((r.matched ++ round.matched).map (·.reported) ++ _).Perm _
  rw [List.map_append, List.append_assoc]
  exact (Matcher.round_reported_perm h).append_left _

/-- A round pairs or leaves every stored transaction. -/
theorem after_stored_perm {round : Matcher.Round} (h : m.round r = .ok round) :
    ((round.after r).matched.map (·.stored) ++
      (round.after r).unmatchedStored.map (·.transaction)).Perm
      (r.matched.map (·.stored) ++ r.unmatchedStored.map (·.transaction)) := by
  show ((r.matched ++ round.matched).map (·.stored) ++ _).Perm _
  rw [List.map_append, List.append_assoc]
  exact (Matcher.round_stored_perm h).append_left _

/-- Every reported transaction is paired or unmatched at the end of a chain. -/
theorem playAll_reported_perm (h : playAll ms r = .ok r') :
    (r'.matched.map (·.reported) ++ r'.unmatchedReported.map
      (·.transaction)).Perm
      (r.matched.map (·.reported) ++ r.unmatchedReported.map
        (·.transaction)) := by
  refine playAll_induction h (fun q =>
    (q.matched.map (·.reported) ++ q.unmatchedReported.map (·.transaction)).Perm
      (r.matched.map (·.reported) ++ r.unmatchedReported.map (·.transaction)))
        (.refl _) ?_
  exact fun m q round hq hround => (after_reported_perm hround).trans hq

/-- Every stored transaction is paired or unmatched at the end of a chain. -/
theorem playAll_stored_perm (h : playAll ms r = .ok r') :
    (r'.matched.map (·.stored) ++ r'.unmatchedStored.map (·.transaction)).Perm
      (r.matched.map (·.stored) ++ r.unmatchedStored.map (·.transaction)) := by
  refine playAll_induction h (fun q =>
    (q.matched.map (·.stored) ++ q.unmatchedStored.map (·.transaction)).Perm
      (r.matched.map (·.stored) ++ r.unmatchedStored.map (·.transaction)))
        (.refl _) ?_
  exact fun m q round hq hround => (after_stored_perm hround).trans hq

section Start

variable {reported : List (Member Reported)} {stored : List (Member Stored)}

/-- A chain pairs or leaves every reported transaction it starts with. -/
theorem playAll_start_reported_perm
    (h : playAll ms (.start reported stored) = .ok r') :
    (r'.matched.map (·.reported) ++ r'.unmatchedReported.map
      (·.transaction)).Perm reported := by
  have hperm := playAll_reported_perm h
  rwa [start_reported] at hperm

/-- A chain pairs or leaves every stored transaction it starts with. -/
theorem playAll_start_stored_perm
    (h : playAll ms (.start reported stored) = .ok r') :
    (r'.matched.map (·.stored) ++ r'.unmatchedStored.map (·.transaction)).Perm
      stored := by
  have hperm := playAll_stored_perm h
  rwa [start_stored] at hperm

end Start

end MatchResult

/-- One more link of a chain, apart from what it logs. -/
def link (results : MatchResults) (m : Matcher) : Except Failure MatchResults :=
  if results.last.hasUnmatched then do
    results.append (← m.apply results.last) (some m.name)
  else .ok results

section Links

variable {results results' : MatchResults} {m : Matcher} {ms : List Matcher}
  {provider : Provider} {reported : List (Member Reported)}
  {stored : List (Member Stored)} {j j' : Journal}

/-- A link adds the result of a round where something is unmatched, which is
never refused because no round gains or loses a transaction. -/
theorem link_eq_ok_iff : link results m = .ok results' ↔
    (results.last.hasUnmatched = true ∧ ∃ round, m.round results.last =
      .ok round ∧ results' = ⟨results.toList, round.after results.last⟩) ∨
    (results.last.hasUnmatched = false ∧ results' = results) := by
  have happend : ∀ round, m.round results.last = .ok round →
      results.append (round.after results.last) (some m.name) =
        .ok ⟨results.toList, round.after results.last⟩ := by
    intro round hround
    unfold MatchResults.append
    rw [if_pos (Matcher.count_after hround)]
    rfl
  unfold link
  cases hunmatched : results.last.hasUnmatched with
  | false =>
    rw [if_neg Bool.false_ne_true, Except.ok.injEq]
    simp [eq_comm]
  | true =>
    rw [if_pos rfl]
    constructor
    · intro h
      obtain ⟨q, hq, h⟩ := bind_eq_ok_iff.1 h
      obtain ⟨round, hround, rfl⟩ := MatchResult.apply_eq_ok_iff.1 hq
      rw [happend round hround] at h
      exact Or.inl ⟨rfl, round, hround, (Except.ok.inj h).symm⟩
    · rintro (⟨-, round, hround, rfl⟩ | ⟨hfalse, -⟩)
      · exact bind_eq_ok_iff.2
          ⟨_, MatchResult.apply_eq_ok_iff.2 ⟨round, hround, rfl⟩,
            happend round hround⟩
      · cases hfalse

/-- A link ends in the result of its round. -/
theorem link_last (h : link results m = .ok results') :
    (if results.last.hasUnmatched then m.apply results.last else .ok
      results.last) = .ok results'.last := by
  rcases link_eq_ok_iff.1 h with ⟨hunmatched, round, hround,
    rfl⟩ | ⟨hmatched, rfl⟩
  · rw [if_pos hunmatched]
    exact MatchResult.apply_eq_ok_iff.2 ⟨round, hround, rfl⟩
  · rw [hmatched, if_neg Bool.false_ne_true]

/-- A round that comes to an end is that of a run. -/
theorem Matcher.returns_run {q : MatchResult} {round : Matcher.Round}
    (h : m.round q = .ok round) (j : Journal) :
    Returns (m.run q) j (round.after q)
      { j with records := j.records ++ [⟨.debug, .matchers, m.summary round⟩] } :=
  returns_bind.2 ⟨round, j, returns_ofExcept.2 ⟨h, rfl⟩,
    returns_bind.2 ⟨(), _, log_returns _ _ _ j, returns_pure.2 ⟨rfl, rfl⟩⟩⟩

/-- A link of a run is a link, and draws no ids. -/
theorem link_of_returns (h : Returns (extend results m) j results' j') :
    link results m = .ok results' ∧ j'.drawn = j.drawn := by
  unfold extend at h
  unfold link
  split at h
  · next hunmatched =>
    simp only [Matcher.run, returns_bind, returns_ofExcept, returns_log,
      returns_pure] at h
    obtain ⟨q, _, ⟨round, _, ⟨hround, rfl⟩, _, _, rfl, rfl, rfl⟩,
      happend, rfl⟩ := h
    rw [if_pos hunmatched]
    exact ⟨bind_eq_ok_iff.2 ⟨_, MatchResult.apply_eq_ok_iff.2 ⟨round, hround,
      rfl⟩, happend⟩, rfl⟩
  · next hmatched =>
    simp only [returns_bind, returns_log, returns_pure] at h
    obtain ⟨_, _, rfl, rfl, rfl⟩ := h
    rw [if_neg hmatched]
    exact ⟨rfl, rfl⟩

/-- Every link is that of a run. -/
theorem returns_of_link (h : link results m = .ok results') (j : Journal) :
    ∃ j', Returns (extend results m) j results' j' := by
  unfold link at h
  unfold extend
  split at h
  · next hunmatched =>
    obtain ⟨q, hq, happend⟩ := bind_eq_ok_iff.1 h
    obtain ⟨round, hround, rfl⟩ := MatchResult.apply_eq_ok_iff.1 hq
    rw [if_pos hunmatched]
    exact ⟨_, returns_bind.2
      ⟨_, _, Matcher.returns_run hround j, returns_ofExcept.2 ⟨happend, rfl⟩⟩⟩
  · next hmatched =>
    obtain rfl := Except.ok.inj h
    rw [if_neg hmatched]
    exact ⟨_, returns_bind.2 ⟨(), _, log_returns _ _ _ j,
      returns_pure.2 ⟨rfl, rfl⟩⟩⟩

/-- The chain of a provider over booked transactions, apart from what it
logs. -/
def Provider.links (provider : Provider) (reported : List (Member Reported))
    (stored : List (Member Stored)) : Except Failure MatchResults := do
  requireBooked .reported reported
  requireBooked .stored stored
  provider.matchers.foldlM link (.of (.start reported stored))

/-- The run of a chain gives the results of its links, and draws no ids. -/
theorem links_of_reconcile
    (h : Returns (provider.reconcile reported stored) j results j') :
    provider.links reported stored = .ok results ∧ j'.drawn = j.drawn := by
  simp only [Provider.reconcile, returns_bind, returns_ofExcept] at h
  obtain ⟨_, k, ⟨hreported, hk⟩, _, k', ⟨hstored, hk'⟩, h⟩ := h
  rw [hk', hk] at h
  have hlinks : provider.matchers.foldlM link (.of (.start reported stored)) =
      .ok results ∧ j'.drawn = j.drawn := by
    refine foldlM_returns_induction h (fun ms results k =>
      ms.foldlM link (.of (.start reported stored)) = .ok results ∧
        k.drawn = j.drawn)
      ⟨rfl, rfl⟩ ?_
    rintro ms m results k results' k' ⟨hms, hk⟩ hextend
    obtain ⟨hlink, hdrawn⟩ := link_of_returns hextend
    refine ⟨?_, hdrawn.trans hk⟩
    rw [List.foldlM_append, hms]
    show [m].foldlM link results = _
    rw [List.foldlM_cons, hlink]
    rfl
  exact ⟨bind_eq_ok_iff.2 ⟨_, hreported,
    bind_eq_ok_iff.2 ⟨_, hstored, hlinks.1⟩⟩, hlinks.2⟩

/-- The links of a chain are those of its run. -/
theorem reconcile_of_links (h : provider.links reported stored = .ok results)
    (j : Journal) :
    ∃ j', Returns (provider.reconcile reported stored) j results j' := by
  obtain ⟨_, hreported, h⟩ := bind_eq_ok_iff.1 h
  obtain ⟨_, hstored, h⟩ := bind_eq_ok_iff.1 h
  have hrun : ∀ (ms : List Matcher) (start : MatchResults) (j : Journal),
      ms.foldlM link start = .ok results →
      ∃ j', Returns (ms.foldlM extend start) j results j' := by
    intro ms
    induction ms with
    | nil =>
      intro start j h
      exact ⟨j, returns_pure.2 ⟨pure_eq_ok_iff.1 h, rfl⟩⟩
    | cons m ms ih =>
      intro start j h
      rw [List.foldlM_cons] at h
      obtain ⟨next, hlink, hrest⟩ := bind_eq_ok_iff.1 h
      obtain ⟨j₁, hextend⟩ := returns_of_link hlink j
      obtain ⟨j', hreturns⟩ := ih next j₁ hrest
      rw [List.foldlM_cons]
      exact ⟨j', returns_bind.2 ⟨next, j₁, hextend, hreturns⟩⟩
  obtain ⟨j', hreturns⟩ := hrun provider.matchers _ j h
  refine ⟨j', ?_⟩
  unfold Provider.reconcile
  simp only [returns_bind, returns_ofExcept]
  exact ⟨(), j, ⟨hreported, rfl⟩, (), j, ⟨hstored, rfl⟩, hreturns⟩

/-- The last result of a provider's chain is that of the rounds of its
matchers. -/
theorem playAll_of_links (h : provider.links reported stored = .ok results) :
    MatchResult.playAll provider.matchers (.start reported stored) =
      .ok results.last := by
  obtain ⟨_, -, h⟩ := bind_eq_ok_iff.1 h
  obtain ⟨_, -, h⟩ := bind_eq_ok_iff.1 h
  refine foldlM_ok_induction h (fun ms results =>
    MatchResult.playAll ms (.start reported stored) = .ok results.last) rfl ?_
  intro ms m results results' hms hlink
  rw [MatchResult.playAll_append, hms]
  show MatchResult.playAll [m] results.last = _
  unfold MatchResult.playAll
  rw [List.foldlM_cons, link_last hlink]
  rfl

/-- The last result of the run of a chain is that of the rounds of its
matchers. -/
theorem playAll_of_reconcile
    (h : Returns (provider.reconcile reported stored) j results j') :
    MatchResult.playAll provider.matchers (.start reported stored) =
      .ok results.last :=
  playAll_of_links (links_of_reconcile h).1

end Links

end LedgerSync.Matching
