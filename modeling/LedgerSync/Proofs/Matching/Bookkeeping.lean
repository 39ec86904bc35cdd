import LedgerSync.Proofs.Matching.Joining

/-!
# What a chain remembers of its verdicts

A transaction that no round pairs is judged by every round, and the entry that
is left of it holds one of these verdicts: the heaviest, and of several that
weigh as much the latest (`Party.Latest`). A round keeps that
(`Party.latest_after`), because an entry is replaced exactly when the verdict of
the round weighs no less. So the reason of a transaction never gets lighter
along the results of a chain, and the entries of the last result name the rounds
that a reader should look at (`reconcile_keeps_books`).
-/

namespace LedgerSync.Matching

open Run

/-! ## The rounds of a run -/

/-- The rounds that lead from a result to the results of a chain, with their
matchers. -/
inductive Played (start : MatchResult) :
    List (Matcher × Matcher.Round) → MatchResults → Prop
  | start : Played start [] (.of start)
  | next {rounds results m round} : Played start rounds results →
      results.last.hasUnmatched = true → m.round results.last = .ok round →
      Played start (rounds ++ [(m, round)])
        ⟨results.toList, round.after results.last⟩

namespace Played

variable {start : MatchResult} {rounds : List (Matcher × Matcher.Round)}
  {results : MatchResults} {ms : List Matcher}

/-- The links of a chain play rounds of its first matchers, and of all of them
while something is unmatched. -/
theorem of_links (h : ms.foldlM link (.of start) = .ok results) :
    ∃ rounds, Played start rounds results ∧ rounds.map (·.1) <+: ms ∧
      (results.last.hasUnmatched = true → rounds.map (·.1) = ms) := by
  refine foldlM_ok_induction h (fun ms results => ∃ rounds,
    Played start rounds results ∧
    rounds.map (·.1) <+: ms ∧
      (results.last.hasUnmatched = true → rounds.map (·.1) = ms))
    ⟨[], .start, List.nil_prefix, fun _ => rfl⟩ ?_
  rintro ms m results results' ⟨rounds, hplayed, hprefix, hall⟩ hlink
  rcases link_eq_ok_iff.1 hlink with ⟨hunmatched, round, hround,
    rfl⟩ | ⟨hmatched, rfl⟩
  · have hplays : (rounds ++ [(m, round)]).map (·.1) = ms ++ [m] := by
      rw [List.map_append, hall hunmatched]
      rfl
    exact ⟨rounds ++ [(m, round)], hplayed.next hunmatched hround,
      ⟨[], (List.append_nil _).trans hplays⟩, fun _ => hplays⟩
  · refine ⟨rounds, hplayed, hprefix.trans (List.prefix_append ms [m]),
      fun hunmatched => ?_⟩
    rw [hmatched] at hunmatched
    cases hunmatched

/-- Pairs are never undone. -/
theorem matched_prefix (h : Played start rounds results) :
    results.toList.Pairwise fun q q' => q.matched <+: q'.matched := by
  suffices hall : (results.toList.Pairwise fun q q' =>
      q.matched <+: q'.matched) ∧
      ∀ q ∈ results.toList, q.matched <+: results.last.matched from hall.1
  induction h with
  | start => exact ⟨List.pairwise_singleton _ _, fun q hq => by
      obtain rfl := List.mem_singleton.1 hq
      exact List.prefix_rfl⟩
  | @next rounds results m round _ _ _ ih =>
    have hnew : ∀ q ∈ results.toList, q.matched <+: results.last.matched ++
        round.matched :=
      fun q hq => (ih.2 q hq).trans (List.prefix_append _ _)
    refine ⟨List.pairwise_append.2 ⟨ih.1, List.pairwise_singleton _ _,
      fun q hq q' hq' => ?_⟩, fun q hq => ?_⟩
    · rw [List.mem_singleton.1 hq']
      exact hnew q hq
    · rcases List.mem_append.1 hq with hq | hq
      · exact hnew q hq
      · obtain rfl := List.mem_singleton.1 hq
        exact List.prefix_rfl

end Played

namespace Party

variable {α : Type} [Viewable α] (p : Party α) {m : Matcher}
  {previous : MatchResult} {round : Matcher.Round}
  {rounds : List (Matcher × Matcher.Round)} {results : MatchResults}
  {u : Unmatched α} {t : α} {reason reason' : Reason}

/-- A round judges a transaction so, whether or not an entry of that transaction
keeps a heavier verdict of an earlier round. -/
def Says (round : Matcher.Round) (reason : Reason) (t : α) : Prop :=
  reason ≠ .unprocessed ∧ t ∈ (p.verdicts round reason).map (·.transaction)

/-- The entry is that of a round whose verdict on the transaction is the
heaviest of all rounds, and heavier than those of later rounds. -/
def Latest (rounds : List (Matcher × Matcher.Round)) (u : Unmatched α) : Prop :=
  ∃ before m round after, rounds = before ++ (m, round) :: after ∧
    p.Says round u.reason u.transaction ∧ u.matcher = m.name ∧
    (∃ usable, m.keyOf (view u.transaction) = .ok (u.attributes, usable)) ∧
    (∀ x ∈ rounds, ∀ reason, p.Says x.2 reason u.transaction →
      reason.weight ≤ u.reason.weight) ∧
    ∀ x ∈ after, ∀ reason, p.Says x.2 reason u.transaction →
    reason.weight < u.reason.weight

/-- Along the results the reasons of a transaction get no lighter, and the last
result has the entries of the latest heaviest verdicts. -/
structure KeepsBooks (rounds : List (Matcher × Matcher.Round))
    (results : MatchResults) : Prop where
  weights : results.toList.Pairwise fun q q' => ∀ u ∈ p.left q,
    ∀ u' ∈ p.left q',
    u.transaction = u'.transaction → u.reason.weight ≤ u'.reason.weight
  latest : ∀ u ∈ p.left results.last, p.Latest rounds u

/-- What a round leaves is what its verdict leaves of an entry. -/
theorem exists_leaves (h : m.round previous = .ok round)
    (hu : u ∈ p.left (round.after previous)) :
    ∃ reason, reason ≠ .unprocessed ∧ u ∈ p.verdicts round reason ∧
      ∃ e ∈ p.left previous, m.Leaves reason e u := by
  obtain ⟨_, _, hside⟩ := p.side h
  have hspec := Matcher.splitUsable_spec hside.split
  rw [p.left_after] at hu
  rcases List.mem_append.1 hu with hu | hu
  · rcases List.mem_append.1 hu with hu | hu
    · obtain ⟨k, hk, hverdict⟩ := Matcher.mem_of_mapM hside.peerless hu
      have hmem := hspec.2.1 k
          ((Matcher.uniques_sublist _).subset (List.mem_of_mem_filter hk))
      exact ⟨.peerless, Reason.noConfusion, hu, k.entry, hmem.1,
        Matcher.leaves_of_verdict hmem.2 hverdict⟩
    · obtain ⟨e, he, key, hkey, hcarry⟩ := hspec.2.2 u hu
      exact ⟨.rejected, Reason.noConfusion, hu, e, he,
        Matcher.leaves_of_carry (k := ⟨e, key⟩) hkey hcarry⟩
  · obtain ⟨k, hk, hcarry⟩ := Matcher.mem_of_mapM hside.duplicate hu
    have hmem := hspec.2.1 k (Matcher.repeated_subset hside.haveSets hk)
    exact ⟨.duplicate, Reason.noConfusion, hu, k.entry, hmem.1,
      Matcher.leaves_of_carry hmem.2 hcarry⟩

/-- A round has one verdict on a transaction. -/
theorem says_unique (h : m.round previous = .ok round)
    (htold : p.Says round reason t) (htold' : p.Says round reason' t) :
    reason = reason' := by
  obtain ⟨_, _, hside⟩ := p.side h
  have husable : ∀ {reason}, p.Says round reason t → reason ≠ .rejected →
      ∃ key, m.keyOf (view t) = .ok (key, true) := by
    rintro reason ⟨hprocessed, ht⟩ hne
    obtain ⟨u, hu, rfl⟩ := List.mem_map.1 ht
    cases reason with
    | unprocessed => exact (hprocessed rfl).elim
    | rejected => exact (hne rfl).elim
    | duplicate =>
      obtain ⟨k, -, -, hkey⟩ := hside.mem_duplicate hu
      exact ⟨k.key, hkey⟩
    | peerless =>
      obtain ⟨k, -, -, -, hkey⟩ := hside.mem_peerless hu
      exact ⟨k.key, hkey⟩
  have hrejected : ∀ {reason}, p.Says round .rejected t →
      p.Says round reason t → reason = .rejected := by
    rintro reason ⟨-, ht⟩ htold
    obtain ⟨u, hu, rfl⟩ := List.mem_map.1 ht
    by_contra hne
    obtain ⟨key, hkey⟩ := hside.mem_rejected hu
    obtain ⟨key', hkey'⟩ := husable htold hne
    rw [hkey] at hkey'
    cases hkey'
  have hdisjoint : p.Says round .peerless t → ¬ p.Says round .duplicate t :=
    fun h h' => hside.peerless_duplicate_disjoint h.2 h'.2
  cases reason with
  | unprocessed => exact (htold.1 rfl).elim
  | rejected => exact (hrejected htold htold').symm
  | duplicate =>
    cases reason' with
    | unprocessed => exact (htold'.1 rfl).elim
    | rejected => exact hrejected htold' htold
    | duplicate => rfl
    | peerless => exact (hdisjoint htold' htold).elim
  | peerless =>
    cases reason' with
    | unprocessed => exact (htold'.1 rfl).elim
    | rejected => exact hrejected htold' htold
    | duplicate => exact (hdisjoint htold htold').elim
    | peerless => rfl

/-- A round keeps the heaviest verdict, and its own where none was heavier. -/
theorem latest_after (h : m.round previous = .ok round)
    (hprevious : ∀ e ∈ p.left previous,
      (rounds = [] ∧ e.reason = .unprocessed) ∨ p.Latest rounds e)
    (hu : u ∈ p.left (round.after previous)) :
      p.Latest (rounds ++ [(m, round)]) u := by
  obtain ⟨reason, hprocessed, hverdict, e, he, key, usable, hkey, heq⟩ :=
    p.exists_leaves h hu
  have htransaction : u.transaction = e.transaction := by
    rw [heq]
    split <;> rfl
  have htold : p.Says round reason e.transaction :=
    ⟨hprocessed, htransaction ▸ List.mem_map_of_mem hverdict⟩
  -- what earlier rounds said weighs no more than what the entry held
  have hearlier : ∀ x ∈ rounds, ∀ reason, p.Says x.2 reason e.transaction →
      reason.weight ≤ e.reason.weight := by
    rcases hprevious e he with ⟨rfl, -⟩ | ⟨_, _, _, _, -, -, -, -, hheaviest, -⟩
    · exact fun x hx => absurd hx List.not_mem_nil
    · exact hheaviest
  split at heq
  · next hlight =>
    have hle : e.reason.weight ≤ reason.weight := of_decide_eq_true hlight
    subst heq
    refine ⟨rounds, m, round, [], rfl, htold, rfl, ⟨usable, hkey⟩, ?_, ?_⟩
    · intro x hx reason' htold'
      rcases List.mem_append.1 hx with hx | hx
      · exact (hearlier x hx reason' htold').trans hle
      · obtain rfl := List.mem_singleton.1 hx
        rw [p.says_unique h htold' htold]
    · exact fun x hx => absurd hx List.not_mem_nil
  · next hheavy =>
    subst heq
    have hlt : reason.weight < u.reason.weight := by
      rw [Reason.atMost, decide_eq_true_iff] at hheavy
      exact Nat.lt_of_not_le hheavy
    have hnew : ∀ reason', p.Says round reason' u.transaction →
        reason'.weight < u.reason.weight := by
      intro reason' htold'
      rw [p.says_unique h htold' htold]
      exact hlt
    rcases hprevious u he with ⟨-, hunprocessed⟩ | ⟨before, m', round', after,
      rfl, hlatest⟩
    · rw [hunprocessed] at hlt
      exact absurd hlt (Nat.not_lt_zero _)
    obtain ⟨hsaid, hname, hattributes, hheaviest, hlater⟩ := hlatest
    refine ⟨before, m', round',
      after ++ [(m, round)], by rw [List.append_assoc]; rfl, hsaid, hname,
      hattributes, ?_, ?_⟩
    · intro x hx reason' htold'
      rcases List.mem_append.1 hx with hx | hx
      · exact hheaviest x hx reason' htold'
      · obtain rfl := List.mem_singleton.1 hx
        exact Nat.le_of_lt (hnew reason' htold')
    · intro x hx reason' htold'
      rcases List.mem_append.1 hx with hx | hx
      · exact hlater x hx reason' htold'
      · obtain rfl := List.mem_singleton.1 hx
        exact hnew reason' htold'

/-- What a result leaves was not judged yet, or is what some round said. -/
def Judged (rounds : List (Matcher × Matcher.Round)) (q : MatchResult) : Prop :=
  ∀ u ∈ p.left q, u.reason = .unprocessed ∨ ∃ x ∈ rounds,
    p.Says x.2 u.reason u.transaction

/-- Rounds keep the books of what no matcher had looked at. -/
theorem keepsBooks_of_played {start : MatchResult}
    (h : Played start rounds results)
    (hstart : ∀ u ∈ p.left start, u.reason = .unprocessed) :
    (results.toList.Pairwise fun q q' => ∀ u ∈ p.left q, ∀ u' ∈ p.left q',
      u.transaction = u'.transaction → u.reason.weight ≤ u'.reason.weight) ∧
    (∀ q ∈ results.toList, p.Judged rounds q) ∧
    ∀ u ∈ p.left results.last, (rounds = [] ∧ u.reason = .unprocessed) ∨
    p.Latest rounds u := by
  induction h with
  | start =>
    refine ⟨List.pairwise_singleton _ _, fun q hq u hu => ?_, fun u hu =>
      Or.inl ⟨rfl, hstart u hu⟩⟩
    obtain rfl := List.mem_singleton.1 hq
    exact Or.inl (hstart u hu)
  | @next rounds results m round _ _ hround ih =>
    obtain ⟨hweights, hjudged, hlast⟩ := ih
    have hlatest : ∀ u ∈ p.left (round.after results.last),
        p.Latest (rounds ++ [(m, round)]) u :=
      fun u hu => p.latest_after hround hlast hu
    refine ⟨List.pairwise_append.2 ⟨hweights, List.pairwise_singleton _ _, ?_⟩,
      ?_, fun u hu => Or.inr (hlatest u hu)⟩
    · intro q hq q' hq' u hu u' hu' heq
      obtain rfl := List.mem_singleton.1 hq'
      obtain ⟨_, _, _, _, -, -, -, -, hheaviest, -⟩ := hlatest u' hu'
      rcases hjudged q hq u hu with hunprocessed | ⟨x, hx, htold⟩
      · rw [hunprocessed]
        exact Nat.zero_le _
      · exact hheaviest x (List.mem_append_left _ hx) u.reason (heq ▸ htold)
    · intro q hq u hu
      rcases List.mem_append.1 hq with hq | hq
      · rcases hjudged q hq u hu with hunprocessed | ⟨x, hx, htold⟩
        · exact Or.inl hunprocessed
        · exact Or.inr ⟨x, List.mem_append_left _ hx, htold⟩
      · obtain rfl := List.mem_singleton.1 hq
        obtain ⟨before, m', round', after, heq, htold, -⟩ := hlatest u hu
        exact Or.inr ⟨(m', round'),
          heq ▸ List.mem_append_right _ List.mem_cons_self, htold⟩

end Party

/-- Nothing is processed before the first round. -/
theorem unprocessed_of_untouched {α : Type} (ts : List α) :
    ∀ u ∈ ts.map Unmatched.untouched, u.reason = .unprocessed := by
  intro u hu
  obtain ⟨t, -, rfl⟩ := List.mem_map.1 hu
  rfl

/-- The chain of a provider over booked transactions whose attributes can be
extracted runs to its end. Its results are those of rounds of the first
matchers, or of all of them if something is left. Pairs are never undone,
reasons get no lighter, and what is left in the end holds the matcher, the key
and the reason of the latest among the heaviest verdicts on it. -/
theorem reconcile_keeps_books (provider : Provider)
    (reported : List (Member Reported)) (stored : List (Member Stored))
    (j : Journal) (hne : provider.matchers ≠ [])
    (hbooked : ∀ t ∈ reported, t.record.status = .booked)
    (hbooked' : ∀ t ∈ stored, t.record.status = .booked)
    (hreported : ∀ m ∈ provider.matchers, ∀ t ∈ reported, m.Extracts (view t))
    (hstored : ∀ m ∈ provider.matchers, ∀ t ∈ stored, m.Extracts (view t)) :
    ∃ results j' rounds, Returns (provider.reconcile reported stored) j
      results j' ∧ Played (.start reported stored) rounds results ∧
      rounds.map (·.1) <+: provider.matchers ∧
      (results.last.hasUnmatched = true →
        rounds.map (·.1) = provider.matchers) ∧
      (results.toList.Pairwise fun q q' => q.matched <+: q'.matched) ∧
      Party.reported.KeepsBooks rounds results ∧
      Party.stored.KeepsBooks rounds results := by
  obtain ⟨results, j', hreturns⟩ :=
    reconcile_total j hbooked hbooked' hreported hstored
  obtain ⟨_, -, hlinks⟩ := bind_eq_ok_iff.1 (links_of_reconcile hreturns).1
  obtain ⟨_, -, hlinks⟩ := bind_eq_ok_iff.1 hlinks
  obtain ⟨rounds, hplayed, hprefix, hall⟩ := Played.of_links hlinks
  -- where something is left every matcher has played, and there is one
  have hplayedAll : results.last.hasUnmatched = true → rounds ≠ [] := by
    rintro hunmatched rfl
    exact hne (hall hunmatched).symm
  have hreportedBooks :=
    Party.reported.keepsBooks_of_played hplayed
    (unprocessed_of_untouched reported)
  have hstoredBooks :=
    Party.stored.keepsBooks_of_played hplayed (unprocessed_of_untouched stored)
  refine ⟨results, j', rounds, hreturns, hplayed, hprefix, hall,
    hplayed.matched_prefix,
    ⟨hreportedBooks.1, fun u hu => ?_⟩, hstoredBooks.1, fun u hu => ?_⟩
  · refine (hreportedBooks.2.2 u hu).resolve_left fun hnone => ?_
    exact hplayedAll (Party.reported.hasUnmatched hu) hnone.1
  · refine (hstoredBooks.2.2 u hu).resolve_left fun hnone => ?_
    exact hplayedAll (Party.stored.hasUnmatched hu) hnone.1

theorem mixedBatch_books :
    Sample.fallback.matchers ≠ [] ∧
    (∀ t ∈ Sample.mixedBatch, t.record.status = .booked) ∧
    (∀ t ∈ Sample.mixedRows, t.record.status = .booked) ∧
    (∀ m ∈ Sample.fallback.matchers, ∀ t ∈ Sample.mixedBatch, m.Extracts
      (view t)) ∧
    (∀ m ∈ Sample.fallback.matchers, ∀ t ∈ Sample.mixedRows, m.Extracts
      (view t)) ∧ ∃ results j' rounds,
      Returns (Sample.fallback.reconcile Sample.mixedBatch Sample.mixedRows)
        .empty results j' ∧
      Played (.start Sample.mixedBatch Sample.mixedRows) rounds results ∧
      rounds.map (·.1) <+: Sample.fallback.matchers ∧
      (results.last.hasUnmatched = true →
        rounds.map (·.1) = Sample.fallback.matchers) ∧
      (results.toList.Pairwise fun q q' => q.matched <+: q'.matched) ∧
      Party.reported.KeepsBooks rounds results ∧
      Party.stored.KeepsBooks rounds results :=
  ⟨by decide, by decide +kernel, by decide +kernel, by decide +kernel, by decide +kernel,
    reconcile_keeps_books Sample.fallback Sample.mixedBatch Sample.mixedRows
      .empty (by decide)
      (by decide +kernel) (by decide +kernel) (by decide +kernel)
        (by decide +kernel)⟩

end LedgerSync.Matching
