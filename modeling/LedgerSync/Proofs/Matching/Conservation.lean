import LedgerSync.Proofs.Matching.Completion
import LedgerSync.Proofs.Store.Records

/-!
# Rounds and chains conserve transactions

A matcher whose attributes can be extracted looks at every transaction
(`Matcher.Extracts.reads`), so its round comes to an end, and what the round
holds is what was there before, on each side (`MatchResult.conserves_after`). A
chain of such matchers over booked transactions therefore runs to its end, every
one of its results holds all transactions, and the last one has each of them in
one pair or in one verdict that a matcher gave (`MatchResult.Settles`).
-/

namespace LedgerSync.Matching

open Run

/-! ## Extraction -/

namespace Selector

theorem select_total {s : Selector} {v : View} {a : Attribute}
    (h : s.extract v = .ok a) : ∃ result, s.select v = .ok result := by
  obtain ⟨b, hb⟩ := s.usable_of_extract h
  exact ⟨(a, b), bind_eq_ok_iff.2 ⟨a, h, bind_eq_ok_iff.2 ⟨b, hb, rfl⟩⟩⟩

end Selector

namespace Matcher

/-- All attributes of the matcher can be extracted from a view. -/
def Extracts (m : Matcher) (v : View) : Prop :=
  ∀ s ∈ m.selectors, ∃ a, s.extract v = .ok a

instance (m : Matcher) (v : View) : Decidable (m.Extracts v) :=
  decidable_of_iff (m.selectors.all fun s => (s.extract v).isOk) <| by
    rw [List.all_eq_true]
    refine forall₂_congr fun s _ => ?_
    cases s.extract v <;> simp [Except.isOk, Except.toBool]

/-- A matcher has selectors, so a view whose attributes can be extracted has a
key. -/
theorem Extracts.reads {m : Matcher} {v : View} (h : m.Extracts v) :
    m.Reads v := by
  obtain ⟨results, hresults⟩ : ∃ results,
      m.selectors.mapM (fun s => s.select v) = .ok results := by
    refine mapM_total fun s hs => ?_
    obtain ⟨a, ha⟩ := h s hs
    exact Selector.select_total ha
  have hne : (results.map (·.2)).isEmpty = false := by
    cases results with
    | nil =>
      have hlength := (mapM_eq_ok_iff.1 hresults).length_eq
      exact absurd (List.eq_nil_of_length_eq_zero hlength) m.selectors_ne_nil
    | cons => rfl
  have husable : allUsable (results.map (·.2)) =
      .ok ((results.map (·.2)).all id) := by
    unfold allUsable
    rw [hne, if_neg Bool.false_ne_true]
  exact ⟨_, _, bind_eq_ok_iff.2 ⟨results, hresults,
    bind_eq_ok_iff.2 ⟨_, husable, rfl⟩⟩⟩

end Matcher

/-! ## What a result holds -/

namespace MatchResult

/-- One result holds the transactions of another, side by side. -/
structure Conserves (previous next : MatchResult) : Prop where
  transactions : next.transactions.Perm previous.transactions
  reported : (next.transactions.filterMap Sum.getLeft?).Perm
    (previous.transactions.filterMap Sum.getLeft?)
  stored : (next.transactions.filterMap Sum.getRight?).Perm
    (previous.transactions.filterMap Sum.getRight?)

/-- Every transaction is in one pair or in one verdict, and no verdict is that
of the start. -/
structure Settles (r : MatchResult) (reported : List (Member Reported))
    (stored : List (Member Stored)) : Prop where
  untied : r.multiMatched = []
  reported_perm :
    (r.matched.map (·.reported) ++ r.unmatchedReported.map (·.transaction)).Perm
      reported
  stored_perm : (r.matched.map (·.stored) ++ r.unmatchedStored.map
    (·.transaction)).Perm stored
  reported_processed : ∀ u ∈ r.unmatchedReported, u.reason ≠ .unprocessed
  stored_processed : ∀ u ∈ r.unmatchedStored, u.reason ≠ .unprocessed

variable {previous next : MatchResult}

theorem Conserves.of_perm (h : next.transactions.Perm previous.transactions) :
    previous.Conserves next := ⟨h, h.filterMap _, h.filterMap _⟩

theorem Conserves.refl (r : MatchResult) : r.Conserves r := .of_perm (.refl _)

theorem Conserves.trans {r : MatchResult} (h : r.Conserves previous)
    (h' : previous.Conserves next) :
    r.Conserves next := .of_perm (h'.transactions.trans h.transactions)

/-- The pairs of a list, taken apart. -/
theorem flatMap_pairs_perm (ps : List Matched) :
    (ps.flatMap fun p => [Sum.inl p.reported, Sum.inr p.stored]).Perm
      ((ps.map (·.reported)).map Sum.inl ++
        (ps.map (·.stored)).map Sum.inr) := by
  induction ps with
  | nil => exact .refl _
  | cons p ps ih =>
    rw [List.flatMap_cons, List.map_cons, List.map_cons, List.map_cons,
      List.map_cons]
    refine List.Perm.cons _ ?_
    exact (ih.cons (Sum.inr p.stored)).trans List.perm_middle.symm

/-- The transactions of a result are those of its ties, and those of either side
that are paired or unmatched. -/
theorem transactions_perm (r : MatchResult) : r.transactions.Perm
      ((r.multiMatched.flatMap fun m => .inl m.reported :: m.stored.map .inr) ++
        ((r.matched.map (·.reported) ++ r.unmatchedReported.map
          (·.transaction)).map .inl ++
          (r.matched.map (·.stored) ++ r.unmatchedStored.map
            (·.transaction)).map .inr)) := by
  unfold transactions
  refine (((flatMap_pairs_perm r.matched).append_right _).append_right _
    |>.append_right _).trans ?_
  rw [List.map_append, List.map_append, List.map_map (l := r.unmatchedReported),
    List.map_map (l := r.unmatchedStored)]
  simp only [List.append_assoc]
  -- the ties move to the front, and the paired stored ones behind the unmatched
  -- reported ones
  refine List.Perm.trans ?_ (List.perm_append_comm_assoc _ _ _)
  refine List.Perm.append_left _ ((List.perm_append_comm_assoc _ _ _).trans ?_)
  exact (List.perm_append_comm_assoc _ _ _).append_left _

/-- A round conserves what it was given. -/
theorem conserves_after {m : Matcher} {round : Matcher.Round}
    (h : m.round previous = .ok round) :
    previous.Conserves (round.after previous) := by
  refine .of_perm ?_
  refine (transactions_perm _).trans
    (List.Perm.trans ?_ (transactions_perm previous).symm)
  refine List.Perm.append_left _ (List.Perm.append (.map _ ?_) (.map _ ?_))
  · exact after_reported_perm h
  · exact after_stored_perm h

/-- A chain makes no ties. -/
theorem playAll_multiMatched {ms : List Matcher}
    (h : playAll ms previous = .ok next) :
    next.multiMatched = previous.multiMatched :=
  playAll_induction h (fun q => q.multiMatched = previous.multiMatched) rfl
    fun _ _ _ hq _ => hq

/-- The last result of a chain with matchers settles what it started with. -/
theorem settles_of_playAll {ms : List Matcher}
    {reported : List (Member Reported)} {stored : List (Member Stored)}
    (h : playAll ms (.start reported stored) = .ok next) (hms : ms ≠ []) :
    next.Settles reported stored where
  untied := playAll_multiMatched h
  reported_perm := playAll_start_reported_perm h
  stored_perm := playAll_start_stored_perm h
  reported_processed := Party.reported.processed h hms
  stored_processed := Party.stored.processed h hms

end MatchResult

/-! ## Chains -/

/-- Every result of a chain conserves the first one. -/
theorem links_conserve {provider : Provider} {reported : List (Member Reported)}
    {stored : List (Member Stored)} {results : MatchResults}
    (h : provider.links reported stored = .ok results) :
    ∀ q ∈ results.toList, (MatchResult.start reported stored).Conserves q := by
  obtain ⟨_, -, h⟩ := bind_eq_ok_iff.1 h
  obtain ⟨_, -, h⟩ := bind_eq_ok_iff.1 h
  refine foldlM_ok_induction h (fun _ results =>
    ∀ q ∈ results.toList, (MatchResult.start reported stored).Conserves q) ?_ ?_
  · intro q hq
    obtain rfl := List.mem_singleton.1 hq
    exact .refl _
  · intro _ m results results' hall hlink q hq
    rcases link_eq_ok_iff.1 hlink with ⟨-, round, hround, rfl⟩ | ⟨-, rfl⟩
    · rcases List.mem_append.1 hq with hq | hq
      · exact hall q hq
      · obtain rfl := List.mem_singleton.1 hq
        have hlast := hall results.last
            (List.mem_append_right _ (List.mem_singleton_self _))
        exact hlast.trans (MatchResult.conserves_after hround)
    · exact hall q hq

/-- What any result of a chain leaves of the reported side was there at the
start. -/
theorem mem_of_links {provider : Provider} {reported : List (Member Reported)}
    {stored : List (Member Stored)} {results : MatchResults}
    (h : provider.links reported stored = .ok results) :
    ∀ q ∈ results.toList, ∀ u ∈ q.unmatchedReported,
    u.transaction ∈ reported := by
  intro q hq u hu
  have hmem : Sum.inl u.transaction ∈ q.transactions := by
    unfold MatchResult.transactions
    exact List.mem_append_left _
      (List.mem_append_right _ (List.mem_map_of_mem hu))
  have hstart := (links_conserve h q hq).transactions.mem_iff.1 hmem
  simpa [MatchResult.transactions, MatchResult.start, Unmatched.untouched]
    using hstart

/-- A chain of matchers whose attributes can be extracted runs to its end over
booked transactions. -/
theorem reconcile_total {provider : Provider}
    {reported : List (Member Reported)} {stored : List (Member Stored)}
    (j : Journal) (hbooked : ∀ t ∈ reported, t.record.status = .booked)
    (hbooked' : ∀ t ∈ stored, t.record.status = .booked)
    (hreported : ∀ m ∈ provider.matchers, ∀ t ∈ reported, m.Extracts (view t))
    (hstored : ∀ m ∈ provider.matchers, ∀ t ∈ stored, m.Extracts (view t)) :
    ∃ results j', Returns (provider.reconcile reported stored) j
      results j' := by
  obtain ⟨final, hfinal⟩ :
      ∃ final, MatchResult.playAll provider.matchers (.start reported stored) =
        .ok final :=
    MatchResult.playAll_total (fun m hm t ht => by
      rw [MatchResult.start_reported] at ht
      exact (hreported m hm t ht).reads) fun m hm t ht => by
      rw [MatchResult.start_stored] at ht
      exact (hstored m hm t ht).reads
  obtain ⟨results, j', hreturns, -⟩ :=
    returns_reconcile j hbooked hbooked' hfinal
  exact ⟨results, j', hreturns⟩

/-- A matcher whose attributes can be extracted always comes to a result, which
conserves the transactions of the one before. A chain of such matchers over
booked transactions always runs to its end; each of its results conserves the
transactions, and the last one settles them. -/
theorem rounds_and_chains_conserve :
    (∀ (m : Matcher) (previous : MatchResult) (j : Journal),
      (∀ u ∈ previous.unmatchedReported, m.Extracts (view u.transaction)) →
      (∀ u ∈ previous.unmatchedStored, m.Extracts (view u.transaction)) →
        ∃ next j', Returns (m.run previous) j next j' ∧
          previous.Conserves next) ∧
    ∀ (provider : Provider) (reported : List (Member Reported))
      (stored : List (Member Stored)) (j : Journal), provider.matchers ≠ [] →
      (∀ t ∈ reported, t.record.status = .booked) →
      (∀ t ∈ stored, t.record.status = .booked) →
      (∀ m ∈ provider.matchers, ∀ t ∈ reported, m.Extracts (view t)) →
      (∀ m ∈ provider.matchers, ∀ t ∈ stored, m.Extracts (view t)) →
        ∃ results j', Returns (provider.reconcile reported stored) j
          results j' ∧
          (∀ q ∈ results.toList,
            (MatchResult.start reported stored).Conserves q) ∧
          results.last.Settles reported stored := by
  constructor
  · intro m previous j hreported hstored
    obtain ⟨round, hround⟩ :=
      Matcher.round_total (fun u hu => (hreported u hu).reads)
      fun u hu => (hstored u hu).reads
    exact ⟨_, _, Matcher.returns_run hround j,
      MatchResult.conserves_after hround⟩
  · intro provider reported stored j hne hbooked hbooked' hreported hstored
    obtain ⟨results, j', hreturns⟩ :=
      reconcile_total j hbooked hbooked' hreported hstored
    exact ⟨results, j', hreturns,
      links_conserve (links_of_reconcile hreturns).1,
      MatchResult.settles_of_playAll (playAll_of_reconcile hreturns) hne⟩

/-- A result with a pair, a tie, and transactions of both sides that no matcher
has looked at. -/
def Sample.tied : MatchResult :=
  ⟨[⟨"earlier", ⟨0, Sample.reported "x" "tea" (Sample.day 3)⟩,
      ⟨0, Sample.stored "r1" "x" "tea" (Sample.day 3)⟩, []⟩],
    [⟨"earlier", ⟨1, Sample.reported "y" "milk" (Sample.day 3)⟩,
      [⟨1, Sample.stored "r2" "y" "milk" (Sample.day 3)⟩,
        ⟨2, Sample.stored "r3" "y" "rye" (Sample.day 4)⟩], []⟩],
    [.untouched ⟨2, Sample.reported "z" "jam" (Sample.day 4)⟩,
      .untouched ⟨3, Sample.reported "w" "oat" (Sample.day 4)⟩],
    [.untouched ⟨3, Sample.stored "r4" "z" "jam" (Sample.day 4)⟩]⟩

/-- A bank whose transactions are matched by external id first and by booking
date then. -/
def Sample.fallback : Provider :=
  ⟨"TRIODOS_BANK_NL", .unbounded,
    [BuiltIn.externalIdAmountStrict.matcher,
      BuiltIn.bookingDateAmountStrict.matcher]⟩

/-- Reported transactions with an external id that is blank and one that occurs
twice. -/
def Sample.mixedBatch : List (Member Reported) :=
  Member.ofList
    [Sample.reported "x" "tea" (Sample.day 3),
      Sample.reported " " "milk" (Sample.day 3),
      Sample.reported "z" "jam" (Sample.day 4),
        Sample.reported "z" "rye" (Sample.day 4)]

/-- Stored counterparts of some of them, and another transaction. -/
def Sample.mixedRows : List (Member Stored) :=
  Member.ofList
    [Sample.stored "r1" "x" "tea" (Sample.day 3),
      Sample.stored "r2" " " "milk" (Sample.day 3),
      Sample.stored "r3" "v" "oat" (Sample.day 5)]

theorem mixedBatch_conserved :
    (∃ next j', Returns (BuiltIn.externalIdAmountStrict.matcher.run Sample.tied)
      .empty next j' ∧ Sample.tied.Conserves next) ∧
    ∃ results j', Returns
      (Sample.fallback.reconcile Sample.mixedBatch Sample.mixedRows) .empty
        results j' ∧
      (∀ q ∈ results.toList,
        (MatchResult.start Sample.mixedBatch Sample.mixedRows).Conserves q) ∧
      results.last.Settles Sample.mixedBatch Sample.mixedRows :=
  ⟨rounds_and_chains_conserve.1 _ _ _ (by decide +kernel) (by decide +kernel),
    rounds_and_chains_conserve.2 _ _ _ _ (by decide) (by decide +kernel)
      (by decide +kernel) (by decide +kernel) (by decide +kernel)⟩

end LedgerSync.Matching
