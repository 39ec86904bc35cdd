import LedgerSync.Matching.Summary
import LedgerSync.Proofs.Matching.Lone

/-!
# Chains that run to their end

A round fails only where a matcher cannot look at a transaction that is
unmatched (`Matcher.Reads`). Where the matchers of a chain can look at every
transaction of both sides, the rounds end in a result
(`MatchResult.playAll_total`), the run of the chain returns that result because
no round gains or loses a transaction (`returns_reconcile`), and nothing is left
unprocessed (`Party.processed`). The tables of what is left fail only where a
timestamp is beyond the calendar (`unmatchedTable_total`).
-/

namespace LedgerSync.Matching

open Run

/-! ## Rounds -/

theorem Key.ofList_ne_nil (a : Attribute) (as : List Attribute) :
    Key.ofList (a :: as) ≠ [] := by
  suffices hgo : ∀ (as : List Attribute) (k : Key), k ≠ [] →
      as.foldl (fun k a => if k.any a.same then k else k ++ [a]) k ≠ [] from
    hgo as [a] (List.cons_ne_nil a [])
  intro as
  induction as with
  | nil => exact fun k hk => hk
  | cons a as ih =>
    intro k hk
    refine ih _ ?_
    show (if k.any a.same then k else k ++ [a]) ≠ []
    split
    · exact hk
    · exact List.append_ne_nil_of_left_ne_nil hk [a]

namespace Matcher

variable {m : Matcher} {previous : MatchResult}

/-- The matcher can look at a view: it gives the view a key, be it unusable. -/
def Reads (m : Matcher) (v : View) : Prop :=
  ∃ key usable, m.keyOf v = .ok (key, usable)

/-- A matcher has selectors, so its keys are not empty. -/
theorem key_ne_nil {v : View} {key : Key} {usable : Bool}
    (h : m.keyOf v = .ok (key, usable)) :
    key ≠ [] := by
  obtain ⟨results, hresults, h⟩ := bind_eq_ok_iff.1 h
  obtain ⟨_, -, h⟩ := bind_eq_ok_iff.1 h
  cases h
  have hlength := (mapM_eq_ok_iff.1 hresults).length_eq
  cases results with
  | nil =>
    exact absurd (List.eq_nil_of_length_eq_zero hlength) m.selectors_ne_nil
  | cons a results => exact Key.ofList_ne_nil a.1 _

theorem verdict_total {α : Type} {k : Keyed α} (reason : Reason)
    (hk : k.key ≠ []) :
    ∃ u, m.verdict k reason = .ok u := by
  have hempty : k.key.isEmpty = false := by simpa using hk
  unfold verdict Unmatched.make
  rw [hempty, Bool.false_and, if_neg Bool.false_ne_true]
  exact ⟨_, rfl⟩

theorem carry_total {α : Type} {k : Keyed α} (reason : Reason)
    (hk : k.key ≠ []) :
    ∃ u, m.carry k reason = .ok u := by
  unfold carry
  split
  · exact verdict_total reason hk
  · exact ⟨_, rfl⟩

section Split

variable {α : Type} [Viewable α] {entries rejected : List (Unmatched α)}
  {keyed : List (Keyed α)}

theorem splitUsable_total (h : ∀ e ∈ entries, m.Reads (view e.transaction)) :
    ∃ keyed rejected, m.splitUsable entries = .ok (keyed, rejected) := by
  induction entries with
  | nil => exact ⟨[], [], rfl⟩
  | cons e entries ih =>
    obtain ⟨keyed, rejected, hrest⟩ :=
      ih fun e' he' => h e' (List.mem_cons_of_mem _ he')
    obtain ⟨key, usable, hkey⟩ := h e List.mem_cons_self
    rw [splitUsable, hkey, hrest]
    cases usable with
    | true => exact ⟨_, _, rfl⟩
    | false =>
      obtain ⟨u, hu⟩ := carry_total (m := m) (k := ⟨e, key⟩) .rejected
        (key_ne_nil hkey)
      exact ⟨keyed, u :: rejected,
        bind_eq_ok_iff.2 ⟨(key, false), rfl, bind_eq_ok_iff.2 ⟨u, hu, rfl⟩⟩⟩

/-- Verdicts on the entries that have keys are given. -/
theorem mapM_verdicts {ks : List (Keyed α)}
    {f : Keyed α → Except Failure (Unmatched α)}
    (h : m.splitUsable entries = .ok (keyed, rejected)) (hks : ks ⊆ keyed)
    (hf : ∀ k : Keyed α, k.key ≠ [] → ∃ u, f k = .ok u) :
    ∃ us, ks.mapM f = .ok us :=
  mapM_total fun k hk =>
    hf k (key_ne_nil ((splitUsable_spec h).2.1 k (hks hk)).2)

theorem haveSets_of_splitUsable
    (h : m.splitUsable entries = .ok (keyed, rejected)) :
    HaveSets keyed := fun k hk =>
      isSet_of_keyOf ((splitUsable_spec h).2.1 k hk).2

end Split

/-- A round comes to an end where the matcher can look at all that is
unmatched. -/
theorem round_total
    (hreported : ∀ u ∈ previous.unmatchedReported, m.Reads (view u.transaction))
    (hstored : ∀ u ∈ previous.unmatchedStored, m.Reads (view u.transaction)) :
    ∃ r, m.round previous = .ok r := by
  obtain ⟨reported, reportedRejected, hr⟩ := splitUsable_total hreported
  obtain ⟨stored, storedRejected, hs⟩ := splitUsable_total hstored
  obtain ⟨reportedDuplicate, h₁⟩ :=
    mapM_verdicts hr (repeated_subset (haveSets_of_splitUsable hr))
    fun _ hk => carry_total (m := m) .duplicate hk
  obtain ⟨storedDuplicate, h₂⟩ :=
    mapM_verdicts hs (repeated_subset (haveSets_of_splitUsable hs))
    fun _ hk => carry_total (m := m) .duplicate hk
  obtain ⟨reportedPeerless, h₃⟩ := mapM_verdicts hr
    (List.filter_sublist (p := fun k : Keyed (Member Reported) =>
      (find? (uniques stored) k.key).isNone) |>.trans
        (uniques_sublist reported)).subset
    fun _ hk => verdict_total (m := m) .peerless hk
  obtain ⟨storedPeerless, h₄⟩ := mapM_verdicts hs
    (List.filter_sublist (p := fun k : Keyed (Member Stored) =>
      (find? (uniques reported) k.key).isNone) |>.trans
        (uniques_sublist stored)).subset
    fun _ hk => verdict_total (m := m) .peerless hk
  unfold round
  rw [hr, hs]
  exact ⟨_, bind_eq_ok_iff.2 ⟨_, rfl,
    bind_eq_ok_iff.2 ⟨_, rfl, bind_eq_ok_iff.2 ⟨_, h₁,
    bind_eq_ok_iff.2 ⟨_, h₂,
      bind_eq_ok_iff.2 ⟨_, h₃, bind_eq_ok_iff.2 ⟨_, h₄, rfl⟩⟩⟩⟩⟩⟩⟩

end Matcher

/-! ## Chains -/

namespace Party

variable {α : Type} [Viewable α] (p : Party α) {ms : List Matcher}
  {start final : MatchResult}

/-- What a chain leaves was left before, and is not more. -/
theorem left_subperm (h : MatchResult.playAll ms start = .ok final) :
    ((p.left final).map (·.transaction)).Subperm
    ((p.left start).map (·.transaction)) := by
  refine MatchResult.playAll_induction h (fun q =>
    ((p.left q).map (·.transaction)).Subperm
      ((p.left start).map (·.transaction)))
    (List.Subperm.refl _) ?_
  intro m q round hq hround
  obtain ⟨_, _, hside⟩ := p.side hround
  refine List.Subperm.trans ?_ hq
  rw [p.left_after]
  exact (List.sublist_append_right _ _).subperm.trans
    hside.transactions_perm.subperm

/-- What has been judged peerless stays so along a chain. -/
theorem reason_of_peerless {t : α}
    (hstart : ∀ u ∈ p.left start, u.transaction = t → u.reason = .peerless)
    (h : MatchResult.playAll ms start = .ok final) :
    ∀ u ∈ p.left final, u.transaction = t → u.reason = .peerless := by
  refine MatchResult.playAll_induction h
    (fun q => ∀ u ∈ p.left q, u.transaction = t → u.reason = .peerless)
    hstart ?_
  intro m q round hq hround u hu ht
  obtain ⟨_, _, hside⟩ := p.side hround
  rw [p.left_after] at hu
  exact hside.reason_of_peerless hq hu ht

/-- A chain with matchers leaves nothing unprocessed. -/
theorem processed (h : MatchResult.playAll ms start = .ok final)
    (hms : ms ≠ []) :
    ∀ u ∈ p.left final, u.reason ≠ .unprocessed := by
  rw [← List.dropLast_append_getLast hms, MatchResult.playAll_append] at h
  obtain ⟨q, -, h⟩ := bind_eq_ok_iff.1 h
  unfold MatchResult.playAll at h
  rw [List.foldlM_cons] at h
  obtain ⟨q', hstep, h⟩ := bind_eq_ok_iff.1 h
  rw [List.foldlM_nil, pure_eq_ok_iff] at h
  subst h
  intro u hu
  split at hstep
  · obtain ⟨round, hround, rfl⟩ := MatchResult.apply_eq_ok_iff.1 hstep
    obtain ⟨_, _, hside⟩ := p.side hround
    rw [p.left_after] at hu
    exact hside.reason_ne_unprocessed hu
  · next hmatched =>
    obtain rfl := Except.ok.inj hstep
    exact (hmatched (p.hasUnmatched hu)).elim

/-- Every matcher of a chain has looked at what the chain leaves. -/
theorem reads_of_left (h : MatchResult.playAll ms start = .ok final)
    {m : Matcher} (hm : m ∈ ms) {u : Unmatched α} (hu : u ∈ p.left final) :
    m.Reads (view u.transaction) := by
  obtain ⟨k, hk⟩ := List.mem_iff_getElem?.1 hm
  obtain ⟨previous, round, hplays, hrest⟩ := p.exists_playsAt h hk hu
  obtain ⟨_, _, hside⟩ := p.side hplays.played
  have hleft := p.left_subset hrest (List.mem_map_of_mem hu)
  rw [p.left_after] at hleft
  have hentries := hside.transactions_perm.subset
      (List.mem_append_right _ hleft)
  rw [← (Matcher.splitUsable_spec hside.split).1.mem_iff] at hentries
  rcases List.mem_append.1 hentries with hkeyed | hrejected
  · obtain ⟨k, hk, heq⟩ := List.mem_map.1 hkeyed
    rw [← heq]
    exact ⟨k.key, true, ((Matcher.splitUsable_spec hside.split).2.1 k hk).2⟩
  · obtain ⟨v, hv, heq⟩ := List.mem_map.1 hrejected
    obtain ⟨key, hkey⟩ := hside.mem_rejected hv
    rw [← heq]
    exact ⟨key, false, hkey⟩

end Party

/-- A link of a chain comes to an end where its matcher can look at all that is
unmatched, and leaves nothing else. -/
theorem MatchResult.link_total {m : Matcher} {q : MatchResult}
    (hreported : ∀ t ∈ q.unmatchedReported.map (·.transaction),
      m.Reads (view t))
    (hstored : ∀ t ∈ q.unmatchedStored.map (·.transaction), m.Reads (view t)) :
    ∃ next, (if q.hasUnmatched then m.apply q else .ok q) = .ok next ∧
      next.unmatchedReported.map (·.transaction) ⊆
        q.unmatchedReported.map (·.transaction) ∧
      next.unmatchedStored.map (·.transaction) ⊆
        q.unmatchedStored.map (·.transaction) := by
  by_cases hunmatched : q.hasUnmatched = true
  · obtain ⟨round, hround⟩ := Matcher.round_total
      (fun u hu => hreported _ (List.mem_map_of_mem hu))
      (fun u hu => hstored _ (List.mem_map_of_mem hu))
    rw [if_pos hunmatched]
    refine ⟨_, apply_eq_ok_iff.2 ⟨round, hround, rfl⟩, ?_, ?_⟩
    · exact fun t ht =>
        (Matcher.round_reported_perm hround).subset
          (List.mem_append_right _ ht)
    · exact fun t ht =>
        (Matcher.round_stored_perm hround).subset
          (List.mem_append_right _ ht)
  · rw [if_neg hunmatched]
    exact ⟨q, rfl, List.Subset.refl _, List.Subset.refl _⟩

/-- The rounds of a chain come to an end where its matchers can look at all that
is unmatched. -/
theorem MatchResult.playAll_total {ms : List Matcher} {start : MatchResult}
    (hreported : ∀ m ∈ ms, ∀ t ∈ start.unmatchedReported.map (·.transaction),
      m.Reads (view t))
    (hstored : ∀ m ∈ ms, ∀ t ∈ start.unmatchedStored.map (·.transaction),
      m.Reads (view t)) :
    ∃ final, playAll ms start = .ok final := by
  induction ms generalizing start with
  | nil => exact ⟨start, rfl⟩
  | cons m ms ih =>
    obtain ⟨next, hstep, hr, hs⟩ :=
      link_total (hreported m List.mem_cons_self) (hstored m List.mem_cons_self)
    obtain ⟨final, hfinal⟩ : ∃ final, playAll ms next = .ok final := ih
      (fun m' hm' t ht => hreported m' (List.mem_cons_of_mem m hm') t (hr ht))
      (fun m' hm' t ht => hstored m' (List.mem_cons_of_mem m hm') t (hs ht))
    refine ⟨final, ?_⟩
    unfold playAll
    rw [List.foldlM_cons]
    exact bind_eq_ok_iff.2 ⟨next, hstep, hfinal⟩

/-- A link of a chain gives the result of its round. -/
theorem link_of_apply {results : MatchResults} {m : Matcher} {q : MatchResult}
    (h : (if results.last.hasUnmatched then m.apply results.last else .ok
      results.last) = .ok q) :
    ∃ results', link results m = .ok results' ∧ results'.last = q := by
  split at h
  · next hunmatched =>
    obtain ⟨round, hround, rfl⟩ := MatchResult.apply_eq_ok_iff.1 h
    exact ⟨_, link_eq_ok_iff.2 (Or.inl ⟨hunmatched, round, hround, rfl⟩), rfl⟩
  · next hmatched =>
    obtain rfl := Except.ok.inj h
    exact ⟨results, link_eq_ok_iff.2 (Or.inr ⟨by simpa using hmatched, rfl⟩),
      rfl⟩

/-- The links of a chain give the result of their rounds. -/
theorem links_of_playAll {ms : List Matcher} {results : MatchResults}
    {final : MatchResult}
    (h : MatchResult.playAll ms results.last = .ok final) :
    ∃ results', ms.foldlM link results = .ok results' ∧
    results'.last = final := by
  induction ms generalizing results with
  | nil => exact ⟨results, rfl, (pure_eq_ok_iff.1 h).symm⟩
  | cons m ms ih =>
    unfold MatchResult.playAll at h
    rw [List.foldlM_cons] at h
    obtain ⟨q, hstep, hrest⟩ := bind_eq_ok_iff.1 h
    obtain ⟨results₁, hlink, hlast⟩ := link_of_apply hstep
    rw [← hlast] at hrest
    obtain ⟨results', hlinks, hfinal⟩ := ih hrest
    refine ⟨results', ?_, hfinal⟩
    rw [List.foldlM_cons]
    exact bind_eq_ok_iff.2 ⟨results₁, hlink, hlinks⟩

theorem requireBooked_eq_ok {α : Type} [Viewable α] {side : LedgerSync.Side}
    {ts : List α} (h : ∀ t ∈ ts, (view t).status = .booked) :
    requireBooked side ts = .ok () := by
  have hall : (ts.all fun t => (view t).status == .booked) = true := by
    rw [List.all_eq_true]
    intro t ht
    rw [h t ht]
    exact beq_self_eq_true _
  unfold requireBooked
  rw [if_pos hall]

/-- Over booked transactions the run of a chain returns the result of its
rounds. -/
theorem returns_reconcile {provider : Provider}
    {reported : List (Member Reported)} {stored : List (Member Stored)}
    {final : MatchResult} (j : Journal)
    (hreported : ∀ t ∈ reported, t.record.status = .booked)
    (hstored : ∀ t ∈ stored, t.record.status = .booked)
    (h : MatchResult.playAll provider.matchers (.start reported stored) =
      .ok final) :
    ∃ results j', Returns (provider.reconcile reported stored) j results j' ∧
      results.last = final := by
  obtain ⟨results, hlinks, hfinal⟩ : ∃ results, provider.matchers.foldlM link
      (.of (.start reported stored)) = .ok results ∧ results.last = final :=
        links_of_playAll h
  obtain ⟨j', hreturns⟩ := reconcile_of_links (bind_eq_ok_iff.2
    ⟨(), requireBooked_eq_ok hreported,
      bind_eq_ok_iff.2 ⟨(), requireBooked_eq_ok hstored, hlinks⟩⟩) j
  exact ⟨results, j', hreturns, hfinal⟩

/-! ## Tables and reports -/

section Tables

variable {α : Type} [Viewable α]

theorem unmatchedTable_total (us : List (Unmatched α))
    (h : ∀ u ∈ us, ∃ t, (view u.transaction).timestamp = .ok t) :
    ∃ rows, unmatchedTable us = .ok rows := by
  have hrows : ∃ rows, us.mapM unmatchedRow = .ok rows := by
    refine mapM_total fun u hu => ?_
    obtain ⟨t, ht⟩ := h u hu
    unfold unmatchedRow
    exact ⟨_, bind_eq_ok_iff.2 ⟨t, ht, rfl⟩⟩
  obtain ⟨rows, hrows⟩ := hrows
  unfold unmatchedTable
  split
  · exact ⟨_, rfl⟩
  · exact ⟨_, bind_eq_ok_iff.2 ⟨rows, hrows, rfl⟩⟩

theorem unmatchedTable_returns_iff {us : List (Unmatched α)} :
    (∃ rows, unmatchedTable us = .ok rows) ↔
      ∀ u ∈ us, ∃ t, (view u.transaction).timestamp = .ok t := by
  refine ⟨fun ⟨rows, h⟩ u hu => ?_, unmatchedTable_total us⟩
  have hne : us.isEmpty = false := by
    cases us with
    | nil => cases hu
    | cons => rfl
  unfold unmatchedTable at h
  rw [hne, if_neg Bool.false_ne_true] at h
  obtain ⟨_, hrows, -⟩ := bind_eq_ok_iff.1 h
  obtain ⟨_, hrow⟩ := ok_of_mapM hrows hu
  obtain ⟨t, ht, -⟩ := bind_eq_ok_iff.1 hrow
  exact ⟨t, ht⟩

end Tables

/-- Stored timestamps are in universal time already. -/
theorem timestamp_stored (s : Member Stored) :
    ∃ t, (view s).timestamp = .ok t := ⟨_, rfl⟩

theorem timestamp_reported {m : Member Reported} {u : Moment}
    (h : m.record.timestamp = .ok u) :
    ∃ t, (view m).timestamp = .ok t := by
  refine ⟨some u, ?_⟩
  show Except.map some m.record.timestamp = _
  rw [h]
  rfl

/-- The first result of a chain is shown by its counts. Any other one is shown
when the timestamps of what it leaves on the reported side are in the
calendar. -/
theorem stageText_returns_iff {stage : Nat} {r : MatchResult} :
    (∃ text, stageText stage r = .ok text) ↔
      stage = 0 ∨ ∀ u ∈ r.unmatchedReported,
      ∃ t, (view u.transaction).timestamp = .ok t := by
  rw [← unmatchedTable_returns_iff]
  obtain ⟨storedRows, hstored⟩ := unmatchedTable_total r.unmatchedStored
    fun u _ => timestamp_stored u.transaction
  unfold stageText
  dsimp only
  by_cases hfirst : stage = 0
  · rw [if_pos hfirst]
    exact iff_of_true ⟨_, rfl⟩ (Or.inl hfirst)
  · rw [if_neg hfirst, or_iff_right hfirst]
    constructor
    · rintro ⟨_, h⟩
      obtain ⟨rows, hrows, -⟩ := bind_eq_ok_iff.1 h
      exact ⟨rows, hrows⟩
    · rintro ⟨rows, hrows⟩
      exact ⟨_, bind_eq_ok_iff.2 ⟨rows, hrows,
        bind_eq_ok_iff.2 ⟨storedRows, hstored, rfl⟩⟩⟩

/-- The report on a chain is written when the timestamps of what its rounds
leave on the reported side are in the calendar. -/
theorem MatchResults.report_returns_iff {results : MatchResults} :
    (∃ text, results.report = .ok text) ↔
      ∀ q ∈ results.toList.tail, ∀ u ∈ q.unmatchedReported,
        ∃ t, (view u.transaction).timestamp = .ok t := by
  have hstages : (∃ text, results.report = .ok text) ↔
      ∀ s ∈ results.toList.zipIdx, ∃ text, stageText s.2 s.1 = .ok text := by
    constructor
    · rintro ⟨_, h⟩ s hs
      obtain ⟨_, hstages, -⟩ := bind_eq_ok_iff.1 h
      exact ok_of_mapM hstages hs
    · intro h
      obtain ⟨stages, hstages⟩ := mapM_total h
      exact ⟨_, bind_eq_ok_iff.2 ⟨stages, hstages, rfl⟩⟩
  rw [hstages]
  simp only [stageText_returns_iff]
  cases results.toList with
  | nil =>
    exact iff_of_true (fun _ hs => absurd hs List.not_mem_nil)
      fun _ hq => absurd hq List.not_mem_nil
  | cons first rest =>
    rw [List.zipIdx_cons, List.forall_mem_cons, List.tail_cons,
      and_iff_right (Or.inl rfl)]
    constructor
    · intro h q hq
      rw [← List.zipIdx_map_fst 1 rest] at hq
      obtain ⟨s, hs, rfl⟩ := List.mem_map.1 hq
      -- a result after the first one does not have the first place
      have hlater := List.le_snd_of_mem_zipIdx hs
      exact (h s hs).resolve_left (by omega)
    · exact fun h s hs => Or.inr (h s.1 (List.fst_mem_of_mem_zipIdx hs))

/-- What is logged about a chain holds its report, and nothing else in it can
fail. -/
theorem MatchResults.logText_returns_iff {results : MatchResults}
    {provider : String} {account : Option Uuid} {window : Window}
    {reported : List (Member Reported)} {stored : List (Member Stored)} :
    (∃ text, results.logText provider account window reported stored =
      .ok text) ↔ ∀ q ∈ results.toList.tail, ∀ u ∈ q.unmatchedReported,
        ∃ t, (view u.transaction).timestamp = .ok t := by
  rw [← report_returns_iff]
  constructor
  · rintro ⟨_, h⟩
    obtain ⟨report, hreport, -⟩ := bind_eq_ok_iff.1 h
    exact ⟨report, hreport⟩
  · rintro ⟨report, hreport⟩
    exact ⟨_, bind_eq_ok_iff.2 ⟨report, hreport, rfl⟩⟩

/-- The report on a chain is written where the timestamps of the reported
transactions are in the calendar. -/
theorem MatchResults.logText_total {results : MatchResults} (provider : String)
    (account : Option Uuid) (window : Window)
    {reported : List (Member Reported)} (stored : List (Member Stored))
    (htimestamps : ∀ t ∈ reported, ∃ u, t.record.timestamp = .ok u)
    (hmem : ∀ q ∈ results.toList, ∀ u ∈ q.unmatchedReported,
      u.transaction ∈ reported) :
    ∃ text, results.logText provider account window reported stored =
      .ok text := by
  refine logText_returns_iff.2 fun q hq u hu => ?_
  obtain ⟨t, ht⟩ := htimestamps _ (hmem q (List.mem_of_mem_tail hq) u hu)
  exact timestamp_reported ht

end LedgerSync.Matching
