import LedgerSync.Proofs.Matching.Fallbacks
import LedgerSync.Proofs.Sync.Absorbed
import LedgerSync.Proofs.Sync.Repetition

/-!
# Fetching an absorbed batch again

The rows that an absorbed batch loads again are its own and those that were
tolerated, and a built-in chain retraces over them what the chain of the first
run did (`Absorbed.traced`), so they are a repetition of the batch
(`Absorbed.repetition`), and the sync never asks for a write.

Whether it passes its checks depends on the first run. Where that run loaded
rows, its chain accounted for the batch, and only a key that is shared with a
tolerated row can make a difference (`Absorbed.peerless_again`). Where it loaded
nothing, it inserted the batch without the chain, and the chain may find keys
repeated which it was never asked about (`determineByChain_repeats`,
`fetched_again_not_always_returns`).
-/

namespace LedgerSync

open Run Matching

namespace ChainSync

variable {newId : Nat → String} {now : DateTime} {provider : Provider}
  {booked : List (Member Reported)} {stored rest : List (Member Stored)}
  {pairs : List (Member Reported × Member Stored)} {final : MatchResult}

/-! ## A sync over an absorbed batch -/

variable {settings : SyncSettings} {batch : List (Member Reported)}
  {accountId : Uuid} {load : Loader} {selection : StoredWindow.Selection}
  {j j' : Journal}

theorem bookedOf_eq_self {ms : List (Member Stored)}
    (h : ∀ m ∈ ms, m.record.status = .booked) :
    bookedOf ms = ms := by
  refine List.filter_eq_self.2 fun m hm => ?_
  rw [h m hm]
  exact beq_self_eq_true _

theorem pendingOf_eq_nil {ms : List (Member Stored)}
    (h : ∀ m ∈ ms, m.record.status = .booked) :
    pendingOf ms = [] := by
  refine List.filter_eq_nil_iff.2 fun m hm => ?_
  rw [h m hm]
  exact Bool.false_ne_true

namespace Repetition

theorem isEmpty_eq_false (h : Repetition provider booked stored pairs rest) :
    stored.isEmpty = false := by
  obtain ⟨latest, hlatest, -⟩ := h.exists_latest
  cases stored with
  | nil => cases hlatest
  | cons => rfl

/-- A sync is quiet when its chain is. -/
theorem isQuiet
    (h : Repetition provider (bookedIn batch) selection.kept pairs rest)
    (hselection : Returns
      (selectStoredWindow settings provider.name (bookedIn batch) load) j
      selection j')
    (hchain : IsQuiet
      (instructionByChain newId now settings.backfillWindowDays provider
      (some accountId) (bookedIn batch) selection.kept) j') :
    IsQuiet (determineByChain newId now settings provider accountId batch load)
      j := by
  obtain ⟨oldest, holdest⟩ :
      ∃ d, Date.earliest? ((bookedIn batch).map (·.record.date)) = some d :=
    Date.exists_earliest? (by simpa using h.nonempty)
  obtain ⟨i, j₂, hreturns, hquiet⟩ := hchain
  have hpending : (selection.kept.filter fun m => m.record.status == .pending) =
      [] :=
    pendingOf_eq_nil h.stored_booked
  rw [← bookedOf_eq_self h.stored_booked] at hreturns
  unfold IsQuiet determineByChain
  simp only [holdest]
  refine hselection.bind_exists ?_
  rw [h.isEmpty_eq_false, if_neg Bool.false_ne_true]
  refine hreturns.bind_exists ?_
  refine ⟨_, _, rfl, ⟨?_, hquiet.toInsert, hquiet.toUpdate⟩⟩
  show i.toDelete ++ (selection.kept.filter fun m => m.record.status ==
    .pending) = []
  rw [hquiet.toDelete, hpending]
  rfl

/-- A sync is refused when its chain is. -/
theorem refuses
    (h : Repetition provider (bookedIn batch) selection.kept pairs rest)
    (hselection : Returns
      (selectStoredWindow settings provider.name (bookedIn batch) load) j
      selection j')
    {e : Failure}
    (hchain : Fails
      (instructionByChain newId now settings.backfillWindowDays provider
      (some accountId) (bookedIn batch) selection.kept) j' e) :
    Fails (determineByChain newId now settings provider accountId batch load) j
      e := by
  obtain ⟨oldest, holdest⟩ :
      ∃ d, Date.earliest? ((bookedIn batch).map (·.record.date)) = some d :=
    Date.exists_earliest? (by simpa using h.nonempty)
  rw [← bookedOf_eq_self h.stored_booked] at hchain
  unfold determineByChain
  simp only [holdest]
  refine hselection.bind_fails ?_
  rw [h.isEmpty_eq_false, if_neg Bool.false_ne_true]
  exact hchain.bind

end Repetition

/-! ## Two syncs -/

section Twice

variable {s after : Store} {account : Account} {currency : String}
  {later : DateTime} {loaded tolerated : List (Member Stored)} {i : Instruction}
  {plan : Plan} {fresh : List Assigned}

theorem isQuiet_of_nothingBooked (hnone : bookedIn batch = []) (j : Journal) :
    IsQuiet (determineByChain newId now settings provider accountId batch load)
      j := by
  have hnone' : (batch.filter fun m => m.record.status == .booked) = [] := hnone
  unfold IsQuiet determineByChain
  simp only [hnone', List.map_nil, Date.earliest?]
  exact ⟨.empty, j, rfl, rfl, rfl, rfl⟩

/-- The rows that an absorbed batch loads again mirror their transactions. -/
theorem Absorbed.mirrors
    (h : Absorbed provider s booked loaded tolerated i plan fresh)
    (hreloads : Reloads plan booked tolerated stored pairs rest)
    {p : Member Reported × Member Stored} (hp : p ∈ pairs) :
    p.2.record.Mirrors p.1.record ∧ ∃ n, p.1.record.cents = .ok n :=
  ⟨(hreloads.repeats hp).mirrors, h.cents p.1 (hreloads.mem_booked hp)⟩

theorem Absorbed.fallsBack
    (h : Absorbed provider s booked loaded tolerated i plan fresh)
    (hprovider : provider ∈ Registry.builtIn.providers)
    (hreloads : Reloads plan booked tolerated stored pairs rest) :
    FallsBack pairs provider.matchers :=
  fallsBack_of_builtIn hprovider (fun _ hp => (h.mirrors hreloads hp).1)
    fun _ hp => (h.mirrors hreloads hp).2

/-- The chain that runs over what is loaded again retraces the chain of the
first run: where the matchers do not agree with a pair, its row was ignored by
the first run, and so joined by its chain. -/
theorem Absorbed.traced
    (h : Absorbed provider s booked loaded tolerated i plan fresh)
    (hprovider : provider ∈ Registry.builtIn.providers)
    (hreloads : Reloads plan booked tolerated stored pairs rest)
    {results : MatchResults}
    (hresults : Returns (provider.reconcile booked (bookedOf loaded)) j results
      j') :
    Traced provider.matchers pairs rest (.start booked (bookedOf loaded))
      results.last := by
  have hplayed := playAll_of_reconcile hresults
  have haccounted : loaded ≠ [] →
      tolerated = results.last.unmatchedStored.map (·.transaction) ∧
      ∀ e ∈ plan, ∀ m, e.fate = .ignored m →
        ∃ x ∈ results.last.matched, x.reported = m ∧ x.stored = e.row := by
    intro hloaded
    obtain ⟨_, _, _, hresults', -, -, hspec⟩ := h.accounted hloaded
    rw [Except.ok.inj (hplayed.symm.trans (playAll_of_reconcile hresults'))]
    exact hspec
  refine ⟨?_, ?_, fun p hp => ?_⟩
  · rw [MatchResult.start_reported]
    exact hreloads.reported_perm.subperm
  · rw [hreloads.rest_records]
    by_cases hnil : loaded = []
    · rw [(h.eq_nil_of_nothingLoaded hnil).2]
      exact List.nil_subperm
    · rw [(haccounted hnil).1]
  · obtain ⟨hmirrors, n, hn⟩ := h.mirrors hreloads hp
    rcases (hreloads.retains p hp).2 with hderived | ⟨e, he, hfate, hrow⟩
    · exact Or.inl fun m hm =>
        agrees_of_builtIn hprovider hm hmirrors hderived.hasMillisOffset hn
    · have hloaded : loaded ≠ [] := by
        intro hnil
        rw [(h.eq_nil_of_nothingLoaded hnil).1] at he
        exact List.not_mem_nil he
      obtain ⟨x, hx, hreported, hstored⟩ :=
        (haccounted hloaded).2 e he p.1 hfate
      exact Or.inr ⟨x, hx, hreported, by rw [hstored, hrow]⟩

/-- The window of an absorbed batch is one of its own rows and of those that
were tolerated, and a built-in chain can look at it. -/
theorem Absorbed.repetition
    (h : Absorbed provider s booked loaded tolerated i plan fresh)
    (hprovider : provider ∈ Registry.builtIn.providers)
    (hwindow : provider.window = .unbounded) (hne : booked ≠ [])
    (hbooked : ∀ m ∈ booked, m.record.status = .booked)
    (hreloads : Reloads plan booked tolerated stored pairs rest) :
    Repetition provider booked stored pairs rest := by
  have halong : AlikeOrStrayAlong provider.matchers pairs rest ∧
      ∀ p ∈ unpaired provider.matchers pairs rest,
        ∀ m ∈ provider.matchers, m.Agrees p := by
    by_cases hnil : loaded = []
    · -- nothing is ignored then, so all rows were derived
      have hagrees : ∀ m ∈ provider.matchers, m.Alike pairs := by
        intro m hm p hp
        obtain ⟨hmirrors, n, hn⟩ := h.mirrors hreloads hp
        have hretains := (hreloads.retains p hp).2
        rw [(h.eq_nil_of_nothingLoaded hnil).1] at hretains
        have hderived := hretains.resolve_right
          fun ⟨_, he, _⟩ => List.not_mem_nil he
        exact agrees_of_builtIn hprovider hm hmirrors hderived.hasMillisOffset
          hn
      exact ⟨alikeOrStrayAlong_of_alike hagrees rest, fun p hp m hm =>
        hagrees m hm p ((unpaired_sublist _ _ _).subset hp)⟩
    · obtain ⟨results, _, _, hresults, -⟩ := h.accounted hnil
      exact (h.traced hprovider hreloads hresults).along
        (List.Subset.refl _) (h.fallsBack hprovider hreloads)
        (playAll_of_reconcile hresults)
  have hreads : ∀ m ∈ provider.matchers, ∀ p ∈ pairs,
      m.Reads (view p.1) ∧ m.Reads (view p.2) := by
    intro m hm p hp
    obtain ⟨hmirrors, n, hn⟩ := h.mirrors hreloads hp
    exact reads_of_builtIn hprovider hm hmirrors hn
  refine {
    nonempty := hne
    window := hwindow
    matchers := matchers_ne_nil_of_builtIn hprovider
    reported_perm := hreloads.reported_perm
    stored_perm := hreloads.stored_perm
    repeats := fun _ hp => hreloads.repeats hp
    reported_booked := hbooked
    stored_booked := hreloads.stored_booked
    cents := h.cents
    oldest := ?_
    along := halong.1
    unpaired_alike := halong.2
    reads_reported := ?_
    reads_stored := ?_ }
  · intro m hm
    obtain ⟨m', hm', heq⟩ := hreloads.exists_tolerated hm
    rw [← heq]
    exact h.tolerated_oldest m' hm'
  · intro m hm t ht
    obtain ⟨p, hp, rfl⟩ := List.mem_map.1 (hreloads.reported_perm.mem_iff.2 ht)
    exact (hreads m hm p hp).1
  · intro m hm t ht
    rcases List.mem_append.1 (hreloads.stored_perm.mem_iff.1 ht) with hown | hr
    · obtain ⟨p, hp, rfl⟩ := List.mem_map.1 hown
      exact (hreads m hm p hp).2
    · -- the chain of the first run has looked at what it tolerated
      obtain ⟨m', hm', heq⟩ := hreloads.exists_tolerated hr
      have hloaded : loaded ≠ [] := by
        intro hnil
        rw [(h.eq_nil_of_nothingLoaded hnil).2] at hm'
        exact List.not_mem_nil hm'
      obtain ⟨results, _, _, hresults, -, -, htolerated, -⟩ :=
        h.accounted hloaded
      rw [htolerated] at hm'
      obtain ⟨u, hu, rfl⟩ := List.mem_map.1 hm'
      show m.Reads (view t.record)
      rw [← heq]
      exact Party.stored.reads_of_left (playAll_of_reconcile hresults) hm hu

/-- The chain passes its checks on an absorbed batch when it accounted for the
batch in the first run, or would have, and no transaction of the batch shares a
key with a tolerated row. A chain with a single matcher leaves no such key. -/
theorem Absorbed.peerless_again
    (h : Absorbed provider s booked loaded tolerated i plan fresh)
    (hprovider : provider ∈ Registry.builtIn.providers)
    (hreloads : Reloads plan booked tolerated stored pairs rest)
    (hrepetition : Repetition provider booked stored pairs rest)
    (hfinal : MatchResult.playAll provider.matchers (.start booked stored) =
      .ok final)
    {results : MatchResults}
    (hresults : Returns (provider.reconcile booked (bookedOf loaded)) j results
      j')
    (hpeerless : loaded = [] →
      ∀ u ∈ results.last.unmatchedReported, u.reason = .peerless)
    (hapart : 1 < provider.matchers.length →
      ∀ t ∈ booked, ∀ m ∈ results.last.unmatchedStored.map (·.transaction),
      ∀ matcher ∈ provider.matchers, ¬ matcher.SharesKey t m) :
    ∀ u ∈ final.unmatchedStored, u.reason = .peerless := by
  have hplayed := playAll_of_reconcile hresults
  have htraced := h.traced hprovider hreloads hresults
  have hfalls := h.fallsBack hprovider hreloads
  have haccounted : loaded ≠ [] →
      (∀ u ∈ results.last.unmatchedReported, u.reason = .peerless) ∧
      (∀ u ∈ results.last.unmatchedStored, u.reason = .peerless) ∧
      tolerated = results.last.unmatchedStored.map (·.transaction) := by
    intro hloaded
    obtain ⟨_, _, _, hresults', hreported, hstored, htolerated, -⟩ :=
      h.accounted hloaded
    rw [Except.ok.inj (hplayed.symm.trans (playAll_of_reconcile hresults'))]
    exact ⟨hreported, hstored, htolerated⟩
  have hloaded : ∀ m ∈ rest, loaded ≠ [] := by
    intro m hm hnil
    obtain ⟨m', hm', -⟩ := hreloads.exists_tolerated hm
    rw [(h.eq_nil_of_nothingLoaded hnil).2] at hm'
    exact List.not_mem_nil hm'
  have hjudged : ∀ m ∈ rest, ∃ u ∈ results.last.unmatchedStored,
      u.transaction.record = m.record ∧ u.reason = .peerless := by
    intro m hm
    obtain ⟨-, hstored, htolerated⟩ := haccounted (hloaded m hm)
    obtain ⟨m', hm', heq⟩ := hreloads.exists_tolerated hm
    rw [htolerated] at hm'
    obtain ⟨u, hu, rfl⟩ := List.mem_map.1 hm'
    exact ⟨u, hu, heq, hstored u hu⟩
  have hkeys : Apart provider.matchers pairs rest := by
    intro matcher hmatcher p hp m hm hshared
    obtain ⟨u, hu, heq, -⟩ := hjudged m hm
    have ht : p.1 ∈ booked := hreloads.mem_booked hp
    have hshared' : matcher.SharesKey p.1 u.transaction := by
      rw [Matcher.sharesKey_iff] at hshared ⊢
      rwa [Matcher.tag_eq_of_record heq]
    by_cases hseveral : 1 < provider.matchers.length
    · exact hapart hseveral _ ht _ (List.mem_map_of_mem hu) _ hmatcher hshared'
    · -- a single matcher would have found the shared key repeated, and not
      -- called the row peerless
      obtain ⟨hreported, hstored, -⟩ := haccounted (hloaded m hm)
      obtain ⟨only, hmatchers⟩ : ∃ only, provider.matchers = [only] := by
        refine List.length_eq_one_iff.1 ?_
        have hpos := List.length_pos_iff.2 hrepetition.matchers
        omega
      rw [hmatchers] at hplayed hmatcher
      obtain rfl := List.mem_singleton.1 hmatcher
      exact not_sharesKey_of_single hplayed hreported hstored ht
        (List.mem_map_of_mem hu) hshared'
  have hreported : ∀ u ∈ results.last.unmatchedReported,
      u.reason = .peerless := by
    by_cases hnil : loaded = []
    · exact hpeerless hnil
    · exact (haccounted hnil).1
  have hdoubled := (hrepetition.doubled.playAll hrepetition.along hfinal).1
  rw [htraced.unpaired_eq_nil hfalls hkeys hplayed hreported] at hdoubled
  intro u hu
  have hmem : u.transaction ∈ rest :=
    hdoubled.stored.mem_iff.1 (List.mem_map_of_mem hu)
  rcases htraced.rest_peerless hrepetition.doubled (List.Subset.refl _) hfalls
    hkeys hplayed hfinal hmem (hjudged _ hmem) with ⟨v, hv, -, hr⟩ | hall
  · exact (not_peerless_of_untouched _ v hv hr).elim
  · exact hall u hu rfl

/-- A batch that was absorbed by a built-in provider with an unbounded window,
and is fetched again, never leads to a write, if its clocks show the time of
one offset of whole seconds. Where the backfill window lies in the calendar,
the sync is quiet unless the first run loaded nothing, and so inserted the
batch without asking the chain, which would not have accounted for the batch;
or several matchers form the chain, and a booked transaction of the batch
shares a usable key of theirs with a row that was tolerated unmatched. -/
theorem determineByChain_repeats {offset : Int} {newId' : Nat → String}
    {now' : DateTime} (hprovider : provider ∈ Registry.builtIn.providers)
    (hwindow : provider.window = .unbounded) (hs : s.HasDistinctIds)
    (hfresh : s.FreshIds newId j.drawn j'.drawn)
    (hoffset : ∀ m ∈ batch, m.record.dateTime.zone = .offset offset)
    (hseconds : (ticksPerSecond : Int) ∣ offset)
    (hnan : ∀ m ∈ batch, m.record.hasNan = false)
    (hbackoff : 0 ≤ settings.dateBackoffDays)
    (h : Returns (determineByChain newId now settings provider
    account.accountId batch
      fun date => pure (s.since date)) j i j')
    (happly : s.apply account currency later i = .ok after) (k : Journal) :
    NeverWrites (determineByChain newId' now' settings provider
      account.accountId batch
        fun date => pure (after.since date)) k ∧
    ∀ selection j₁ results j₂ j₃,
      Returns (selectStoredWindow settings provider.name (bookedIn batch)
        fun date =>
        pure (s.since date)) j selection j₁ →
      Returns (provider.reconcile (bookedIn batch) (bookedOf selection.kept)) j₂
        results j₃ →
      (selection.kept = [] → ∀ u ∈ results.last.unmatchedReported,
        u.reason = .peerless) →
      (1 < provider.matchers.length → ∀ t ∈ bookedIn batch,
        ∀ m ∈ results.last.unmatchedStored.map (·.transaction),
        ∀ matcher ∈ provider.matchers, ¬ matcher.SharesKey t m) →
      (∀ m ∈ bookedIn batch,
        ∃ d, m.record.date.addDays? (-settings.backfillWindowDays) = some d) →
      IsQuiet (determineByChain newId' now' settings provider
        account.accountId batch
        fun date => pure (after.since date)) k := by
  by_cases hne : bookedIn batch = []
  · have hquiet : IsQuiet (determineByChain newId' now' settings provider
        account.accountId batch
        fun date => pure (after.since date)) k := isQuiet_of_nothingBooked hne k
    exact ⟨Or.inl hquiet, fun _ _ _ _ _ _ _ _ _ _ => hquiet⟩
  have hmem : ∀ m ∈ bookedIn batch, m ∈ batch :=
    fun m hm => (List.mem_filter.1 hm).1
  have hbooked : ∀ m ∈ bookedIn batch, m.record.status = .booked :=
    fun m hm => eq_of_beq (List.mem_filter.1 hm).2
  obtain ⟨selection, j₁, tolerated, plan, fresh, hselection, habsorbed⟩ :=
    absorbed_of_determined hwindow hs hfresh hne (determineByChain_spec h)
  -- what the second run loads are the rows of the batch and those that the
  -- first run tolerated
  obtain ⟨selection', k', pairs, rest, hselection', hreloads⟩ :=
    habsorbed.selection_again hs hbooked (fun m hm => hnan m (hmem m hm))
      (fun m hm => hoffset m (hmem m hm)) hseconds hbackoff happly hselection k
  have hrepetition :=
    habsorbed.repetition hprovider hwindow hne hbooked hreloads
  obtain ⟨final, hfinal⟩ := hrepetition.exists_final
  refine ⟨?_, ?_⟩
  · by_cases hpeerless : ∀ u ∈ final.unmatchedStored, u.reason = .peerless
    · obtain ⟨m, -, hquiet, hbeyond⟩ :=
        hrepetition.instructionByChain_ignores hfinal hpeerless newId'
        now' settings.backfillWindowDays (some account.accountId) k'
      cases hthreshold : m.record.date.addDays? (-settings.backfillWindowDays)
      with
      | some d =>
        exact Or.inl (hrepetition.isQuiet hselection' (hquiet d hthreshold))
      | none =>
        exact Or.inr (Or.inr
          (hrepetition.refuses hselection' (hbeyond hthreshold)))
    · obtain ⟨why, hwhy⟩ :=
        hrepetition.instructionByChain_refuses hfinal hpeerless newId' now'
        settings.backfillWindowDays (some account.accountId) k'
      exact Or.inr (Or.inl ⟨why, hrepetition.refuses hselection' hwhy⟩)
  · intro selection₀ _ results _ _ hselection₀ hresults hpeerless
      hapart hcalendar
    obtain ⟨rfl, -⟩ := hselection₀.unique hselection
    obtain ⟨m, hm, hquiet, -⟩ := hrepetition.instructionByChain_ignores hfinal
      (habsorbed.peerless_again hprovider hreloads hrepetition hfinal hresults
        hpeerless hapart) newId' now'
      settings.backfillWindowDays (some account.accountId) k'
    obtain ⟨d, hthreshold⟩ := hcalendar m hm
    exact hrepetition.isQuiet hselection' (hquiet d hthreshold)

end Twice

end ChainSync

/-! ## Batches that are fetched twice -/

/-- A store with a row of the growing batch, and a row of its first day that has
another amount. -/
def Sample.tolerant : Store :=
  ⟨[Sample.stored "r1" "x" "tea" (Sample.day 3),
    { Sample.stored "r2" "z" "rye" (Sample.day 3)
      with amount := .finite true 300 (-2) }]⟩

/-- The sync of a batch with the rows of a store. -/
def Sample.fetched (settings : SyncSettings) (provider : Provider)
    (batch : List (Member Reported)) (s : Store) : Run Instruction :=
  determineByChain Sample.newId Sample.now settings provider
    Sample.account.accountId batch
    fun date => pure (s.since date)

/-- The first sync of the growing batch by the bank's chain. -/
def Sample.absorbing : Run Instruction :=
  Sample.fetched .standard Sample.bank Sample.growing Sample.tolerant

/-- Its instruction. -/
def Sample.absorbed : Instruction :=
  (Sample.absorbing.run.run .empty).1.toOption.getD .empty

/-- The selection of its rows. -/
def Sample.absorbedSelection : Run StoredWindow.Selection :=
  selectStoredWindow .standard Sample.bank.name
    (ChainSync.bookedIn Sample.growing) fun date =>
    pure (Sample.tolerant.since date)

/-- The rows that it kept in the window. -/
def Sample.absorbedWindow : StoredWindow.Selection :=
  (Sample.absorbedSelection.run.run .empty).1.toOption.getD ⟨[], 0, []⟩

/-- Its chain. -/
def Sample.absorbedChain : Run MatchResults :=
  Sample.bank.reconcile (ChainSync.bookedIn Sample.growing)
    (ChainSync.bookedOf Sample.absorbedWindow.kept)

/-- The results of its chain. -/
def Sample.absorbedResults : MatchResults :=
  (Sample.absorbedChain.run.run .empty).1.toOption.getD (.of (.start [] []))

theorem absorbed_repeats :
    ∃ j after, Returns Sample.absorbing .empty Sample.absorbed j ∧
      Sample.absorbed.toInsert ≠ [] ∧
      Sample.absorbedResults.last.unmatchedStored ≠ [] ∧
      Sample.tolerant.apply Sample.account "EUR" Sample.now Sample.absorbed =
        .ok after ∧
      ChainSync.IsQuiet (Sample.fetched .standard Sample.bank Sample.growing
        after) j := by
  have hids : Sample.tolerant.HasDistinctIds := by
    unfold Store.HasDistinctIds
    decide
  have hrun : (Sample.absorbing.run.run .empty).1 = .ok Sample.absorbed := by
      decide +kernel
  have hfresh : Sample.tolerant.FreshIds Sample.newId Journal.empty.drawn
      (Sample.absorbing.run.run .empty).2.drawn :=
        ⟨by decide +kernel, by decide +kernel⟩
  have happly : Sample.tolerant.apply Sample.account "EUR" Sample.now
      Sample.absorbed =
      .ok ((Sample.tolerant.apply Sample.account "EUR" Sample.now
        Sample.absorbed).toOption.getD
        Sample.tolerant) := by decide +kernel
  have hoffset : ∀ m ∈ Sample.growing, m.record.dateTime.zone = .offset 0 := by
      decide
  have hselection :=
    returns_of_run (r := Sample.absorbedSelection) (j := .empty)
    (a := Sample.absorbedWindow) (by decide +kernel)
  have hresults := returns_of_run (r := Sample.absorbedChain) (j := .empty)
    (a := Sample.absorbedResults) (by decide +kernel)
  refine ⟨_, _, returns_of_run hrun, by decide +kernel, ?_, happly, ?_⟩
  · exact List.length_pos_iff.1 (by decide +kernel)
  refine (ChainSync.determineByChain_repeats Sample.bank_mem rfl hids hfresh
    hoffset (by decide)
    (by decide +kernel) (by decide) (returns_of_run hrun) happly _).2 _ _ _ _ _
      hselection hresults
    ?_ ?_ ?_
  · intro hnone
    exact absurd (congrArg List.length hnone) (by decide +kernel)
  · intro _
    decide +kernel
  · have hcalendar : ∀ m ∈ ChainSync.bookedIn Sample.growing,
        (m.record.date.addDays?
          (-SyncSettings.standard.backfillWindowDays)).isSome = true := by
      decide +kernel
    exact fun m hm => Option.isSome_iff_exists.1 (hcalendar m hm)

/-- Settings under which a sync does not load the rows of the earliest day. -/
def Sample.narrow : SyncSettings :=
  { SyncSettings.standard with dateBackoffDays := -1 }

/-- With a negative number of days to back off, a batch that was absorbed is
inserted again. -/
theorem narrow_inserts_again :
    ∃ i j after i' j',
    Returns (Sample.fetched Sample.narrow Sample.bank Sample.growing ⟨[]⟩)
        .empty i j ∧
      (⟨[]⟩ : Store).apply Sample.account "EUR" Sample.now i = .ok after ∧
      Returns (Sample.fetched Sample.narrow Sample.bank Sample.growing after) j
        i' j' ∧
      i'.toInsert ≠ [] := by
  let first := (Sample.fetched Sample.narrow Sample.bank Sample.growing
    ⟨[]⟩).run.run .empty
  let i := first.1.toOption.getD .empty
  let after := ((⟨[]⟩ : Store).apply Sample.account "EUR" Sample.now
    i).toOption.getD ⟨[]⟩
  let again := (Sample.fetched Sample.narrow Sample.bank Sample.growing
    after).run.run first.2
  exact ⟨i, _, after, again.1.toOption.getD .empty, _,
    returns_of_run (by decide +kernel),
    by decide +kernel, returns_of_run (by decide +kernel), by decide +kernel⟩

/-- A bank whose transactions are matched by external id alone. -/
def Sample.plainBank : Provider :=
  ⟨"ASN_BANK", .unbounded, [BuiltIn.externalIdAmountStrict.matcher]⟩

/-- The instruction that inserts the twins into an empty store. -/
def Sample.twinsInserted : Instruction :=
  ((Sample.fetched .standard Sample.plainBank Sample.twins ⟨[]⟩).run.run
    .empty).1.toOption.getD
    .empty

/-- The store with the twins. -/
def Sample.twinsStored : Store :=
  ((⟨[]⟩ : Store).apply Sample.account "EUR" Sample.now
    Sample.twinsInserted).toOption.getD ⟨[]⟩

/-- A batch that was absorbed is not always quiet when it is fetched again: an
empty store takes the twins as they are, and then their key is found repeated on
both sides, and the sync is refused. -/
theorem fetched_again_not_always_returns :
    ¬ ∀ provider ∈ Registry.builtIn.providers, provider.window = .unbounded →
      ∀ (newId : Nat → String) (now now' later : DateTime) (account : Account)
        (currency : String)
        (s after : Store) (batch : List (Member Reported)) (offset : Int)
          (i : Instruction)
        (j j' : Journal),
        s.HasDistinctIds → s.BelongsTo account currency →
        s.FreshIds newId j.drawn j'.drawn →
        (∀ m ∈ batch, m.record.dateTime.zone = .offset offset) →
        (∀ m ∈ batch, m.record.hasNan = false) →
        Returns (determineByChain newId now .standard provider
          account.accountId batch
          fun date => pure (s.since date)) j i j' →
        s.apply account currency later i = .ok after →
        ChainSync.IsQuiet (determineByChain newId now' .standard provider
          account.accountId batch
          fun date => pure (after.since date)) j' := by
  intro h
  have hrun : ((Sample.fetched .standard Sample.plainBank Sample.twins
      ⟨[]⟩).run.run .empty).1 = .ok Sample.twinsInserted := by decide +kernel
  have hfresh : (⟨[]⟩ : Store).FreshIds Sample.newId Journal.empty.drawn
      ((Sample.fetched .standard Sample.plainBank Sample.twins ⟨[]⟩).run.run
        .empty).2.drawn :=
    ⟨by decide +kernel, by decide +kernel⟩
  have happly : (⟨[]⟩ : Store).apply Sample.account "EUR" Sample.now
      Sample.twinsInserted = .ok Sample.twinsStored := by decide +kernel
  have hrefused : ((Sample.fetched .standard Sample.plainBank Sample.twins
      Sample.twinsStored).run.run
        ((Sample.fetched .standard Sample.plainBank Sample.twins ⟨[]⟩).run.run
          .empty).2).1.toOption =
      none := by decide +kernel
  have hfound : Registry.builtIn.find? "ASN_BANK" = some Sample.plainBank := rfl
  obtain ⟨i, j, hreturns, -⟩ :=
    h Sample.plainBank (Registry.mem_of_find? hfound) rfl Sample.newId
    Sample.now Sample.now
    Sample.now Sample.account "EUR" ⟨[]⟩ Sample.twinsStored Sample.twins 0
      Sample.twinsInserted .empty
    _ List.nodup_nil (fun _ hr => absurd hr List.not_mem_nil) hfresh (by decide)
    (by decide +kernel) (returns_of_run hrun) happly
  have hok := congrArg (fun r => r.1.toOption) hreturns
  cases hrefused.symm.trans hok

end LedgerSync
