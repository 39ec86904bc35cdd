import LedgerSync.Proofs.Matching.Verdicts
import LedgerSync.Proofs.Sync.ChainPlan

/-!
# Keys shared by inserts and leftovers

A reconciliation by a chain inserts the reported transactions that it leaves
unmatched, and tolerates stored ones on the oldest reported day. When an insert
shares a usable key with such a leftover, the round of that key found one of the
two a duplicate, and only the verdict of another round let it pass as peerless
(`Chained.overruled_of_sharesKey`). With a single matcher there is no other
round, so no key is shared at all.
-/

namespace LedgerSync

open Run Matching

namespace ChainSync

variable {newId : Nat → String} {provider : Provider}
  {reported : List (Member Reported)} {stored : List (Member Stored)}
  {now : DateTime} {backfillWindowDays : Int} {account : Option Uuid}
  {i : Instruction} {w : Windowed} {results : MatchResults} {plan : Plan}
  {moved fresh : List Assigned} {j j' : Journal}

namespace Chained

/-- An insert and a leftover share a key of the chain only where a duplicate was
overruled. -/
theorem overruled_of_sharesKey
    (hc : Chained newId provider reported stored j i j' w results plan moved
      fresh)
    {a : Assigned} (ha : a ∈ fresh) {s : Member Stored}
    (hs : s ∈ results.last.unmatchedStored.map (·.transaction)) {k : Nat}
    {m : Matcher} (hm : provider.matchers[k]? = some m)
    (hshared : m.SharesKey a.member s) :
    Party.reported.Overruled provider.matchers (.start w.reported w.stored) k
      a.member ∨
      Party.stored.Overruled provider.matchers
        (.start w.reported w.stored) k s := by
  obtain ⟨_, _, -, hresults⟩ := hc.ran
  have hplayed := playAll_of_reconcile hresults
  have hinserted : a.member ∈ results.last.unmatchedReported.map
      (·.transaction) :=
    hc.fresh_members.subset (List.mem_map_of_mem ha)
  obtain ⟨u, hu, hmember⟩ := List.mem_map.1 hinserted
  obtain ⟨v, hv, rfl⟩ := List.mem_map.1 hs
  obtain ⟨previous, round, hplays, hrest⟩ :=
    Party.reported.exists_playsAt hplayed hm hu
  have hduplicate := Matcher.duplicate_of_sharesKey hplays.played
    (Party.reported.left_subset hrest hinserted)
    (Party.stored.left_subset hrest (List.mem_map_of_mem hv)) hshared
  rcases hduplicate with hduplicate | hduplicate
  · left
    rw [← hmember] at hduplicate ⊢
    exact Party.reported.overruled_of_duplicate hplayed
      (not_peerless_of_untouched _) hu
      (hc.reported_peerless u hu) ⟨m, previous, round, hplays, hduplicate⟩
  · right
    exact Party.stored.overruled_of_duplicate hplayed
      (not_peerless_of_untouched _) hv
      (hc.stored_peerless v hv).1 ⟨m, previous, round, hplays, hduplicate⟩

/-- With a single matcher no insert shares a key with a leftover. -/
theorem not_sharesKey_of_single
    (hc : Chained newId provider reported stored j i j' w results plan moved
      fresh)
    (hsingle : provider.matchers.length = 1) {a : Assigned} (ha : a ∈ fresh)
    {s : Member Stored}
    (hs : s ∈ results.last.unmatchedStored.map (·.transaction))
    {m : Matcher} (hm : m ∈ provider.matchers) :
    ¬ m.SharesKey a.member s := by
  intro hshared
  obtain ⟨k, hk⟩ := List.mem_iff_getElem?.1 hm
  have hseveral : 1 < provider.matchers.length := by
    rcases hc.overruled_of_sharesKey ha hs hk hshared with h | h
    · exact h.one_lt_length
    · exact h.one_lt_length
  omega

end Chained

/-- The inserts of a run are moved records under ids of the store and new ones
under fresh ids. If a new one shares a usable key of the chain with a stored
transaction of the sync window that was left unmatched, then that transaction
lies on the oldest reported day, and the round of the key found one of the two a
duplicate and was overruled by another round. -/
theorem instructionByChain_shares_overruled_keys
    (h : Returns (instructionByChain newId now backfillWindowDays provider
      account reported stored) j i j') :
    ∃ w results j₁ j₂, Returns (cut provider reported stored) j w j₁ ∧
      Returns (provider.reconcile w.reported w.stored) j₁ results j₂ ∧
      ∃ moved fresh, i.toInsert = moved ++ fresh ∧
        moved.map (·.id) ⊆ stored.map (·.record.id) ∧
        fresh.map (·.id) = (List.range' j.drawn fresh.length).map newId ∧
        ∀ a ∈ fresh, ∀ s ∈ results.last.unmatchedStored.map (·.transaction),
          ∀ k m, provider.matchers[k]? = some m → m.SharesKey a.member s →
            s.record.date = w.oldestReported ∧
              (Party.reported.Overruled provider.matchers
                (.start w.reported w.stored) k a.member ∨
                Party.stored.Overruled provider.matchers
                  (.start w.reported w.stored) k s) := by
  obtain ⟨w, results, plan, moved, fresh, hc⟩ := instructionByChain_spec h
  obtain ⟨j₁, j₂, hcut, hresults⟩ := hc.ran
  refine ⟨w, results, j₁, j₂, hcut, hresults, moved, fresh, hc.toInsert,
    hc.moved_ids_subset, hc.fresh_ids, ?_⟩
  intro a ha s hs k m hm hshared
  refine ⟨?_, hc.overruled_of_sharesKey ha hs hm hshared⟩
  obtain ⟨u, hu, rfl⟩ := List.mem_map.1 hs
  exact (hc.stored_peerless u hu).2

end ChainSync

/-! ## Twins -/

/-- A reported transaction. -/
def Sample.twin : Member Reported :=
  ⟨0, Sample.reported "x" "tea" (Sample.day 3)⟩

/-- The transaction and another one with its external id. -/
def Sample.twins : List (Member Reported) :=
  [Sample.twin, ⟨1, Sample.reported "x" "milk" (Sample.day 3)⟩]

/-- A stored transaction with the external id of the twins. -/
def Sample.leftover : Member Stored :=
  ⟨0, Sample.stored "r1" "x" "rye" (Sample.day 3)⟩

/-- The reconciliation of the twins with the stored transaction by the bank's
chain. -/
def Sample.ambiguous : Run Instruction :=
  instructionByChain Sample.newId Sample.now 7 Sample.bank none Sample.twins
    [Sample.leftover]

/-- The instruction of that reconciliation. -/
def Sample.doubling : Instruction :=
  (Sample.ambiguous.run.run .empty).1.toOption.getD .empty

/-- Its sync window. -/
def Sample.wholeWindow : ChainSync.Windowed :=
  ⟨.unbounded, Sample.twins, [Sample.leftover], Sample.day 3⟩

/-- Its chain. -/
def Sample.ambiguousChain : Run MatchResults :=
  Sample.bank.reconcile Sample.twins [Sample.leftover]

/-- The results of its chain. -/
def Sample.ambiguousResults : MatchResults :=
  (Sample.ambiguousChain.run.run .empty).1.toOption.getD (.of (.start [] []))

theorem ambiguous_returns : Returns Sample.ambiguous .empty Sample.doubling
    (Sample.ambiguous.run.run .empty).2 :=
  returns_of_run (by decide +kernel)

theorem wholeWindow_returns :
    Returns (ChainSync.cut Sample.bank Sample.twins [Sample.leftover])
    .empty Sample.wholeWindow .empty :=
  returns_of_run rfl

theorem ambiguousChain_returns :
    Returns Sample.ambiguousChain .empty Sample.ambiguousResults
    (Sample.ambiguousChain.run.run .empty).2 :=
  returns_of_run (by decide +kernel)

theorem leftover_unmatched :
    Sample.leftover ∈ Sample.ambiguousResults.last.unmatchedStored.map
      (·.transaction) := by
  decide +kernel

/-- One of the twins is inserted under a fresh id. -/
theorem twin_inserted :
    ⟨Sample.twin, "new-0", .regular⟩ ∈ Sample.doubling.toInsert ∧
    "new-0" ∉ [Sample.leftover].map (·.record.id) := by
  decide +kernel

theorem twin_sharesKey :
    BuiltIn.externalIdAmountStrict.matcher.SharesKey Sample.twin
      Sample.leftover := by
  let key : Key := [⟨"external-id", some (.text "x")⟩,
    ⟨"amount", some (.cents (-1250))⟩]
  exact ⟨key, key, by decide +kernel, by decide +kernel, by decide +kernel⟩

theorem twin_shares_overruled_key :
    Sample.leftover.record.date = Sample.wholeWindow.oldestReported ∧
      (Party.reported.Overruled Sample.bank.matchers
        (.start Sample.twins [Sample.leftover]) 0 Sample.twin ∨
        Party.stored.Overruled Sample.bank.matchers
          (.start Sample.twins [Sample.leftover]) 0 Sample.leftover) := by
  obtain ⟨w, results, j₁, j₂, hcut, hresults, moved, fresh, hinsert, hmoved, -,
    hshared⟩ :=
    ChainSync.instructionByChain_shares_overruled_keys ambiguous_returns
  obtain ⟨rfl, rfl⟩ := hcut.unique wholeWindow_returns
  obtain ⟨rfl, -⟩ := hresults.unique ambiguousChain_returns
  obtain ⟨hmem, hid⟩ := twin_inserted
  rw [hinsert] at hmem
  rcases List.mem_append.1 hmem with hm | hf
  · exact absurd (hmoved (List.mem_map_of_mem hm)) hid
  · exact hshared _ hf _ leftover_unmatched 0 _ rfl twin_sharesKey

/-- A key that an insert shares with a leftover is not always refused: the first
matcher of the bank finds the twins duplicates, the second one finds them
peerless, and both are inserted beside a stored transaction with their external
id and amount. -/
theorem shared_key_not_always_refused :
    ¬ ∀ provider ∈ Registry.builtIn.providers,
    ∀ (newId : Nat → String) (now : DateTime)
      (backfillWindowDays : Int) (account : Option Uuid)
        (reported : List (Member Reported))
      (stored : List (Member Stored)) (i : Instruction) (w : ChainSync.Windowed)
      (results : MatchResults) (j j' j₁ j₂ : Journal),
      Returns (instructionByChain newId now backfillWindowDays provider account
        reported stored) j i j' →
      Returns (ChainSync.cut provider reported stored) j w j₁ →
      Returns (provider.reconcile w.reported w.stored) j₁ results j₂ →
      ∀ a ∈ i.toInsert, a.id ∉ stored.map (·.record.id) →
        ∀ s ∈ results.last.unmatchedStored.map (·.transaction),
          ∀ m ∈ provider.matchers, ¬ m.SharesKey a.member s := by
  intro h
  obtain ⟨hmem, hid⟩ := twin_inserted
  exact h Sample.bank Sample.bank_mem _ _ _ _ _ _ _ _ _ _ _ _ _
    ambiguous_returns wholeWindow_returns
    ambiguousChain_returns _ hmem hid _ leftover_unmatched _ List.mem_cons_self
      twin_sharesKey

end LedgerSync
