import LedgerSync.Proofs.Sync.WindowBounds

/-!
# Windows of numbered transactions

Some banks number the transactions of an account. Rows whose numbers are below
all numbers of a batch belong to an earlier period and are left out, provided
that the batch is numbered without gaps; and a row is kept by the id of a
transaction whatever its time. The first rule reads ids as integers and the
second one as texts, and the first is applied first. They agree all the same:
equal texts are equal integers, and none of the integers of a batch is below all
of them (`selectStoredWindow_relies_on_ids`).
-/

namespace LedgerSync

open Run

namespace StoredWindow

variable {settings : SyncSettings} {provider : String}
  {batch : List (Member Reported)}

theorem isListed_iff {providers : List String} :
    isListed provider providers = true ↔
      ∃ p ∈ providers, Text.toUpper p = Text.toUpper provider := by
  rw [isListed, List.contains_iff_mem, List.mem_map]

/-! ## What is left out and what is kept -/

/-- The batch is numbered without gaps, and the external id is a smaller number
than all of its own. -/
structure Below (batch : List (Member Reported)) (id : Option String) :
    Prop where
  numbered : Numbered batch
  smaller : ∃ n, integerId? id = some n ∧ ∀ k, Numbers batch k → n < k

/-- A row is left out for its id when its number is below all numbers of a
numbered batch. -/
theorem survives_eq_false_iff (hne : batch ≠ [])
    (hlisted : isListed provider settings.contiguousExternalIdProviders = true)
    {r : Stored} :
    survives settings provider batch r = false ↔ Below batch r.externalId := by
  rw [survives, hlisted]
  constructor
  · intro h
    cases hbound : pruningBound provider batch with
    | error => simp [hbound] at h
    | ok lowest =>
      obtain ⟨hnumbered, -, hle⟩ := pruningBound_eq_ok_iff.1 hbound
      obtain ⟨n, hn, hlt⟩ : ∃ n, integerId? r.externalId = some n ∧
          n < lowest := by
        simpa [hbound, isBelow, Option.any_eq_true] using h
      exact ⟨hnumbered, n, hn, fun k hk => Int.lt_of_lt_of_le hlt (hle k hk)⟩
  · rintro ⟨hnumbered, n, hn, hlt⟩
    obtain ⟨lowest, hbound⟩ : ∃ lowest, pruningBound provider batch =
        .ok lowest :=
      hnumbered.exists_pruningBound hne
    have hlowest := hlt lowest (pruningBound_eq_ok_iff.1 hbound).2.1
    simp [hbound, isBelow, hn, hlowest]

/-- Sorting puts every row either into the window or out of it. -/
theorem mem_sort_iff {earliest : Moment} {keepIds : List String}
    {stored : List (Member Stored)} {e : Member Stored} :
    (e ∈ (sort earliest keepIds stored).kept ∨
      ∃ reason, (reason, e) ∈ (sort earliest keepIds stored).evicted) ↔
      e ∈ stored := by
  simp only [sort, List.mem_filterMap, List.mem_map]
  constructor
  · rintro (⟨_, ⟨e', he', rfl⟩, h⟩ | ⟨reason, _, ⟨e', he', rfl⟩, h⟩)
    · dsimp only at h
      split at h
      case h_3 => cases h
      all_goals exact Option.some.inj h ▸ he'
    · dsimp only at h
      split at h
      case h_2 => cases h
      exact (Prod.mk.inj (Option.some.inj h)).2 ▸ he'
  · intro he
    cases hplace : place earliest keepIds e.record with
    | kept => exact Or.inl ⟨_, ⟨e, he, rfl⟩, by simp [hplace]⟩
    | keptOnDate => exact Or.inl ⟨_, ⟨e, he, rfl⟩, by simp [hplace]⟩
    | evicted reason => exact Or.inr ⟨reason, _, ⟨e, he, rfl⟩, by simp [hplace]⟩

/-- A row with the id of a transaction is kept, where ids can be relied on. -/
theorem holds_of_reported {earliest : Moment} {id : String} {r : Stored}
    (hlisted : isListed provider settings.externalIdWindowProviders = true)
    (hid : r.externalId = some id) (hne : id ≠ "") {m : Member Reported}
    (hm : m ∈ batch) (hreported : m.record.externalId = some id) :
    holds settings provider batch earliest r = true := by
  have hmem : id ∈ keepIds settings provider batch := by
    rw [keepIds, if_pos hlisted]
    exact List.mem_filter.2 ⟨List.mem_filterMap.2 ⟨m, hm, hreported⟩,
      decide_eq_true hne⟩
  refine holds_of_place (p := .kept)
    (survives_of_externalId hm (hid.trans hreported.symm)) ?_ (Or.inl rfl)
  rw [place, hid, Option.any_some, if_pos]
  rw [Bool.and_eq_true]
  exact ⟨decide_eq_true hne, List.contains_iff_mem.2 hmem⟩

end StoredWindow

section Numbered

variable {settings : SyncSettings} {provider : String}
  {batch : List (Member Reported)}

/-- For a provider whose ids are relied on and numbered, in whatever case it is
listed: the window keeps every row with the id of a transaction, whatever its
time; and the rows that are neither kept nor evicted for their time are those
whose number is below all numbers of a batch without gaps. -/
theorem selectStoredWindow_relies_on_ids {earliest : Moment} {since : Date}
    (hwindow : ∃ p ∈ settings.externalIdWindowProviders,
      Text.toUpper p = Text.toUpper provider)
    (hnumbers : ∃ p ∈ settings.contiguousExternalIdProviders,
      Text.toUpper p = Text.toUpper provider)
    (hearliest : Moment.earliest? (batch.map (·.record.dateTime)) =
      some earliest)
    (hsince : earliest.date.addDays? (-settings.dateBackoffDays) = some since)
    (rows : Date → List (Member Stored)) (j : Journal) :
    ∃ selection j', Returns
      (selectStoredWindow settings provider batch fun date =>
        pure (rows date)) j selection j' ∧
      (∀ e ∈ rows since, ∀ id, e.record.externalId = some id → id ≠ "" →
        (∃ m ∈ batch, m.record.externalId = some id) → e ∈ selection.kept) ∧
      ∀ e ∈ rows since,
        (e ∉ selection.kept ∧ ∀ reason, (reason, e) ∉ selection.evicted) ↔
          StoredWindow.Below batch e.record.externalId := by
  obtain ⟨selection, j', hreturns, hkept, -⟩ :=
    selectStoredWindow_kept hearliest hsince provider rows j
  refine ⟨selection, j', hreturns, ?_, ?_⟩
  · rintro e he id hid hne ⟨m, hm, hreported⟩
    rw [hkept]
    exact List.mem_filter.2 ⟨he, StoredWindow.holds_of_reported
      (StoredWindow.isListed_iff.2 hwindow) hid hne hm hreported⟩
  · intro e he
    have hne : batch ≠ [] := by
      rintro rfl
      cases hearliest
    obtain ⟨_, _, _, _, hearliest', hsince', hload, -, rfl⟩ :=
      selectStoredWindow_steps hreturns
    obtain rfl := Option.some.inj (hearliest.symm.trans hearliest')
    obtain rfl := Option.some.inj (hsince.symm.trans hsince')
    obtain ⟨rfl, -⟩ := returns_pure.1 hload
    rw [← StoredWindow.survives_eq_false_iff hne
      (StoredWindow.isListed_iff.2 hnumbers),
      ← not_exists, ← not_or, StoredWindow.mem_sort_iff, StoredWindow.pruned_eq,
      List.mem_filter, not_and, Bool.not_eq_true]
    exact ⟨fun h => h he, fun h _ => h⟩

/-- A bank whose ids are relied on and numbered, listed in two cases. -/
def Sample.numberedBank : SyncSettings :=
  { SyncSettings.standard with
    externalIdWindowProviders := ["Bank"], contiguousExternalIdProviders :=
      ["BANK"] }

/-- Payments whose ids are written in several ways: 7 and, twice, 8. -/
def Sample.numbered : List (Member Reported) :=
  [⟨0, Sample.reported "8" "rye" (Sample.day 4)⟩,
    ⟨1, Sample.reported " 007" "tea" (Sample.day 4)⟩,
    ⟨2, Sample.reported "+8" "oat" (Sample.day 4)⟩]

/-- A row of the day before with an id of a payment, and one of a later day with
a smaller number. -/
def Sample.numberedRows : List (Member Stored) :=
  [Sample.storedAt " 007" "tea" (Sample.midnight (Sample.day 3)),
    Sample.storedAt "06" "tea" (Sample.midnight (Sample.day 5))]

theorem numbered_relies_on_ids :
    ∃ selection j', Returns (selectStoredWindow Sample.numberedBank "bank"
      Sample.numbered fun _ =>
        pure Sample.numberedRows) .empty selection j' ∧
      Sample.storedAt " 007" "tea" (Sample.midnight (Sample.day 3)) ∈
      selection.kept ∧
      Sample.storedAt "06" "tea" (Sample.midnight (Sample.day 5)) ∉
        selection.kept := by
  have hearliest : Moment.earliest? (Sample.numbered.map (·.record.dateTime)) =
      some (Sample.midnight (Sample.day 4)) := by decide +kernel
  have hsince : (Sample.midnight (Sample.day 4)).date.addDays? (-1) =
      some (Sample.day 3) := by
    decide +kernel
  have hbound : StoredWindow.pruningBound "bank" Sample.numbered = .ok 7 := by
      decide +kernel
  obtain ⟨hnumbered, -, hle⟩ := StoredWindow.pruningBound_eq_ok_iff.1 hbound
  obtain ⟨selection, j', hreturns, hkept, hout⟩ :=
    @selectStoredWindow_relies_on_ids Sample.numberedBank "bank"
      Sample.numbered _ _
      ⟨"Bank", by decide +kernel⟩ ⟨"BANK", by decide +kernel⟩ hearliest hsince
      (fun _ => Sample.numberedRows) .empty
  refine ⟨selection, j', hreturns, ?_, ?_⟩
  · exact hkept _ List.mem_cons_self " 007" rfl (by decide)
      ⟨_, List.mem_cons_of_mem _ List.mem_cons_self, rfl⟩
  · refine ((hout _ (List.mem_cons_of_mem _ List.mem_cons_self)).2 ⟨hnumbered,
      6, ?_, ?_⟩).1
    · decide +kernel
    · intro k hk
      exact Int.lt_of_lt_of_le (by decide) (hle k hk)

end Numbered

end LedgerSync
