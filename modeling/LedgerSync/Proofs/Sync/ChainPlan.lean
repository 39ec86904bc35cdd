import LedgerSync.Proofs.Sync.ChainRun
import LedgerSync.Proofs.Sync.Selection

/-!
# Reconciling by a chain, as a plan

A sync by a chain of matchers divides the rows it loaded (`ChainSync.Division`):
booked rows that the sync window cuts off or that are tolerated unmatched are
left alone, booked rows that are matched are replaced, and pending rows are
dropped. The matched rows have the plan of the chain, the pending ones are
appended to it, and the reported transactions that are kept by the window are
those of the plan and the fresh inserts (`determineByChain_plan`).
-/

namespace LedgerSync

open Run Matching

/-- Rows without some of them are the other loaded rows and those that were not
loaded. -/
theorem Store.without_perm {s : Store} {loaded gone left : List Stored}
    (hs : s.HasDistinctIds) (hloaded : loaded.Subperm s.rows)
    (hparts : loaded.Perm (gone ++ left)) :
    (s.without gone).Perm (s.without loaded ++ left) := by
  obtain ⟨l, hperm, hsub⟩ := hloaded
  have hnodup : (gone ++ left).Nodup :=
    hparts.nodup_iff.1 (hperm.nodup_iff.1 (hs.rows_nodup.sublist hsub))
  rw [List.nodup_append'] at hnodup
  obtain ⟨-, hleft, hdisjoint⟩ := hnodup
  have hright : (s.without loaded ++ left).Nodup := by
    rw [List.nodup_append']
    refine ⟨without_nodup hs loaded, hleft, ?_⟩
    intro r hr hl
    exact not_mem_of_mem_without hr
      (hparts.mem_iff.2 (List.mem_append_right _ hl))
  rw [List.perm_ext_iff_of_nodup (without_nodup hs gone) hright]
  intro r
  rw [List.mem_append, mem_without, mem_without, hparts.mem_iff,
    List.mem_append, not_or]
  constructor
  · rintro ⟨hr, hg⟩
    by_cases hl : r ∈ left
    · exact Or.inr hl
    · exact Or.inl ⟨hr, hg, hl⟩
  · rintro (⟨hr, hg, -⟩ | hl)
    · exact ⟨hr, hg⟩
    · have hmem : r ∈ loaded := hparts.mem_iff.2 (List.mem_append_right _ hl)
      exact ⟨hsub.subset (hperm.mem_iff.2 hmem), fun hg => hdisjoint hg hl⟩

/-- A part of a list without repetition and the rest of the list. -/
theorem perm_part_append_rest {α : Type} [DecidableEq α] {part l : List α}
    (hl : l.Nodup) (hsub : part.Sublist l) :
    l.Perm (part ++ l.filter fun a => decide (a ∉ part)) := by
  have hrest : (part ++ l.filter fun a => decide (a ∉ part)).Nodup := by
    rw [List.nodup_append']
    refine ⟨hl.sublist hsub, hl.sublist List.filter_sublist, ?_⟩
    intro a ha hr
    exact (of_decide_eq_true (List.mem_filter.1 hr).2) ha
  rw [List.perm_ext_iff_of_nodup hl hrest]
  intro a
  rw [List.mem_append, List.mem_filter, decide_eq_true_iff]
  constructor
  · intro ha
    by_cases hp : a ∈ part
    · exact Or.inl hp
    · exact Or.inr ⟨ha, hp⟩
  · rintro (hp | ⟨ha, -⟩)
    · exact hsub.subset hp
    · exact ha

namespace ChainSync

/-- Whether a transaction is booked. -/
abbrev bookedOf (ms : List (Member Stored)) : List (Member Stored) :=
  ms.filter fun m => m.record.status == .booked

/-- The pending ones of some stored transactions. -/
abbrev pendingOf (ms : List (Member Stored)) : List (Member Stored) :=
  ms.filter fun m => m.record.status == .pending

theorem booked_or_pending (ms : List (Member Stored)) :
    ms.Perm (bookedOf ms ++ pendingOf ms) := by
  have hpending : pendingOf ms = ms.filter fun m =>
      !(m.record.status == .booked) := by
    refine List.filter_congr fun m _ => ?_
    cases m.record.status <;> rfl
  rw [hpending]
  exact (List.filter_append_perm (fun m : Member Stored => m.record.status ==
    .booked) ms).symm

/-- How a sync by a chain divides the rows it loaded, and which reported
transactions it keeps. -/
structure Division where
  loaded : List (Member Stored)
  cutOff : List (Member Stored)
  tolerated : List (Member Stored)
  kept : List (Member Reported)

/-- The division that a run makes. Without loaded rows all booked transactions
are kept. Otherwise the sync window cuts both sides, and the chain tolerates
what it leaves peerless on the stored side. -/
inductive Divides (settings : SyncSettings) (provider : Provider)
    (booked : List (Member Reported)) (load : Loader) (j : Journal) :
    Division → Prop
  | nothingStored {selection : StoredWindow.Selection} {j₁ : Journal} :
      Returns (selectStoredWindow settings provider.name booked load) j
        selection j₁ →
      selection.kept = [] →
      Divides settings provider booked load j ⟨[], [], [], booked⟩
  | matched {selection : StoredWindow.Selection} {w : Windowed}
    {results : MatchResults}
      {j₁ j₂ j₃ : Journal} :
      Returns (selectStoredWindow settings provider.name booked load) j
        selection j₁ →
      selection.kept ≠ [] →
      Returns (cut provider booked (bookedOf selection.kept)) j₁ w j₂ →
      Returns (provider.reconcile w.reported w.stored) j₂ results j₃ →
      Divides settings provider booked load j {
        loaded := selection.kept
        cutOff := (bookedOf selection.kept).filter fun m =>
          decide (m ∉ w.stored)
        tolerated := (results.last.storedFor .peerless).map (·.transaction)
        kept := w.reported }

/-- The plan and the inserts of a run account for its division: the loaded rows
are those of the plan and those that are left alone, and the reported
transactions that are kept are those of the plan and the inserts. -/
structure Division.Accounted (d : Division) (s : Store) (plan : Plan)
    (fresh : List Assigned) :
    Prop where
  loaded : (d.loaded.map (·.record)).Subperm s.rows
  rows : (d.loaded.map (·.record)).Perm
    (plan.rows ++ (d.cutOff ++ d.tolerated).map (·.record))
  members : (plan.members ++ fresh.map (·.member)).Perm d.kept
  cents : ∀ m ∈ d.kept, ∃ n, m.record.cents = .ok n
  pending : ∀ m ∈ d.loaded, m.record.status = .pending → ⟨m, .dropped⟩ ∈ plan

section Determine

variable {newId : Nat → String} {now later : DateTime} {settings : SyncSettings}
  {provider : Provider} {s : Store} {account : Account} {currency : String}
  {batch : List (Member Reported)} {i : Instruction} {j j' : Journal}

/-- Rows that are dropped, as a plan. -/
theorem tracks_dropped (ms : List (Member Stored)) :
    Plan.Tracks (ms.map fun m => ⟨m, .dropped⟩) ms ms [] [] [] := by
  induction ms with
  | nil => exact .nil
  | cons m ms ih =>
    have hm : Fate.dropped.Suits m.record := trivial
    exact Plan.Tracks.append (.single hm) ih

theorem members_dropped (ms : List (Member Stored)) :
    Plan.members (ms.map fun m => ⟨m, .dropped⟩) = [] := by
  induction ms with
  | nil => rfl
  | cons m ms ih => exact ih

/-- The instruction for matched and pending rows carries out a plan that
accounts for the division. -/
theorem chained_accounted {selection : StoredWindow.Selection}
    {i₀ : Instruction} {w : Windowed} {results : MatchResults} {plan : Plan}
    {moved fresh : List Assigned} {booked : List (Member Reported)}
    (hs : s.HasDistinctIds)
    (hselected : (selection.kept.map (·.record)).Sublist s.rows)
    (hc : Chained newId provider booked (bookedOf selection.kept) j i₀ j' w
      results plan moved fresh)
    (hfresh : s.FreshIds newId j.drawn j'.drawn)
    (hdelete : i.toDelete = i₀.toDelete ++ pendingOf selection.kept)
    (hinsert : i.toInsert = i₀.toInsert) (hupdate : i.toUpdate = i₀.toUpdate)
    (hignore : i.toIgnore = i₀.toIgnore) :
    i.CarriesOut s (plan ++ (pendingOf selection.kept).map fun m =>
      ⟨m, .dropped⟩) fresh ∧ Division.Accounted {
        loaded := selection.kept
        cutOff := (bookedOf selection.kept).filter fun m =>
          decide (m ∉ w.stored)
        tolerated := (results.last.storedFor .peerless).map (·.transaction)
        kept := w.reported } s
        (plan ++ (pendingOf selection.kept).map fun m => ⟨m, .dropped⟩)
          fresh := by
  obtain ⟨_, _, hcut, -⟩ := hc.ran
  obtain ⟨hreported, hstored, -⟩ := cut_spec hcut
  have htracks := hc.tracks.append (tracks_dropped (pendingOf selection.kept))
  simp only [List.append_nil] at htracks
  rw [← hdelete, ← hupdate, ← hignore] at htracks
  -- every loaded row is matched, pending, cut off or tolerated
  have hnodup : (bookedOf selection.kept).Nodup :=
    (List.Nodup.of_map _ (hs.rows_nodup.sublist hselected)).sublist
      List.filter_sublist
  have hdivided : selection.kept.Perm
      ((results.last.matched.map (·.stored) ++ pendingOf selection.kept) ++
        ((bookedOf selection.kept).filter (fun m => decide (m ∉ w.stored)) ++
          (results.last.storedFor .peerless).map (·.transaction))) := by
    have hsplit := booked_or_pending selection.kept
    have hwindow := perm_part_append_rest hnodup hstored
    have hmatched := hc.stored_perm
    rw [List.perm_iff_count] at hsplit hwindow hmatched ⊢
    intro m
    have h₁ := hsplit m
    have h₂ := hwindow m
    have h₃ := hmatched m
    simp only [List.count_append] at h₁ h₂ h₃ ⊢
    omega
  have hrows := hdivided.map (·.record)
  rw [List.map_append, ← htracks.rows_eq] at hrows
  have hplanned : ((results.last.matched.map (·.stored) ++
      pendingOf selection.kept).map
      (·.record)).Subperm s.rows := by
    rw [← htracks.rows_eq]
    exact ((List.sublist_append_left _ _).subperm.trans
      hrows.symm.subperm).trans hselected.subperm
  rw [hc.drawn] at hfresh
  refine ⟨htracks.carriesOut (hinsert.trans hc.toInsert) hplanned
    hc.fresh_ids hfresh, {
    loaded := hselected.subperm
    rows := hrows
    members := ?_
    cents := fun m hm => hc.cents m (hreported.subset hm)
    pending := ?_ }⟩
  · rw [Plan.members_append, members_dropped, List.append_nil]
    exact hc.reported_perm
  · intro m hm hpending
    refine List.mem_append_right _
      (List.mem_map.2 ⟨m, List.mem_filter.2 ⟨hm, ?_⟩, rfl⟩)
    rw [hpending]
    exact beq_self_eq_true _

/-- Without loaded rows every booked transaction is inserted. -/
theorem inserted_accounted {fresh : List Assigned}
    {booked : List (Member Reported)} (hdelete : i.toDelete = [])
    (hinsert : i.toInsert = fresh) (hupdate : i.toUpdate = [])
    (hignore : i.toIgnore = []) (hmembers : fresh.map (·.member) = booked)
    (hids : fresh.map (·.id) = (List.range' j.drawn fresh.length).map newId)
    (hcents : ∀ m ∈ booked, ∃ n, m.record.cents = .ok n)
    (hfresh : s.FreshIds newId j.drawn (j.drawn + fresh.length)) :
    i.CarriesOut s [] fresh ∧ Division.Accounted ⟨[], [], [], booked⟩ s
      [] fresh := by
  have htracks : Plan.Tracks [] [] i.toDelete [] i.toUpdate i.toIgnore := by
    rw [hdelete, hupdate, hignore]
    exact .nil
  refine ⟨htracks.carriesOut hinsert (List.nil_sublist _).subperm hids hfresh, {
    loaded := (List.nil_sublist _).subperm
    rows := .refl _
    members := .of_eq hmembers
    cents := hcents
    pending := fun _ hm => absurd hm List.not_mem_nil }⟩

theorem eq_nil_of_earliest? {booked : List (Member Reported)}
    (h : ∀ oldest, Date.earliest? (booked.map (·.record.date)) =
      some oldest → False) :
    booked = [] := by
  cases booked with
  | nil => rfl
  | cons m ms => exact (h _ rfl).elim

/-- The booked transactions of a batch. -/
abbrev bookedIn (batch : List (Member Reported)) : List (Member Reported) :=
  batch.filter fun m => m.record.status == .booked

/-- The ways in which a sync by a chain returns. Without booked transactions it
does nothing. When it loaded nothing it gives ids to all of them, and counts
them then. Otherwise it leaves the booked rows that it loaded to the chain, and
deletes and counts the pending ones beside. -/
inductive Concludes (newId : Nat → String) (now : DateTime)
    (settings : SyncSettings) (provider : Provider) (accountId : Uuid)
    (batch : List (Member Reported)) (load : Loader) (j : Journal) :
    Instruction → Journal → Prop
  | nothingBooked : bookedIn batch = [] →
      Concludes newId now settings provider accountId batch load j .empty j
  | nothingStored {selection : StoredWindow.Selection} {oldest : Date}
    {fresh : List Assigned}
      {metrics : Metrics} {j₁ j₂ j' : Journal} :
      Date.earliest? ((bookedIn batch).map (·.record.date)) = some oldest →
      Returns (selectStoredWindow settings provider.name (bookedIn batch) load)
        j selection j₁ →
      selection.kept = [] →
      Returns (assignFresh newId .regular (bookedIn batch)) j₁ fresh j₂ →
      startMetrics provider.name (bookedIn batch) 0 = .ok metrics →
      j'.drawn = j₂.drawn →
      Concludes newId now settings provider accountId batch load j
        { Instruction.empty with
        toInsert := fresh
        metrics := some { metrics with
          reportedNew := fresh.length
          windowDateFallbacks := selection.dateFallbacks }
        oldestChanged := some oldest } j'
  | chained {selection : StoredWindow.Selection} {i : Instruction}
    {j₁ j₂ j' : Journal} :
      bookedIn batch ≠ [] →
      Returns (selectStoredWindow settings provider.name (bookedIn batch) load)
        j selection j₁ →
      selection.kept ≠ [] →
      Returns (instructionByChain newId now settings.backfillWindowDays provider
        (some accountId)
        (bookedIn batch) (bookedOf selection.kept)) j₁ i j₂ →
        j'.drawn = j₂.drawn →
      Concludes newId now settings provider accountId batch load j
        ((i.countAlso fun m => { m with
          storedTotal := m.storedTotal + (pendingOf selection.kept).length
          pendingNotMatched :=
            m.pendingNotMatched + (pendingOf selection.kept).length
          windowDateFallbacks := selection.dateFallbacks }).deleteAlso
            (pendingOf selection.kept)) j'

theorem concludes_of_returns {accountId : Uuid} {load : Loader}
    (h : Returns (determineByChain newId now settings provider accountId batch
      load) j i j') :
    Concludes newId now settings provider accountId batch load j i j' := by
  simp only [determineByChain] at h
  split at h
  case h_2 hnone =>
    obtain ⟨rfl, rfl⟩ := returns_pure.1 h
    exact .nothingBooked (eq_nil_of_earliest? hnone)
  next oldest holdest =>
  have hne : bookedIn batch ≠ [] := by
    intro hnil
    rw [bookedIn] at hnil
    rw [hnil] at holdest
    cases holdest
  rw [returns_bind] at h
  obtain ⟨selection, j₁, hselection, h⟩ := h
  split at h
  · next hempty =>
    simp only [returns_bind, returns_ofExcept, returns_log, returns_pure] at h
    obtain ⟨fresh, j₂, hassign, _, _, rfl, metrics, _, ⟨hmetrics, rfl⟩,
      rfl, rfl⟩ := h
    exact .nothingStored holdest hselection (List.isEmpty_iff.1 hempty) hassign
      hmetrics rfl
  · next hnonempty =>
    simp only [returns_bind, returns_noteAll, returns_pure] at h
    obtain ⟨i₀, j₂, hchain, _, _, rfl, rfl, rfl⟩ := h
    exact .chained hne hselection (fun hnil =>
      hnonempty (List.isEmpty_iff.2 hnil)) hchain rfl

/-- What a sync by a chain does when it returns: it does nothing without booked
transactions, inserts them all when it loaded nothing, and leaves the booked
rows that it loaded to the chain otherwise. -/
inductive Determined (newId : Nat → String) (settings : SyncSettings)
    (provider : Provider) (batch : List (Member Reported)) (load : Loader)
    (j : Journal) (i : Instruction) (j' : Journal) :
    Prop
  | nothingBooked : bookedIn batch = [] → i = .empty → j' = j →
      Determined newId settings provider batch load j i j'
  | nothingStored {selection : StoredWindow.Selection} {j₁ : Journal} :
      bookedIn batch ≠ [] →
      Returns (selectStoredWindow settings provider.name (bookedIn batch) load)
        j selection j₁ →
      selection.kept = [] → i.toDelete = [] → i.toUpdate = [] →
      i.toIgnore = [] → i.toInsert.map (·.member) = bookedIn batch →
      i.toInsert.map (·.id) =
        (List.range' j₁.drawn i.toInsert.length).map newId →
      (∀ m ∈ bookedIn batch, ∃ n, m.record.cents = .ok n) →
      j'.drawn = j₁.drawn + i.toInsert.length →
      Determined newId settings provider batch load j i j'
  | chained {selection : StoredWindow.Selection} {j₁ j₂ : Journal}
    {i₀ : Instruction} {w : Windowed}
      {results : MatchResults} {plan : Plan} {moved fresh : List Assigned} :
      bookedIn batch ≠ [] →
      Returns (selectStoredWindow settings provider.name (bookedIn batch) load)
        j selection j₁ →
      selection.kept ≠ [] →
      Chained newId provider (bookedIn batch) (bookedOf selection.kept) j₁ i₀ j₂
        w results plan moved
        fresh →
      i.toDelete = i₀.toDelete ++ pendingOf selection.kept →
      i.toInsert = i₀.toInsert →
      i.toUpdate = i₀.toUpdate → i.toIgnore = i₀.toIgnore →
      j'.drawn = j₂.drawn → Determined newId settings provider batch load j i j'

theorem determineByChain_spec {accountId : Uuid} {load : Loader}
    (h : Returns (determineByChain newId now settings provider accountId batch
      load) j i j') :
    Determined newId settings provider batch load j i j' := by
  cases concludes_of_returns h with
  | nothingBooked hnone => exact .nothingBooked hnone rfl rfl
  | nothingStored holdest hselection hkept hassign hmetrics hdrawn =>
    have hne : bookedIn batch ≠ [] := by
      intro hnil
      rw [hnil] at holdest
      cases holdest
    obtain ⟨hmembers, hids, hdrawn'⟩ := returns_assignFresh hassign
    exact .nothingStored hne hselection hkept rfl rfl rfl hmembers hids
      (cents_of_startMetrics hmetrics) (hdrawn.trans hdrawn')
  | chained hne hselection hkept hchain hdrawn =>
    obtain ⟨w, results, plan, moved, fresh, hc⟩ :=
      instructionByChain_spec hchain
    exact .chained hne hselection hkept hc rfl rfl rfl rfl hdrawn

/-- The instruction of a sync by a chain carries out a plan. If there was
something booked to sync, the plan and the inserts account for the division that
the run makes. -/
theorem determineByChain_plan {accountId : Uuid} (hs : s.HasDistinctIds)
    (hfresh : s.FreshIds newId j.drawn j'.drawn)
    (h : Returns (determineByChain newId now settings provider accountId batch
      fun date => pure (s.since date)) j i j') :
    ∃ plan fresh, i.CarriesOut s plan fresh ∧
      ((∃ m ∈ batch, m.record.status = .booked) → ∃ d,
        Divides settings provider (batch.filter fun m =>
          m.record.status == .booked)
          (fun date => pure (s.since date)) j d ∧
            d.Accounted s plan fresh) := by
  cases determineByChain_spec h with
  | nothingBooked hnone hi hj =>
    subst hi hj
    have hids : ([] : List Assigned).map (·.id) = (List.range' j'.drawn 0).map
        newId := rfl
    obtain ⟨hc, -⟩ : Instruction.empty.CarriesOut s [] [] ∧ _ :=
      inserted_accounted rfl rfl rfl rfl rfl hids (fun _ hm =>
        absurd hm List.not_mem_nil) hfresh
    refine ⟨[], [], hc, ?_⟩
    rintro ⟨m, hm, hbooked⟩
    have hmem : m ∈ bookedIn batch :=
      List.mem_filter.2 ⟨hm, by rw [hbooked]; exact beq_self_eq_true _⟩
    rw [hnone] at hmem
    exact absurd hmem List.not_mem_nil
  | nothingStored _ hselection hempty hdelete hupdate hignore hmembers hids
    hcents hdrawn =>
    rw [← (selectStoredWindow_spec hselection).2, hdrawn] at hfresh
    obtain ⟨hc, haccounted⟩ : i.CarriesOut s [] i.toInsert ∧ _ :=
      inserted_accounted hdelete rfl hupdate hignore hmembers hids hcents hfresh
    exact ⟨[], i.toInsert, hc, fun _ => ⟨_, .nothingStored hselection hempty,
      haccounted⟩⟩
  | chained _ hselection hne hchained hdelete hinsert hupdate hignore hdrawn =>
    obtain ⟨hselected, hstart⟩ := selectStoredWindow_spec hselection
    rw [← hstart, hdrawn] at hfresh
    obtain ⟨hcarries, haccounted⟩ :=
      chained_accounted hs hselected hchained hfresh hdelete hinsert
        hupdate hignore
    obtain ⟨_, _, hcut, hresults⟩ := hchained.ran
    exact ⟨_, _, hcarries, fun _ => ⟨_, .matched hselection hne hcut hresults,
      haccounted⟩⟩

/-- Applied to the store, the instruction of a sync by a chain leaves one record
for every booked transaction that the sync window keeps, in place of the matched
rows. Booked rows that were cut off or tolerated and rows that were not loaded
are what they were, and pending rows that were loaded are gone. The instruction
can be applied unless an instant of those transactions has no place in the
calendar of universal time. -/
theorem determineByChain_replaces_matched (hs : s.HasDistinctIds)
    (haccount : s.BelongsTo account currency)
    (hfresh : s.FreshIds newId j.drawn j'.drawn)
    (hbooked : ∃ m ∈ batch, m.record.status = .booked)
    (h : Returns (determineByChain newId now settings provider
      account.accountId batch
      fun date => pure (s.since date)) j i j') :
    ∃ d, Divides settings provider
      (batch.filter fun m => m.record.status == .booked)
        (fun date => pure (s.since date)) j d ∧
      ((∃ after records, s.apply account currency later i = .ok after ∧
        List.Forall₂ (fun m r => Stored.IsRecordOf account currency m r)
          d.kept records ∧
        after.rows.Perm (s.without (d.loaded.map (·.record)) ++
          (d.cutOff ++ d.tolerated).map (·.record) ++ records) ∧
        ∀ m ∈ d.loaded, m.record.status = .pending →
          m.record.id ∉ after.rows.map (·.id)) ∨
      (s.apply account currency later i = .error .beyondCalendar ∧
        ∃ m ∈ d.kept, m.record.dateTime.toUtc? = none)) := by
  obtain ⟨plan, fresh, hc, hdivides⟩ := determineByChain_plan hs hfresh h
  obtain ⟨d, hd, haccounted⟩ := hdivides hbooked
  refine ⟨d, hd, ?_⟩
  rcases hc.apply_total haccounted.members haccounted.cents
    with ⟨after, hafter⟩ | hbeyond
  · left
    obtain ⟨records, hrecords, hrows⟩ :=
      hc.records hs haccount haccounted.members haccounted.cents hafter
    refine ⟨after, records, hafter, hrecords, ?_, ?_⟩
    · exact hrows.trans
        ((Store.without_perm hs haccounted.loaded haccounted.rows).append_right
          records)
    · intro m hm hpending
      exact hc.dropped_gone hs hafter (haccounted.pending m hm hpending) rfl
  · exact Or.inr hbeyond

end Determine

end ChainSync

/-- A bank whose transactions are matched by external id first and by booking
date then. -/
def Sample.bank : Provider :=
  ⟨"TRIODOS_BANK_NL", .unbounded,
    [BuiltIn.externalIdAmountStrict.matcher,
      BuiltIn.bookingDateAmountStrict.matcher]⟩

theorem Sample.bank_mem : Sample.bank ∈ Registry.builtIn.providers :=
  have hfound : Registry.builtIn.find? "TRIODOS_BANK_NL" = some Sample.bank :=
    rfl
  Registry.mem_of_find? hfound

/-- A store with a row that is matched, a pending row, a row that is tolerated,
and an old row. -/
def Sample.mixedStore : Store :=
  ⟨[Sample.stored "r1" "x" "tea" (Sample.day 3),
    { Sample.stored "r2" "w" "jam" (Sample.day 3) with status := .pending },
    Sample.stored "r3" "z" "rye" (Sample.day 3),
      Sample.stored "r4" "v" "oat" (Sample.day 0)]⟩

/-- A batch with a known transaction and a new one. -/
def Sample.growing : List (Member Reported) :=
  Member.ofList
    [Sample.reported "x" "tea" (Sample.day 3),
      Sample.reported "y" "milk" (Sample.day 4)]

/-- The sync of the batch by the bank's chain. -/
def Sample.chained : Run Instruction :=
  determineByChain Sample.newId Sample.now SyncSettings.standard Sample.bank
    Sample.account.accountId Sample.growing fun date =>
    pure (Sample.mixedStore.since date)

theorem chained_replaces_matched :
    ∃ i j', Returns Sample.chained .empty i j' ∧
      ∃ d, ChainSync.Divides SyncSettings.standard Sample.bank
          (Sample.growing.filter fun m => m.record.status == .booked)
          (fun date => pure (Sample.mixedStore.since date)) .empty d ∧
        ((∃ after records,
          Sample.mixedStore.apply Sample.account "EUR" Sample.now i =
            .ok after ∧
          List.Forall₂ (fun m r => Stored.IsRecordOf Sample.account "EUR" m r)
            d.kept records ∧
          after.rows.Perm (Sample.mixedStore.without
            (d.loaded.map (·.record)) ++
              (d.cutOff ++ d.tolerated).map (·.record) ++ records) ∧
          ∀ m ∈ d.loaded, m.record.status = .pending →
            m.record.id ∉ after.rows.map (·.id)) ∨
        (Sample.mixedStore.apply Sample.account "EUR" Sample.now i =
          .error .beyondCalendar ∧
          ∃ m ∈ d.kept, m.record.dateTime.toUtc? = none)) := by
  have hrun : (Sample.chained.run.run .empty).1 =
      .ok ((Sample.chained.run.run .empty).1.toOption.getD .empty) := by
      decide +kernel
  have hdrawn : (Sample.chained.run.run .empty).2.drawn = 1 := by decide +kernel
  have hids : Sample.mixedStore.HasDistinctIds := by
    unfold Store.HasDistinctIds
    decide
  have haccount : Sample.mixedStore.BelongsTo Sample.account "EUR" := by
    unfold Store.BelongsTo
    decide +kernel
  have hbooked : ∃ m ∈ Sample.growing, m.record.status = .booked :=
    ⟨_, List.mem_cons_self, rfl⟩
  have hfresh : Sample.mixedStore.FreshIds Sample.newId Journal.empty.drawn
      (Sample.chained.run.run .empty).2.drawn := by
    rw [hdrawn]
    exact ⟨by decide, by decide +kernel⟩
  exact ⟨_, _, returns_of_run hrun,
    ChainSync.determineByChain_replaces_matched hids haccount hfresh hbooked
      (returns_of_run hrun)⟩

end LedgerSync
