import LedgerSync.Proofs.Calendar.Extremes
import LedgerSync.Proofs.Sync.ChainPlan
import LedgerSync.Proofs.Sync.RecordWindow

/-!
# Batches that a store has absorbed

When a sync by a chain over an unbounded window returned and was applied, the
store holds a row for every booked transaction of the batch that repeats it
(`Absorbed.repeated`). Fetched again, the batch loads exactly these rows and
those that were tolerated unmatched, all of them booked: what was written is in
the window because it was derived from the batch, what was ignored or tolerated
because it had been loaded before, and the rest because it had not
(`Absorbed.selection_again`).
-/

namespace LedgerSync

open Run Matching

/-! ## Selections as filters of the rows -/

/-- Whether a sync of a batch with a known earliest moment loads a row and keeps
it in the window. -/
def StoredWindow.loads (settings : SyncSettings) (provider : String)
    (batch : List (Member Reported)) (earliest : Moment) (since : Date)
    (r : Stored) : Bool :=
  decide (since ≤ r.date) && holds settings provider batch earliest r

/-- The records of a selection are the rows of the store that a sync loads and
keeps. -/
theorem records_of_selectStoredWindow {settings : SyncSettings}
    {provider : String} {batch : List (Member Reported)} {s : Store}
    {earliest : Moment} {since : Date} {selection : StoredWindow.Selection}
    {j j' : Journal} (hearliest : Moment.earliest?
    (batch.map (·.record.dateTime)) = some earliest)
    (hsince : earliest.date.addDays? (-settings.dateBackoffDays) = some since)
    (h : Returns (selectStoredWindow settings provider batch fun date => pure
    (s.since date)) j
      selection j') :
    selection.kept.map (·.record) =
      s.rows.filter (StoredWindow.loads settings provider batch earliest
        since) := by
  obtain ⟨selection', j'', hreturns, hkept, -⟩ :=
    selectStoredWindow_kept hearliest hsince provider s.since j
  obtain ⟨rfl, -⟩ := h.unique hreturns
  rw [hkept, Store.since, List.filter_filter, ← Member.ofList_records s.rows,
    List.filter_map, Member.ofList_records]
  refine congrArg _ (List.filter_congr fun m _ => ?_)
  rw [Function.comp_apply, StoredWindow.loads, Bool.and_comm]

namespace StoredWindow

/-- A record that was derived from a transaction of the batch is loaded and
kept, when all clocks of the batch show the time of one offset of whole
seconds. -/
theorem loads_of_derivedFrom {settings : SyncSettings} {provider : String}
    {batch : List (Member Reported)} {earliest : Moment} {since : Date}
    {offset : Int} (hearliest : Moment.earliest?
      (batch.map (·.record.dateTime)) = some earliest)
    (hsince : earliest.date.addDays? (-settings.dateBackoffDays) = some since)
    (hoffset : ∀ m ∈ batch, m.record.dateTime.zone = .offset offset)
    (hseconds : (ticksPerSecond : Int) ∣ offset)
    (hbackoff : 0 ≤ settings.dateBackoffDays) {m : Member Reported}
    (hm : m ∈ batch) {r : Stored} (hr : r.DerivedFrom m.record) :
      loads settings provider batch earliest since r = true := by
  obtain ⟨account, currency, fillKind, createdAt, now, hr⟩ := hr
  have hmirrors := Reported.mirrors_of_toStored hr
  obtain ⟨t, ht, hrt⟩ := Reported.timestamp_of_toStored hr
  obtain ⟨hmem, hle⟩ := Moment.earliest?_spec hearliest
    (List.forall_mem_map.2 fun m hm => ⟨offset, hoffset m hm⟩)
  obtain ⟨m₀, hm₀, rfl⟩ := List.mem_map.1 hmem
  have hinstant := hle _ (List.mem_map_of_mem (f := (·.record.dateTime)) hm)
  have hoffsets : m₀.record.dateTime.offset - m.record.dateTime.offset ≤
      (0 : Nat) * ticksPerDay := by
    rw [Moment.offset, Moment.offset, hoffset m₀ hm₀, hoffset m hm]
    show offset - offset ≤ _
    rw [Int.sub_self]
    exact Int.le_of_eq (Int.zero_mul _).symm
  have hcut : m₀.record.dateTime.CutsBack := .of_seconds (by
    rw [Moment.offset, hoffset m₀ hm₀]
    exact hseconds)
  have hdate := Moment.date_le_of_instant_le hinstant hoffsets
  have hdays := Date.days_of_addDays? hsince
  rw [loads, Bool.and_eq_true, decide_eq_true_iff]
  refine ⟨?_, holds_of_mirrors hinstant hcut hm hmirrors.externalId ht hrt⟩
  rw [hmirrors.date, Date.le_iff]
  show since.days ≤ m.record.dateTime.date.days
  omega

end StoredWindow

/-- A row repeats a transaction, because it was derived from it, or because the
plan ignores it for the transaction. -/
def Plan.Retains (plan : Plan) (m : Member Reported) (r : Stored) : Prop :=
  r.Repeats m.record ∧ (r.DerivedFrom m.record ∨
    ∃ e ∈ plan, e.fate = .ignored m ∧ e.row.record = r)

theorem Plan.Retains.mono {plan plan' : Plan} {m : Member Reported} {r : Stored}
    (h : plan.Retains m r) (hsub : plan ⊆ plan') : plan'.Retains m r :=
  h.imp_right fun hwhy => hwhy.imp_right fun ⟨e, he, hfate⟩ =>
    ⟨e, hsub he, hfate⟩

/-- What is ignored was found to repeat its transaction. -/
theorem Plan.retains_kept {plan : Plan}
    (hsuits : ∀ e ∈ plan, e.fate.Suits e.row.record) :
    List.Forall₂ plan.Retains ((plan.select Fate.isIgnored).map (·.member))
      plan.kept := by
  induction plan with
  | nil => exact .nil
  | cons e plan ih =>
    have hrest := (ih fun e he => hsuits e (List.mem_cons_of_mem _ he)).imp
      fun _ _ h => h.mono (List.subset_cons_self e plan)
    have he := hsuits e List.mem_cons_self
    rcases e with ⟨r, _ | m | ⟨m, b⟩ | m⟩
    · exact hrest
    · exact .cons ⟨he, .inr ⟨_, List.mem_cons_self, rfl, rfl⟩⟩ hrest
    · exact hrest
    · exact hrest

namespace ChainSync

/-! ## A first run -/

/-- What a sync by a chain that cuts nothing off has found and decided when it
returns: with rows loaded, its chain accounted for all booked transactions, and
tolerated rows of the oldest day. -/
structure Absorbed (provider : Provider) (s : Store)
    (booked : List (Member Reported)) (loaded tolerated : List (Member Stored))
    (i : Instruction) (plan : Plan) (fresh : List Assigned) : Prop where
  carriesOut : i.CarriesOut s plan fresh
  rows : (loaded.map (·.record)).Perm (plan.rows ++ tolerated.map (·.record))
  members : (plan.members ++ fresh.map (·.member)).Perm booked
  cents : ∀ m ∈ booked, ∃ n, m.record.cents = .ok n
  tolerated_loaded : tolerated ⊆ bookedOf loaded
  tolerated_oldest : ∀ m ∈ tolerated,
    Date.earliest? (booked.map (·.record.date)) = some m.record.date
  accounted : loaded ≠ [] → ∃ results j j',
    Returns (provider.reconcile booked (bookedOf loaded)) j results j' ∧
      (∀ u ∈ results.last.unmatchedReported, u.reason = .peerless) ∧
      (∀ u ∈ results.last.unmatchedStored, u.reason = .peerless) ∧
      tolerated = results.last.unmatchedStored.map (·.transaction) ∧
      ∀ e ∈ plan, ∀ m, e.fate = .ignored m → ∃ x ∈ results.last.matched,
        x.reported = m ∧ x.stored = e.row

section First

variable {newId : Nat → String} {settings : SyncSettings} {provider : Provider}
  {s : Store} {batch : List (Member Reported)} {i : Instruction}
  {j j' : Journal}

/-- A sync with an unbounded window that returned has absorbed the booked part
of its batch. -/
theorem absorbed_of_determined (hwindow : provider.window = .unbounded)
    (hs : s.HasDistinctIds) (hfresh : s.FreshIds newId j.drawn j'.drawn)
    (hne : bookedIn batch ≠ [])
    (h : Determined newId settings provider batch
    (fun date => pure (s.since date)) j i j') :
    ∃ selection j₁ tolerated plan fresh,
      Returns (selectStoredWindow settings provider.name (bookedIn batch)
        fun date =>
        pure (s.since date)) j selection j₁ ∧
      Absorbed provider s (bookedIn batch) selection.kept tolerated i plan
        fresh := by
  cases h with
  | nothingBooked hnone => exact (hne hnone).elim
  | @nothingStored selection j₁ _ hselection hempty hdelete hupdate hignore
    hmembers hids hcents
      hdrawn =>
    rw [← (selectStoredWindow_spec hselection).2, hdrawn] at hfresh
    obtain ⟨hc, haccounted⟩ : i.CarriesOut s [] i.toInsert ∧ _ :=
      inserted_accounted hdelete rfl hupdate hignore hmembers hids hcents hfresh
    refine ⟨selection, j₁, [], [], i.toInsert, hselection, {
      carriesOut := hc
      rows := by rw [hempty]; exact .refl _
      members := haccounted.members
      cents := hcents
      tolerated_loaded := List.nil_subset _
      tolerated_oldest := fun _ hm => absurd hm List.not_mem_nil
      accounted := fun hloaded => (hloaded hempty).elim }⟩
  | @chained selection j₁ j₂ i₀ w results plan moved fresh _ hselection hloaded
    hchained hdelete
      hinsert hupdate hignore hdrawn =>
    obtain ⟨hselected, hstart⟩ := selectStoredWindow_spec hselection
    rw [← hstart, hdrawn] at hfresh
    obtain ⟨hc, haccounted⟩ :=
      chained_accounted hs hselected hchained hfresh hdelete hinsert
        hupdate hignore
    obtain ⟨k₁, k₂, hcut, hresults⟩ := hchained.ran
    -- the window is unbounded, so the chain ran on everything and nothing was
    -- cut off
    obtain ⟨oldest, holdest, hcuts⟩ :=
      cuts_of_unbounded (bookedOf selection.kept) hwindow hne
    obtain rfl := (cuts_of_returns hcut).1.unique hcuts
    have hpeerless := storedFor_peerless_eq fun u hu =>
        (hchained.stored_peerless u hu).1
    have hcutOff : (bookedOf selection.kept).filter
        (fun m => decide (m ∉ bookedOf selection.kept)) = [] := by
      rw [List.filter_eq_nil_iff]
      intro m hm
      simp [hm]
    have hrows := haccounted.rows
    rw [hcutOff, List.nil_append, hpeerless] at hrows
    refine ⟨selection, j₁, results.last.unmatchedStored.map (·.transaction), _,
      fresh, hselection, {
      carriesOut := hc
      rows := hrows
      members := haccounted.members
      cents := hchained.cents
      tolerated_loaded := ?_
      tolerated_oldest := ?_
      accounted := fun _ =>
        ⟨results, _, _, hresults, hchained.reported_peerless,
        fun u hu => (hchained.stored_peerless u hu).1, rfl, ?_⟩ }⟩
    · intro m hm
      rw [← hpeerless] at hm
      exact hchained.stored_perm.mem_iff.2 (List.mem_append_right _ hm)
    · intro m hm
      obtain ⟨u, hu, rfl⟩ := List.mem_map.1 hm
      rw [(hchained.stored_peerless u hu).2]
      exact holdest
    · intro e he m hfate
      rcases List.mem_append.1 he with he | hpending
      · obtain ⟨x, hx, hrow, hmember⟩ := hchained.paired e he
        rw [hfate] at hmember
        exact ⟨x, hx, (Option.some.inj hmember).symm, hrow.symm⟩
      · obtain ⟨_, -, rfl⟩ := List.mem_map.1 hpending
        cases hfate

end First

/-! ## The store after it -/

namespace Absorbed

variable {provider : Provider} {s after : Store}
  {booked : List (Member Reported)} {loaded tolerated : List (Member Stored)}
  {i : Instruction} {plan : Plan} {fresh : List Assigned} {account : Account}
  {currency : String} {now : DateTime}

/-- Nothing is planned for what is not loaded. -/
theorem eq_nil_of_nothingLoaded
    (h : Absorbed provider s booked loaded tolerated i plan fresh)
    (hnil : loaded = []) : plan = [] ∧ tolerated = [] := by
  have hrows := h.rows
  rw [hnil, List.map_nil] at hrows
  obtain ⟨hplan, htolerated⟩ := List.append_eq_nil_iff.1 hrows.nil_eq.symm
  exact ⟨List.map_eq_nil_iff.1 hplan, List.map_eq_nil_iff.1 htolerated⟩

/-- What is written repeats its transaction, because it is derived from it. -/
theorem written_repeats
    (h : Absorbed provider s booked loaded tolerated i plan fresh)
    (hnan : ∀ m ∈ booked, m.record.hasNan = false) {written : List Stored}
    (hwritten : List.Forall₂ (Store.WrittenAs account currency now) i.toUpsert
    written) :
    List.Forall₂ (fun a r => r.DerivedFrom a.member.record ∧
      r.Repeats a.member.record)
      i.toUpsert written := by
  refine List.Forall₂.imp ?_ ((List.forall₂_and_left _ _).2 ⟨fun a ha =>
    h.carriesOut.member_mem_batch h.members ha, hwritten⟩)
  rintro a r ⟨ha, hr⟩
  obtain ⟨n, hn⟩ := h.cents a.member ha
  have hderived : r.DerivedFrom a.member.record := by
    refine ⟨account, currency, a.fillKind, none, now, ?_⟩
    rw [(Reported.toStored_identity hr).1]
    exact hr
  exact ⟨hderived, Stored.repeats_of_derivedFrom hderived hn (hnan a.member ha)⟩

/-- Of the rows that are loaded, those outside the plan are the tolerated
ones. -/
theorem loaded_without_plan
    (h : Absorbed provider s booked loaded tolerated i plan fresh)
    (hs : s.HasDistinctIds) {loads : Stored → Bool}
    (hloaded : loaded.map (·.record) = s.rows.filter loads) :
    ((s.without plan.rows).filter loads).Perm (tolerated.map (·.record)) := by
  have hnodup : (plan.rows ++ tolerated.map (·.record)).Nodup := by
    rw [← h.rows.nodup_iff, hloaded]
    exact hs.rows_nodup.sublist List.filter_sublist
  have hplan : plan.rows.filter (fun r => decide (r ∉ plan.rows)) = [] := by
    rw [List.filter_eq_nil_iff]
    intro r hr
    simpa using hr
  have htolerated : (tolerated.map (·.record)).filter (fun r =>
      decide (r ∉ plan.rows)) = tolerated.map (·.record) := by
    rw [List.filter_eq_self]
    intro r hr
    rw [decide_eq_true_iff]
    exact fun hp => (List.nodup_append'.1 hnodup).2.2 hp hr
  rw [Store.without, List.filter_comm, ← hloaded]
  refine (h.rows.filter _).trans (List.Perm.of_eq ?_)
  rw [List.filter_append, hplan, htolerated, List.nil_append]

/-- Of the rows after the instruction that are loaded again, one repeats every
booked transaction, and the others are the tolerated ones. -/
theorem repeated (h : Absorbed provider s booked loaded tolerated i plan fresh)
    (hs : s.HasDistinctIds) (hnan : ∀ m ∈ booked, m.record.hasNan = false)
    (happly : s.apply account currency now i = .ok after)
    {loads : Stored → Bool}
    (hloaded : loaded.map (·.record) = s.rows.filter loads)
    (hderived : ∀ m ∈ booked, ∀ r : Stored, r.DerivedFrom m.record →
      loads r = true) :
    ∃ members records, members.Perm booked ∧
      List.Forall₂ plan.Retains members records ∧
      (after.rows.filter loads).Perm (tolerated.map (·.record) ++ records) := by
  obtain ⟨written, hwritten, hrows⟩ := h.carriesOut.apply_perm hs happly
  have hrepeats := h.written_repeats hnan hwritten
  refine ⟨i.named.map (·.member), written ++ plan.kept,
    h.carriesOut.named_members_perm h.members, ?_, ?_⟩
  · rw [List.forall₂_map_left_iff, Instruction.named, h.carriesOut.toIgnore]
    refine List.rel_append (hrepeats.imp fun _ _ hr => ⟨hr.2, .inl hr.1⟩) ?_
    exact List.forall₂_map_left_iff.1 (Plan.retains_kept h.carriesOut.suits)
  · have hwrittenLoads : written.filter loads = written := by
      rw [List.filter_eq_self]
      intro r hr
      obtain ⟨a, ha, hown, -⟩ := exists_of_forall₂_right hrepeats hr
      exact hderived a.member (h.carriesOut.member_mem_batch h.members ha) r
        hown
    have hkeptLoads : plan.kept.filter loads = plan.kept := by
      rw [List.filter_eq_self]
      intro r hr
      have hmem : r ∈ loaded.map (·.record) :=
        h.rows.mem_iff.2 (List.mem_append_left _
          ((Plan.kept_sublist plan).subset hr))
      rw [hloaded] at hmem
      exact (List.mem_filter.1 hmem).2
    refine (hrows.filter loads).trans ?_
    rw [List.filter_append, List.filter_append, hwrittenLoads, hkeptLoads]
    exact (h.loaded_without_plan hs hloaded).append_right _

end Absorbed

/-- What an absorbed batch loads when it is fetched again: a row for every
booked transaction that repeats it, and the tolerated rows. All of them are
booked. -/
structure Reloads (plan : Plan) (booked : List (Member Reported))
    (tolerated stored : List (Member Stored))
    (pairs : List (Member Reported × Member Stored))
    (rest : List (Member Stored)) : Prop where
  reported_perm : (pairs.map (·.1)).Perm booked
  stored_perm : stored.Perm (pairs.map (·.2) ++ rest)
  rest_records : rest.map (·.record) = tolerated.map (·.record)
  retains : ∀ p ∈ pairs, plan.Retains p.1 p.2.record
  stored_booked : ∀ m ∈ stored, m.record.status = .booked

namespace Reloads

variable {plan : Plan} {booked : List (Member Reported)}
  {tolerated stored rest : List (Member Stored)}
  {pairs : List (Member Reported × Member Stored)}
  {p : Member Reported × Member Stored}

theorem repeats (h : Reloads plan booked tolerated stored pairs rest)
    (hp : p ∈ pairs) : p.2.record.Repeats p.1.record :=
  (h.retains p hp).1

theorem mem_booked (h : Reloads plan booked tolerated stored pairs rest)
    (hp : p ∈ pairs) : p.1 ∈ booked :=
  h.reported_perm.mem_iff.1 (List.mem_map_of_mem hp)

theorem exists_tolerated (h : Reloads plan booked tolerated stored pairs rest)
    {m : Member Stored} (hm : m ∈ rest) :
    ∃ m' ∈ tolerated, m'.record = m.record :=
  List.mem_map.1 (h.rest_records ▸ List.mem_map_of_mem hm)

end Reloads

/-- Fetched again, an absorbed batch loads its own rows and the tolerated
ones. -/
theorem Absorbed.selection_again {provider : Provider} {s after : Store}
    {booked : List (Member Reported)} {tolerated : List (Member Stored)}
    {i : Instruction} {plan : Plan} {fresh : List Assigned} {account : Account}
    {currency : String} {now : DateTime} {settings : SyncSettings}
    {selection : StoredWindow.Selection} {offset : Int} {j j' : Journal}
    (h : Absorbed provider s booked selection.kept tolerated i plan fresh)
    (hs : s.HasDistinctIds) (hbooked : ∀ m ∈ booked, m.record.status = .booked)
    (hnan : ∀ m ∈ booked, m.record.hasNan = false)
    (hoffset : ∀ m ∈ booked, m.record.dateTime.zone = .offset offset)
    (hseconds : (ticksPerSecond : Int) ∣ offset)
    (hbackoff : 0 ≤ settings.dateBackoffDays)
    (happly : s.apply account currency now i = .ok after)
    (hselection : Returns
      (selectStoredWindow settings provider.name booked fun date =>
      pure (s.since date)) j selection j')
    (k : Journal) :
    ∃ (selection' : StoredWindow.Selection) (k' : Journal)
      (pairs : List (Member Reported × Member Stored))
        (rest : List (Member Stored)),
      Returns (selectStoredWindow settings provider.name booked fun date =>
        pure (after.since date)) k selection' k' ∧
      Reloads plan booked tolerated selection'.kept pairs rest := by
  obtain ⟨earliest, since, _, _, hearliest, hsince, -⟩ :=
    selectStoredWindow_steps hselection
  obtain ⟨selection', k', hreturns, -⟩ :=
    selectStoredWindow_kept hearliest hsince provider.name after.since k
  obtain ⟨members, records, hmembers, hretains, hrows⟩ :=
    h.repeated hs hnan happly
    (records_of_selectStoredWindow hearliest hsince hselection)
    fun m hm r hr => StoredWindow.loads_of_derivedFrom hearliest hsince hoffset
      hseconds hbackoff hm hr
  rw [← records_of_selectStoredWindow hearliest hsince hreturns] at hrows
  -- the selected members can be listed in the order of these records
  have hlift := congrFun
      (congrFun (List.eq_map_comp_perm fun m : Member Stored => m.record)
    (tolerated.map (·.record) ++ records)) selection'.kept
  obtain ⟨listed, hlisted, hperm⟩ := hlift.mpr hrows.symm
  obtain ⟨rest, own, rfl, hrest, hown⟩ := List.map_eq_append_iff.1 hlisted.symm
  have hlength : members.length = own.length := by
    rw [hretains.length_eq, ← hown, List.length_map]
  have hpairs : ∀ p ∈ members.zip own, plan.Retains p.1 p.2.record := by
    rw [← hown, List.forall₂_map_right_iff, List.forall₂_iff_zip] at hretains
    exact fun p hp => hretains.2 hp
  refine ⟨selection', k', members.zip own, rest, hreturns, {
    reported_perm := ?_
    stored_perm := ?_
    rest_records := hrest
    retains := hpairs
    stored_booked := ?_ }⟩
  · rw [List.map_fst_zip (Nat.le_of_eq hlength)]
    exact hmembers
  · rw [List.map_snd_zip (Nat.le_of_eq hlength.symm)]
    exact hperm.symm.trans List.perm_append_comm
  · intro m hm
    rcases List.mem_append.1 (hperm.mem_iff.2 hm) with hr | ho
    · have hmem : m.record ∈ tolerated.map (·.record) :=
        hrest ▸ List.mem_map_of_mem hr
      obtain ⟨m', hm', heq⟩ := List.mem_map.1 hmem
      rw [← heq]
      exact eq_of_beq (List.mem_filter.1 (h.tolerated_loaded hm')).2
    · have hmem : m ∈ (members.zip own).map (·.2) := by
        rw [List.map_snd_zip (Nat.le_of_eq hlength.symm)]
        exact ho
      obtain ⟨p, hp, rfl⟩ := List.mem_map.1 hmem
      rw [(hpairs p hp).1.mirrors.status]
      exact hbooked p.1 (hmembers.subset (List.of_mem_zip hp).1)

end ChainSync

end LedgerSync
