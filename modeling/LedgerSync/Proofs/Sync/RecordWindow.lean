import LedgerSync.Proofs.Calendar.Extremes
import LedgerSync.Proofs.Calendar.Order
import LedgerSync.Proofs.Sync.Numbering
import LedgerSync.Proofs.Sync.OwnSlots

/-!
# The window holds the records of its batch

Whether the window of a batch holds a loaded row depends on the row alone
(`StoredWindow.holds`, `selectStoredWindow_kept`). A record that was written for
a transaction of the batch is held: its timestamp is the instant of the
transaction, its external id is that of the transaction
(`StoredWindow.holds_of_mirrors`). And it is loaded, because the local dates of
instants in the order of time go back by no more than the days between their
offsets (`Moment.date_le_of_instant_le`).

So a batch that is stored in full and fetched again meets its own records in the
order of the batch, and everything is ignored
(`determineInstruction_ignores_recorded`).
-/

namespace LedgerSync

open Run

/-! ## Instants of fixed offsets -/

namespace Moment

/-- The zone is an offset, not a region. -/
def IsFixed (m : Moment) : Prop := ∃ ticks, m.zone = .offset ticks

theorem IsFixed.sameRegion {m : Moment} (h : m.IsFixed) (m' : Moment) :
    m.sameRegion m' = false := by
  obtain ⟨k, hk⟩ := h
  rw [Moment.sameRegion, hk]

/-- A moment of a fixed offset is compared by its instant. -/
theorem IsFixed.earlier_iff {m m' : Moment} (h : m.IsFixed) :
    m.earlier m' = true ↔ m.instant < m'.instant := by
  rw [earlier, h.sameRegion m', if_neg Bool.false_ne_true, decide_eq_true_iff]

theorem IsFixed.not_overtakes {m : Moment} (h : m.IsFixed) (m' : Moment) :
    ¬m.Overtakes m' := by
  intro ho
  have hregion := ho.sameRegion
  rw [h.sameRegion m'] at hregion
  cases hregion

theorem IsFixed.toSeconds {m : Moment} (h : m.IsFixed) : m.toSeconds.IsFixed :=
  h

/-- Some moments have an earliest one. -/
theorem exists_earliest? {ms : List Moment} (h : ms ≠ []) :
    ∃ u, earliest? ms = some u := by
  cases ms with
  | nil => exact (h rfl).elim
  | cons m ms => exact ⟨_, rfl⟩

/-- The earliest moment of a list is one of them, and no instant is before
it. -/
theorem earliest?_spec {ms : List Moment} {u : Moment}
    (h : earliest? ms = some u) (hfixed : ∀ m ∈ ms, m.IsFixed) :
    u ∈ ms ∧ ∀ m ∈ ms, u.instant ≤ m.instant :=
  instant_le_of_earliest? h fun a ha b _ => (hfixed a ha).not_overtakes b

/-- A later instant may have an earlier local date, but not by more days than
lie between the offsets. -/
theorem date_le_of_instant_le {u m : Moment} {days : Nat}
    (h : u.instant ≤ m.instant)
    (hoffset : u.offset - m.offset ≤ days * ticksPerDay) :
    u.date.days ≤ m.date.days + days := by
  have hticks : u.wall.ticks ≤ m.wall.ticks + days * ticksPerDay := by
    simp only [instant] at h
    omega
  show u.wall.ticks / ticksPerDay ≤ m.wall.ticks / ticksPerDay + days
  simp only [ticksPerDay, ticksPerSecond] at hticks ⊢
  omega

/-- To the second, a moment in universal time is not before another one that
cuts back, if it is not before the second of its instant. -/
theorem not_earlier_of_seconds {u t : Moment} (hfixed : t.IsFixed)
    (hseconds : (ticksPerSecond : Int) ∣ t.offset) (hcut : u.CutsBack)
    (h : u.instant / ticksPerSecond ≤ t.instant / ticksPerSecond) :
    t.toSeconds.earlier u.toSeconds = false := by
  have hu := (cutsBack_iff u).1 hcut
  rw [← Bool.not_eq_true, hfixed.toSeconds.earlier_iff,
    toSeconds_instant hseconds]
  simp only [ticksPerSecond] at *
  omega

/-- To the second, the timestamp of a transaction is not before an instant that
the transaction is not before. -/
theorem not_earlier_of_utcMillis {u m t : Moment} (h : u.instant ≤ m.instant)
    (hcut : u.CutsBack) (ht : m.utcMillis = .ok t) :
    t.toSeconds.earlier u.toSeconds = false := by
  obtain ⟨hzone, hmillis⟩ := utcMillis_spec ht
  refine not_earlier_of_seconds ⟨0, hzone⟩ ?_ hcut ?_
  · rw [offset_of_utcMillis ht]
    exact Int.dvd_zero _
  · rw [hmillis]
    simp only [ticksPerSecond]
    omega

end Moment

/-! ## What the window holds -/

namespace StoredWindow

variable {settings : SyncSettings} {provider : String}
  {batch : List (Member Reported)}

/-- Whether a loaded record is not left out for its external id. -/
def survives (settings : SyncSettings) (provider : String)
    (batch : List (Member Reported)) (s : Stored) : Bool :=
  !isListed provider settings.contiguousExternalIdProviders ||
    match pruningBound provider batch with
    | .error _ => true
    | .ok bound => !isBelow bound s.externalId

/-- Whether a loaded record is in the window of a batch whose earliest moment is
known. -/
def holds (settings : SyncSettings) (provider : String)
    (batch : List (Member Reported)) (earliest : Moment) (s : Stored) : Bool :=
  survives settings provider batch s &&
    match place earliest (keepIds settings provider batch) s with
    | .evicted _ => false
    | _ => true

theorem pruned_eq (loaded : List (Member Stored)) :
    (pruned settings provider batch loaded).1 =
      loaded.filter fun m => survives settings provider batch m.record := by
  unfold pruned survives
  cases isListed provider settings.contiguousExternalIdProviders with
  | false => simp
  | true =>
    cases pruningBound provider batch with
    | error => simp
    | ok bound => rfl

theorem sort_kept (earliest : Moment) (keepIds : List String)
    (stored : List (Member Stored)) :
    (sort earliest keepIds stored).kept = stored.filter fun m =>
      match place earliest keepIds m.record with
      | .evicted _ => false
      | _ => true := by
  unfold sort
  dsimp only
  induction stored with
  | nil => rfl
  | cons m stored ih =>
    rw [List.map_cons, List.filterMap_cons, List.filter_cons]
    cases place earliest keepIds m.record with
    | kept => exact congrArg (List.cons m) ih
    | keptOnDate => exact congrArg (List.cons m) ih
    | evicted reason => exact ih

/-- A record with the external id of a transaction of the batch is not left out
for it. -/
theorem survives_of_externalId {m : Member Reported} {r : Stored}
    (hm : m ∈ batch) (hid : r.externalId = m.record.externalId) :
    survives settings provider batch r = true := by
  unfold survives
  cases hbound : pruningBound provider batch with
  | error => simp
  | ok bound =>
    rw [hid]
    simp [isBelow_of_pruningBound hbound hm]

/-- A record that was written for a transaction of the batch is in the
window. -/
theorem holds_of_mirrors {earliest : Moment} {m : Member Reported} {r : Stored}
    {t : Moment} (hle : earliest.instant ≤ m.record.dateTime.instant)
    (hcut : earliest.CutsBack) (hm : m ∈ batch)
    (hid : r.externalId = m.record.externalId) (ht : m.record.timestamp = .ok t)
    (hr : r.timestamp = some t) :
    holds settings provider batch earliest r = true := by
  have hplace : place earliest (keepIds settings provider batch) r = .kept := by
    have hnot : t.toSeconds.earlier earliest.toSeconds = false :=
      Moment.not_earlier_of_utcMillis hle hcut ht
    rw [place, hr]
    dsimp only
    rw [hnot]
    split <;> rfl
  rw [holds, survives_of_externalId hm hid, hplace]
  rfl

end StoredWindow

section Select

variable {settings : SyncSettings} {provider : String}
  {batch : List (Member Reported)} {s : Store} {j j' : Journal}

/-- The selection of a batch that has an earliest moment, if the day from which
rows are loaded is in the calendar: it asks for the rows from that day on, and
sorts those that are not left out. -/
theorem selectStoredWindow_eq {earliest : Moment} {since : Date}
    (hearliest : Moment.earliest? (batch.map (·.record.dateTime)) =
      some earliest)
    (hsince : earliest.date.addDays? (-settings.dateBackoffDays) = some since)
    (provider : String) (load : Loader) :
    selectStoredWindow settings provider batch load = (do
      Run.ask since
      let loaded ← load since
      let left := StoredWindow.pruned settings provider batch loaded
      let selection := StoredWindow.sort earliest
        (StoredWindow.keepIds settings provider batch) left.1
      Run.noteAll (left.2 ++ selection.notes provider earliest)
      return selection) := by
  unfold selectStoredWindow
  rw [hearliest]
  dsimp only
  rw [hsince]

/-- The rows of the selection are the loaded rows that the window holds. -/
theorem selectStoredWindow_kept {earliest : Moment} {since : Date}
    (hearliest : Moment.earliest? (batch.map (·.record.dateTime)) =
      some earliest)
    (hsince : earliest.date.addDays? (-settings.dateBackoffDays) = some since)
    (provider : String) (rows : Date → List (Member Stored)) (j : Journal) :
    ∃ selection j', Returns
      (selectStoredWindow settings provider batch fun date =>
        pure (rows date)) j selection j' ∧
      selection.kept = ((rows since).filter fun m =>
        StoredWindow.holds settings provider batch earliest m.record) ∧
      j'.asked = j.asked ++ [since] := by
  refine ⟨StoredWindow.sort earliest
    (StoredWindow.keepIds settings provider batch)
    (StoredWindow.pruned settings provider batch (rows since)).1, ?_⟩
  have hkept : (StoredWindow.sort earliest
      (StoredWindow.keepIds settings provider batch)
      (StoredWindow.pruned settings provider batch (rows since)).1).kept =
      (rows since).filter fun m =>
        StoredWindow.holds settings provider batch earliest m.record := by
    rw [StoredWindow.sort_kept, StoredWindow.pruned_eq, List.filter_filter]
    refine List.filter_congr fun m _ => ?_
    rw [StoredWindow.holds, Bool.and_comm]
  rw [selectStoredWindow_eq hearliest hsince]
  simp only [returns_bind, returns_ask, returns_noteAll, returns_pure]
  exact ⟨_, ⟨(), _, rfl, _, _, ⟨rfl, rfl⟩, (), _, rfl, rfl, rfl⟩, hkept, rfl⟩

end Select

/-! ## A batch that is stored in full -/

section Recorded

variable {env : Environment} {account : Account} {provider : String}
  {batch : List (Member Reported)} {s : Store} {j : Journal}

/-- The window of a batch holds every record of the batch, when the offsets of
its transactions are at most as many days apart as rows are loaded from before
the earliest of them, and that one cuts back. -/
theorem selectStoredWindow_recorded {settings : SyncSettings}
    (provider : String) (days : Nat) (j : Journal) (hne : batch ≠ [])
    (hfixed : ∀ m ∈ batch, m.record.dateTime.IsFixed)
    (hoffsets : ∀ m ∈ batch, ∀ m' ∈ batch,
      m.record.dateTime.offset - m'.record.dateTime.offset ≤ days * ticksPerDay)
    (hcut : ∀ earliest, Moment.earliest? (batch.map (·.record.dateTime)) =
      some earliest → earliest.CutsBack)
    (hbackoff : days ≤ settings.dateBackoffDays)
    (hcalendar : ∀ earliest, Moment.earliest? (batch.map (·.record.dateTime)) =
      some earliest →
      ∃ since, earliest.date.addDays? (-settings.dateBackoffDays) = some since)
    (hrows : ∀ r ∈ s.rows, ∃ m ∈ batch, r.DerivedFrom m.record) :
    ∃ selection j', Returns
      (selectStoredWindow settings provider batch fun date =>
        pure (s.since date)) j selection j' ∧
          selection.kept = Member.ofList s.rows := by
  obtain ⟨earliest, hearliest⟩ : ∃ earliest,
      Moment.earliest? (batch.map (·.record.dateTime)) = some earliest :=
    Moment.exists_earliest? (by simpa using hne)
  obtain ⟨since, hsince⟩ := hcalendar earliest hearliest
  obtain ⟨hmem, hle⟩ :=
    Moment.earliest?_spec hearliest (List.forall_mem_map.2 hfixed)
  obtain ⟨m₀, hm₀, rfl⟩ := List.mem_map.1 hmem
  obtain ⟨selection, j', hreturns, hkept, -⟩ :=
    selectStoredWindow_kept hearliest hsince provider s.since j
  refine ⟨selection, j', hreturns, ?_⟩
  rw [hkept, Store.since, List.filter_filter, List.filter_eq_self]
  intro e he
  have he' : e.record ∈ s.rows := by
    rw [← Member.ofList_records s.rows]
    exact List.mem_map_of_mem he
  obtain ⟨m, hm, account, currency, fillKind, createdAt, now, hr⟩ := hrows _ he'
  have hinstant := hle _ (List.mem_map_of_mem (f := (·.record.dateTime)) hm)
  have hmirrors := Reported.mirrors_of_toStored hr
  obtain ⟨t, ht, hrt⟩ := Reported.timestamp_of_toStored hr
  rw [Bool.and_eq_true, decide_eq_true_iff]
  refine ⟨StoredWindow.holds_of_mirrors hinstant (hcut _ hearliest) hm
    hmirrors.externalId ht hrt, ?_⟩
  have hdate := Moment.date_le_of_instant_le hinstant (hoffsets m₀ hm₀ m hm)
  have hdays := Date.days_of_addDays? hsince
  rw [hmirrors.date, Date.le_iff]
  show since.days ≤ m.record.dateTime.date.days
  omega

/-- A batch whose records are all that is stored, in the order of the batch,
changes nothing when it is fetched again from a provider without a chain: every
transaction is ignored under the id of its row. The earliest moment of the
batch must cut back, as it does at every offset of whole seconds. -/
theorem determineInstruction_ignores_recorded
    (hprovider : env.chainFor? provider = none) (hne : batch ≠ [])
    (hcoherent : Member.Coherent batch)
    (hfixed : ∀ m ∈ batch, m.record.dateTime.IsFixed)
    (hoffsets : ∀ m ∈ batch, ∀ m' ∈ batch,
      m.record.dateTime.offset - m'.record.dateTime.offset ≤ ticksPerDay)
    (hcut : ∀ earliest,
      Moment.earliest? (batch.map (·.record.dateTime)) = some earliest →
      earliest.CutsBack)
    (hcents : ∀ m ∈ batch, ∃ n, m.record.cents = .ok n)
    (hnan : ∀ m ∈ batch, m.record.hasNan = false)
    (hbackoff : 1 ≤ env.settings.dateBackoffDays)
    (hcalendar : ∀ earliest,
      Moment.earliest? (batch.map (·.record.dateTime)) = some earliest →
      ∃ since, earliest.date.addDays? (-env.settings.dateBackoffDays) =
      some since)
    (hrows : List.Forall₂ (fun m r => r.DerivedFrom m.record) batch s.rows) :
    ∃ i j', Returns (determineInstruction env account provider batch
      fun _ date =>
        pure (s.since date)) j i j' ∧
      i.toDelete = [] ∧ i.toInsert = [] ∧ i.toUpdate = [] ∧
      i.toIgnore = List.zipWith (fun m r => ⟨m, r.id, .regular⟩) batch s.rows ∧
      i.oldestChanged = none := by
  obtain ⟨selection, j₁, hselection, hkept⟩ :=
    selectStoredWindow_recorded provider 1 j hne
    hfixed (by simpa using hoffsets) hcut (by simpa using hbackoff) hcalendar
    fun r hr => exists_of_forall₂_right hrows hr
  obtain ⟨x, hx⟩ := Index.ofBatch_total hcents
  obtain ⟨-, -, hbatch⟩ := Index.ofBatch_slots hx
  have hown := forall₂_repeats hx hnan hrows
  have hrecords : selection.kept.map (·.record) = (x.arena.zip s.rows).map
      (·.2) := by
    rw [hkept, Member.ofList_records,
      List.map_snd_zip (Nat.le_of_eq hown.length_eq.symm)]
  obtain ⟨i, j₂, hreconcile, hdelete, hinsert, hupdate, hignore, holdest⟩ :=
    reconcile_of_clears env.newId env.now provider j₁ hx hcoherent
      (Clears.zip hown) hrecords
  rw [map_entry_zip, hbatch] at hignore
  refine ⟨i.countAlso fun m => { m with windowDateFallbacks :=
    selection.dateFallbacks }, j₂, ?_,
    hdelete, hinsert, hupdate, hignore, holdest⟩
  have hempty : ¬batch.isEmpty = true := fun h => hne (List.isEmpty_iff.1 h)
  have hquiet : (i.toDelete.filter fun m => m.record.status == .booked).length =
      0 := by
    rw [hdelete]
    rfl
  simp only [determineInstruction, if_neg hempty, hprovider, returns_bind]
  refine ⟨selection, j₁, hselection, i, j₂, hreconcile, ?_⟩
  show Returns (if ¬(i.toDelete.filter fun m => m.record.status ==
    .booked).length = 0 then _ else _) j₂ _ j₂
  rw [if_neg (not_not_intro hquiet)]
  exact returns_pure.2 ⟨rfl, rfl⟩

/-- A transaction at the same local time of another zone. -/
def Sample.shifted (zone : Zone) (t : Reported) : Reported :=
  { t with dateTime := ⟨t.dateTime.wall, zone⟩ }

/-- A payment that is listed twice and reported once more, and two payments that
share an id, a day apart by the local clocks and at one instant. -/
def Sample.repetitive : List (Member Reported) :=
  let tea := Sample.reported "7" "tea" (Sample.day 3)
  [⟨0, tea⟩, ⟨0, tea⟩, ⟨1, tea⟩,
    ⟨2, Sample.shifted (.ofSeconds 36000)
      (Sample.reported "8" "rye" (Sample.day 4))⟩,
    ⟨3, Sample.shifted (.ofSeconds (-50400))
      (Sample.reported "8" "rye" (Sample.day 3))⟩]

/-- The store of the records of these payments. -/
def Sample.repetitiveStore : Store :=
  ⟨List.zipWith (fun id m => Sample.record id m.record) ["r1", "r2", "r3",
    "r4", "r5"] Sample.repetitive⟩

/-- Without chains of matchers. -/
def Sample.chainless : Environment :=
  ⟨Matching.Registry.empty, .standard, Sample.newId, Sample.now⟩

theorem repetitive_ignores_recorded :
    ∃ i j', Returns (determineInstruction Sample.chainless Sample.account
      "RABOBANK"
        Sample.repetitive fun _ date =>
          pure (Sample.repetitiveStore.since date)) .empty i j' ∧
      i.toDelete = [] ∧ i.toInsert = [] ∧ i.toUpdate = [] ∧
      i.toIgnore = List.zipWith (fun m r => ⟨m, r.id, .regular⟩)
        Sample.repetitive Sample.repetitiveStore.rows ∧
      i.oldestChanged = none := by
  have hcoherent : Member.Coherent Sample.repetitive := by
    unfold Member.Coherent
    decide +kernel
  have hfixed : ∀ m ∈ Sample.repetitive,
      m.record.dateTime.zone = .offset m.record.dateTime.offset := by
      decide +kernel
  have hcents : ∀ m ∈ Sample.repetitive, m.record.cents = .ok (-1250) := by
      decide +kernel
  have hearliest : Moment.earliest?
      (Sample.repetitive.map (·.record.dateTime)) =
        some (Sample.midnight (Sample.day 3)) := by decide +kernel
  have hsince : (Sample.midnight (Sample.day 3)).date.addDays? (-1) =
      some (Sample.day 2) := by
    decide +kernel
  have hrows : List.Forall₂ (fun m r => m.record.toStored Sample.account r.id
      "EUR" .regular none
      Sample.now = .ok r) Sample.repetitive Sample.repetitiveStore.rows := by
      decide +kernel
  refine determineInstruction_ignores_recorded (by decide +kernel)
    (by decide) hcoherent
    (fun m hm => ⟨_, hfixed m hm⟩) (by decide +kernel) ?_ (fun m hm =>
      ⟨_, hcents m hm⟩)
    (by decide +kernel) (by decide) ?_ (hrows.imp fun _ _ h =>
      ⟨_, _, _, _, _, h⟩)
  · intro earliest h
    rw [hearliest] at h
    cases h
    exact .of_seconds ⟨0, rfl⟩
  · intro earliest h
    rw [hearliest] at h
    cases h
    exact ⟨_, hsince⟩

/-- A payment at midnight of a clock that is half a second ahead. -/
def Sample.halfSecond : Member Reported :=
  ⟨0, Sample.shifted (.offset 500000)
    (Sample.reported "7" "tea" (Sample.day 3))⟩

/-- A batch that is stored in full is inserted again where its earliest moment
is cut to the second by the local clock and comes out later than that second of
its timestamp: the window leaves out the rows of the batch. -/
theorem recorded_not_always_ignored :
    ¬ ∀ (env : Environment) (account : Account) (provider : String)
      (batch : List (Member Reported)) (s : Store) (j : Journal),
      env.chainFor? provider = none → batch ≠ [] → Member.Coherent batch →
      (∀ m ∈ batch, m.record.dateTime.IsFixed) →
      (∀ m ∈ batch, ∀ m' ∈ batch,
        m.record.dateTime.offset - m'.record.dateTime.offset ≤ ticksPerDay) →
      (∀ m ∈ batch, ∃ n, m.record.cents = .ok n) →
      (∀ m ∈ batch, m.record.hasNan = false) →
      1 ≤ env.settings.dateBackoffDays →
      (∀ earliest, Moment.earliest? (batch.map (·.record.dateTime)) =
        some earliest →
        ∃ since, earliest.date.addDays? (-env.settings.dateBackoffDays) =
          some since) →
      List.Forall₂ (fun m r => r.DerivedFrom m.record) batch s.rows →
      ∃ i j', Returns (determineInstruction env account provider batch
        fun _ date =>
          pure (s.since date)) j i j' ∧
        i.toDelete = [] ∧ i.toInsert = [] ∧ i.toUpdate = [] ∧
        i.toIgnore = List.zipWith (fun m r => ⟨m, r.id, .regular⟩)
          batch s.rows ∧ i.oldestChanged = none := by
  intro h
  have hcoherent : Member.Coherent [Sample.halfSecond] := by
    unfold Member.Coherent
    decide +kernel
  have hcents : Sample.halfSecond.record.cents = .ok (-1250) := by
      decide +kernel
  have hrow : Sample.halfSecond.record.toStored Sample.account
      (Sample.record "r1" Sample.halfSecond.record).id "EUR" .regular none
        Sample.now =
          .ok (Sample.record "r1" Sample.halfSecond.record) := by decide +kernel
  have hsince : Sample.halfSecond.record.dateTime.date.addDays? (-1) =
      some (Sample.day 2) := by
    decide +kernel
  obtain ⟨i, j', hreturns, -, hinsert, -⟩ :=
    h Sample.chainless Sample.account "BANK"
    [Sample.halfSecond] ⟨[Sample.record "r1" Sample.halfSecond.record]⟩ .empty
      (by decide +kernel)
    (by decide) hcoherent (List.forall_mem_singleton.2 ⟨500000, rfl⟩)
      (by decide +kernel)
    (List.forall_mem_singleton.2 ⟨_, hcents⟩) (by decide +kernel) (by decide)
    (fun earliest hearliest => by obtain rfl := Option.some.inj hearliest; exact ⟨_, hsince⟩)
    (.cons ⟨_, _, _, _, _, hrow⟩ .nil)
  have hrun : ((determineInstruction Sample.chainless Sample.account "BANK"
      [Sample.halfSecond]
      fun _ date => pure
        (Store.since ⟨[Sample.record "r1" Sample.halfSecond.record]⟩
        date)).run.run .empty).1.map (·.toInsert.length) = .ok 1 := by
        decide +kernel
  unfold Returns at hreturns
  rw [hreturns] at hrun
  have hlength : i.toInsert.length = 1 := Except.ok.inj hrun
  rw [hinsert] at hlength
  cases hlength

end Recorded

end LedgerSync
