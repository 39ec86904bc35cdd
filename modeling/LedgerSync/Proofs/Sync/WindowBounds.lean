import LedgerSync.Proofs.Calendar.Extremes
import LedgerSync.Proofs.Sync.RecordWindow

/-!
# The bounds of the window

The window of a batch begins at one moment, the earliest one, and at the local
date of that moment. So it reaches back to every transaction when that moment is
before none of the instants of the batch, and to every local date when its own
date is before none of them.

The first holds unless a skipped local time overtakes another moment of the
batch (`selectStoredWindow_keeps_timestamped`). The second needs more, because
what is earliest in time may be dated a day after the rest where the clocks of a
batch show different offsets (`selectStoredWindow_keeps_dated`). For the same
reason rows are loaded from some days before that date; every local date is
reached when the offsets are no further apart than these days
(`selectStoredWindow_loads_dated`). Each condition is needed:
`timestamped_not_always_kept`, `dated_not_always_kept` and
`dated_not_always_loaded` are batches for which a counterpart is left out.
-/

namespace LedgerSync

open Run

namespace StoredWindow

variable {settings : SyncSettings} {provider : String}
  {batch : List (Member Reported)} {earliest : Moment}

/-- A record that is neither left out for its id nor evicted is in the
window. -/
theorem holds_of_place {r : Stored} {p : Placement}
    (hsurvives : survives settings provider batch r)
    (hplace : place earliest (keepIds settings provider batch) r = p)
    (hp : p = .kept ∨ p = .keptOnDate) :
    holds settings provider batch earliest r = true := by
  rw [holds, hsurvives, hplace]
  rcases hp with rfl | rfl <;> rfl

/-- A record is not evicted when its timestamp, to the second, is not before
the earliest moment, and that one cuts back. -/
theorem holds_of_timestamp {r : Stored} {t : Moment} (hr : r.timestamp = some t)
    (ht : t.IsFixed) (hseconds : (ticksPerSecond : Int) ∣ t.offset)
    (hsurvives : survives settings provider batch r) (hcut : earliest.CutsBack)
    (hle : earliest.instant / ticksPerSecond ≤ t.instant / ticksPerSecond) :
    holds settings provider batch earliest r = true := by
  have hnot := Moment.not_earlier_of_seconds ht hseconds hcut hle
  refine holds_of_place (p := .kept) hsurvives ?_ (Or.inl rfl)
  rw [place, hr]
  dsimp only
  rw [hnot]
  split <;> rfl

/-- A record without timestamp is not evicted when its date is not before that
of the earliest moment. -/
theorem holds_of_date {r : Stored} (hr : r.timestamp = none)
    (hsurvives : survives settings provider batch r)
    (hle : earliest.date ≤ r.date) :
    holds settings provider batch earliest r = true := by
  obtain ⟨p, hplace, hp⟩ :
      ∃ p, place earliest (keepIds settings provider batch) r = p ∧
      (p = .kept ∨ p = .keptOnDate) := by
    rw [place, hr]
    dsimp only
    rw [if_pos hle]
    split
    · exact ⟨_, rfl, Or.inl rfl⟩
    · exact ⟨_, rfl, Or.inr rfl⟩
  exact holds_of_place hsurvives hplace hp

/-- Runs of one selection keep the same rows. -/
theorem kept_eq_of_run {run : Run Selection} {j j' : Journal}
    {selection : Selection} {kept : List (Member Stored)}
    (h : Returns run j selection j')
    (hrun : (run.run.run j).1.map Selection.kept = .ok kept) :
    selection.kept = kept := by
  unfold Returns at h
  rw [h] at hrun
  exact Except.ok.inj hrun

end StoredWindow

section Bounds

variable {settings : SyncSettings} {provider : String}
  {batch : List (Member Reported)}

/-- The earliest moment of a batch is that of a transaction, and no transaction
is before it. -/
theorem exists_earliest_member {earliest : Moment}
    (hearliest : Moment.earliest? (batch.map (·.record.dateTime)) =
      some earliest)
    (horder : ∀ m ∈ batch, ∀ m' ∈ batch,
      ¬m.record.dateTime.Overtakes m'.record.dateTime) :
    ∃ m₀ ∈ batch, m₀.record.dateTime = earliest ∧
      ∀ m ∈ batch, earliest.instant ≤ m.record.dateTime.instant := by
  have hmoments : ∀ a ∈ batch.map (·.record.dateTime),
      ∀ b ∈ batch.map (·.record.dateTime), ¬a.Overtakes b := by
    intro a ha b hb
    obtain ⟨m, hm, rfl⟩ := List.mem_map.1 ha
    obtain ⟨m', hm', rfl⟩ := List.mem_map.1 hb
    exact horder m hm m' hm'
  obtain ⟨hmem, hle⟩ := Moment.instant_le_of_earliest? hearliest hmoments
  obtain ⟨m₀, hm₀, heq⟩ := List.mem_map.1 hmem
  exact ⟨m₀, hm₀, heq, fun m hm => hle _ (List.mem_map_of_mem hm)⟩

/-! ## Rows with a timestamp -/

/-- The window keeps every loaded row that is not left out for its external id
and whose timestamp, in whole seconds, is not before all transactions of the
batch; in particular every record that was derived from one of them. A skipped
local time must not overtake another transaction, and the earliest one must cut
back, as it does in every region and at every offset of whole seconds. -/
theorem selectStoredWindow_keeps_timestamped {earliest : Moment} {since : Date}
    (hearliest : Moment.earliest? (batch.map (·.record.dateTime)) =
      some earliest)
    (hsince : earliest.date.addDays? (-settings.dateBackoffDays) = some since)
    (horder : ∀ m ∈ batch, ∀ m' ∈ batch,
      ¬m.record.dateTime.Overtakes m'.record.dateTime)
    (hcut : earliest.CutsBack) (rows : Date → List (Member Stored))
    (j : Journal) :
    ∃ selection j', Returns
      (selectStoredWindow settings provider batch fun date =>
        pure (rows date)) j selection j' ∧
      (∀ e ∈ rows since, ∀ t, e.record.timestamp = some t → t.IsFixed →
        (ticksPerSecond : Int) ∣ t.offset →
        StoredWindow.survives settings provider batch e.record →
        (∃ m ∈ batch,
          m.record.dateTime.instant / ticksPerSecond ≤ t.instant /
            ticksPerSecond) →
        e ∈ selection.kept) ∧
      ∀ e ∈ rows since, ∀ m ∈ batch, e.record.DerivedFrom m.record →
      e ∈ selection.kept := by
  obtain ⟨selection, j', hreturns, hkept, -⟩ :=
    selectStoredWindow_kept hearliest hsince provider rows j
  obtain ⟨-, -, -, hle⟩ := exists_earliest_member hearliest horder
  refine ⟨selection, j', hreturns, ?_, ?_⟩
  · rintro e he t ht hfixed hseconds hsurvives ⟨m, hm, hmt⟩
    have hfirst : earliest.instant / ticksPerSecond ≤
        m.record.dateTime.instant / ticksPerSecond :=
      Int.ediv_le_ediv (by decide) (hle m hm)
    rw [hkept]
    exact List.mem_filter.2 ⟨he,
      StoredWindow.holds_of_timestamp ht hfixed hseconds hsurvives hcut
      (Int.le_trans hfirst hmt)⟩
  · rintro e he m hm ⟨account, currency, fillKind, createdAt, now, hr⟩
    obtain ⟨t, ht, hrt⟩ := Reported.timestamp_of_toStored hr
    rw [hkept]
    exact List.mem_filter.2 ⟨he,
      StoredWindow.holds_of_mirrors (hle m hm) hcut hm
      (Reported.mirrors_of_toStored hr).externalId ht hrt⟩

theorem Sample.clock_lt (d : Date) (minutes : Fin 1440) :
    d.days * ticksPerDay + minutes.val * (60 * ticksPerSecond) < Date.count *
    ticksPerDay := by
  have hd := d.days_lt
  have hm := minutes.isLt
  simp only [ticksPerDay, ticksPerSecond]
  omega

/-- Minutes of a day by the clock of a zone. -/
def Sample.clock (d : Date) (minutes : Fin 1440) (zone : Zone) : Moment :=
  ⟨⟨d.days * ticksPerDay + minutes.val * (60 * ticksPerSecond),
    clock_lt d minutes⟩, zone⟩

/-- A payment at a given moment. -/
def Sample.reportedAt (externalId description : String) (t : Moment) :
    Reported :=
  { Sample.reported externalId description (Sample.day 0) with dateTime := t }

/-- A row with a given timestamp. -/
def Sample.storedAt (externalId description : String) (t : Moment) :
    Member Stored :=
  ⟨0, { Sample.stored "r1" externalId description t.date with
    timestamp := some t }⟩

/-- The Sunday of March 2021 on which the clocks of Amsterdam were put
forward. -/
def Sample.springSunday : Date := ⟨737876, by decide⟩

/-- Amsterdam in 2021, when the clocks were changed at one o'clock in universal
time in March, and again in October. -/
def Sample.amsterdam : Region :=
  ⟨"Europe/Amsterdam", 3600,
    [⟨737876 * 86400 + 3600, 7200⟩, ⟨738093 * 86400 + 3600, 3600⟩], rfl⟩

/-- A payment half an hour after the clocks were put forward, and one by a clock
of another offset, a minute earlier. -/
def Sample.afterChange : List (Member Reported) :=
  [⟨0, Sample.reportedAt "1" "rye" (Sample.clock Sample.springSunday 210
    (.region Sample.amsterdam))⟩,
    ⟨1, Sample.reportedAt "2" "tea" (Sample.clock Sample.springSunday 29
      (.ofSeconds (-3600)))⟩]

/-- The row of the second of these payments. -/
def Sample.afterChangeRow : Member Stored :=
  Sample.storedAt "2" "tea" (Sample.clock Sample.springSunday 89 .utc)

theorem afterChange_keeps_timestamped :
    ∃ selection j', Returns
      (selectStoredWindow .standard "BANK" Sample.afterChange fun _ =>
        pure [Sample.afterChangeRow]) .empty selection j' ∧
      Sample.afterChangeRow ∈ selection.kept := by
  have hearliest : Moment.earliest?
      (Sample.afterChange.map (·.record.dateTime)) =
        some (Sample.clock Sample.springSunday 29 (.ofSeconds (-3600))) := by
      decide +kernel
  have hregular : ∀ m ∈ Sample.afterChange, m.record.dateTime.isSkipped =
      false := by decide +kernel
  have horder : ∀ m ∈ Sample.afterChange, ∀ m' ∈ Sample.afterChange,
      ¬m.record.dateTime.Overtakes m'.record.dateTime :=
    fun m hm m' _ => Moment.not_overtakes_of_regular (hregular m hm) _
  have hsince : (Sample.clock Sample.springSunday 29
      (.ofSeconds (-3600))).date.addDays? (-1) =
        some ⟨737875, by decide⟩ := by decide +kernel
  obtain ⟨selection, j', hreturns, hkept, -⟩ :=
    @selectStoredWindow_keeps_timestamped .standard "BANK" _ _ _ hearliest
      hsince horder
      (by decide +kernel) (fun _ => [Sample.afterChangeRow]) .empty
  refine ⟨selection, j', hreturns, hkept _ List.mem_cons_self _ rfl ⟨0, rfl⟩
    (by decide) (by decide +kernel)
    ?_⟩
  exact ⟨_, List.mem_cons_of_mem _ List.mem_cons_self, by decide +kernel⟩

/-- A payment after the clocks of Amsterdam were put forward, and one at a local
time that they skipped, which stands for a later instant. -/
def Sample.overtaken : List (Member Reported) :=
  [⟨0, Sample.reportedAt "1" "rye" (Sample.clock Sample.springSunday 190
    (.region Sample.amsterdam))⟩,
    ⟨1, Sample.reportedAt "2" "tea" (Sample.clock Sample.springSunday 150
      (.region Sample.amsterdam))⟩]

/-- The row of the first of these payments. -/
def Sample.overtakenRow : Member Stored :=
  Sample.storedAt "1" "rye" (Sample.clock Sample.springSunday 70 .utc)

/-- A row of the instant of a transaction is evicted where a skipped local time
stands before that transaction by the clock and after it in time. -/
theorem timestamped_not_always_kept :
    ¬ ∀ (settings : SyncSettings) (provider : String)
      (batch : List (Member Reported))
      (earliest : Moment) (since : Date) (rows : Date → List (Member Stored))
        (j : Journal),
      Moment.earliest? (batch.map (·.record.dateTime)) = some earliest →
      earliest.date.addDays? (-settings.dateBackoffDays) = some since →
      ∃ selection j', Returns (selectStoredWindow settings provider batch
        fun date =>
          pure (rows date)) j selection j' ∧
        ∀ e ∈ rows since, ∀ t, e.record.timestamp = some t → t.zone = .utc →
          StoredWindow.survives settings provider batch e.record →
          (∃ m ∈ batch,
            m.record.dateTime.instant / ticksPerSecond ≤ t.instant /
              ticksPerSecond) →
          e ∈ selection.kept := by
  intro h
  have hearliest : Moment.earliest? (Sample.overtaken.map (·.record.dateTime)) =
      some (Sample.clock Sample.springSunday 150
        (.region Sample.amsterdam)) := by decide +kernel
  have hsince : (Sample.clock Sample.springSunday 150
      (.region Sample.amsterdam)).date.addDays? (-1) =
        some ⟨737875, by decide⟩ := by decide +kernel
  obtain ⟨selection, j', hreturns, hkept⟩ :=
    h .standard "BANK" Sample.overtaken _ _
    (fun _ => [Sample.overtakenRow]) .empty hearliest hsince
  have hnothing : selection.kept = [] :=
    StoredWindow.kept_eq_of_run hreturns (by decide +kernel)
  have hmem := hkept _ List.mem_cons_self _ rfl rfl (by decide +kernel)
    ⟨_, List.mem_cons_self, by decide +kernel⟩
  rw [hnothing] at hmem
  exact List.not_mem_nil hmem

/-! ## Rows without a timestamp -/

/-- The window loads from some days before the earliest local date of the batch
and keeps every loaded row without timestamp that is not left out for its
external id and not dated before that date; so it keeps those that are dated
like some transaction. What is earliest in time must be dated first too, and a
skipped local time must not overtake another transaction. -/
theorem selectStoredWindow_keeps_dated {day since : Date}
    (hday : Date.earliest? (batch.map (·.record.date)) = some day)
    (hsince : day.addDays? (-settings.dateBackoffDays) = some since)
    (horder : ∀ m ∈ batch, ∀ m' ∈ batch,
      ¬m.record.dateTime.Overtakes m'.record.dateTime)
    (hfirst : ∀ m ∈ batch,
      (∀ m' ∈ batch, m.record.dateTime.instant ≤ m'.record.dateTime.instant) →
      ∀ m' ∈ batch, m.record.date ≤ m'.record.date)
    (rows : Date → List (Member Stored)) (j : Journal) :
    ∃ selection j', Returns
      (selectStoredWindow settings provider batch fun date =>
        pure (rows date)) j selection j' ∧
      j'.asked = j.asked ++ [since] ∧
      (∀ e ∈ rows since, e.record.timestamp = none →
        StoredWindow.survives settings provider batch e.record →
        day ≤ e.record.date → e ∈ selection.kept) ∧
      ∀ e ∈ rows since, e.record.timestamp = none →
        StoredWindow.survives settings provider batch e.record →
        (∃ m ∈ batch, e.record.date = m.record.date) → e ∈ selection.kept := by
  obtain ⟨hdaymem, hdayle⟩ := Date.earliest?_eq_some_iff.1 hday
  obtain ⟨earliest, hearliest⟩ : ∃ earliest,
      Moment.earliest? (batch.map (·.record.dateTime)) = some earliest := by
    cases batch with
    | nil => cases hday
    | cons m ms => exact ⟨_, rfl⟩
  obtain ⟨m₀, hm₀, rfl, hle⟩ := exists_earliest_member hearliest horder
  have heq : m₀.record.dateTime.date = day := by
    obtain ⟨m₁, hm₁, rfl⟩ := List.mem_map.1 hdaymem
    exact Std.le_antisymm (hfirst m₀ hm₀ hle m₁ hm₁)
      (hdayle _ (List.mem_map_of_mem hm₀))
  obtain ⟨selection, j', hreturns, hkept, hasked⟩ :=
    selectStoredWindow_kept hearliest (by rw [heq]; exact hsince)
      provider rows j
  have hdated : ∀ e ∈ rows since, e.record.timestamp = none →
      StoredWindow.survives settings provider batch e.record →
      day ≤ e.record.date → e ∈ selection.kept := by
    intro e he hnone hsurvives hdate
    rw [hkept]
    exact List.mem_filter.2 ⟨he, StoredWindow.holds_of_date hnone hsurvives
      (heq ▸ hdate)⟩
  refine ⟨selection, j', hreturns, hasked, hdated, ?_⟩
  rintro e he hnone hsurvives ⟨m, hm, hdate⟩
  exact hdated e he hnone hsurvives (hdate ▸ hdayle _ (List.mem_map_of_mem hm))

/-- A row without timestamp. -/
def Sample.legacyRow (externalId description : String) (d : Date) :
    Member Stored :=
  ⟨0, { Sample.stored "r1" externalId description d with
    timestamp := none, timeZone := none }⟩

/-- Two payments by the clocks of two offsets: the one that is earlier in time
is dated earlier. -/
def Sample.aligned : List (Member Reported) :=
  [⟨0, Sample.reportedAt "1" "tea"
    (Sample.clock (Sample.day 4) 30 (.ofSeconds (-18000)))⟩,
    ⟨1, Sample.reportedAt "2" "rye"
      (Sample.clock (Sample.day 3) 720 (.ofSeconds 36000))⟩]

theorem aligned_keeps_dated :
    ∃ selection j', Returns
      (selectStoredWindow .standard "BANK" Sample.aligned fun _ =>
        pure [Sample.legacyRow "2" "rye" (Sample.day 3)]) .empty selection j' ∧
      j'.asked = [Sample.day 2] ∧ Sample.legacyRow "2" "rye" (Sample.day 3) ∈
      selection.kept := by
  have horder : ∀ m ∈ Sample.aligned, ∀ m' ∈ Sample.aligned,
      ¬m.record.dateTime.Overtakes m'.record.dateTime := by
    have hregular : ∀ m ∈ Sample.aligned, m.record.dateTime.isSkipped =
        false := by decide +kernel
    exact fun m hm m' _ => Moment.not_overtakes_of_regular (hregular m hm) _
  obtain ⟨selection, j', hreturns, hasked, -, hkept⟩ :=
    @selectStoredWindow_keeps_dated .standard "BANK" Sample.aligned
      (Sample.day 3) (Sample.day 2)
      (by decide +kernel) (by decide +kernel) horder (by decide +kernel)
      (fun _ => [Sample.legacyRow "2" "rye" (Sample.day 3)]) .empty
  exact ⟨selection, j', hreturns, hasked,
    hkept _ List.mem_cons_self rfl (by decide +kernel)
    ⟨_, List.mem_cons_of_mem _ List.mem_cons_self, by decide +kernel⟩⟩

/-- Two payments by the clocks of two offsets: the one that is earlier in time
is dated later. -/
def Sample.crossed : List (Member Reported) :=
  [⟨0, Sample.reportedAt "1" "tea"
    (Sample.clock (Sample.day 4) 30 (.ofSeconds 36000))⟩,
    ⟨1, Sample.reportedAt "2" "rye"
      (Sample.clock (Sample.day 3) 720 (.ofSeconds (-18000)))⟩]

/-- A row of the date of a transaction is evicted where the transaction that is
earliest in time is dated later: both bounds are taken from that one
transaction. -/
theorem dated_not_always_kept :
    ¬ ∀ (settings : SyncSettings) (provider : String)
      (batch : List (Member Reported))
      (day since : Date) (rows : Date → List (Member Stored)) (j : Journal),
      (∀ m ∈ batch, m.record.dateTime.IsFixed) →
      Date.earliest? (batch.map (·.record.date)) = some day →
      day.addDays? (-settings.dateBackoffDays) = some since →
      ∃ selection j', Returns (selectStoredWindow settings provider batch
        fun date =>
          pure (rows date)) j selection j' ∧
        j'.asked = j.asked ++ [since] ∧
        ∀ e ∈ rows since, e.record.timestamp = none →
          StoredWindow.survives settings provider batch e.record →
          day ≤ e.record.date → e ∈ selection.kept := by
  intro h
  have hfixed : ∀ m ∈ Sample.crossed, m.record.dateTime.zone =
      .offset m.record.dateTime.offset := by
    decide +kernel
  obtain ⟨selection, j', hreturns, -, hkept⟩ :=
    h .standard "BANK" Sample.crossed (Sample.day 3)
    (Sample.day 2) (fun _ => [Sample.legacyRow "2" "rye" (Sample.day 3)]) .empty
    (fun m hm => ⟨_, hfixed m hm⟩) (by decide +kernel) (by decide +kernel)
  have hnothing : selection.kept = [] :=
    StoredWindow.kept_eq_of_run hreturns (by decide +kernel)
  have hmem := hkept _ List.mem_cons_self rfl (by decide +kernel)
      (by decide +kernel)
  rw [hnothing] at hmem
  exact List.not_mem_nil hmem

/-! ## Rows that are loaded -/

/-- The window asks for the rows from one day on, and for no others, whatever
the loader gives. Where all offsets are fixed, that day is after no local date
of the batch, if the offsets of no two transactions are further apart than the
days by which it goes back. So a row that is dated like some transaction is
loaded. -/
theorem selectStoredWindow_loads_dated (hne : batch ≠ [])
    (hfixed : ∀ m ∈ batch, m.record.dateTime.IsFixed)
    (hoffsets : ∀ m ∈ batch, ∀ m' ∈ batch,
      m.record.dateTime.offset - m'.record.dateTime.offset ≤
        settings.dateBackoffDays * ticksPerDay)
    (hcalendar : ∀ earliest,
      Moment.earliest? (batch.map (·.record.dateTime)) = some earliest →
      ∃ since,
        earliest.date.addDays? (-settings.dateBackoffDays) = some since) :
    ∃ since,
      (∃ rest : List (Member Stored) → Run StoredWindow.Selection,
        ∀ load : Loader, selectStoredWindow settings provider batch load = (do
            Run.ask since
            let loaded ← load since
            rest loaded)) ∧
      (∀ (rows : Date → List (Member Stored)) (j : Journal), ∃ selection j',
        Returns (selectStoredWindow settings provider batch fun date =>
          pure (rows date)) j
          selection j' ∧
        j'.asked = j.asked ++ [since]) ∧
      (∀ m ∈ batch, since ≤ m.record.date) ∧
      ∀ s : Store, ∀ r ∈ s.rows, (∃ m ∈ batch, r.date = m.record.date) →
        r ∈ (s.since since).map (·.record) := by
  obtain ⟨earliest, hearliest⟩ : ∃ earliest,
      Moment.earliest? (batch.map (·.record.dateTime)) = some earliest :=
    Moment.exists_earliest? (by simpa using hne)
  obtain ⟨since, hsince⟩ := hcalendar earliest hearliest
  obtain ⟨hmem, hle⟩ :=
    Moment.earliest?_spec hearliest (List.forall_mem_map.2 hfixed)
  obtain ⟨m₀, hm₀, rfl⟩ := List.mem_map.1 hmem
  have hafter : ∀ m ∈ batch, since ≤ m.record.date := by
    intro m hm
    -- the days are not negative: a transaction does not differ in offset from
    -- itself
    have hback : 0 ≤ settings.dateBackoffDays := by
      have hself := hoffsets m₀ hm₀ m₀ hm₀
      simp only [ticksPerDay, ticksPerSecond] at hself
      omega
    have hapart : m₀.record.dateTime.offset - m.record.dateTime.offset ≤
        settings.dateBackoffDays.toNat * ticksPerDay := by
      rw [Int.toNat_of_nonneg hback]
      exact hoffsets m₀ hm₀ m hm
    have hinstant := hle _ (List.mem_map_of_mem (f := (·.record.dateTime)) hm)
    have hdate := Moment.date_le_of_instant_le hinstant hapart
    have hdays := Date.days_of_addDays? hsince
    rw [Date.le_iff]
    show since.days ≤ m.record.dateTime.date.days
    omega
  refine ⟨since, ⟨_, selectStoredWindow_eq hearliest hsince provider⟩, ?_,
    hafter, ?_⟩
  · intro rows j
    obtain ⟨selection, j', hreturns, -, hasked⟩ :=
      selectStoredWindow_kept hearliest hsince provider rows j
    exact ⟨selection, j', hreturns, hasked⟩
  · rintro s r hr ⟨m, hm, hdate⟩
    exact s.mem_since_of_le hr (hdate ▸ hafter m hm)

/-- Two payments at one instant by clocks that are a whole day apart. -/
def Sample.opposite : List (Member Reported) :=
  [⟨0, Sample.reportedAt "1" "tea"
    (Sample.clock (Sample.day 4) 30 (.ofSeconds 43200))⟩,
    ⟨1, Sample.reportedAt "2" "rye"
      (Sample.clock (Sample.day 3) 30 (.ofSeconds (-43200)))⟩]

theorem opposite_loads_dated :
    ∃ since,
      (∃ selection j', Returns
        (selectStoredWindow .standard "BANK" Sample.opposite fun _ =>
        pure []) .empty selection j' ∧ j'.asked = [since]) ∧
      ∀ m ∈ Sample.opposite, since ≤ m.record.date := by
  have hfixed : ∀ m ∈ Sample.opposite,
      m.record.dateTime.zone = .offset m.record.dateTime.offset := by
      decide +kernel
  have hearliest : Moment.earliest? (Sample.opposite.map (·.record.dateTime)) =
      some (Sample.clock (Sample.day 4) 30 (.ofSeconds 43200)) := by
      decide +kernel
  have hcalendar : ∀ earliest,
      Moment.earliest? (Sample.opposite.map (·.record.dateTime)) =
        some earliest →
      ∃ since, earliest.date.addDays? (-SyncSettings.standard.dateBackoffDays) =
        some since := by
    intro earliest h
    rw [hearliest] at h
    obtain rfl := Option.some.inj h
    exact ⟨Sample.day 3, by decide +kernel⟩
  obtain ⟨since, -, hreturns, hafter, -⟩ :=
    @selectStoredWindow_loads_dated .standard "BANK" Sample.opposite (by decide)
      (fun m hm => ⟨_, hfixed m hm⟩) (by decide +kernel) hcalendar
  exact ⟨since, hreturns (fun _ => []) .empty, hafter⟩

/-- Two payments at local times of the first and of the last offset that is in
use, 26 hours apart. -/
def Sample.farApart : List (Member Reported) :=
  [⟨0, Sample.reportedAt "1" "tea"
    (Sample.clock (Sample.day 4) 30 (.ofSeconds 50400))⟩,
    ⟨1, Sample.reportedAt "2" "rye"
      (Sample.clock (Sample.day 2) 1380 (.ofSeconds (-43200)))⟩]

/-- A day back does not reach the local dates of all offsets that are in use. -/
theorem dated_not_always_loaded :
    ¬ ∀ (settings : SyncSettings) (provider : String)
      (batch : List (Member Reported)) (since : Date)
      (selection : StoredWindow.Selection) (j : Journal),
      (∀ m ∈ batch, m.record.dateTime.IsFixed) →
      Returns (selectStoredWindow settings provider batch fun _ => pure [])
        .empty selection j →
      j.asked = [since] → ∀ m ∈ batch, since ≤ m.record.date := by
  intro h
  have hfixed : ∀ m ∈ Sample.farApart, m.record.dateTime.zone =
      .offset m.record.dateTime.offset := by
    decide +kernel
  have hrun : ((selectStoredWindow .standard "BANK" Sample.farApart fun _ =>
      pure []).run.run
      .empty).1 = .ok ⟨[], 0, []⟩ := by decide +kernel
  have hafter := h .standard "BANK" Sample.farApart (Sample.day 3) _ _
      (fun m hm => ⟨_, hfixed m hm⟩)
    (returns_of_run hrun) (by decide +kernel)
  exact absurd (hafter _ (List.mem_cons_of_mem _ List.mem_cons_self))
    (by decide +kernel)

end Bounds

end LedgerSync
