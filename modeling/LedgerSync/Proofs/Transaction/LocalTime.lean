import LedgerSync.Calendar.Iso
import LedgerSync.Proofs.Store.Records
import LedgerSync.Proofs.Transaction.Unchanged

/-!
# The local time of a record

A record keeps a date, a timestamp in universal time to the millisecond, and a
label for an offset. Each is derived on its own from the local time of the
transaction, and together they give it back to the millisecond: what the label
stands for (`Calendar.labelOffset?`), added to the timestamp, is the local time,
and its day is the date of the record (`Reported.toStored_localTime`).

A label has no seconds, so what it stands for is the offset to the minute
(`Moment.labelOffset_of_offsetLabel`). The local time is given back where the
offset is a whole number of minutes.
-/

namespace LedgerSync

/-! ## Reading labels -/

namespace Calendar

variable {count n : Nat} {ds : List Char}

/-- Digits are read in the same way whatever comes after them. -/
theorem digits?_append (h : digits? count ds = some (n, []))
    (rest : List Char) :
    digits? count (ds ++ rest) = some (n, rest) := by
  unfold digits? at h ⊢
  dsimp only at h ⊢
  split at h
  case isFalse => cases h
  next hdigits =>
  have hdrop : ds.drop count = [] := congrArg Prod.snd (Option.some.inj h)
  have hlong : ds.length = count := by
    have hlength := congrArg List.length hdrop
    simp only [Bool.and_eq_true, decide_eq_true_eq, List.length_take] at hdigits
    rw [List.length_drop, List.length_nil] at hlength
    omega
  rw [← hlong, List.take_left, List.drop_left]
  rw [← hlong, List.take_length, List.drop_length] at h
  rw [← hlong, List.take_length] at hdigits
  obtain ⟨rfl, -⟩ := Prod.mk.inj (Option.some.inj h)
  rw [if_pos hdigits]

/-- Two digits that were written are read back. -/
theorem digits?_padded (hn : n < 100) (rest : List Char) :
    digits? 2 ((Date.padded 2 n).toList ++ rest) = some (n, rest) := by
  have hall : ∀ k : Fin 100, digits? 2 (Date.padded 2 k).toList =
      some (k.val, []) := by decide +kernel
  exact digits?_append (hall ⟨n, hn⟩) rest

/-- An offset of hours and minutes, in microseconds. -/
def minutesOffset (negative : Bool) (hours minutes : Nat) : Int :=
  if negative then -(clockTicks hours minutes 0 0 : Int)
  else clockTicks hours minutes 0 0

/-- An offset is read from its hours and minutes. -/
theorem offsetPart?_of_digits (negative : Bool) {hs ms : List Char}
    {hours minutes : Nat}
    (hhs : digits? 2 (hs ++ ':' :: ms) = some (hours, ':' :: ms))
    (hms : digits? 2 ms = some (minutes, [])) (hhours : hours < 24)
    (hminutes : minutes < 60) :
    offsetPart? negative (hs ++ ':' :: ms) =
      some (.offset (minutesOffset negative hours minutes)) := by
  have hday : clockTicks hours minutes 0 0 < ticksPerDay := by
    simp only [clockTicks, ticksPerDay, ticksPerSecond]
    omega
  unfold offsetPart?
  rw [hhs, Option.bind_eq_bind, Option.bind_some]
  dsimp only [skip?]
  rw [if_pos rfl, Option.bind_eq_bind, Option.bind_some, hms, Option.bind_some]
  rw [Option.bind_some, fractionPart]
  · rw [List.isEmpty_nil, Bool.true_and, if_pos (decide_eq_true hday),
      minutesOffset]
  · exact fun _ h => List.cons_ne_nil _ _ h.symm

/-- An offset of hours and minutes that was written is read back. -/
theorem offsetPart?_padded (negative : Bool) {hours minutes : Nat}
    (hhours : hours < 24) (hminutes : minutes < 60) :
    offsetPart? negative
      ((Date.padded 2 hours).toList ++ ':' :: (Date.padded 2 minutes).toList) =
        some (.offset (minutesOffset negative hours minutes)) := by
  have hread := digits?_padded (Nat.lt_trans hminutes (by decide)) []
  rw [List.append_nil] at hread
  exact offsetPart?_of_digits negative
    (digits?_padded (Nat.lt_trans hhours (by decide)) _) hread
    hhours hminutes

/-- The offset that a label stands for, in microseconds. -/
def labelOffset? (label : String) : Option Int :=
  match zonePart? (fun _ => none) label.toList with
  | some (some (.offset ticks)) => some ticks
  | _ => none

/-- A label with a sign stands for the offset after it. -/
theorem labelOffset?_signed {label : String} {negative : Bool} {cs : List Char}
    {ticks : Int}
    (hlabel : label.toList = (if negative then '-' else '+') :: cs)
    (h : offsetPart? negative cs = some (.offset ticks)) :
    labelOffset? label = some ticks := by
  have hzone : zonePart? (fun _ => none) label.toList =
      some (some (.offset ticks)) := by
    rw [hlabel]
    cases negative with
    | false =>
      show (offsetPart? false cs).map some = _
      rw [h]
      rfl
    | true =>
      show (offsetPart? true cs).map some = _
      rw [h]
      rfl
  rw [labelOffset?, hzone]

end Calendar

/-- The label of an offset stands for the offset to the minute. -/
theorem Moment.labelOffset_of_offsetLabel {m : Moment}
    (h : m.offset.natAbs < ticksPerDay) :
    Calendar.labelOffset? m.offsetLabel =
      some (m.offset.tdiv (60 * ticksPerSecond) * (60 * ticksPerSecond)) := by
  by_cases hzero : m.offset = 0
  · rw [offsetLabel, if_pos hzero, hzero]
    rfl
  have hhours : m.offset.natAbs / (60 * ticksPerSecond) / 60 < 24 := by
    simp only [ticksPerDay, ticksPerSecond] at h ⊢
    omega
  have hread := Calendar.offsetPart?_padded (decide (m.offset < 0)) hhours
    (Nat.mod_lt (m.offset.natAbs / (60 * ticksPerSecond)) (by decide))
  have hlabel : m.offsetLabel.toList = (if decide (m.offset < 0) then '-'
  else '+') ::
      ((Date.padded 2 (m.offset.natAbs / (60 * ticksPerSecond) / 60)).toList ++
        ':' :: (Date.padded 2 (m.offset.natAbs / (60 * ticksPerSecond) %
          60)).toList) := by
    rw [offsetLabel, if_neg hzero]
    dsimp only
    by_cases hwest : m.offset < 0
    · simp [hwest]
    · simp [hwest]
  rw [Calendar.labelOffset?_signed hlabel hread, Calendar.minutesOffset]
  by_cases hwest : m.offset < 0
  · have hminutes : m.offset.tdiv (60 * ticksPerSecond) =
        -(-m.offset / (60 * ticksPerSecond)) := by
      rw [← Int.tdiv_eq_ediv_of_nonneg (by omega), Int.neg_tdiv, Int.neg_neg]
    rw [hminutes, decide_eq_true hwest, if_pos rfl, Option.some.injEq]
    simp only [Calendar.clockTicks, ticksPerSecond]
    omega
  · have hminutes : m.offset.tdiv (60 * ticksPerSecond) = m.offset /
        (60 * ticksPerSecond) :=
      Int.tdiv_eq_ediv_of_nonneg (by omega)
    rw [hminutes, decide_eq_false hwest, if_neg Bool.false_ne_true,
      Option.some.injEq]
    simp only [Calendar.clockTicks, ticksPerSecond]
    omega

/-! ## The local time -/

theorem Wall.ofTicks?_ticks (w : Wall) : ofTicks? w.ticks = some w := by
  have hw := w.ticks_lt
  unfold ofTicks?
  rw [dif_pos ⟨Int.natCast_nonneg _, by exact_mod_cast hw⟩]
  rfl

/-- What is finer than a millisecond does not change the day. -/
theorem Moment.toMillis_date (m : Moment) : m.toMillis.date = m.date := by
  simp only [date, toMillis, Wall.date, Wall.floorTo, ticksPerDay,
    ticksPerSecond, Date.mk.injEq]
  omega

/-- The local time of a record: what its label stands for, added to its
timestamp. -/
def Stored.localTime? (r : Stored) : Option Wall := do
  let timestamp ← r.timestamp
  let offset ← Calendar.labelOffset? (← r.timeZone)
  Wall.ofTicks? (timestamp.instant + offset)

namespace Reported

variable {t : Reported} {account : Account} {id currency : String}
  {fillKind : FillKind} {createdAt : Option DateTime} {now : DateTime}
  {r : Stored}

/-- The local time of a record is that of its transaction to the millisecond,
and its day is the date of the record. -/
theorem localTime_of_toStored
    (hminutes : (60 * ticksPerSecond : Int) ∣ t.dateTime.offset)
    (hday : t.dateTime.offset.natAbs < ticksPerDay)
    (h : t.toStored account id currency fillKind createdAt now = .ok r) :
    r.localTime? = some t.dateTime.toMillis.wall ∧
    t.dateTime.toMillis.wall.date = r.date := by
  obtain ⟨u, hu, htimestamp⟩ := timestamp_of_toStored h
  obtain ⟨-, hinstant⟩ := Moment.utcMillis_spec hu
  have hlabel := Moment.labelOffset_of_offsetLabel hday
  rw [Int.tdiv_mul_cancel hminutes] at hlabel
  -- an offset of whole minutes is a whole number of milliseconds
  have hticks : u.instant + t.dateTime.offset =
      t.dateTime.toMillis.wall.ticks := by
    rw [hinstant]
    simp only [Moment.instant, Moment.toMillis, Wall.floorTo, ticksPerSecond]
      at hminutes ⊢
    omega
  constructor
  · unfold Stored.localTime?
    rw [htimestamp, timeZone_of_toStored h]
    simp only [Option.bind_eq_bind, Option.bind_some, hlabel, hticks,
      Wall.ofTicks?_ticks]
  · exact (t.dateTime.toMillis_date).trans (toStored_identity h).2.1.symm

/-- A transaction with an offset of whole minutes, below a day, and an instant
in the calendar has a record unless its amount is refused. Date, timestamp and
label of the record agree: what the label stands for, added to the timestamp,
gives back the local time to the millisecond, and its day is the date. -/
theorem toStored_localTime
    (hminutes : (60 * ticksPerSecond : Int) ∣ t.dateTime.offset)
    (hday : t.dateTime.offset.natAbs < ticksPerDay)
    (hrange : t.dateTime.toUtc? ≠ none) (account : Account)
    (id currency : String) (fillKind : FillKind) (createdAt : Option DateTime)
    (now : DateTime) :
    (∀ r, t.toStored account id currency fillKind createdAt now = .ok r →
      r.localTime? = some t.dateTime.toMillis.wall ∧
        t.dateTime.toMillis.wall.date = r.date) ∧
    ∀ f, t.toStored account id currency fillKind createdAt now = .error f →
    t.signedAmount = .error f :=
  ⟨fun _ h => localTime_of_toStored hminutes hday h,
    fun _ h => (error_of_toStored h).resolve_right fun hbeyond =>
      hrange hbeyond.2⟩

end Reported

/-- A quarter of an hour before midnight and some microseconds, five and a half
hours behind universal time. -/
def Sample.lateEvening : Moment :=
  ⟨⟨(Sample.day 3).days * ticksPerDay +
    (85500 * ticksPerSecond + 123456), by decide⟩, .ofSeconds (-19800)⟩

/-- A payment at that time. -/
def Sample.paidLate : Reported :=
  { Sample.reported "x" "tea" (Sample.day 3) with dateTime :=
    Sample.lateEvening }

/-- The timestamp of its record is of the next day. -/
theorem paidLate_localTime :
    ∃ r, Sample.paidLate.toStored Sample.account "r1" "EUR" .regular none
      Sample.now = .ok r ∧
      r.timeZone = some "-05:30" ∧ r.timestamp.map (·.date) =
        some (Sample.day 4) ∧
      r.date = Sample.day 3 ∧
      r.localTime? = some Sample.lateEvening.toMillis.wall := by
  obtain ⟨hconsistent, herror⟩ :=
    @Reported.toStored_localTime Sample.paidLate (by decide) (by decide)
    (by decide +kernel) Sample.account "r1" "EUR" .regular none Sample.now
  cases hr : Sample.paidLate.toStored Sample.account "r1" "EUR" .regular none
    Sample.now with
  | error f =>
    have hamount : Sample.paidLate.signedAmount =
        .ok (.finite true 1250 (-2)) := by decide +kernel
    cases hamount.symm.trans (herror f hr)
  | ok r =>
    have htimestamp : Sample.paidLate.timestamp.map (·.date) =
        .ok (Sample.day 4) := by decide +kernel
    obtain ⟨u, hu, hstored⟩ := Reported.timestamp_of_toStored hr
    rw [hu] at htimestamp
    obtain ⟨hlocal, hdate⟩ := hconsistent r hr
    refine ⟨r, rfl, (Reported.timeZone_of_toStored hr).trans
      (by decide +kernel), ?_, ?_, hlocal⟩
    · rw [hstored]
      exact congrArg some (Except.ok.inj htimestamp)
    · rw [← hdate]
      decide +kernel

end LedgerSync
