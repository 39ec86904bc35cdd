import LedgerSync.Proofs.Decimal.Cents
import LedgerSync.Proofs.Transaction.Derived

/-!
# Rows that a reported transaction leaves unchanged

A row repeats a transaction when deriving the record again, under the id,
account and currency of the row, gives a record of equal content
(`Stored.Repeats`). A record repeats the transaction that it was derived from,
if its numbers are numbers (`repeats_of_derivedFrom`).

Whatever else may differ in spelling, such a row shows what the transaction
shows (`Stored.Mirrors`): date, status, amount in cents, ids, names and texts
are the same, and the timestamps are one instant.
-/

namespace LedgerSync

/-- Whether one of the optional numbers of a transaction that are kept in
storage is a not-a-number: the first exchange rate or the foreign amount. -/
def Reported.hasNan (t : Reported) : Bool :=
  t.extended.any fun e =>
    (e.exchangeRates.head?.bind (·.rate)).any Decimal.isNan ||
      (e.foreignAmount.map (·.amount)).any Decimal.isNan

/-- The exchange rate that is kept in storage: the first one. -/
def Reported.keptRate (t : Reported) : Option Decimal :=
  t.extended.bind fun e => e.exchangeRates.head?.bind (·.rate)

/-- The foreign amount that is kept in storage. -/
def Reported.keptForeignAmount (t : Reported) : Option Decimal :=
  t.extended.bind fun e => e.foreignAmount.map (·.amount)

namespace Stored

/-- The row was derived from the transaction, for some account and at some
time. -/
def DerivedFrom (s : Stored) (t : Reported) : Prop :=
  ∃ account currency fillKind createdAt now,
    t.toStored account s.id currency fillKind createdAt now = .ok s

/-- The row has the content of what is derived from the transaction under the
row's id, account and currency. -/
def Repeats (s : Stored) (t : Reported) : Prop :=
  ∃ fillKind createdAt now d,
    t.toStored ⟨s.userId, s.accountId⟩ s.id s.currency fillKind createdAt
      now = .ok d ∧ d.same s = .ok true

/-- The timestamp, if there is one, has an offset of whole milliseconds, as
universal time has. -/
def HasMillisOffset (s : Stored) : Prop :=
  ∀ v, s.timestamp = some v → (1000 : Int) ∣ v.offset

/-- The row shows what the transaction shows. -/
structure Mirrors (s : Stored) (t : Reported) : Prop where
  date : s.date = t.date
  status : s.status = t.status
  cents : s.cents = t.cents
  externalId : s.externalId = t.externalId
  description : s.description = t.description
  bookingDate : s.bookingDate = t.bookingDate
  endToEndId : s.endToEndId = t.extended.bind (·.endToEndId)
  creditorName : s.creditor.name = t.extended.bind (·.creditorName)
  debtorName : s.debtor.name = t.extended.bind (·.debtorName)
  timestamp : ∃ u v, t.timestamp = .ok u ∧ s.timestamp = some v ∧
    u.same v = true

section Same

variable {a b : Stored}

/-- Equal records agree part by part. -/
theorem same_eq_ok_iff : a.same b = .ok true ↔
    a.sameIdentity b = true ∧ sameNumber (some a.amount) (some b.amount) =
      .ok true ∧
      a.sameDetails b = true ∧
      sameNumber a.exchangeRate.rate b.exchangeRate.rate = .ok true ∧
      sameNumber a.foreignAmount b.foreignAmount = .ok true ∧
      a.sameRemainder b = true := by
  unfold same
  cases a.sameIdentity b
  · simp [pure, Except.pure]
  rcases sameNumber (some a.amount) (some b.amount) with _ | ⟨_ | _⟩
  · simp [bind, Except.bind]
  · simp [bind, Except.bind, pure, Except.pure]
  cases a.sameDetails b
  · simp [bind, Except.bind, pure, Except.pure]
  rcases sameNumber a.exchangeRate.rate b.exchangeRate.rate with _ | ⟨_ | _⟩
  · simp [bind, Except.bind]
  · simp [bind, Except.bind, pure, Except.pure]
  rcases sameNumber a.foreignAmount b.foreignAmount with _ | ⟨_ | _⟩
  · simp [bind, Except.bind]
  · simp [bind, Except.bind, pure, Except.pure]
  · simp [bind, Except.bind, pure, Except.pure]

/-- Records of equal content have the same amount in cents. -/
theorem cents_eq_of_same (h : a.same b = .ok true) : a.cents = b.cents := by
  obtain ⟨-, hamount, -⟩ := same_eq_ok_iff.1 h
  unfold cents
  rw [Decimal.cents_eq_of_equal (mapError_eq_ok_iff.1 hamount)]

/-- Records are compared to the end when their numbers can be compared. -/
theorem same_total
    (hamount : ∃ x, sameNumber (some a.amount) (some b.amount) = .ok x)
    (hrate : ∃ x, sameNumber a.exchangeRate.rate b.exchangeRate.rate = .ok x)
    (hforeign : ∃ x, sameNumber a.foreignAmount b.foreignAmount = .ok x) :
    ∃ x, a.same b = .ok x := by
  obtain ⟨sameAmount, hamount⟩ := hamount
  obtain ⟨sameRate, hrate⟩ := hrate
  obtain ⟨sameForeign, hforeign⟩ := hforeign
  have hstop : ∀ (condition : Bool) (x : Except Failure Bool),
      (∃ y, x = .ok y) →
      ∃ y, (if condition = true then pure false else x) = .ok y := by
    intro condition x hx
    split
    · exact ⟨false, rfl⟩
    · exact hx
  unfold same
  rw [hamount, hrate, hforeign]
  exact hstop _ _ (hstop _ _ (hstop _ _ (hstop _ _ (hstop _ _ ⟨_, rfl⟩))))

/-- What a record shows is its content. -/
theorem Mirrors.of_same {t : Reported} (ha : a.Mirrors t)
    (h : a.same b = .ok true) : b.Mirrors t := by
  obtain ⟨-, -, hdetails, -⟩ := same_eq_ok_iff.1 h
  simp only [sameDetails, Bool.and_eq_true, beq_iff_eq, and_assoc] at hdetails
  obtain ⟨-, hdescription, htimestamp, -, hbooking, -, hexternal, hend,
    hcreditor, hdebtor, -⟩ :=
    hdetails
  obtain ⟨u, v, hu, hv, huv⟩ := ha.timestamp
  have hinstant : ∃ w, b.timestamp = some w ∧ v.same w = true := by
    rw [hv] at htimestamp
    cases hw : b.timestamp with
    | none =>
      rw [hw] at htimestamp
      cases htimestamp
    | some w =>
      rw [hw] at htimestamp
      exact ⟨w, rfl, htimestamp⟩
  obtain ⟨w, hw, hvw⟩ := hinstant
  exact {
    date := (date_eq_of_same h).symm.trans ha.date
    status := (status_eq_of_same h).symm.trans ha.status
    cents := (cents_eq_of_same h).symm.trans ha.cents
    externalId := hexternal.symm.trans ha.externalId
    description := hdescription.symm.trans ha.description
    bookingDate := hbooking.symm.trans ha.bookingDate
    endToEndId := hend.symm.trans ha.endToEndId
    creditorName := (congrArg Party.name hcreditor).symm.trans ha.creditorName
    debtorName := (congrArg Party.name hdebtor).symm.trans ha.debtorName
    timestamp := ⟨u, w, hu, hw, (Moment.same_iff_core_eq u w).2
      (((Moment.same_iff_core_eq u v).1 huv).trans
        ((Moment.same_iff_core_eq v w).1 hvw))⟩ }

end Same

end Stored

/-- A timestamp is in universal time, and its instant is that of its
transaction, to the millisecond. -/
theorem Moment.utcMillis_spec {m t : Moment} (h : m.utcMillis = .ok t) :
    t.zone = .utc ∧ t.instant = m.instant / 1000 * 1000 := by
  unfold utcMillis toUtc? at h
  cases hw : Wall.ofTicks? m.instant with
  | none =>
    rw [hw] at h
    cases h
  | some w =>
    rw [hw] at h
    obtain rfl := Except.ok.inj h
    have hticks : m.instant = w.ticks := by
      unfold Wall.ofTicks? at hw
      split at hw
      · obtain rfl := Option.some.inj hw
        show m.instant = m.instant.toNat
        omega
      · cases hw
    refine ⟨rfl, ?_⟩
    rw [hticks]
    simp only [instant, offset, toMillis, Wall.floorTo, Zone.offsetAt, Zone.utc]
    omega

theorem Moment.offset_of_utcMillis {m t : Moment} (h : m.utcMillis = .ok t) :
    t.offset = 0 := by
  rw [offset, (utcMillis_spec h).1]
  rfl

namespace Reported

variable {t : Reported} {account : Account} {id currency : String}
  {fillKind : FillKind} {createdAt : Option DateTime} {now : DateTime}
  {d : Stored}

/-- A derived record has the label of the transaction's offset. -/
theorem timeZone_of_toStored
    (h : t.toStored account id currency fillKind createdAt now = .ok d) :
    d.timeZone = some t.dateTime.offsetLabel := by
  obtain ⟨amount, -, h⟩ := bind_eq_ok_iff.1 h
  obtain ⟨u, -, h⟩ := bind_eq_ok_iff.1 h
  obtain rfl := pure_eq_ok_iff.1 h
  cases t.extended <;> rfl

/-- A derived record has the timestamp of the transaction. -/
theorem timestamp_of_toStored
    (h : t.toStored account id currency fillKind createdAt now = .ok d) :
    ∃ u, t.timestamp = .ok u ∧ d.timestamp = some u := by
  obtain ⟨amount, -, h⟩ := bind_eq_ok_iff.1 h
  obtain ⟨u, hu, h⟩ := bind_eq_ok_iff.1 h
  obtain rfl := pure_eq_ok_iff.1 h
  refine ⟨u, hu, ?_⟩
  cases t.extended <;> rfl

/-- A derived record belongs to the account it was derived for. -/
theorem toStored_account
    (h : t.toStored account id currency fillKind createdAt now = .ok d) :
    d.userId = account.userId ∧ d.accountId = account.accountId ∧
    d.currency = currency := by
  obtain ⟨amount, -, h⟩ := bind_eq_ok_iff.1 h
  obtain ⟨u, -, h⟩ := bind_eq_ok_iff.1 h
  obtain rfl := pure_eq_ok_iff.1 h
  cases t.extended <;> exact ⟨rfl, rfl, rfl⟩

/-- A derived record has the numbers of the transaction that are kept in
storage. -/
theorem numbers_of_toStored
    (h : t.toStored account id currency fillKind createdAt now = .ok d) :
    d.exchangeRate.rate = t.keptRate ∧
    d.foreignAmount = t.keptForeignAmount := by
  obtain ⟨amount, -, h⟩ := bind_eq_ok_iff.1 h
  obtain ⟨u, -, h⟩ := bind_eq_ok_iff.1 h
  obtain rfl := pure_eq_ok_iff.1 h
  unfold keptRate keptForeignAmount
  cases t.extended with
  | none => exact ⟨rfl, rfl⟩
  | some e =>
    refine ⟨?_, rfl⟩
    show (e.exchangeRates.head?.getD ⟨none, none, none⟩).rate =
      e.exchangeRates.head?.bind (·.rate)
    cases e.exchangeRates <;> rfl

theorem hasNan_of_toStored
    (h : t.toStored account id currency fillKind createdAt now = .ok d) :
    d.hasNan = t.hasNan := by
  obtain ⟨hrate, hforeign⟩ := numbers_of_toStored h
  unfold Stored.hasNan hasNan
  rw [hrate, hforeign]
  unfold keptRate keptForeignAmount
  cases t.extended <;> rfl

/-- A derived record shows what its transaction shows. -/
theorem mirrors_of_toStored
    (h : t.toStored account id currency fillKind createdAt now = .ok d) :
    d.Mirrors t := by
  obtain ⟨u, hu, hd⟩ := timestamp_of_toStored h
  have hcents : d.cents = t.cents := by
    unfold Stored.cents cents
    rw [signedAmount_of_toStored h]
    rfl
  obtain ⟨-, hdate, hstatus⟩ := toStored_identity h
  obtain ⟨amount, -, h⟩ := bind_eq_ok_iff.1 h
  obtain ⟨_, -, h⟩ := bind_eq_ok_iff.1 h
  obtain rfl := pure_eq_ok_iff.1 h
  exact {
    date := hdate
    status := hstatus
    cents := hcents
    externalId := by cases t.extended <;> rfl
    description := by cases t.extended <;> rfl
    bookingDate := by
      unfold bookingDate
      cases t.extended <;> rfl
    endToEndId := by cases t.extended <;> rfl
    creditorName := by cases t.extended <;> rfl
    debtorName := by cases t.extended <;> rfl
    timestamp := ⟨u, u, hu, hd, (Moment.same_iff_core_eq u u).2 rfl⟩ }

end Reported

namespace Stored

variable {s : Stored} {t : Reported}

theorem Repeats.mirrors (h : s.Repeats t) : s.Mirrors t := by
  obtain ⟨_, _, _, d, hd, hsame⟩ := h
  exact (Reported.mirrors_of_toStored hd).of_same hsame

/-- A row that repeats a transaction equals whatever is derived from it under
the row's id. -/
theorem Repeats.derived (h : s.Repeats t) (fillKind : FillKind)
    (createdAt : Option DateTime) (now : DateTime) :
    ∃ d, t.toStored ⟨s.userId, s.accountId⟩ s.id s.currency fillKind createdAt
      now = .ok d ∧ d.same s = .ok true := by
  obtain ⟨_, _, _, d, hd, hsame⟩ := h
  obtain ⟨d', hd'⟩ := Reported.toStored_total hd s.id fillKind createdAt now
  exact ⟨d', hd', (Reported.same_eq_of_toStored hd' hd s).trans hsame⟩

/-- Derived timestamps are in universal time. -/
theorem DerivedFrom.hasMillisOffset (h : s.DerivedFrom t) :
    s.HasMillisOffset := by
  obtain ⟨_, _, _, _, _, hs⟩ := h
  obtain ⟨u, hu, hsu⟩ := Reported.timestamp_of_toStored hs
  intro v hv
  obtain rfl := Option.some.inj (hsu.symm.trans hv)
  rw [Moment.offset_of_utcMillis hu]
  exact Int.dvd_zero 1000

/-- A record repeats the transaction that it was derived from. -/
theorem repeats_of_derivedFrom {n : Int} (h : s.DerivedFrom t)
    (hcents : t.cents = .ok n) (hnan : t.hasNan = false) : s.Repeats t := by
  obtain ⟨account, currency, fillKind, createdAt, now, hs⟩ := h
  obtain ⟨huser, haccount, hcurrency⟩ := Reported.toStored_account hs
  refine ⟨fillKind, createdAt, now, s, ?_, ?_⟩
  · rw [huser, haccount, hcurrency]
    exact hs
  · exact same_self (Reported.amount_isNan_of_cents hcents hs)
      ((Reported.hasNan_of_toStored hs).trans hnan)

end Stored

end LedgerSync
