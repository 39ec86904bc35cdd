import LedgerSync.Proofs.Transaction.Unchanged

/-!
# Transactions that storage cannot tell apart

Two transactions give equal records in the place of a row when they agree in all
that a record keeps of them (`Stored.sameRecords_iff`): status, amount in value,
texts, ids, the instant and the offset, and of what the bank adds the dates, the
counterparties, the first exchange rate and the rest. Numbers are compared by
value, so that one which is not a number agrees with nothing.
-/

namespace LedgerSync

/-- Nothing that a bank may add. -/
def Extended.nothing : Extended := {
  bookingDate := none, valueDate := none, endToEndId :=
    none, creditorName := none
  creditorAccount := none, debtorName := none, debtorAccount :=
    none, exchangeRates := []
  foreignAmount := none, bankTransactionCode := none, purposeCode := none
  remittanceStructured := none, remittanceUnstructured := none }

/-- The exchange rate that is kept: the first one. -/
def Extended.firstRate (e : Extended) : ExchangeRate :=
  e.exchangeRates.head?.getD ⟨none, none, none⟩

/-- Storage keeps the same of both. -/
structure Extended.KeptAlike (e e' : Extended) : Prop where
  bookingDate : e.bookingDate.map (·.date) = e'.bookingDate.map (·.date)
  valueDate : e.valueDate.map (·.date) = e'.valueDate.map (·.date)
  endToEndId : e.endToEndId = e'.endToEndId
  creditorName : e.creditorName = e'.creditorName
  creditorAccount : e.creditorAccount = e'.creditorAccount
  debtorName : e.debtorName = e'.debtorName
  debtorAccount : e.debtorAccount = e'.debtorAccount
  rateSource : e.firstRate.source = e'.firstRate.source
  rateTarget : e.firstRate.target = e'.firstRate.target
  rate : Stored.sameNumber e.firstRate.rate e'.firstRate.rate = .ok true
  foreignAmount : Stored.sameNumber (e.foreignAmount.map (·.amount))
    (e'.foreignAmount.map (·.amount)) = .ok true
  foreignCurrency : e.foreignAmount.map (·.currency) = e'.foreignAmount.map
    (·.currency)
  bankTransactionCode : e.bankTransactionCode = e'.bankTransactionCode
  purposeCode : e.purposeCode = e'.purposeCode
  remittanceStructured : e.remittanceStructured = e'.remittanceStructured
  remittanceUnstructured : e.remittanceUnstructured = e'.remittanceUnstructured

namespace Reported

/-- Storage keeps the same of both transactions, dates left aside. -/
structure KeptAlike (t t' : Reported) : Prop where
  status : t.status = t'.status
  amount : ∃ a a', t.signedAmount = .ok a ∧ t'.signedAmount = .ok a' ∧
    a.equal a' = .ok true
  description : t.description = t'.description
  timestamp : ∃ u u', t.timestamp = .ok u ∧ t'.timestamp = .ok u' ∧
    u.same u' = true
  timeZone : t.dateTime.offsetLabel = t'.dateTime.offsetLabel
  externalId : t.externalId = t'.externalId
  category : t.category = t'.category
  merchant : t.merchant = t'.merchant
  bankFields : t.bankFields = t'.bankFields
  extended : (t.extended.getD .nothing).KeptAlike (t'.extended.getD .nothing)

/-- A record is derived from what the bank adds, be it nothing. -/
theorem toStored_extended (t : Reported) (account : Account)
    (id currency : String) (fillKind : FillKind) (createdAt : Option DateTime)
    (now : DateTime) :
    t.toStored account id currency fillKind createdAt now = do
      let amount ← t.signedAmount
      let timestamp ← t.timestamp
      return Stored.withExtended {
        Stored.plain account.userId account.accountId t.date id t.status amount
          currency with
        description := t.description
        timestamp := some timestamp
        timeZone := some t.dateTime.offsetLabel
        externalId := t.externalId
        category := t.category
        merchant := t.merchant
        bankFields := t.bankFields
        lastUpdated := some now.toMillis
        createdAt := some (createdAt.getD now.toMillis)
        fillKind := some fillKind } (t.extended.getD .nothing) := by
  unfold toStored
  cases t.extended <;> rfl

end Reported

theorem AccountReference.ofKind_eq_some {kind : AccountKind}
    {r : Option AccountReference} {number : String} :
    ofKind kind r = some number ↔ r = some ⟨kind, number⟩ := by
  cases r with
  | none => simp [ofKind]
  | some a =>
    obtain ⟨kind', number'⟩ := a
    by_cases hkind : kind' = kind
    · simp [ofKind, hkind]
    · simp [ofKind, hkind]

/-- A counterparty in storage tells its name and its account. -/
theorem Party.ofReference_inj {name name' : Option String}
    {r r' : Option AccountReference} :
    Party.ofReference name r = Party.ofReference name' r' ↔
      name = name' ∧ r = r' := by
  constructor
  · intro h
    have hnumber : ∀ kind, AccountReference.ofKind kind r =
        AccountReference.ofKind kind r' := by
      intro kind
      cases kind with
      | iban => exact congrArg Party.iban h
      | bban => exact congrArg Party.bban h
      | pan => exact congrArg Party.pan h
      | maskedPan => exact congrArg Party.maskedPan h
      | sortCodeAccountNumber => exact congrArg Party.sortCodeAccountNumber h
    refine ⟨congrArg Party.name h, Option.ext fun a => ?_⟩
    have hr := @AccountReference.ofKind_eq_some a.kind r a.number
    have hr' := @AccountReference.ofKind_eq_some a.kind r' a.number
    rw [hnumber] at hr
    exact hr.symm.trans hr'
  · rintro ⟨rfl, rfl⟩
    rfl

namespace Stored

/-- The transactions would give equal records in the place of a row. -/
def SameRecords (s : Stored) (now : DateTime) (t t' : Reported) : Prop :=
  ∃ d d',
    t.toStored ⟨s.userId, s.accountId⟩ s.id s.currency .regular
      s.createdAt now = .ok d ∧
    t'.toStored ⟨s.userId, s.accountId⟩ s.id s.currency .regular
      s.createdAt now = .ok d' ∧
    d.same d' = .ok true

variable {s : Stored} {now : DateTime} {t t' : Reported}

theorem keptAlike_of_sameRecords (h : s.SameRecords now t t') :
    t.KeptAlike t' := by
  unfold SameRecords at h
  rw [Reported.toStored_extended, Reported.toStored_extended] at h
  obtain ⟨d, d', hd, hd', hsame⟩ := h
  obtain ⟨a, ha, hd⟩ := bind_eq_ok_iff.1 hd
  obtain ⟨u, hu, hd⟩ := bind_eq_ok_iff.1 hd
  obtain rfl := pure_eq_ok_iff.1 hd
  obtain ⟨a', ha', hd'⟩ := bind_eq_ok_iff.1 hd'
  obtain ⟨u', hu', hd'⟩ := bind_eq_ok_iff.1 hd'
  obtain rfl := pure_eq_ok_iff.1 hd'
  obtain ⟨hidentity, hamount, hdetails, hrate, hforeign, hremainder⟩ :=
    same_eq_ok_iff.1 hsame
  simp only [sameIdentity, sameDetails, sameRemainder, withExtended, plain,
    Bool.and_eq_true, beq_iff_eq,
    Party.ofReference_inj, Option.some.injEq, and_assoc]
    at hidentity hdetails hremainder
  obtain ⟨-, -, -, -, hstatus⟩ := hidentity
  obtain ⟨-, hdescription, hsameTime, hzone, hbooking, hvalue, hid, hend,
    hcreditor, hcreditorAccount,
    hdebtor, hdebtorAccount, hsource, htarget⟩ := hdetails
  obtain ⟨hcurrency, hcode, hpurpose, hfields, hcategory, hmerchant,
    hstructured, hunstructured⟩ :=
    hremainder
  exact {
    status := hstatus
    amount := ⟨a, a', ha, ha', mapError_eq_ok_iff.1 hamount⟩
    description := hdescription
    timestamp := ⟨u, u', hu, hu', hsameTime⟩
    timeZone := hzone
    externalId := hid
    category := hcategory
    merchant := hmerchant
    bankFields := hfields
    extended := ⟨hbooking, hvalue, hend, hcreditor, hcreditorAccount, hdebtor,
      hdebtorAccount, hsource,
      htarget, hrate, hforeign, hcurrency, hcode, hpurpose, hstructured,
        hunstructured⟩ }

theorem sameRecords_of_keptAlike (hdate : t.date = t'.date)
    (h : t.KeptAlike t') :
    s.SameRecords now t t' := by
  unfold SameRecords
  rw [Reported.toStored_extended, Reported.toStored_extended]
  obtain ⟨a, a', ha, ha', hamount⟩ := h.amount
  obtain ⟨u, u', hu, hu', htime⟩ := h.timestamp
  have he := h.extended
  refine ⟨_, _, bind_eq_ok_iff.2 ⟨a, ha, bind_eq_ok_iff.2 ⟨u, hu, rfl⟩⟩,
    bind_eq_ok_iff.2 ⟨a', ha', bind_eq_ok_iff.2 ⟨u', hu', rfl⟩⟩, ?_⟩
  refine same_eq_ok_iff.2 ⟨?_, mapError_eq_ok_iff.2 hamount, ?_, he.rate,
    he.foreignAmount, ?_⟩
  · simp [sameIdentity, withExtended, plain, hdate, h.status]
  · have hcreditor : Party.ofReference _ _ = Party.ofReference _ _ :=
      Party.ofReference_inj.2 ⟨he.creditorName, he.creditorAccount⟩
    have hdebtor : Party.ofReference _ _ = Party.ofReference _ _ :=
      Party.ofReference_inj.2 ⟨he.debtorName, he.debtorAccount⟩
    simp only [sameDetails, withExtended, plain, Bool.and_eq_true, beq_iff_eq,
      and_assoc]
    exact ⟨trivial, h.description, htime, congrArg some h.timeZone,
      he.bookingDate, he.valueDate,
      h.externalId, he.endToEndId, hcreditor, hdebtor, he.rateSource,
        he.rateTarget⟩
  · simp only [sameRemainder, withExtended, plain, Bool.and_eq_true, beq_iff_eq,
      and_assoc]
    exact ⟨he.foreignCurrency, he.bankTransactionCode, he.purposeCode,
      h.bankFields, h.category,
      h.merchant, he.remittanceStructured, he.remittanceUnstructured⟩

/-- Transactions of one date give equal records exactly when storage keeps the
same of both. -/
theorem sameRecords_iff (hdate : t.date = t'.date) :
    s.SameRecords now t t' ↔ t.KeptAlike t' :=
  ⟨keptAlike_of_sameRecords, sameRecords_of_keptAlike hdate⟩

end Stored

end LedgerSync
