import LedgerSync.Proofs.Store.Plan

/-!
# The records of a batch after an instruction

When a plan and the fresh transactions together are a batch, the store holds one
record for every transaction of the batch after the instruction
(`CarriesOut.records`), provided that its rows belong to the account that is
written to. The instruction can be applied unless an instant of the batch has no
place in the calendar of universal time (`CarriesOut.apply_total`).
-/

namespace LedgerSync

/-- All rows belong to one account and have its currency. -/
def Store.BelongsTo (s : Store) (account : Account) (currency : String) :
    Prop :=
  ∀ r ∈ s.rows, r.userId = account.userId ∧ r.accountId = account.accountId ∧
    r.currency = currency

namespace Instruction.CarriesOut

variable {i : Instruction} {s after : Store} {p : Plan} {fresh : List Assigned}
  {account : Account} {currency : String} {now : DateTime}
  {batch : List (Member Reported)}

/-- The members that are named are those of the batch. -/
theorem named_members_perm (hc : i.CarriesOut s p fresh)
    (hbatch : (p.members ++ fresh.map (·.member)).Perm batch) :
    (i.named.map (·.member)).Perm batch := by
  refine (hc.named_perm.map _).trans ?_
  rw [List.map_append, Plan.assigned_members]
  exact hbatch

theorem member_mem_batch (hc : i.CarriesOut s p fresh)
    (hbatch : (p.members ++ fresh.map (·.member)).Perm batch) {a : Assigned}
    (ha : a ∈ i.toUpsert) : a.member ∈ batch :=
  (hc.named_members_perm hbatch).subset
    (List.mem_map_of_mem (List.mem_append_left _ ha))

/-- The only obstacle to applying the instruction is an instant beyond the
calendar. -/
theorem apply_total (hc : i.CarriesOut s p fresh)
    (hbatch : (p.members ++ fresh.map (·.member)).Perm batch)
    (hcents : ∀ m ∈ batch, ∃ n, m.record.cents = .ok n) :
    (∃ after, s.apply account currency now i = .ok after) ∨
      s.apply account currency now i = .error .beyondCalendar ∧
        ∃ m ∈ batch, m.record.dateTime.toUtc? = none := by
  cases h : s.apply account currency now i with
  | ok after => exact Or.inl ⟨after, rfl⟩
  | error f =>
    obtain ⟨a, ha, hf⟩ := Store.apply_error h
    have hmem := hc.member_mem_batch hbatch ha
    obtain ⟨n, hn⟩ := hcents a.member hmem
    obtain ⟨rfl, hutc⟩ := Reported.toStored_error hn hf
    exact Or.inr ⟨rfl, a.member, hmem, hutc⟩

/-- Every record that is written is the record of its transaction. -/
theorem written_records {as : List Assigned} {written : List Stored}
    (hcents : ∀ a ∈ as, ∃ n, a.member.record.cents = .ok n)
    (h : List.Forall₂ (Store.WrittenAs account currency now) as written) :
    List.Forall₂ (fun m r => Stored.IsRecordOf account currency m r)
      (as.map (·.member))
      written := by
  rw [List.forall₂_map_left_iff]
  refine List.Forall₂.imp ?_ ((List.forall₂_and_left _ _).2 ⟨hcents, h⟩)
  rintro a r ⟨⟨n, hn⟩, hr⟩
  exact Stored.IsRecordOf.of_toStored hn hr

/-- Every row that stays is the record of the transaction for which it stays. -/
theorem kept_records {p : Plan} (hsuits : ∀ e ∈ p, e.fate.Suits e.row.record)
    (hrows : ∀ r ∈ p.rows, r.userId = account.userId ∧
      r.accountId = account.accountId ∧ r.currency = currency) :
    List.Forall₂ (fun m r => Stored.IsRecordOf account currency m r)
      ((p.select Fate.isIgnored).map (·.member)) p.kept := by
  induction p with
  | nil => exact .nil
  | cons e p ih =>
    have hrest := ih (fun e he => hsuits e (List.mem_cons_of_mem _ he))
      fun r hr => hrows r (List.mem_cons_of_mem _ hr)
    have he := hsuits e List.mem_cons_self
    have hrow := hrows e.row.record List.mem_cons_self
    rcases e with ⟨s, _ | m | ⟨m, b⟩ | m⟩
    · exact hrest
    · obtain ⟨fillKind, createdAt, now, d, hd, hsame⟩ := he
      obtain ⟨huser, haccount, hcurrency⟩ := hrow
      rw [huser, haccount, hcurrency] at hd
      exact .cons (Stored.IsRecordOf.of_same hd hsame) hrest
    · exact hrest
    · exact hrest

/-- After the instruction the rows of the plan are replaced by one record for
every transaction of the batch, and the other rows are what they were. -/
theorem records (hc : i.CarriesOut s p fresh) (hs : s.HasDistinctIds)
    (haccount : s.BelongsTo account currency)
    (hbatch : (p.members ++ fresh.map (·.member)).Perm batch)
    (hcents : ∀ m ∈ batch, ∃ n, m.record.cents = .ok n)
    (h : s.apply account currency now i = .ok after) :
    ∃ records, List.Forall₂ (fun m r => Stored.IsRecordOf account currency m r)
      batch records ∧ after.rows.Perm (s.without p.rows ++ records) := by
  obtain ⟨written, hw, hperm⟩ := hc.apply_perm hs h
  have hwritten := written_records
    (fun a ha => hcents a.member (hc.member_mem_batch hbatch ha)) hw
  have hkept := kept_records hc.suits fun r hr => haccount r (hc.rows.subset hr)
  rw [← hc.toIgnore] at hkept
  have hall : List.Forall₂ (fun m r => Stored.IsRecordOf account currency m r)
      (i.named.map (·.member)) (written ++ p.kept) := by
    rw [named, List.map_append]
    exact List.rel_append hwritten hkept
  obtain ⟨records, hrecords, hrows⟩ :=
    List.perm_comp_forall₂ (hc.named_members_perm hbatch).symm hall
  exact ⟨records, hrecords, hperm.trans (hrows.symm.append_left _)⟩

end Instruction.CarriesOut

/-! ## Small records -/

namespace Sample

/-- An account. -/
def account : Account := ⟨⟨1, by decide⟩, ⟨2, by decide⟩⟩

/-- A day of May 2021, counted from the first; the last one is followed by the
first. -/
def day (n : Nat) : Date :=
  ⟨737910 + n % 31,
    Nat.lt_trans (Nat.add_lt_add_left (Nat.mod_lt n (by decide)) _) (by decide)⟩

/-- The start of a day in universal time. -/
def midnight (d : Date) : Moment :=
  ⟨⟨d.days * ticksPerDay, (Nat.mul_lt_mul_right (by decide)).2 d.days_lt⟩, .utc⟩

/-- A payment of 12.50 that is booked on its day. -/
def reported (externalId description : String) (d : Date) : Reported := {
  externalId := some externalId, dateTime := midnight d, amount :=
    .finite false 1250 (-2)
  status := .booked, direction := .debit, description :=
    some description, category := none
  merchant := none, bankFields := none
  extended := some {
    bookingDate := some (midnight d).toDateTime, valueDate :=
      none, endToEndId := none
    creditorName := none, creditorAccount := none, debtorName :=
      none, debtorAccount := none
    exchangeRates := [], foreignAmount := none, bankTransactionCode :=
      none, purposeCode := none
    remittanceStructured := none, remittanceUnstructured := none } }

/-- A row of such a payment. -/
def stored (id externalId description : String) (d : Date) : Stored := {
  Stored.plain account.userId account.accountId d id .booked
    (.finite true 1250 (-2)) "EUR" with
  externalId := some externalId, description := some description
  timestamp := some (midnight d), timeZone := some "Z", bookingDate := some d }

/-- A supply of ids. -/
def newId (n : Nat) : String := "new-" ++ Text.decimalText n

/-- The time of a sync. -/
def now : DateTime := (midnight (day 30)).toDateTime

end Sample

end LedgerSync
