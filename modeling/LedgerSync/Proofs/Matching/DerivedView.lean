import LedgerSync.Proofs.Failing
import LedgerSync.Proofs.Matching.Mirrors
import LedgerSync.Proofs.Store.Records
import LedgerSync.Proofs.Transaction.KeptAlike

/-!
# What matchers see of a derived record

Storage has a column for each kind of account, and the number is read back from
the first column with content. So a derived record shows what its transaction
shows, but for an account number without content, which is lost
(`Reported.view_of_toStored`). Every field then gives equal attributes on both
sides, or the same failure, unless it is the field of such an account number
(`Reported.extract_agrees`).
-/

namespace LedgerSync

open Matching

/-- The account number that is read back is the one that was stored, if it has
content. -/
theorem Party.account_ofReference (name : Option String)
    (r : Option AccountReference) :
    (Party.ofReference name r).account =
      (r.map (·.number)).filter Text.hasContent := by
  cases r with
  | none => rfl
  | some a =>
    obtain ⟨kind, number⟩ := a
    unfold account firstWithContent ofReference AccountReference.ofKind
    -- only the column of its kind holds the number
    cases kind <;> cases hcontent : Text.hasContent number <;>
      simp [Option.filter_some, hcontent]

namespace Reported

variable {t : Reported} {account : Account} {id currency : String}
  {fillKind : FillKind} {createdAt : Option DateTime} {now : DateTime}
  {d : Stored}

/-- A derived record has the counterparties of the transaction. -/
theorem parties_of_toStored
    (h : t.toStored account id currency fillKind createdAt now = .ok d) :
    d.creditor =
        Party.ofReference (t.extended.bind (·.creditorName))
          (t.extended.bind (·.creditorAccount)) ∧
      d.debtor =
        Party.ofReference (t.extended.bind (·.debtorName))
          (t.extended.bind (·.debtorAccount)) := by
  rw [toStored_extended] at h
  obtain ⟨amount, -, h⟩ := bind_eq_ok_iff.1 h
  obtain ⟨_, -, h⟩ := bind_eq_ok_iff.1 h
  obtain rfl := pure_eq_ok_iff.1 h
  cases t.extended <;> exact ⟨rfl, rfl⟩

/-- A derived record shows what its transaction shows, but for account numbers
without content. -/
theorem view_of_toStored
    (h : t.toStored account id currency fillKind createdAt now = .ok d) :
    view d = { view t with
      internalId := some d.id
      creditorAccount := (view t).creditorAccount.filter Text.hasContent
      debtorAccount := (view t).debtorAccount.filter Text.hasContent
      label := (view d).label } := by
  have hmirrors := mirrors_of_toStored h
  obtain ⟨hcreditor, hdebtor⟩ := parties_of_toStored h
  have htimestamp : (view d).timestamp = (view t).timestamp := by
    obtain ⟨u, hu, hdu⟩ := timestamp_of_toStored h
    have hmillis : u.toMillis = u :=
      Moment.toMillis_eq_of_same hu ((Moment.same_iff_core_eq u u).2 rfl)
        (by rw [Moment.offset_of_utcMillis hu]; exact Int.dvd_zero 1000)
    show Except.ok (d.timestamp.map (·.toMillis)) = t.timestamp.map some
    rw [hdu, hu, Option.map_some, hmillis]
    rfl
  have hcreditorAccount : d.creditor.account = (view t).creditorAccount.filter
      Text.hasContent := by
    rw [hcreditor, Party.account_ofReference, Option.map_bind]
    rfl
  have hdebtorAccount : d.debtor.account = (view t).debtorAccount.filter
      Text.hasContent := by
    rw [hdebtor, Party.account_ofReference, Option.map_bind]
    rfl
  rw [View.mk.injEq]
  exact ⟨rfl, hmirrors.externalId, hmirrors.cents, hmirrors.date,
    hmirrors.status, hmirrors.bookingDate,
    htimestamp, hmirrors.debtorName, hdebtorAccount, hmirrors.creditorName,
    hcreditorAccount, hmirrors.description, hmirrors.endToEndId, rfl⟩

/-! ## Fields -/

/-- The account that a field is about. -/
def accountOf? (t : Reported) : Field → Option AccountReference
  | .creditorAccount => t.extended.bind (·.creditorAccount)
  | .debtorAccount => t.extended.bind (·.debtorAccount)
  | _ => none

theorem view_creditorAccount :
    (view t).creditorAccount = (t.accountOf? .creditorAccount).map (·.number) :=
  (Option.map_bind ..).symm

theorem view_debtorAccount :
    (view t).debtorAccount = (t.accountOf? .debtorAccount).map (·.number) :=
  (Option.map_bind ..).symm

/-- The field of an account gives its number. -/
theorem extract_of_accountOf? {f : Field} {a : AccountReference}
    (ha : t.accountOf? f = some a) :
    f.extract (view t) = .ok ⟨f.name, some (.text a.number)⟩ := by
  cases f with
  | creditorAccount =>
    show Except.ok (⟨_, (view t).creditorAccount.map .text⟩ : Attribute) = _
    rw [view_creditorAccount, ha]
    rfl
  | debtorAccount =>
    show Except.ok (⟨_, (view t).debtorAccount.map .text⟩ : Attribute) = _
    rw [view_debtorAccount, ha]
    rfl
  | _ => cases ha

/-- A derived record gives what its transaction gives for a field, but nothing
for an account number without content. -/
theorem extract_of_toStored
    (h : t.toStored account id currency fillKind createdAt now = .ok d)
    (f : Field) : f.extract (view d) =
      if (t.accountOf? f).all fun a =>
      Text.hasContent a.number then f.extract (view t)
      else .ok ⟨f.name, none⟩ := by
  have hfilter (r : Option AccountReference) :
      (r.map (·.number)).filter Text.hasContent =
      if r.all fun a => Text.hasContent a.number then r.map (·.number)
      else none := by
    cases r <;> rfl
  rw [view_of_toStored h]
  cases f with
  | creditorAccount =>
    show Except.ok (⟨_, ((view t).creditorAccount.filter Text.hasContent).map
      .text⟩ : Attribute) = _
    rw [view_creditorAccount, hfilter]
    split
    · rw [← view_creditorAccount]
      rfl
    · rfl
  | debtorAccount =>
    show Except.ok (⟨_, ((view t).debtorAccount.filter Text.hasContent).map
      .text⟩ : Attribute) = _
    rw [view_debtorAccount, hfilter]
    split
    · rw [← view_debtorAccount]
      rfl
    · rfl
  | _ => rfl

/-- Of a transaction with a derived record only the amount may fail, where it
cannot be told in cents. -/
theorem extract_failsOnly
    (h : t.toStored account id currency fillKind createdAt now = .ok d)
    (f : Field) : FailsOnly (fun e => f = .amount ∧ ∃ fault, e = .amount fault)
    (f.extract (view t)) := by
  cases f with
  | amount =>
    have hcents : FailsOnly (fun e => Field.amount = .amount ∧ ∃ fault,
        e = .amount fault) t.cents :=
      .bind (.of_ok (signedAmount_of_toStored h)) fun _ _ =>
        .mapError fun fault => ⟨rfl, fault, rfl⟩
    exact hcents.bind fun _ _ => .ok _
  | timestamp =>
    obtain ⟨u, hu, -⟩ := timestamp_of_toStored h
    have htimestamp : (view t).timestamp = .ok (some u) := by
      show t.timestamp.map some = _
      rw [hu]
      rfl
    exact .bind (.of_ok htimestamp) fun _ _ => .ok _
  | _ => exact .ok _

end Reported

namespace Matching

/-- Two extractions give equal attributes, or the same failure. -/
def Agree : Except Failure Attribute → Except Failure Attribute → Prop
  | .ok a, .ok b => a.same b = true
  | .error e, .error e' => e = e'
  | _, _ => False

theorem Agree.refl (x : Except Failure Attribute) : Agree x x := by
  cases x with
  | ok a => exact (Attribute.same_iff_core_eq a a).2 rfl
  | error e => rfl

/-- A selector of one field gives equal attributes, or the same failure, for a
reported transaction and for its derived record, unless the transaction has an
account number without content in that field. Then it gives the number for the
transaction and nothing for the record. It fails only where an amount cannot be
told in cents. -/
theorem extract_agrees {t : Reported} {account : Account} {id currency : String}
    {fillKind : FillKind} {createdAt : Option DateTime} {now : DateTime}
    {d : Stored}
    (h : t.toStored account id currency fillKind createdAt now = .ok d)
    (f : Field) :
    (Agree ((Selector.plain f).extract (view t))
      ((Selector.plain f).extract (view d)) ↔
      ∀ a, t.accountOf? f = some a → Text.hasContent a.number = true) ∧
    (∀ a, t.accountOf? f = some a → Text.hasContent a.number = false →
      (Selector.plain f).extract (view t) =
        .ok ⟨f.name, some (.text a.number)⟩ ∧
        (Selector.plain f).extract (view d) = .ok ⟨f.name, none⟩) ∧
    ∀ e, (Selector.plain f).extract (view t) = .error e →
      f = .amount ∧ (∃ fault, e = .amount fault) ∧
      (Selector.plain f).extract (view d) = .error e := by
  have hderived := Reported.extract_of_toStored h f
  have hblank : ∀ a, t.accountOf? f = some a →
      Text.hasContent a.number = false →
      f.extract (view t) = .ok ⟨f.name, some (.text a.number)⟩ ∧
      f.extract (view d) = .ok ⟨f.name, none⟩ := by
    intro a ha hcontent
    refine ⟨Reported.extract_of_accountOf? ha, ?_⟩
    rw [hderived, ha, Option.all_some, hcontent]
    rfl
  have hagree : (∀ a, t.accountOf? f = some a →
      Text.hasContent a.number = true) →
      f.extract (view d) = f.extract (view t) := by
    intro hall
    rw [hderived, if_pos ((Option.all_eq_true ..).2 hall)]
  simp only [Selector.extract_plain]
  refine ⟨⟨fun hagrees a ha => ?_, fun hall => ?_⟩, hblank, fun e he => ?_⟩
  · by_contra hcontent
    obtain ⟨ht, hd⟩ := hblank a ha (Bool.eq_false_iff.2 hcontent)
    rw [ht, hd] at hagrees
    simp [Agree, Attribute.same] at hagrees
  · rw [hagree hall]
    exact .refl _
  · obtain ⟨rfl, hfault⟩ := Reported.extract_failsOnly h f e he
    have hnone : t.accountOf? .amount = none := rfl
    refine ⟨rfl, hfault, (hagree fun a ha => ?_).trans he⟩
    rw [hnone] at ha
    cases ha

/-- A payment from a card to an account number that is blank. -/
def Sample.blankPayee : Reported := {
  Sample.reported "x" "tea" (Sample.day 3) with
  extended := (Sample.reported "x" "tea" (Sample.day 3)).extended.map fun e =>
    { e with creditorAccount := some ⟨.iban, " "⟩, debtorAccount := some ⟨.pan, "42"⟩ } }

theorem blankPayee_agrees :
    ∃ d, Sample.blankPayee.toStored Sample.account "r1" "EUR" .regular none
      Sample.now = .ok d ∧
      ∀ f, Agree ((Selector.plain f).extract (view Sample.blankPayee))
        ((Selector.plain f).extract (view d)) ↔ f ≠ .creditorAccount := by
  obtain ⟨d, hd⟩ := Reported.exists_toStored (t := Sample.blankPayee)
    (n := -1250)
    (u := Sample.midnight (Sample.day 3)) (by decide +kernel)
      (by decide +kernel) Sample.account "r1"
    "EUR" .regular none Sample.now
  refine ⟨d, hd, fun f => (extract_agrees hd f).1.trans ?_⟩
  cases f
  all_goals decide +kernel

end Matching

end LedgerSync
