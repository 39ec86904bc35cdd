import LedgerSync.Proofs.Calendar.SameMoment
import LedgerSync.Proofs.Run

/-!
# Records of reported transactions

`Stored.IsRecordOf` says that a row of a store is the record of a reported
transaction: it was derived from it, or it was found to have the content of the
derived record. Deriving twice gives the same content (`same_eq_of_toStored`),
so the row stays equal to every later derivation under its id, unless a number
in it is not a number and equals nothing, itself included.

A derivation has two ways to fail, an amount that cannot be computed and an
instant beyond the calendar. Where the amount in cents is known, only the second
is left (`toStored_error`).
-/

namespace LedgerSync

/-! ## Equality of numbers and records -/

namespace Decimal

/-- Whether this is a not-a-number. -/
def isNan : Decimal → Bool
  | .nan .. => true
  | _ => false

theorem isNan_of_isFinite {d : Decimal} (h : d.isFinite = true) :
    d.isNan = false := by
  cases d with
  | finite => rfl
  | infinite => cases h
  | nan => cases h

theorem sameMagnitude_self (c : Nat) (e : Int) :
    sameMagnitude c e c e = true := by
  unfold sameMagnitude
  by_cases hc : c = 0
  · rw [if_pos (by simp [hc]), beq_self_eq_true]
  · rw [if_neg (by simp [hc]), if_neg (not_not_intro rfl), beq_self_eq_true]

theorem equal_self {d : Decimal} (h : d.isNan = false) :
    d.equal d = .ok true := by
  cases d with
  | finite n c e => simp [equal, sameMagnitude_self]
  | infinite n => simp [equal]
  | nan => cases h

/-- Finite numbers can be compared. -/
theorem equal_total {a b : Decimal} (ha : a.isFinite = true)
    (hb : b.isFinite = true) : ∃ same, a.equal b = .ok same := by
  cases a with
  | finite =>
    cases b with
    | finite => exact ⟨_, rfl⟩
    | infinite => cases hb
    | nan => cases hb
  | infinite => cases ha
  | nan => cases ha

/-- Only finite numbers have a value in cents. -/
theorem isFinite_of_cents {d : Decimal} {n : Int} (h : d.cents = .ok n) :
    d.isFinite = true := by
  cases hd : d.isFinite with
  | true => rfl
  | false =>
    unfold cents at h
    rw [hd] at h
    cases h

end Decimal

namespace Stored

theorem sameNumber_self {n : Option Decimal} (h : n.any Decimal.isNan = false) :
    sameNumber n n = .ok true := by
  cases n with
  | none => rfl
  | some d => exact mapError_eq_ok_iff.2 (Decimal.equal_self h)

theorem sameTimestamp_self (t : Option Moment) : sameTimestamp t t = true := by
  cases t with
  | none => rfl
  | some m => exact (Moment.same_iff_core_eq m m).2 rfl

/-- Whether one of the optional numbers of a record is a not-a-number. -/
def hasNan (s : Stored) : Bool :=
  s.exchangeRate.rate.any Decimal.isNan || s.foreignAmount.any Decimal.isNan

/-- A record whose numbers are numbers equals itself. -/
theorem same_self {s : Stored} (hamount : s.amount.isNan = false)
    (h : s.hasNan = false) : s.same s = .ok true := by
  obtain ⟨hrate, hforeign⟩ := Bool.or_eq_false_iff.1 h
  have hidentity : s.sameIdentity s = true := by simp [sameIdentity]
  have hdetails : s.sameDetails s = true := by
      simp [sameDetails, sameTimestamp_self]
  have hremainder : s.sameRemainder s = true := by simp [sameRemainder]
  unfold same
  rw [hidentity, sameNumber_self (n := some s.amount) (by simpa using hamount),
    hdetails, sameNumber_self hrate, sameNumber_self hforeign, hremainder]
  rfl

/-- Equal records have one account, date, id and status. -/
theorem sameIdentity_of_same {a b : Stored} (h : a.same b = .ok true) :
    a.sameIdentity b = true := by
  cases hi : a.sameIdentity b with
  | true => rfl
  | false =>
    unfold same at h
    rw [hi] at h
    cases h

theorem date_eq_of_same {a b : Stored} (h : a.same b = .ok true) :
    a.date = b.date := by
  have hi := sameIdentity_of_same h
  simp only [sameIdentity, Bool.and_eq_true, beq_iff_eq] at hi
  exact hi.1.1.2

theorem status_eq_of_same {a b : Stored} (h : a.same b = .ok true) :
    a.status = b.status := by
  have hi := sameIdentity_of_same h
  simp only [sameIdentity, Bool.and_eq_true, beq_iff_eq] at hi
  exact hi.2

end Stored

/-! ## Derived records -/

namespace Reported

variable {t : Reported} {account : Account} {id currency : String}
  {fillKind fillKind' : FillKind} {createdAt createdAt' : Option DateTime}
  {now now' : DateTime} {d d' : Stored}

/-- What a derivation fixes of a record whatever it is derived from. -/
theorem toStored_identity
    (h : t.toStored account id currency fillKind createdAt now = .ok d) :
    d.id = id ∧ d.date = t.date ∧ d.status = t.status := by
  unfold toStored at h
  rw [bind_eq_ok_iff] at h
  obtain ⟨amount, -, h⟩ := h
  rw [bind_eq_ok_iff] at h
  obtain ⟨timestamp, -, h⟩ := h
  rw [pure_eq_ok_iff] at h
  cases he : t.extended with
  | none =>
    rw [he] at h
    rw [h]
    exact ⟨rfl, rfl, rfl⟩
  | some e =>
    rw [he] at h
    rw [h]
    exact ⟨rfl, rfl, rfl⟩

theorem signedAmount_of_toStored
    (h : t.toStored account id currency fillKind createdAt now = .ok d) :
    t.signedAmount = .ok d.amount := by
  unfold toStored at h
  rw [bind_eq_ok_iff] at h
  obtain ⟨amount, hamount, h⟩ := h
  rw [bind_eq_ok_iff] at h
  obtain ⟨timestamp, -, h⟩ := h
  rw [pure_eq_ok_iff] at h
  cases he : t.extended with
  | none =>
    rw [he] at h
    rw [h]
    exact hamount
  | some e =>
    rw [he] at h
    rw [h]
    exact hamount

/-- When a derivation succeeds under one id and at one time, it does so under
every other. -/
theorem toStored_total
    (h : t.toStored account id currency fillKind createdAt now = .ok d)
    (id' : String) (fillKind' : FillKind) (createdAt' : Option DateTime)
    (now' : DateTime) :
    ∃ d', t.toStored account id' currency fillKind' createdAt' now' =
      .ok d' := by
  unfold toStored at h ⊢
  rw [bind_eq_ok_iff] at h
  obtain ⟨amount, hamount, h⟩ := h
  rw [bind_eq_ok_iff] at h
  obtain ⟨timestamp, htimestamp, -⟩ := h
  rw [hamount, htimestamp]
  exact ⟨_, rfl⟩

/-- Two derivations under one id differ only in when they were written and how
they came into storage. -/
theorem eq_of_toStored
    (h : t.toStored account id currency fillKind createdAt now = .ok d)
    (h' : t.toStored account id currency fillKind' createdAt' now' = .ok d') :
    d' = { d with
      lastUpdated := d'.lastUpdated, createdAt := d'.createdAt, fillKind :=
        d'.fillKind } := by
  -- both derivations compute the same amount and the same timestamp
  unfold toStored at h h'
  rw [bind_eq_ok_iff] at h h'
  obtain ⟨amount, hamount, h⟩ := h
  obtain ⟨amount', hamount', h'⟩ := h'
  rw [hamount] at hamount'
  cases hamount'
  rw [bind_eq_ok_iff] at h h'
  obtain ⟨timestamp, htimestamp, h⟩ := h
  obtain ⟨timestamp', htimestamp', h'⟩ := h'
  rw [htimestamp] at htimestamp'
  cases htimestamp'
  rw [pure_eq_ok_iff] at h h'
  cases he : t.extended with
  | none =>
    rw [he] at h h'
    subst h
    subst h'
    rfl
  | some e =>
    rw [he] at h h'
    subst h
    subst h'
    rfl

/-- Two derivations under one id have the same content: they equal the same
records. -/
theorem same_eq_of_toStored
    (h : t.toStored account id currency fillKind createdAt now = .ok d)
    (h' : t.toStored account id currency fillKind' createdAt' now' = .ok d')
    (r : Stored) : d.same r = d'.same r := by
  rw [eq_of_toStored h h']
  rfl

/-- A derivation succeeds where the amount in cents and the timestamp are
known. -/
theorem exists_toStored {n : Int} {u : Moment} (hcents : t.cents = .ok n)
    (htimestamp : t.timestamp = .ok u) (account : Account)
    (id currency : String) (fillKind : FillKind) (createdAt : Option DateTime)
    (now : DateTime) :
    ∃ d, t.toStored account id currency fillKind createdAt now = .ok d := by
  obtain ⟨amount, hamount, -⟩ := bind_eq_ok_iff.1 hcents
  unfold toStored
  rw [hamount, htimestamp]
  exact ⟨_, rfl⟩

/-- The amount of a record is finite when the transaction has a value in
cents. -/
theorem amount_isFinite_of_cents {n : Int} (hcents : t.cents = .ok n)
    (h : t.toStored account id currency fillKind createdAt now = .ok d) :
    d.amount.isFinite = true := by
  unfold cents at hcents
  rw [signedAmount_of_toStored h] at hcents
  exact Decimal.isFinite_of_cents (mapError_eq_ok_iff.1 hcents)

theorem amount_isNan_of_cents {n : Int} (hcents : t.cents = .ok n)
    (h : t.toStored account id currency fillKind createdAt now = .ok d) :
    d.amount.isNan = false :=
  Decimal.isNan_of_isFinite (amount_isFinite_of_cents hcents h)

/-- A derivation fails for its amount, or because the instant has no place in
the calendar of universal time. -/
theorem error_of_toStored {f : Failure}
    (h : t.toStored account id currency fillKind createdAt now = .error f) :
    t.signedAmount = .error f ∨ f = .beyondCalendar ∧
    t.dateTime.toUtc? = none := by
  unfold toStored at h
  cases hamount : t.signedAmount with
  | error e =>
    rw [hamount] at h
    cases h
    exact Or.inl rfl
  | ok amount =>
    rw [hamount] at h
    cases hutc : t.dateTime.toUtc? with
    | some u =>
      have htimestamp : t.timestamp = .ok u.toMillis := by
        simp only [timestamp, Moment.utcMillis, hutc]
      rw [htimestamp] at h
      cases h
    | none =>
      have htimestamp : t.timestamp = .error .beyondCalendar := by
        simp only [timestamp, Moment.utcMillis, hutc]
      rw [htimestamp] at h
      cases h
      exact Or.inr ⟨rfl, rfl⟩

/-- The only derivation that fails, once the amount is known, is that of an
instant which has no place in the calendar of universal time. -/
theorem toStored_error {n : Int} {f : Failure} (hcents : t.cents = .ok n)
    (h : t.toStored account id currency fillKind createdAt now = .error f) :
    f = .beyondCalendar ∧ t.dateTime.toUtc? = none := by
  obtain ⟨amount, hamount, -⟩ := bind_eq_ok_iff.1 hcents
  refine (error_of_toStored h).resolve_left fun herror => ?_
  cases hamount.symm.trans herror

end Reported

/-! ## Rows that are records of a reported transaction -/

/-- The row is the record of a reported transaction in an account: it was
derived from it, or has the content of what is derived from it. -/
structure Stored.IsRecordOf (account : Account) (currency : String)
    (m : Member Reported) (r : Stored) : Prop where
  /-- The row is such a record, or equals one. -/
  derived : ∃ fillKind createdAt now d,
    m.record.toStored account r.id currency fillKind createdAt now = .ok d ∧
      (d = r ∨ d.same r = .ok true)
  /-- The row equals what is derived under its id at any time, if its numbers
  are numbers. -/
  equal : r.hasNan = false → ∀ fillKind createdAt now, ∃ d,
    m.record.toStored account r.id currency fillKind createdAt now = .ok d ∧
    d.same r = .ok true

namespace Stored.IsRecordOf

variable {account : Account} {currency : String} {m : Member Reported}
  {r : Stored}

/-- A record that was written. -/
theorem of_toStored {n : Int} {id : String} {fillKind : FillKind}
    {createdAt : Option DateTime} {now : DateTime}
    (hcents : m.record.cents = .ok n)
    (h : m.record.toStored account id currency fillKind createdAt now = .ok r) :
    r.IsRecordOf account currency m := by
  obtain rfl : r.id = id := (Reported.toStored_identity h).1
  refine ⟨⟨fillKind, createdAt, now, r, h, Or.inl rfl⟩, ?_⟩
  intro hnan fillKind' createdAt' now'
  obtain ⟨d, hd⟩ := Reported.toStored_total h r.id fillKind' createdAt' now'
  refine ⟨d, hd, ?_⟩
  rw [Reported.same_eq_of_toStored hd h]
  exact Stored.same_self (Reported.amount_isNan_of_cents hcents h) hnan

/-- A row that was found unchanged. -/
theorem of_same {fillKind : FillKind} {createdAt : Option DateTime}
    {now : DateTime} {d : Stored}
    (h : m.record.toStored account r.id currency fillKind createdAt now = .ok d)
    (hsame : d.same r = .ok true) : r.IsRecordOf account currency m := by
  refine ⟨⟨fillKind, createdAt, now, d, h, Or.inr hsame⟩, ?_⟩
  intro _ fillKind' createdAt' now'
  obtain ⟨d', hd'⟩ := Reported.toStored_total h r.id fillKind' createdAt' now'
  exact ⟨d', hd', by rw [Reported.same_eq_of_toStored hd' h, hsame]⟩

end Stored.IsRecordOf

end LedgerSync
