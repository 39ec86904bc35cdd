import LedgerSync.Proofs.Decimal.Precision
import LedgerSync.Proofs.Store.Records

/-!
# The cents that a reported amount should have

A reported amount has no sign of its own, so its magnitude is taken and its
direction gives it one. What is due is the magnitude in cents, a half going up,
with the sign of the direction (`HasDueCents`).

Magnitude and sign are taken in the context of 28 digits, before any check. An
amount gets what is due, except for three kinds of amounts (`hasDueCents_iff`):
a signaling not-a-number, a number too large for the context, and a number of so
many digits that the context lifts it onto a half of a cent, which is then
rounded up a second time.
-/

namespace LedgerSync

/-- Whether a number of cents is a signed 64-bit integer. -/
def IsCents (n : ℤ) : Prop := -2 ^ 63 ≤ n ∧ n ≤ 2 ^ 63 - 1

/-- The sign that a direction gives to an amount. -/
def Direction.sign : Direction → ℤ
  | .credit => 1
  | .debit => -1

@[simp] theorem Direction.sign_credit : Direction.credit.sign = 1 := rfl

@[simp] theorem Direction.sign_debit : Direction.debit.sign = -1 := rfl

/-- A number from below a half of a cent whose magnitude in the context is that
half of a cent. -/
def Decimal.LiftedToHalfCent (d : Decimal) : Prop :=
  ∃ x r y, d.value? = some x ∧ d.abs = .ok r ∧ r.value? = some y ∧ |x| < y ∧
    ∃ k : ℤ, 100 * y = k + 1 / 2

namespace Reported

/-- The cents that are due for a value of the amount. -/
def dueCents (t : Reported) (x : ℚ) : ℤ := t.direction.sign * halfUp (100 * |x|)

/-- The amount is finite, and what is due for it is a number of cents. -/
def HasDue (t : Reported) : Prop :=
  ∃ x, t.amount.value? = some x ∧ IsCents (t.dueCents x)

/-- The signed cents are those that are due, or the amount is refused if none
are. -/
structure HasDueCents (t : Reported) : Prop where
  due : ∀ x, t.amount.value? = some x → IsCents (t.dueCents x) →
    t.cents = .ok (t.dueCents x)
  refused : ¬t.HasDue → ∃ fault, t.cents = .error (.amount fault)

end Reported

/-! ## Magnitude and sign in the context -/

namespace Decimal

/-- The cents of a number with a value: the nearest integer, or a refusal. -/
theorem cents_of_nearest {d : Decimal} {x : ℚ} {n : ℤ} (hx : d.value? = some x)
    (hn : IsNearest n (100 * x)) :
    (IsCents n → d.cents = .ok n) ∧
    (¬IsCents n → ∃ fault, d.cents = .error fault) := by
  constructor
  · intro h
    exact cents_eq_ok_iff.2 ⟨x, hx, hn, h⟩
  · intro h
    cases hcents : d.cents with
    | error fault => exact ⟨fault, rfl⟩
    | ok m =>
      obtain ⟨x', hx', hm, hrange⟩ := cents_eq_ok_iff.1 hcents
      obtain rfl : x = x' := Option.some.inj (hx.symm.trans hx')
      rw [hm.eq hn] at hrange
      exact (h hrange).elim

theorem abs_value {negative : Bool} {c : Nat} {e : Int} {x : ℚ}
    (h : (finite negative c e).value? = some x) : |x| = c * 10 ^ e := by
  have hunit : (0 : ℚ) < 10 ^ e := zpow_pos (by norm_num) e
  have hnonneg : (0 : ℚ) ≤ c * 10 ^ e := by positivity
  cases h
  cases negative with
  | false => rw [if_neg Bool.false_ne_true, one_mul, abs_of_nonneg hnonneg]
  | true => rw [if_pos rfl, neg_one_mul, abs_neg, abs_of_nonneg hnonneg]

end Decimal

namespace IsNearest

/-- A sign goes with the number. -/
theorem sign_mul {n : ℤ} {x : ℚ} (h : IsNearest n x) (direction : Direction) :
    IsNearest (direction.sign * n) (direction.sign * x) := by
  cases direction with
  | credit =>
    rw [Direction.sign_credit, Int.cast_one, one_mul, one_mul]
    exact h
  | debit =>
    rw [Direction.sign_debit, Int.cast_neg, Int.cast_one, neg_one_mul,
      neg_one_mul]
    exact h.neg

end IsNearest

namespace Reported

open Decimal

variable {t : Reported}

/-- A magnitude within the limits of the context takes the sign of the direction
as it is. -/
theorem signedAmount_of_abs {c : Nat} {e : Int}
    (h : t.amount.abs = .ok (.finite false c e)) (hin : InContext c e) :
    ∃ d, t.signedAmount = .ok d ∧
    d.value? = some ((t.direction.sign : ℚ) * (c * 10 ^ e)) := by
  unfold signedAmount
  rw [h]
  cases t.direction with
  | credit =>
    refine ⟨.finite false c e, rfl, ?_⟩
    rw [value?, Direction.sign_credit, Int.cast_one, if_neg Bool.false_ne_true]
  | debit =>
    refine ⟨.finite (c != 0 && !false) c e, ?_, ?_⟩
    · show ((Decimal.finite false c e).neg.mapError .arithmetic : Except Failure
        Decimal) = _
      rw [Decimal.neg, Decimal.round, finish_of_inContext hin]
      rfl
    · rw [value?, Direction.sign_debit]
      by_cases hc : c = 0
      · rw [hc]
        norm_num
      · rw [if_pos (by simp [hc])]
        norm_num

/-- The cents of a finite amount whose magnitude the context keeps. -/
theorem cents_of_abs {c : Nat} {e : Int} {y : ℚ}
    (h : t.amount.abs = .ok (.finite false c e)) (hin : InContext c e)
    (hy : y = c * 10 ^ e) :
    (IsCents (t.dueCents y) → t.cents = .ok (t.dueCents y)) ∧
      (¬IsCents (t.dueCents y) → ∃ fault,
        t.cents = .error (.amount fault)) := by
  have hunit : (0 : ℚ) < 10 ^ e := zpow_pos (by norm_num) e
  have hnonneg : (0 : ℚ) ≤ y := hy ▸ by positivity
  obtain ⟨d, hd, hvalue⟩ := signedAmount_of_abs h hin
  rw [← hy] at hvalue
  have hnearest : IsNearest (t.dueCents y) (100 * (t.direction.sign * y)) := by
    rw [dueCents, abs_of_nonneg hnonneg, mul_left_comm]
    exact (IsNearest.of_halfUp (by positivity)).sign_mul t.direction
  obtain ⟨hok, herror⟩ := cents_of_nearest hvalue hnearest
  unfold cents
  rw [hd]
  constructor
  · intro hcents
    show d.cents.mapError Failure.amount = _
    rw [hok hcents]
    rfl
  · intro hcents
    obtain ⟨fault, hfault⟩ := herror hcents
    refine ⟨fault, ?_⟩
    show d.cents.mapError Failure.amount = _
    rw [hfault]
    rfl

/-- A larger magnitude leaves the range of cents if a smaller one does. -/
theorem not_isCents_of_le {x y : ℚ} (hle : |x| ≤ |y|)
    (h : ¬IsCents (t.dueCents x)) :
    ¬IsCents (t.dueCents y) := by
  have hmono : halfUp (100 * |x|) ≤ halfUp (100 * |y|) :=
    halfUp_mono (by linarith)
  have hnonneg : 0 ≤ halfUp (100 * |x|) := halfUp_nonneg (by positivity)
  unfold IsCents dueCents at h ⊢
  generalize t.direction = direction at h ⊢
  cases direction with
  | credit =>
    rw [Direction.sign_credit] at h ⊢
    omega
  | debit =>
    rw [Direction.sign_debit] at h ⊢
    omega

theorem not_isCents_of_lt {x : ℚ} (h : 2 ^ 63 < halfUp (100 * |x|)) :
    ¬IsCents (t.dueCents x) := by
  unfold IsCents dueCents
  cases t.direction with
  | credit =>
    rw [Direction.sign_credit]
    omega
  | debit =>
    rw [Direction.sign_debit]
    omega

/-- A half of a cent is rounded up, and what lies below it is not. -/
theorem dueCents_ne_of_lifted {x y : ℚ} {k : ℤ} (hlt : |x| < y)
    (hk : 100 * y = k + 1 / 2) :
    t.dueCents y ≠ t.dueCents x := by
  have hy : halfUp (100 * |y|) = k + 1 := by
    rw [abs_of_pos ((abs_nonneg x).trans_lt hlt), hk]
    refine halfUp_eq_of_bounds ?_ ?_ <;> push_cast <;> linarith
  have hx : halfUp (100 * |x|) < k + 1 := by
    rw [halfUp, Int.floor_lt]
    push_cast
    linarith
  unfold dueCents
  rw [hy]
  cases t.direction with
  | credit =>
    rw [Direction.sign_credit]
    omega
  | debit =>
    rw [Direction.sign_debit]
    omega

/-! ## The cents that are due -/

/-- What the context keeps of a magnitude decides about the cents. -/
theorem hasDueCents_iff_of_kept {c : Nat} {e : Int} {x y : ℚ}
    (hx : t.amount.value? = some x) (h : t.amount.abs = .ok (.finite false c e))
    (hin : InContext c e) (hy : y = c * 10 ^ e) (hkept : KeptAs |x| y) :
    t.HasDueCents ↔ ¬(t.amount.LiftedToHalfCent ∧ t.HasDue) := by
  have hyabs : |y| = y := by
    have hunit : (0 : ℚ) < 10 ^ e := zpow_pos (by norm_num) e
    rw [hy, abs_of_nonneg (by positivity)]
  have hvalue : (Decimal.finite false c e).value? = some y := by
    rw [value?, if_neg Bool.false_ne_true, one_mul, hy]
  obtain ⟨hok, herror⟩ := cents_of_abs h hin hy
  constructor
  · rintro hdue ⟨⟨x', r, y', hx', hr, hy', hlt, k, hk⟩, x'', hx'', hrange⟩
    obtain rfl : x = x' := Option.some.inj (hx.symm.trans hx')
    obtain rfl : x = x'' := Option.some.inj (hx.symm.trans hx'')
    cases h.symm.trans hr
    obtain rfl : y = y' := Option.some.inj (hvalue.symm.trans hy')
    have hcents := hdue.due x hx hrange
    by_cases hrange' : IsCents (t.dueCents y)
    · exact dueCents_ne_of_lifted hlt hk
        (Except.ok.inj ((hok hrange').symm.trans hcents))
    · obtain ⟨fault, hfault⟩ := herror hrange'
      cases hfault.symm.trans hcents
  · intro hsettled
    -- the cents of what is kept are those of the amount, unless neither are
    -- cents
    have hsame : t.dueCents y = t.dueCents x ∨ ¬IsCents (t.dueCents y) ∧
        ¬IsCents (t.dueCents x) := by
      by_cases hlift : |x| < y ∧ ∃ k : ℤ, 100 * y = k + 1 / 2
      · have hnone : ¬IsCents (t.dueCents x) := fun hrange =>
          hsettled ⟨⟨x, _, y, hx, h, hvalue, hlift.1, hlift.2⟩, x, hx, hrange⟩
        exact Or.inr ⟨not_isCents_of_le (hyabs.symm ▸ hlift.1.le) hnone, hnone⟩
      · rcases halfUp_of_keptAs hkept hlift with heq | ⟨hlargeY, hlargeX⟩
        · left
          rw [dueCents, dueCents, hyabs, heq]
        · exact Or.inr ⟨not_isCents_of_lt (hyabs.symm ▸ hlargeY),
            not_isCents_of_lt hlargeX⟩
    refine ⟨?_, ?_⟩
    · intro x' hx' hrange
      obtain rfl : x = x' := Option.some.inj (hx.symm.trans hx')
      rcases hsame with heq | ⟨-, hnone⟩
      · rw [← heq]
        exact hok (heq ▸ hrange)
      · exact (hnone hrange).elim
    · intro hnone
      refine herror ?_
      intro hrange
      rcases hsame with heq | ⟨hnot, -⟩
      · exact hnone ⟨x, hx, heq ▸ hrange⟩
      · exact hnot hrange

/-- A failure of the arithmetic is not what is due. -/
theorem not_hasDueCents_of_arithmetic {signal : Signal}
    (h : t.cents = .error (.arithmetic signal)) :
    ¬t.HasDueCents := by
  intro hdue
  by_cases hhas : t.HasDue
  · obtain ⟨x, hx, hrange⟩ := hhas
    cases h.symm.trans (hdue.due x hx hrange)
  · obtain ⟨fault, hfault⟩ := hdue.refused hhas
    cases h.symm.trans hfault

/-- An infinite amount and a quiet not-a-number keep their kind when they take a
sign. -/
theorem signedAmount_of_no_value (hvalue : t.amount.value? = none)
    (hquiet : t.amount.isSignaling = false) :
    ∃ d, t.signedAmount = .ok d ∧ d.isFinite = false := by
  unfold signedAmount
  cases hamount : t.amount with
  | finite =>
    rw [hamount] at hvalue
    cases hvalue
  | infinite negative => cases t.direction <;> exact ⟨_, rfl, rfl⟩
  | nan negative signaling payload =>
    rw [hamount] at hquiet
    obtain rfl : signaling = false := hquiet
    cases t.direction <;> exact ⟨_, rfl, rfl⟩

/-- Without a value nothing is due, and the amount is refused if its sign can be
taken. -/
theorem hasDueCents_of_no_value (hvalue : t.amount.value? = none)
    (hquiet : t.amount.isSignaling = false) : t.HasDueCents := by
  obtain ⟨d, hsigned, hd⟩ := signedAmount_of_no_value hvalue hquiet
  refine ⟨?_, ?_⟩
  · intro x hx
    cases hvalue.symm.trans hx
  · intro _
    refine ⟨.notFinite, ?_⟩
    unfold cents
    rw [hsigned]
    show d.cents.mapError Failure.amount = _
    rw [Decimal.cents, hd]
    rfl

/-- The sign of a signaling not-a-number cannot be taken. -/
theorem cents_of_isSignaling (h : t.amount.isSignaling = true) :
    t.cents = .error (.arithmetic .invalidOperation) := by
  unfold cents signedAmount
  cases hamount : t.amount with
  | finite =>
    rw [hamount] at h
    cases h
  | infinite =>
    rw [hamount] at h
    cases h
  | nan negative signaling payload =>
    rw [hamount] at h
    obtain rfl : signaling = true := h
    rfl

/-- The magnitude of a finite amount overflows, or the context keeps it within
its limits. -/
theorem abs_cases {x : ℚ} (hx : t.amount.value? = some x) :
    (t.amount.abs = .error .overflow ∧ overflowBound ≤ |x|) ∨
    ∃ (c : Nat) (e : Int), t.amount.abs = .ok (.finite false c e) ∧
    InContext c e ∧ KeptAs |x| (c * 10 ^ e) := by
  cases hamount : t.amount with
  | finite negative c e =>
    rw [hamount] at hx
    rw [abs_value hx]
    exact finish_cases false c e
  | infinite =>
    rw [hamount] at hx
    cases hx
  | nan =>
    rw [hamount] at hx
    cases hx

theorem isSignaling_of_value {x : ℚ} (hx : t.amount.value? = some x) :
    t.amount.isSignaling = false := by
  cases hamount : t.amount with
  | nan =>
    rw [hamount] at hx
    cases hx
  | _ => rfl

/-- Reported amounts get the cents that are due, and are refused where none are,
except for three kinds: those that are a signaling not-a-number, those too large
for the context, and those with cents that the context lifts onto a half of a
cent. -/
theorem hasDueCents_iff (t : Reported) :
    t.HasDueCents ↔ t.amount.isSignaling = false ∧
      (∀ x, t.amount.value? = some x → |x| < overflowBound) ∧
      ¬(t.amount.LiftedToHalfCent ∧ t.HasDue) := by
  cases hvalue : t.amount.value? with
  | none =>
    constructor
    · intro hdue
      refine ⟨?_, (fun x hx => by cases hx),
        fun ⟨_, x, hx, _⟩ => by cases hvalue.symm.trans hx⟩
      by_contra hsignaling
      rw [Bool.not_eq_false] at hsignaling
      exact not_hasDueCents_of_arithmetic (cents_of_isSignaling hsignaling) hdue
    · rintro ⟨hquiet, -⟩
      exact hasDueCents_of_no_value hvalue hquiet
  | some x =>
    rcases abs_cases hvalue with ⟨hoverflow, hlarge⟩ | ⟨c, e, habs, hin, hkept⟩
    · have hcents : t.cents = .error (.arithmetic .overflow) := by
        unfold cents signedAmount
        rw [hoverflow]
        rfl
      refine ⟨fun hdue => (not_hasDueCents_of_arithmetic hcents hdue).elim, ?_⟩
      rintro ⟨-, hbound, -⟩
      have := hbound x rfl
      linarith
    · rw [hasDueCents_iff_of_kept hvalue habs hin rfl hkept]
      refine ⟨fun h => ⟨isSignaling_of_value hvalue, ?_, h⟩, fun h => h.2.2⟩
      intro x' hx'
      cases hx'
      exact lt_overflowBound_of_keptAs hin hkept

/-- An amount below half a cent, by less than the context can tell, gets one
cent where none is due. -/
theorem not_always_hasDueCents : ¬∀ t : Reported, t.HasDueCents := by
  intro hall
  let t : Reported := { Sample.reported "x" "tea" (Sample.day 3) with
    amount := .finite false 499999999999999999999999999999 (-32),
      direction := .credit }
  have hvalue : t.amount.value? =
      some (499999999999999999999999999999 / 10 ^ 32) := by
    show some _ = some _
    norm_num
  have hdue : t.dueCents (499999999999999999999999999999 / 10 ^ 32) = 0 := by
    show 1 * ⌊100 * |(499999999999999999999999999999 / 10 ^ 32 : ℚ)| +
      1 / 2⌋ = 0
    rw [one_mul, Int.floor_eq_zero_iff, abs_of_pos (by norm_num)]
    constructor <;> norm_num
  have hcents : t.cents = .ok 1 := by decide +kernel
  have hzero := (hall t).due _ hvalue
      (by rw [hdue]; exact ⟨by decide, by decide⟩)
  rw [hdue, hcents] at hzero
  cases hzero

/-- A signaling not-a-number stops the arithmetic before any check, and so does
a number beyond the exponents of the context. -/
example :
    ({ Sample.reported "x" "tea" (Sample.day 3) with amount := .nan false true 0
      } : Reported).cents = .error (.arithmetic .invalidOperation) ∧
      ({ Sample.reported "x" "tea" (Sample.day 3)
        with amount := .finite false 1 1000000 } :
        Reported).cents = .error (.arithmetic .overflow) := by decide +kernel

end Reported

end LedgerSync
