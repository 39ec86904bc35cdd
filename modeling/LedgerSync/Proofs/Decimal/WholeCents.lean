import LedgerSync.Proofs.Decimal.Value

/-!
# Amounts in whole cents

The cents of an amount are the integer nearest to a hundred times its value, a
half going away from zero, if that is a signed 64-bit integer, and there are
none otherwise (`cents_rounds_exactly`). The context of 28 digits has no say in
it. Rounding to two places asks for more digits than that only for amounts whose
cents have no place in 64 bits (`quantize_places`), and the factor of a hundred
adds zeros that can be dropped again (`mul_hundred`). So what is scaled is a
whole number every time (`integral_of_hundredfold`).
-/

namespace LedgerSync

/-- The integer is nearest to the number; of two that are equally near it is the
one further from zero. -/
structure IsNearest (n : ℤ) (x : ℚ) : Prop where
  close : |x - n| ≤ 1 / 2
  away : |x - n| = 1 / 2 → |x| < |(n : ℚ)|

theorem halfUp_bounds (x : ℚ) :
    (halfUp x : ℚ) - 1 / 2 ≤ x ∧ x < halfUp x + 1 / 2 := by
  have hle := Int.floor_le (x + 1 / 2)
  have hlt := Int.lt_floor_add_one (x + 1 / 2)
  unfold halfUp
  constructor <;> linarith

theorem halfUp_natCast (n : Nat) : halfUp (n : ℚ) = n := by
  rw [halfUp, Int.floor_eq_iff, Int.cast_natCast]
  constructor <;> linarith

theorem halfUp_mono {x y : ℚ} (h : x ≤ y) : halfUp x ≤ halfUp y :=
  Int.floor_le_floor (by linarith)

theorem halfUp_nonneg {x : ℚ} (h : 0 ≤ x) : 0 ≤ halfUp x :=
  Int.floor_nonneg.2 (by linarith)

namespace IsNearest

variable {m n : ℤ} {x : ℚ}

/-- A half that goes up goes away from zero where nothing is negative. -/
theorem of_halfUp (h : 0 ≤ x) : IsNearest (halfUp x) x := by
  obtain ⟨hlow, hhigh⟩ := halfUp_bounds x
  refine ⟨?_, ?_⟩
  · rw [abs_le]
    constructor <;> linarith
  · intro htie
    have hn : (0 : ℚ) ≤ halfUp x := by exact_mod_cast halfUp_nonneg h
    rw [abs_of_nonneg h, abs_of_nonneg hn]
    rcases abs_cases (x - halfUp x) with ⟨heq, -⟩ | ⟨heq, -⟩ <;> linarith

theorem neg (h : IsNearest n x) : IsNearest (-n) (-x) := by
  have hdistance : |-x - ((-n : ℤ) : ℚ)| = |x - n| := by
    rw [Int.cast_neg, ← neg_sub', abs_neg]
  refine ⟨hdistance ▸ h.close, ?_⟩
  intro htie
  rw [Int.cast_neg, abs_neg, abs_neg]
  exact h.away (hdistance ▸ htie)

/-- Two integers at half a unit from a number do not both lie further from
zero. -/
theorem not_lt (hm : IsNearest m x) (hn : IsNearest n x) : ¬m < n := by
  intro hlt
  have hstep : (m : ℚ) + 1 ≤ n := by exact_mod_cast hlt
  have hcloseM := abs_le.1 hm.close
  have hcloseN := abs_le.1 hn.close
  -- the number lies in the middle between the two
  have hmiddle : x = m + 1 / 2 := by
      linarith [hcloseM.1, hcloseM.2, hcloseN.1, hcloseN.2]
  have hnext : (n : ℚ) = m + 1 := by
      linarith [hcloseM.1, hcloseM.2, hcloseN.1, hcloseN.2]
  have hawayM := hm.away (by rw [hmiddle, add_sub_cancel_left]; norm_num)
  have hawayN := hn.away (by rw [hmiddle, hnext, abs_sub_comm]; norm_num)
  rw [hmiddle] at hawayM hawayN
  rw [hnext] at hawayN
  by_cases hsign : 0 ≤ m
  · have hsign' : (0 : ℚ) ≤ m := by exact_mod_cast hsign
    rw [abs_of_nonneg hsign', abs_of_nonneg (by linarith)] at hawayM
    linarith
  · have hsign' : (m : ℚ) + 1 ≤ 0 := by exact_mod_cast (by omega : m + 1 ≤ 0)
    rw [abs_of_nonpos hsign', abs_of_nonpos (by linarith)] at hawayN
    linarith

/-- There is one nearest integer. -/
theorem eq (hm : IsNearest m x) (hn : IsNearest n x) : m = n := by
  have hmn := hm.not_lt hn
  have hnm := hn.not_lt hm
  omega

end IsNearest

namespace Decimal

open Text

/-- A number rounded to two places and taken a hundred times. -/
def hundredfold (d : Decimal) : Except Signal Decimal :=
  (d.quantize (-2)).bind fun q => q.mul (.finite false 100 0)

/-- An integer with a sign. -/
def withSign (negative : Bool) (m : Nat) : ℤ := if negative then -m else m

/-- A magnitude in cents. -/
def magnitudeCents (c : Nat) (e : Int) : ℤ := halfUp (100 * (c * 10 ^ e))

/-- The steps to a value in cents keep it once it is rounded: they fail only for
want of digits, and otherwise lead to the nearest integer. -/
def KeepsNearest (d : Decimal) (x : ℚ) : Prop :=
  d.hundredfold = .error .invalidOperation ∨
    ∃ p n r, d.hundredfold = .ok p ∧ IsNearest n (100 * x) ∧
    p.value? = some (n : ℚ) ∧ p.toIntegral = .ok r ∧ p.equal r = .ok true

/-! ## Rounding to two places -/

theorem hundred_mul_zpow (c : Nat) (e : Int) :
    100 * ((c : ℚ) * 10 ^ e) = c * 10 ^ (e + 2) := by
  rw [zpow_add₀ (by norm_num)]
  norm_num
  ring

/-- A number of so many digits that its cents need more digits than the context
has. -/
theorem le_magnitudeCents {c : Nat} {e : Int} (hc : c ≠ 0)
    (h : (precision : Int) < digitCount c + (e + 2)) :
    (tenTo precision : ℤ) ≤ magnitudeCents c e := by
  have hlarge : (10 : ℚ) ^ (precision : Int) ≤ c * 10 ^ (e + 2) := by
    refine le_magnitude hc ?_
    unfold adjusted
    omega
  have hvalue : ((tenTo precision : Nat) : ℚ) ≤ 100 * (c * 10 ^ e) := by
    rw [hundred_mul_zpow, tenTo_cast, ← zpow_natCast]
    exact hlarge
  have := halfUp_mono hvalue
  rwa [halfUp_natCast] at this

/-- The coefficient of a number that is rounded to two places is its magnitude
in cents. -/
theorem coefficient_cents (c : Nat) (e : Int) :
    (((if -2 ≤ e then c * tenTo (e - -2).toNat
      else shiftRight .awayFromZero c (-2 - e).toNat : Nat) : Nat) : ℤ) =
        magnitudeCents c e := by
  rw [magnitudeCents, hundred_mul_zpow]
  by_cases h : -2 ≤ e
  · obtain ⟨j, hj⟩ : ∃ j : Nat, e + 2 = j := ⟨(e + 2).toNat, by omega⟩
    have hvalue : (c : ℚ) * 10 ^ (e + 2) = ((c * tenTo j : Nat) : ℚ) := by
      rw [hj, zpow_natCast, Nat.cast_mul, tenTo_cast]
    rw [if_pos h, hvalue, halfUp_natCast, show (e - -2).toNat = j by omega]
  · obtain ⟨j, hj⟩ : ∃ j : Nat, -2 - e = j := ⟨(-2 - e).toNat, by omega⟩
    have hvalue : (c : ℚ) * 10 ^ (e + 2) = c / 10 ^ j := by
      rw [show e + 2 = -(j :
        Int) by omega, zpow_neg, zpow_natCast, div_eq_mul_inv]
    rw [if_neg h, hvalue, show (-2 - e).toNat = j by omega]
    exact shiftRight_eq_halfUp c j

/-- Rounding to two places gives the magnitude in cents, unless that has too
many digits. -/
theorem quantize_places (negative : Bool) (c : Nat) (e : Int) :
    ∃ m : Nat, (m : ℤ) = magnitudeCents c e ∧
      ((quantize (-2) (.finite negative c e) = .ok (.finite negative m (-2)) ∧
        digitCount m ≤ precision) ∨
      (quantize (-2) (.finite negative c e) = .error .invalidOperation ∧
        tenTo precision ≤ m)) := by
  by_cases hc : c = 0
  · refine ⟨0, ?_, Or.inl ⟨?_, by decide⟩⟩
    · rw [magnitudeCents, hc]
      norm_num [halfUp]
    · rw [quantize, if_pos hc]
  by_cases hlong : (precision : Int) < digitCount c + (e - -2)
  · have hlarge := le_magnitudeCents (e := e) hc (by omega)
    refine ⟨(magnitudeCents c e).toNat, by omega, Or.inr ⟨?_, by omega⟩⟩
    rw [quantize, if_neg hc, if_pos hlong]
  · refine ⟨_, coefficient_cents c e, ?_⟩
    generalize hm : (if -2 ≤ e then c * tenTo (e - -2).toNat
      else shiftRight .awayFromZero c (-2 - e).toNat) = m
    by_cases hdigits : precision < digitCount m
    · right
      refine ⟨?_, ?_⟩
      · simp only [quantize, if_neg hc, if_neg hlong, hm, if_pos hdigits]
      · have hne : m ≠ 0 := by
          rintro rfl
          exact absurd hdigits (by decide)
        have hlower := tenTo_digitCount_le hne
        have hstep : tenTo (precision + 1) ≤ tenTo (digitCount m) :=
          tenTo_le_tenTo hdigits
        rw [tenTo_succ] at hstep
        omega
    · left
      refine ⟨?_, by omega⟩
      simp only [quantize, if_neg hc, if_neg hlong, hm, if_neg hdigits]

/-! ## A hundred times -/

/-- Taking a number of two places a hundred times adds two zeros, of which the
context may drop some. -/
theorem mul_hundred (negative : Bool) {m : Nat} (h : digitCount m ≤ precision) :
    ∃ k : Nat, k ≤ 2 ∧ (finite negative m (-2)).mul (.finite false 100 0) =
      .ok (.finite negative (m * tenTo (2 - k)) ((k : Int) - 2)) := by
  have hsign : (negative != false) = negative := by cases negative <;> rfl
  have hmul : (finite negative m (-2)).mul (.finite false 100 0) =
      finish negative (m * tenTo 2) (-2) := by
    show finish (negative != false) (m * tenTo 2) (-2 + 0) = _
    rw [hsign, Int.add_zero]
  by_cases hm : m = 0
  · refine ⟨0, by omega, ?_⟩
    rw [hmul, hm]
    cases negative <;> rfl
  have hpos : m * tenTo 2 ≠ 0 := Nat.mul_ne_zero hm (by decide)
  have hdigits : digitCount (m * tenTo 2) = digitCount m + 2 :=
    digitCount_mul_tenTo hm 2
  have hnotTiny : ¬(-2 : Int) < tinyExponent := by decide
  have hmax : maxExponent = 999999 := rfl
  have hprecision : precision = 28 := rfl
  by_cases hfits : digitCount (m * tenTo 2) ≤ precision
  · refine ⟨0, by omega, ?_⟩
    have hin : InContext (m * tenTo 2) (-2) := by
      refine ⟨hfits, by decide, ?_⟩
      unfold adjusted
      omega
    rw [hmul, finish_of_inContext hin]
    rfl
  · obtain ⟨k, hk⟩ : ∃ k, digitCount (m * tenTo 2) - precision = k := ⟨_, rfl⟩
    have hk2 : k ≤ 2 := by omega
    refine ⟨k, hk2, ?_⟩
    have hshift : shiftRight .toEven (m * tenTo 2) k = m * tenTo (2 - k) :=
      shiftRight_mul_tenTo_of_le .toEven hm hk2
    have hleft : digitCount (m * tenTo (2 - k)) ≤ precision := by
      rw [digitCount_mul_tenTo hm]
      omega
    have hcut : cutDigits (m * tenTo 2) (-2) = (m * tenTo (2 - k),
        (-2 : Int) + (k : Int)) := by
      simp only [cutDigits, if_neg hfits, hk, hshift, if_pos hleft]
    have hreach : ¬maxExponent < adjusted (m * tenTo (2 - k))
        ((-2 : Int) + (k : Int)) := by
      unfold adjusted
      omega
    simp only [hmul, finish, if_neg hpos, hnotTiny, decide_false,
      Bool.false_and, Bool.false_eq_true,
      if_false, hcut, if_neg hreach, show (k : Int) - 2 = (-2 : Int) +
        (k : Int) by omega]

/-- A coefficient may carry zeros that another spelling has in its exponent. -/
theorem sameMagnitude_mul_tenTo (c : Nat) (e : Int) (j : Nat) :
    sameMagnitude (c * tenTo j) e c (e + j) = true := by
  unfold sameMagnitude
  by_cases hc : c = 0
  · rw [hc, Nat.zero_mul, if_pos (by decide), beq_self_eq_true]
  · have hne : c * tenTo j ≠ 0 :=
      Nat.mul_ne_zero hc (Nat.ne_of_gt (tenTo_pos j))
    have hone : tenTo 0 = 1 := rfl
    rw [if_neg (by simp [hc, hne]), if_neg, show (e - (e + j)).toNat =
      0 by omega,
      show (e + j - e).toNat = j by omega, hone, Nat.mul_one, beq_self_eq_true]
    unfold adjusted
    rw [digitCount_mul_tenTo hc]
    omega

/-- What is a whole number with zeros after the point is whole: it equals its
integral part. -/
theorem integral_of_hundredfold (negative : Bool) (m : Nat) {k : Nat}
    (hk : k ≤ 2) :
    ∃ r, (finite negative (m * tenTo (2 - k)) ((k : Int) - 2)).toIntegral =
      .ok r ∧
      (finite negative (m * tenTo (2 - k)) ((k : Int) - 2)).equal r =
        .ok true := by
  by_cases hwhole : 0 ≤ (k : Int) - 2
  · have hsame := sameMagnitude_mul_tenTo (m * tenTo (2 - k)) ((k : Int) - 2) 0
    rw [show tenTo 0 = 1 from rfl, Nat.mul_one, Int.natCast_zero,
      Int.add_zero] at hsame
    refine ⟨_, by rw [toIntegral, if_pos hwhole], ?_⟩
    simp only [equal, beq_self_eq_true, Bool.true_or, Bool.true_and, hsame]
  · have hdrop : shiftRight .toEven (m * tenTo (2 - k)) (2 - k) = m := by
      by_cases hm : m = 0
      · rw [hm, Nat.zero_mul]
        unfold shiftRight
        split
        · rfl
        · simp
      · rw [shiftRight_mul_tenTo_of_le .toEven hm (Nat.le_refl _), Nat.sub_self]
        exact Nat.mul_one m
    have hsame := sameMagnitude_mul_tenTo m ((k : Int) - 2) (2 - k)
    rw [show (k : Int) - 2 + ((2 - k : Nat) : Int) = 0 by omega] at hsame
    refine ⟨.finite negative m 0, ?_, ?_⟩
    · rw [toIntegral, if_neg hwhole, show (-((k : Int) - 2)).toNat = 2 -
        k by omega, hdrop]
    · simp only [equal, beq_self_eq_true, Bool.true_or, Bool.true_and, hsame]

theorem truncated_of_hundredfold (negative : Bool) (m : Nat) {k : Nat}
    (hk : k ≤ 2) :
    (finite negative (m * tenTo (2 - k)) ((k : Int) - 2)).truncated? =
      some (withSign negative m) := by
  have hnone : ((k : Int) - 2).toNat = 0 := by omega
  have hplaces : (-((k : Int) - 2)).toNat = 2 - k := by omega
  have hone : tenTo 0 = 1 := rfl
  simp only [truncated?, hnone, hplaces, hone, Nat.mul_one,
    Nat.mul_div_cancel _ (tenTo_pos _)]
  rfl

theorem withSign_cast (negative : Bool) (m : Nat) :
    ((withSign negative m : ℤ) : ℚ) = (if negative then -1 else 1) * m := by
  cases negative <;> simp [withSign]

theorem value_of_hundredfold (negative : Bool) (m : Nat) {k : Nat}
    (hk : k ≤ 2) :
    (finite negative (m * tenTo (2 - k)) ((k : Int) - 2)).value? =
      some ((withSign negative m : ℤ) : ℚ) := by
  have hscale : ((10 : ℚ) ^ (2 - k)) * 10 ^ ((k : Int) - 2) = 1 := by
    rw [← zpow_natCast, ← zpow_add₀ (by norm_num), show ((2 - k : Nat) : Int) +
      ((k : Int) - 2) = 0 by omega, zpow_zero]
  rw [value?, withSign_cast, Nat.cast_mul, tenTo_cast, mul_assoc,
    hscale, mul_one]

/-! ## Cents -/

/-- All that scaling does to a finite number. -/
theorem hundredfold_finite (negative : Bool) (c : Nat) (e : Int) :
    ∃ m : Nat, (m : ℤ) = magnitudeCents c e ∧
      ((hundredfold (.finite negative c e) = .error .invalidOperation ∧
        tenTo precision ≤ m) ∨
      ∃ p r, hundredfold (.finite negative c e) = .ok p ∧
        p.value? = some ((withSign negative m : ℤ) : ℚ) ∧
        p.truncated? = some (withSign negative m) ∧
        p.toIntegral = .ok r ∧ p.equal r = .ok true) := by
  obtain ⟨m, hm, ⟨hquantize, hdigits⟩ | ⟨hquantize, hlarge⟩⟩ :=
    quantize_places negative c e
  · obtain ⟨k, hk, hmul⟩ := mul_hundred negative hdigits
    obtain ⟨r, hintegral, hequal⟩ := integral_of_hundredfold negative m hk
    refine ⟨m, hm, Or.inr ⟨_, r, ?_, value_of_hundredfold negative m hk,
      truncated_of_hundredfold negative m hk, hintegral, hequal⟩⟩
    rw [hundredfold, hquantize]
    exact hmul
  · refine ⟨m, hm, Or.inl ⟨?_, hlarge⟩⟩
    rw [hundredfold, hquantize]
    rfl

/-- A whole number of cents is the value in cents if it is one of 64 bits. -/
theorem cents_of_hundredfold {d p r : Decimal} {n : ℤ}
    (hfinite : d.isFinite = true) (hscaled : d.hundredfold = .ok p)
    (htruncated : p.truncated? = some n) (hintegral : p.toIntegral = .ok r)
    (hequal : p.equal r = .ok true) :
    d.cents = if minCents ≤ n ∧ n ≤ maxCents then .ok n
    else .error .outOfRange := by
  unfold hundredfold at hscaled
  unfold cents
  rw [hfinite, hscaled]
  simp only [Except.mapError, bind, Except.bind, hintegral, hequal,
    Except.toOption, Option.getD_some,
    htruncated, pure, Except.pure, Bool.not_true, Bool.false_eq_true, if_false]
  rfl

/-- The cents of a finite number: its magnitude in cents with its sign, within
64 bits. -/
theorem cents_finite (negative : Bool) (c : Nat) (e : Int) :
    ∃ m : Nat, (m : ℤ) = magnitudeCents c e ∧
      ((minCents ≤ withSign negative m ∧ withSign negative m ≤ maxCents ∧
        (finite negative c e).cents = .ok (withSign negative m)) ∨
      (¬(minCents ≤ withSign negative m ∧ withSign negative m ≤ maxCents) ∧
        ((finite negative c e).cents = .error .notScalable ∨
          (finite negative c e).cents = .error .outOfRange))) := by
  obtain ⟨m, hm, ⟨hscaled, hlarge⟩ | ⟨p, r, hscaled, -, htruncated, hintegral,
    hequal⟩⟩ :=
    hundredfold_finite negative c e
  · have hten : tenTo precision = 10000000000000000000000000000 := by decide
    refine ⟨m, hm, Or.inr ⟨?_, Or.inl ?_⟩⟩
    · unfold withSign minCents maxCents
      cases negative <;> simp only [if_true, Bool.false_eq_true,
        if_false] <;> omega
    · unfold hundredfold at hscaled
      unfold cents
      rw [hscaled]
      rfl
  · have hcents := cents_of_hundredfold rfl hscaled htruncated hintegral hequal
    refine ⟨m, hm, ?_⟩
    by_cases hrange : minCents ≤ withSign negative m ∧
      withSign negative m ≤ maxCents
    · rw [if_pos hrange] at hcents
      exact Or.inl ⟨hrange.1, hrange.2, hcents⟩
    · rw [if_neg hrange] at hcents
      exact Or.inr ⟨hrange, Or.inr hcents⟩

/-- A magnitude in cents with its sign is nearest to a hundred times the
value. -/
theorem isNearest_withSign {negative : Bool} {c m : Nat} {e : Int} {x : ℚ}
    (hx : (finite negative c e).value? = some x)
    (hm : (m : ℤ) = magnitudeCents c e) :
    IsNearest (withSign negative m) (100 * x) := by
  have hnonneg : (0 : ℚ) ≤ 100 * (c * 10 ^ e) := by
    have := zpow_pos (show (0 : ℚ) < 10 by norm_num) e
    positivity
  have hnearest : IsNearest (m : ℤ) (100 * (c * 10 ^ e)) := by
    rw [hm]
    exact .of_halfUp hnonneg
  cases hx
  cases negative with
  | false =>
    show IsNearest (m : ℤ) (100 * (1 * (c * 10 ^ e)))
    rw [one_mul]
    exact hnearest
  | true =>
    show IsNearest (-(m : ℤ)) (100 * (-1 * (c * 10 ^ e)))
    rw [neg_one_mul, mul_neg]
    exact hnearest.neg

/-- The value in cents is the nearest integer, if it is one of 64 bits. -/
theorem cents_eq_ok_iff {d : Decimal} {n : ℤ} :
    d.cents = .ok n ↔
      ∃ x, d.value? = some x ∧ IsNearest n (100 * x) ∧ -2 ^ 63 ≤ n ∧
      n ≤ 2 ^ 63 - 1 := by
  cases d with
  | finite negative c e =>
    obtain ⟨m, hm, ⟨hlow, hhigh, hcents⟩ | ⟨hrange, hcents⟩⟩ :=
      cents_finite negative c e
    · have hnearest := @isNearest_withSign negative c m e _ rfl hm
      rw [hcents]
      constructor
      · intro h
        cases h
        exact ⟨_, rfl, hnearest, hlow, hhigh⟩
      · rintro ⟨x, hx, hn, -⟩
        cases hx
        rw [hn.eq hnearest]
    · constructor
      · intro h
        rcases hcents with hcents | hcents <;> cases hcents.symm.trans h
      · rintro ⟨x, hx, hn, hlow, hhigh⟩
        rw [hn.eq (isNearest_withSign hx hm)] at hlow hhigh
        exact (hrange ⟨hlow, hhigh⟩).elim
  | infinite negative =>
    constructor
    · intro h
      cases h
    · rintro ⟨x, hx, -⟩
      cases hx
  | nan negative signaling payload =>
    constructor
    · intro h
      cases h
    · rintro ⟨x, hx, -⟩
      cases hx

/-- A finite number is scaled to its nearest integer, or asks for too many
digits. -/
theorem keepsNearest_of_value? {d : Decimal} {x : ℚ} (hx : d.value? = some x) :
    d.KeepsNearest x := by
  cases d with
  | finite negative c e =>
    obtain ⟨m, hm, ⟨hscaled, -⟩ | ⟨p, r, hscaled, hvalue, -, hintegral,
      hequal⟩⟩ :=
      hundredfold_finite negative c e
    · exact Or.inl hscaled
    · exact Or.inr ⟨p, _, r, hscaled, isNearest_withSign hx hm, hvalue,
        hintegral, hequal⟩
  | infinite negative => cases hx
  | nan negative signaling payload => cases hx

/-- No amount is refused for a part of a cent that is left over. -/
theorem cents_ne_notExact (d : Decimal) : d.cents ≠ .error .notExact := by
  intro h
  cases d with
  | finite negative c e =>
    obtain ⟨m, -, ⟨-, -, hcents⟩ | ⟨-, hcents | hcents⟩⟩ :=
      cents_finite negative c e
    · cases hcents.symm.trans h
    · cases hcents.symm.trans h
    · cases hcents.symm.trans h
  | infinite negative => cases h
  | nan negative signaling payload => cases h

/-- Amounts have the integer nearest to a hundred times their value as their
value in cents, if it is one of 64 bits, and none otherwise. The context of 28
digits never changes it, what is scaled is never broken, and opposite amounts
have opposite cents. -/
theorem cents_rounds_exactly (d : Decimal) :
    (∀ n, d.cents = .ok n ↔
      ∃ x, d.value? = some x ∧ IsNearest n (100 * x) ∧ -2 ^ 63 ≤ n ∧
        n ≤ 2 ^ 63 - 1) ∧
    (∀ x, d.value? = some x → d.KeepsNearest x) ∧
    d.cents ≠ .error .notExact ∧
    ∀ m n, d.cents = .ok m → d.negate.cents = .ok n → n = -m := by
  refine ⟨fun n => cents_eq_ok_iff, fun x => keepsNearest_of_value?,
    cents_ne_notExact d, ?_⟩
  intro m n hm hn
  obtain ⟨x, hx, hnearest, -⟩ := cents_eq_ok_iff.1 hm
  obtain ⟨y, hy, hnearest', -⟩ := cents_eq_ok_iff.1 hn
  rw [value?_negate, hx] at hy
  obtain rfl : -x = y := Option.some.inj hy
  rw [mul_neg] at hnearest'
  exact hnearest'.eq hnearest.neg

/-- The greatest amount that has a value in cents, and the next one that is
rounded up beyond it. -/
example :
    (finite false 92233720368547758074 (-3)).cents = .ok (2 ^ 63 - 1) ∧
      (finite false 92233720368547758075 (-3)).cents = .error .outOfRange := by
      decide +kernel

end Decimal

end LedgerSync
