import LedgerSync.Proofs.Decimal.WholeCents
import Mathlib.Tactic.LinearCombination

/-!
# What the context keeps of a number

Taking a magnitude or a sign of a number is arithmetic, and the context of 28
digits rounds its result. A result keeps the number exactly, or as the nearest
multiple of a power of ten (`KeptAs`), and what is kept once is kept as it is
from then on (`finish_of_inContext`).

Cents are rounded a second time. Two roundings give what one gives, unless the
first lifts the number onto a half of a cent that it does not reach by itself
(`halfUp_of_keptAs`). This is where the unit of the context is small. Where it
is not, the number is too large to have a value in cents at all.
-/

namespace LedgerSync

namespace Decimal

open Text

/-- The second number is the first one exactly, or it is the nearest multiple of
a power of ten, the even one of two. The unit is less than a cent, or else the
number has 28 digits before it. -/
def KeptAs (x y : ℚ) : Prop :=
  y = x ∨ ∃ (m : Nat) (f : Int), y = m * 10 ^ f ∧ |x - y| ≤ 10 ^ f / 2 ∧
    (|x - y| = 10 ^ f / 2 → m % 2 = 0) ∧ (f < -2 ∨ tenTo 27 ≤ m)

/-- From here on a magnitude is rounded beyond the largest exponent. -/
def overflowBound : ℚ := (10 ^ 28 - 1 / 2) * 10 ^ (maxExponent - 27)

/-! ## Results of the context -/

/-- Dropping places keeps a number as the nearest multiple of the new unit, the
even one of two. -/
theorem shiftRight_kept (c k : Nat) (e : Int) :
    |(c : ℚ) * 10 ^ e - shiftRight .toEven c k * 10 ^ (e + k)| ≤
      10 ^ (e + k) / 2 ∧
      (|(c : ℚ) * 10 ^ e - shiftRight .toEven c k * 10 ^ (e + k)| =
        10 ^ (e + k) / 2 → shiftRight .toEven c k % 2 = 0) := by
  have hunit : (0 : ℚ) < 10 ^ (e + k) := zpow_pos (by norm_num) _
  have hplaces : (0 : ℚ) < 10 ^ k := by positivity
  have hsplit : (c : ℚ) * 10 ^ e = c / 10 ^ k * 10 ^ (e + k) := by
    rw [zpow_add₀ (by norm_num), zpow_natCast]
    field_simp
  have hhalf : (10 : ℚ) ^ (e + k) / 2 = 1 / 2 * 10 ^ (e + k) := by ring
  rw [hsplit, ← sub_mul, abs_mul, abs_of_pos hunit, hhalf]
  refine ⟨mul_le_mul_of_nonneg_right (shiftRight_close .toEven c k) hunit.le,
    ?_⟩
  intro htie
  exact shiftRight_even_of_tie (mul_right_cancel₀ hunit.ne' htie)

/-- Dropping `k` places from a number of at most `n + k` digits leaves at most
the power of ten after them. -/
theorem shiftRight_le {c k n : Nat} (h : digitCount c ≤ n + k) :
    shiftRight .toEven c k ≤ tenTo n := by
  have hlt : c < tenTo n * tenTo k := by
    rw [← tenTo_add]
    exact Nat.lt_of_lt_of_le (lt_tenTo_digitCount c) (tenTo_le_tenTo h)
  have hquotient : c / tenTo k < tenTo n :=
    (Nat.div_lt_iff_lt_mul (tenTo_pos k)).2 hlt
  rcases shiftRight_cases .toEven c k with ⟨heq, -⟩ | ⟨heq, -⟩ <;> omega

/-- Dropping `k` places from a number of `n + k` digits leaves at least the
power of ten before them. -/
theorem le_shiftRight {c k n : Nat} (hc : c ≠ 0) (hn : 0 < n)
    (h : digitCount c = n + k) : tenTo (n - 1) ≤ shiftRight .toEven c k := by
  have hlower := tenTo_digitCount_le hc
  rw [h, show n + k = (n - 1) + k + 1 by omega, tenTo_succ, tenTo_add] at hlower
  have hquotient : tenTo (n - 1) ≤ c / tenTo k := by
    rw [Nat.le_div_iff_mul_le (tenTo_pos k)]
    omega
  rcases shiftRight_cases .toEven c k with ⟨heq, -⟩ | ⟨heq, -⟩ <;> omega

theorem overflowBound_le_of_adjusted {c : Nat} {e : Int} (hc : c ≠ 0)
    (h : maxExponent < adjusted c e) : overflowBound ≤ c * 10 ^ e := by
  have hle := le_magnitude (e := e) (f := maxExponent - 27 + 28) hc (by omega)
  have hunit : (0 : ℚ) < 10 ^ (maxExponent - 27) := zpow_pos (by norm_num) _
  rw [zpow_add₀ (by norm_num)] at hle
  unfold overflowBound
  have h28 : (10 : ℚ) ^ (28 : Int) = 10 ^ 28 := by norm_cast
  rw [h28] at hle
  linarith

/-- What is rounded up to the power of ten after 28 digits lies less than half a
unit below it. -/
theorem overflowBound_le_of_carry {x : ℚ} {f : Int}
    (hreach : maxExponent ≤ f + 27)
    (hnear : |x - 10 ^ 28 * 10 ^ f| ≤ 10 ^ f / 2) : overflowBound ≤ x := by
  have hunit : (10 : ℚ) ^ (maxExponent - 27) ≤ 10 ^ f :=
    zpow_le_zpow_right₀ (by norm_num) (by omega)
  have hfactor : (0 : ℚ) ≤ 10 ^ 28 - 1 / 2 := by norm_num
  have hprod := mul_le_mul_of_nonneg_left hunit hfactor
  have hbelow := (abs_le.1 hnear).1
  unfold overflowBound
  linarith

/-- Cutting digits off leaves a number within the precision, and keeps its value
to a nearest one. -/
theorem cutDigits_spec {c : Nat} (hc : c ≠ 0) (e : Int) :
    ∃ (c' : Nat) (e' : Int), cutDigits c e = (c', e') ∧
    digitCount c' ≤ precision ∧ e ≤ e' ∧
      (digitCount c : Int) + e - precision ≤ e' ∧
      KeptAs (c * 10 ^ e) (c' * 10 ^ e') ∧
      (maxExponent < adjusted c' e' → overflowBound ≤ c * 10 ^ e) := by
  have hprecision : precision = 28 := rfl
  by_cases hfits : digitCount c ≤ precision
  · exact ⟨c, e, cutDigits_of_le hfits e, hfits, by omega, by omega, Or.inl rfl,
      overflowBound_le_of_adjusted hc⟩
  obtain ⟨k, hk⟩ : ∃ k, digitCount c = precision + k :=
    ⟨digitCount c - precision, by omega⟩
  obtain ⟨hkept, heven⟩ := shiftRight_kept c k e
  have hlower : tenTo 27 ≤ shiftRight .toEven c k :=
    le_shiftRight hc (by decide) hk
  have hupper := shiftRight_le hk.le
  generalize hm : shiftRight .toEven c k = m at hkept heven hlower hupper
  have hplaces : digitCount c - precision = k := by omega
  by_cases hdigits : digitCount m ≤ precision
  · refine ⟨m, e + k, ?_,
      hdigits, by omega, by
      omega, Or.inr ⟨m, e + k, rfl, hkept, heven, Or.inr hlower⟩, ?_⟩
    · simp only [cutDigits, if_neg hfits, hplaces, hm, if_pos hdigits]
    · intro hbeyond
      refine overflowBound_le_of_adjusted hc ?_
      unfold adjusted at hbeyond ⊢
      omega
  · -- rounding up carried into one digit more
    have hcarry : m = tenTo precision := by
      by_contra hne
      exact hdigits (digitCount_le_of_lt (by decide) (by omega))
    have hten : tenTo precision = tenTo 27 * 10 := by decide
    have hdrop : m / 10 = tenTo 27 := by omega
    have hvalue : ((tenTo 27 : Nat) : ℚ) * 10 ^ (e + k + 1) = m *
        10 ^ (e + k) := by
      rw [hcarry, hten, zpow_add_one₀ (by norm_num)]
      push_cast
      ring
    have hdigits27 : digitCount (tenTo 27) = 28 := by decide +kernel
    have hkept' : KeptAs (c * 10 ^ e)
        ((tenTo 27 : Nat) * 10 ^ (e + k + 1)) := by
      rw [hvalue]
      exact Or.inr ⟨m, e + k, rfl, hkept, heven, Or.inr hlower⟩
    refine ⟨tenTo 27, e + k + 1, ?_, by omega, by omega, by omega, hkept', ?_⟩
    · simp only [cutDigits, if_neg hfits, hplaces, hm, if_neg hdigits, hdrop]
    · intro hbeyond
      unfold adjusted at hbeyond
      rw [hdigits27] at hbeyond
      rw [hcarry, tenTo_cast] at hkept
      exact overflowBound_le_of_carry (by omega) hkept

/-- A number too small for all its digits is rounded at the last place there
is. -/
theorem finish_of_tiny (negative : Bool) {c : Nat} {e : Int} (hc : c ≠ 0)
    (htiny : e < tinyExponent) (hsmall : adjusted c e < minExponent) :
    ∃ c' : Nat, finish negative c e = .ok (.finite negative c' tinyExponent) ∧
      InContext c' tinyExponent ∧
      KeptAs (c * 10 ^ e) (c' * 10 ^ tinyExponent) := by
  have hprecision : precision = 28 := rfl
  have hmax : maxExponent = 999999 := rfl
  have hmin : minExponent = -999999 := rfl
  have htinyEq : tinyExponent = -1000026 := rfl
  obtain ⟨k, hk⟩ : ∃ k : Nat, tinyExponent - e = k :=
    ⟨(tinyExponent - e).toNat, by omega⟩
  obtain ⟨hkept, heven⟩ := shiftRight_kept c k e
  rw [show e + (k : Int) = tinyExponent by omega] at hkept heven
  have hfew : shiftRight .toEven c k ≤ tenTo 27 := by
    refine shiftRight_le ?_
    unfold adjusted at hsmall
    omega
  have hdigits : digitCount (shiftRight .toEven c k) ≤ precision :=
    digitCount_le_of_lt (by decide)
      (Nat.lt_of_le_of_lt hfew (tenTo_lt_tenTo_iff.2 (by decide)))
  refine ⟨shiftRight .toEven c k, ?_, ⟨hdigits, Int.le_refl _, ?_⟩,
    Or.inr ⟨_, _, rfl, hkept, heven, Or.inl (by decide)⟩⟩
  · have hboth : (decide (e < tinyExponent) &&
        decide (adjusted c e < minExponent)) = true := by
      simp [htiny, hsmall]
    simp only [finish, if_neg hc, hboth, if_true,
      show (tinyExponent - e).toNat = k by omega]
  · unfold adjusted
    omega

/-- The context overflows, or keeps a number within its limits. -/
theorem finish_cases (negative : Bool) (c : Nat) (e : Int) :
    (finish negative c e = .error .overflow ∧ overflowBound ≤ c * 10 ^ e) ∨
    ∃ (c' : Nat) (e' : Int), finish negative c e =
      .ok (.finite negative c' e') ∧ InContext c' e' ∧
      KeptAs (c * 10 ^ e) (c' * 10 ^ e') := by
  have hprecision : precision = 28 := rfl
  have hmax : maxExponent = 999999 := rfl
  have hmin : minExponent = -999999 := rfl
  have htinyEq : tinyExponent = -1000026 := rfl
  by_cases hc : c = 0
  · refine Or.inr ⟨0, max tinyExponent (min e maxExponent), ?_,
      ⟨by decide, by omega, ?_⟩, Or.inl ?_⟩
    · rw [finish, if_pos hc]
    · unfold adjusted
      rw [show digitCount 0 = 1 from rfl]
      omega
    · rw [hc, Nat.cast_zero, zero_mul, zero_mul]
  by_cases htiny : e < tinyExponent ∧ adjusted c e < minExponent
  · obtain ⟨c', h⟩ := finish_of_tiny negative hc htiny.1 htiny.2
    exact Or.inr ⟨c', tinyExponent, h⟩
  · obtain ⟨c', e', hcut, hdigits, hup, hlow, hkept, hbeyond⟩ :=
      cutDigits_spec hc e
    have hboth : (decide (e < tinyExponent) &&
        decide (adjusted c e < minExponent)) = false := by
      simpa [not_and_or] using htiny
    have hfinish : finish negative c e = if maxExponent <
        adjusted c' e' then .error .overflow
        else .ok (.finite negative c' e') := by
      simp only [finish, if_neg hc, hboth, Bool.false_eq_true, if_false, hcut]
    by_cases hreach : maxExponent < adjusted c' e'
    · rw [if_pos hreach] at hfinish
      exact Or.inl ⟨hfinish, hbeyond hreach⟩
    · rw [if_neg hreach] at hfinish
      refine Or.inr ⟨c', e', hfinish, ⟨hdigits, ?_, by omega⟩, hkept⟩
      unfold adjusted at htiny
      omega

/-- What is within the limits of the context is at most the greatest number with
28 digits. -/
theorem InContext.value_le {c : Nat} {e : Int} (h : InContext c e) :
    (c : ℚ) * 10 ^ e ≤ (10 ^ 28 - 1) * 10 ^ (maxExponent - 27) := by
  have hmax : maxExponent = 999999 := rfl
  have hprecision : precision = 28 := rfl
  have hdigits := h.digits
  have hreach := h.reach
  unfold adjusted at hreach
  have hunit : (0 : ℚ) < 10 ^ e := zpow_pos (by norm_num) e
  have hc : (c : ℚ) + 1 ≤ 10 ^ digitCount c := by
    rw [← tenTo_cast]
    exact_mod_cast lt_tenTo_digitCount c
  -- with the unit of the last place, what is missing to a power of ten is at
  -- least that unit
  by_cases hlow : e ≤ maxExponent - 27
  · have h28 : (c : ℚ) ≤ 10 ^ 28 - 1 := by
      have hmono : (10 : ℚ) ^ digitCount c ≤ 10 ^ 28 :=
        pow_le_pow_right₀ (by norm_num) (by omega)
      linarith
    have hmono : (10 : ℚ) ^ e ≤ 10 ^ (maxExponent - 27) :=
      zpow_le_zpow_right₀ (by norm_num) hlow
    exact mul_le_mul h28 hmono hunit.le (by norm_num)
  · have hlarge : (10 : ℚ) ^ (maxExponent - 27) ≤ 10 ^ e :=
      zpow_le_zpow_right₀ (by norm_num) (by omega)
    have htop : (10 : ℚ) ^ digitCount c * 10 ^ e ≤ 10 ^ 28 *
    10 ^ (maxExponent - 27) := by
      rw [← zpow_natCast, ← zpow_natCast, ← zpow_add₀ (by norm_num),
        ← zpow_add₀ (by norm_num)]
      exact zpow_le_zpow_right₀ (by norm_num) (by push_cast; omega)
    have hprod := mul_le_mul_of_nonneg_right hc hunit.le
    linarith

/-- What is kept within the limits of the context is below the bound. At the
bound itself the greatest number, which is odd, would be left for the even one
after it. -/
theorem lt_overflowBound_of_keptAs {c : Nat} {e : Int} {x : ℚ}
    (h : InContext c e) (hkept : KeptAs x (c * 10 ^ e)) :
    x < overflowBound := by
  have hpos : (0 : ℚ) < 10 ^ (maxExponent - 27) := zpow_pos (by norm_num) _
  have hvalue := h.value_le
  unfold overflowBound
  rcases hkept with hexact | ⟨m, f, hm, hnear, heven, hunit⟩
  · rw [hexact] at hvalue
    linarith
  rw [hm] at hvalue hnear heven
  have habove := (abs_le.1 hnear).2
  by_cases hsmaller : f < maxExponent - 27
  · have hmono : (10 : ℚ) ^ f ≤ 10 ^ (maxExponent - 27 - 1) :=
      zpow_le_zpow_right₀ (by norm_num) (by omega)
    rw [zpow_sub_one₀ (by norm_num)] at hmono
    linarith
  have hf : f ≤ maxExponent - 27 := by
    by_contra hlarger
    have hmax : maxExponent = 999999 := rfl
    have hm27 : (10 : ℚ) ^ 27 ≤ m := by
      rw [← tenTo_cast]
      exact_mod_cast hunit.resolve_left (by omega)
    have hmono : (10 : ℚ) ^ (maxExponent - 27 + 1) ≤ 10 ^ f :=
      zpow_le_zpow_right₀ (by norm_num) (by omega)
    have hprod := mul_le_mul hm27 hmono (zpow_pos (by norm_num) _).le
        (Nat.cast_nonneg m)
    rw [zpow_add_one₀ (by norm_num)] at hprod
    linarith
  obtain rfl : f = maxExponent - 27 := by omega
  have hm28 : (m : ℚ) ≤ 10 ^ 28 - 1 := le_of_mul_le_mul_right hvalue hpos
  have hm28' : m ≤ 10 ^ 28 - 1 := by
    have : (m : ℚ) + 1 ≤ 10 ^ 28 := by linarith
    have : m + 1 ≤ 10 ^ 28 := by exact_mod_cast this
    omega
  by_cases hlast : m = 10 ^ 28 - 1
  · have hstrict : x - m * 10 ^ (maxExponent - 27) <
        10 ^ (maxExponent - 27) / 2 := by
      refine lt_of_le_of_ne habove ?_
      intro htie
      have hodd := heven (by rw [htie, abs_of_pos (by linarith)])
      omega
    linarith
  · have hm2 : (m : ℚ) ≤ 10 ^ 28 - 2 := by
      have : m + 2 ≤ 10 ^ 28 := by omega
      have : (m : ℚ) + 2 ≤ 10 ^ 28 := by exact_mod_cast this
      linarith
    have hprod := mul_le_mul_of_nonneg_right hm2 hpos.le
    linarith

/-! ## Rounding twice -/

/-- A bound on a nearest integer by the ends of its interval. -/
theorem halfUp_eq_of_bounds {x : ℚ} {n : ℤ} (hlow : n - 1 / 2 ≤ x)
    (hhigh : x < n + 1 / 2) : halfUp x = n := by
  rw [halfUp, Int.floor_eq_iff]
  constructor <;> linarith

/-- Halves are multiples of a unit that divides them. So a number within half a
unit of a multiple has the nearest integer of the multiple, unless the multiple
is a half above the number. -/
theorem halfUp_of_near {x y : ℚ} {m N : Nat} (hN : 0 < N) (hy : y * (2 * N) = m)
    (hnear : |x - y| * (4 * N) ≤ 1)
    (hsettled : ¬(x < y ∧ ∃ k : ℤ, y = k + 1 / 2)) : halfUp y = halfUp x := by
  have hN' : (0 : ℚ) < N := by exact_mod_cast hN
  obtain ⟨hlow, hhigh⟩ := halfUp_bounds y
  generalize halfUp y = n at hlow hhigh
  have hbelow : (y - x) * (4 * N) ≤ 1 :=
    (mul_le_mul_of_nonneg_right (neg_sub x y ▸ neg_le_abs (x - y))
      (by positivity)).trans hnear
  have habove : (x - y) * (4 * N) ≤ 1 :=
    (mul_le_mul_of_nonneg_right (le_abs_self (x - y)) (by positivity)).trans
      hnear
  refine (halfUp_eq_of_bounds ?_ ?_).symm
  · by_cases htie : y = n - 1 / 2
    · have hnot : ¬x < y :=
        fun hlt => hsettled ⟨hlt, n - 1, by rw [htie]; push_cast; ring⟩
      linarith
    · have hlt : (n : ℚ) - 1 / 2 < y := lt_of_le_of_ne hlow (Ne.symm htie)
      have hstrict : ((2 * n - 1) * N : ℚ) < m := by
        rw [← hy]
        nlinarith
      have hnext : ((2 * n - 1) * N + 1 : ℚ) ≤ m := by exact_mod_cast hstrict
      rw [← hy] at hnext
      nlinarith
  · have hstrict : (m : ℚ) < (2 * n + 1) * N := by
      rw [← hy]
      nlinarith
    have hnext : (m + 1 : ℚ) ≤ (2 * n + 1) * N := by exact_mod_cast hstrict
    rw [← hy] at hnext
    nlinarith

/-- A number that is kept has the cents of the number itself, unless it was
lifted onto a half of a cent, or both are beyond 64 bits. -/
theorem halfUp_of_keptAs {x y : ℚ} (h : KeptAs x y)
    (hsettled : ¬(x < y ∧ ∃ k : ℤ, 100 * y = k + 1 / 2)) :
    halfUp (100 * y) = halfUp (100 * x) ∨
      2 ^ 63 < halfUp (100 * y) ∧ 2 ^ 63 < halfUp (100 * x) := by
  rcases h with rfl | ⟨m, f, hy, hnear, -, hunit⟩
  · exact Or.inl rfl
  have hpos : (0 : ℚ) < 10 ^ f := zpow_pos (by norm_num) f
  by_cases hsmall : f < -2
  · left
    -- half a cent is a whole number of units
    obtain ⟨j, hj⟩ : ∃ j : Nat, f = -(j : Int) - 3 := ⟨(-f - 3).toNat, by omega⟩
    have hscale : (10 : ℚ) ^ f * (1000 * 10 ^ j) = 1 := by
      have h3 : (10 : ℚ) ^ (3 : Int) = 1000 := by norm_num
      rw [hj, zpow_sub₀ (by norm_num), zpow_neg, zpow_natCast, h3]
      field_simp
    refine halfUp_of_near (m := m) (N := 5 * 10 ^ j) (by positivity) ?_ ?_ ?_
    · rw [hy]
      push_cast
      linear_combination (m : ℚ) * hscale
    · rw [← mul_sub, abs_mul, abs_of_pos (by norm_num : (0 : ℚ) < 100)]
      push_cast
      calc 100 * |x - y| * (4 * (5 * 10 ^ j))
          = |x - y| * (2 * (1000 * 10 ^ j)) := by ring
        _ ≤ 10 ^ f / 2 * (2 * (1000 * 10 ^ j)) :=
          mul_le_mul_of_nonneg_right hnear (by positivity)
        _ = 1 := by linear_combination hscale
    · rintro ⟨hlt, k, hk⟩
      exact hsettled ⟨by linarith, k, hk⟩
  · right
    have hm : (10 : ℚ) ^ 27 ≤ m := by
      rw [← tenTo_cast]
      exact_mod_cast hunit.resolve_left hsmall
    have hcent : (1 : ℚ) / 100 ≤ 10 ^ f := by
      have := zpow_le_zpow_right₀ (show (1 : ℚ) ≤ 10 by norm_num)
          (show -2 ≤ f by omega)
      norm_num at this ⊢
      exact this
    have hbelow := (abs_le.1 hnear).1
    have hlarge : (10 : ℚ) ^ 20 ≤ 100 * y ∧ (10 : ℚ) ^ 20 ≤ 100 * x := by
      have hprod : (10 : ℚ) ^ 27 * 10 ^ f ≤ y :=
        hy ▸ mul_le_mul_of_nonneg_right hm hpos.le
      constructor <;> linarith
    have hbound : (2 : ℤ) ^ 63 < halfUp (((10 ^ 20 : Nat) : ℚ)) := by
      rw [halfUp_natCast]
      norm_num
    have hcast : (((10 ^ 20 : Nat) : ℚ)) = 10 ^ 20 := by norm_num
    rw [hcast] at hbound
    exact ⟨hbound.trans_le (halfUp_mono hlarge.1),
      hbound.trans_le (halfUp_mono hlarge.2)⟩

end Decimal

end LedgerSync
