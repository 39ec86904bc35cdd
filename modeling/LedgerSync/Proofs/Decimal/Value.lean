import LedgerSync.Proofs.Decimal.Cents
import Mathlib.Data.Rat.Floor
import Mathlib.Tactic.FieldSimp
import Mathlib.Tactic.Linarith
import Mathlib.Tactic.NormNum
import Mathlib.Tactic.Positivity
import Mathlib.Tactic.Ring

/-!
# Values of decimal numbers

A finite decimal number stands for a rational number (`value?`), and arithmetic
on decimals is measured against it. Two facts carry everything else. A
coefficient of `n` digits lies between two neighbouring powers of ten
(`tenTo_digitCount_le`, `lt_tenTo_digitCount`), so limits on digits are limits
on values. And dropping places takes a coefficient to a nearest integer
(`shiftRight_close`), to the upper one of two when a half goes away from zero
(`shiftRight_eq_halfUp`). What is within the limits of the context is kept as it
is (`finish_of_inContext`).
-/

namespace LedgerSync

/-- The nearest integer, a half going up. -/
def halfUp (x : ℚ) : ℤ := ⌊x + 1 / 2⌋

namespace Text

theorem tenTo_cast (n : Nat) : (tenTo n : ℚ) = 10 ^ n := by
  show ((10 ^ n : Nat) : ℚ) = 10 ^ n
  norm_num

theorem tenTo_le_tenTo {m n : Nat} (h : m ≤ n) : tenTo m ≤ tenTo n :=
  Nat.pow_le_pow_right (by decide) h

theorem tenTo_lt_tenTo_iff {m n : Nat} : tenTo m < tenTo n ↔ m < n :=
  Nat.pow_lt_pow_iff_right (by decide)

theorem lt_tenTo_digitsOf (c : Nat) : c < tenTo (digitsOf c).length := by
  induction c using digitsOf.induct with
  | case1 => exact tenTo_pos _
  | case2 c hc ih =>
    rw [digitsOf, if_neg hc, List.length_append, List.length_singleton,
      tenTo_succ]
    omega

theorem tenTo_digitsOf_le {c : Nat} (hc : c ≠ 0) :
    tenTo (digitsOf c).length ≤ c * 10 := by
  induction c using digitsOf.induct with
  | case1 => exact (hc rfl).elim
  | case2 c _ ih =>
    rw [digitsOf, if_neg hc, List.length_append, List.length_singleton,
      tenTo_succ]
    by_cases hsmall : c / 10 = 0
    · -- a single digit
      have hone : tenTo (digitsOf (c / 10)).length = 1 := by
        rw [hsmall, digitsOf, if_pos rfl]
        rfl
      omega
    · have := ih hsmall
      omega

/-- A number is below the power of ten of its digits. -/
theorem lt_tenTo_digitCount (c : Nat) : c < tenTo (digitCount c) := by
  unfold digitCount
  split
  · next hc =>
    rw [hc]
    exact tenTo_pos _
  · exact lt_tenTo_digitsOf c

/-- A number is not below the power of ten that has its digits. -/
theorem tenTo_digitCount_le {c : Nat} (hc : c ≠ 0) :
    tenTo (digitCount c) ≤ c * 10 := by
  rw [digitCount, if_neg hc]
  exact tenTo_digitsOf_le hc

/-- What lies below a power of ten has no more digits than the power has
zeros. -/
theorem digitCount_le_of_lt {c n : Nat} (hn : 0 < n) (h : c < tenTo n) :
    digitCount c ≤ n := by
  by_cases hc : c = 0
  · rw [hc]
    exact hn
  · have hle := tenTo_digitCount_le hc
    have hlt : tenTo (digitCount c) < tenTo (n + 1) := by
      rw [tenTo_succ]
      omega
    have := tenTo_lt_tenTo_iff.1 hlt
    omega

end Text

namespace Decimal

open Text

/-- The value of a finite number; none for the others. -/
def value? : Decimal → Option ℚ
  | .finite negative c e => some ((if negative then -1 else 1) * (c * 10 ^ e))
  | _ => none

/-- Whether this is the kind of not-a-number that makes an operation fail. -/
def isSignaling : Decimal → Bool
  | .nan _ signaling _ => signaling
  | _ => false

theorem value?_negate (d : Decimal) : d.negate.value? = d.value?.map (-·) := by
  cases d with
  | finite negative c e => cases negative <;> simp [negate, value?]
  | infinite negative => rfl
  | nan negative signaling payload => rfl

/-- A number of digits and an exponent is at least the power of ten before its
first digit. -/
theorem le_magnitude {c : Nat} {e f : Int} (hc : c ≠ 0) (h : f ≤ adjusted c e) :
    (10 : ℚ) ^ f ≤ c * 10 ^ e := by
  have hdigits : (10 : ℚ) ^ digitCount c ≤ c * 10 := by
    rw [← tenTo_cast]
    exact_mod_cast tenTo_digitCount_le hc
  have hunit : (0 : ℚ) < 10 ^ (e - 1) := zpow_pos (by norm_num) _
  unfold adjusted at h
  calc (10 : ℚ) ^ f
      ≤ 10 ^ ((digitCount c : Int) + (e - 1)) :=
        zpow_le_zpow_right₀ (by norm_num) (by omega)
    _ = 10 ^ digitCount c * 10 ^ (e - 1) := by
      rw [zpow_add₀ (by norm_num), zpow_natCast]
    _ ≤ c * 10 * 10 ^ (e - 1) := mul_le_mul_of_nonneg_right hdigits hunit.le
    _ = c * 10 ^ e := by
      rw [mul_assoc, ← zpow_one_add₀ (by norm_num)]
      congr 2
      ring

/-! ## Dropping places -/

/-- Dropping places leaves the quotient or the number after it, whichever is
nearer. Of two that are equally near, a half to the even neighbour leaves the
even one. -/
theorem shiftRight_cases (tie : Tie) (c k : Nat) :
    (shiftRight tie c k = c / tenTo k ∧ 2 * (c % tenTo k) ≤ tenTo k ∧
      (tie = .awayFromZero → 2 * (c % tenTo k) < tenTo k) ∧
      (tie = .toEven → 2 * (c % tenTo k) = tenTo k → c / tenTo k % 2 = 0)) ∨
    (shiftRight tie c k = c / tenTo k + 1 ∧ tenTo k ≤ 2 * (c % tenTo k) ∧
      (tie = .toEven → 2 * (c % tenTo k) = tenTo k → c / tenTo k % 2 = 1)) := by
  by_cases hfew : digitCount c < k
  · -- a number of too few digits is below a tenth of the unit
    have hlt := lt_tenTo_digitCount c
    have hle : tenTo (digitCount c + 1) ≤ tenTo k := tenTo_le_tenTo hfew
    rw [tenTo_succ] at hle
    left
    rw [shiftRight, if_pos hfew, Nat.div_eq_of_lt (by omega),
      Nat.mod_eq_of_lt (by omega)]
    exact ⟨rfl, by omega, fun _ => by omega, fun _ _ => rfl⟩
  · cases tie with
    | awayFromZero =>
      simp only [shiftRight, if_neg hfew, decide_eq_true_eq]
      by_cases hup : tenTo k ≤ 2 * (c % tenTo k)
      · rw [if_pos hup]
        exact Or.inr ⟨rfl, hup, fun h => by cases h⟩
      · rw [if_neg hup]
        exact Or.inl ⟨rfl, by omega, fun _ => by omega, fun h => by cases h⟩
    | toEven =>
      simp only [shiftRight, if_neg hfew, Bool.or_eq_true, Bool.and_eq_true,
        decide_eq_true_eq]
      by_cases hup : tenTo k < 2 * (c % tenTo k) ∨ 2 * (c % tenTo k) = tenTo k ∧
        c / tenTo k % 2 = 1
      · rw [if_pos hup]
        exact Or.inr ⟨rfl, by omega, fun _ htie => by omega⟩
      · rw [if_neg hup]
        exact Or.inl ⟨rfl, by omega, (fun h => by cases h), fun _ htie => by omega⟩

/-- A quotient by a power of ten, split into its integer and its fraction. -/
theorem div_tenTo_eq (c k : Nat) :
    (c : ℚ) / 10 ^ k = (c / tenTo k : Nat) + ((c % tenTo k : Nat) : ℚ) /
    tenTo k := by
  have hpos : (0 : ℚ) < tenTo k := by exact_mod_cast tenTo_pos k
  rw [← tenTo_cast, div_eq_iff hpos.ne', add_mul, div_mul_cancel₀ _ hpos.ne']
  exact_mod_cast (Nat.div_add_mod' c (tenTo k)).symm

/-- What is left after dropping places is a nearest integer. -/
theorem shiftRight_close (tie : Tie) (c k : Nat) :
    |(c : ℚ) / 10 ^ k - shiftRight tie c k| ≤ 1 / 2 := by
  have hpos : (0 : ℚ) < tenTo k := by exact_mod_cast tenTo_pos k
  have hmod : ((c % tenTo k : Nat) : ℚ) < tenTo k := by
      exact_mod_cast Nat.mod_lt c (tenTo_pos k)
  rw [div_tenTo_eq, abs_le]
  rcases shiftRight_cases tie c k with ⟨heq, hdown, -, -⟩ | ⟨heq, hup, -⟩
  · have hdown' : 2 * ((c % tenTo k : Nat) : ℚ) ≤ tenTo k := by
        exact_mod_cast hdown
    have hfraction : ((c % tenTo k : Nat) : ℚ) / tenTo k ≤ 1 / 2 := by
      rw [div_le_iff₀ hpos]
      linarith
    have hnonneg : 0 ≤ ((c % tenTo k : Nat) : ℚ) / tenTo k := by positivity
    rw [heq]
    constructor <;> linarith
  · have hup' : (tenTo k : ℚ) ≤ 2 * ((c % tenTo k : Nat) : ℚ) := by
        exact_mod_cast hup
    have hfraction : 1 / 2 ≤ ((c % tenTo k : Nat) : ℚ) / tenTo k := by
      rw [le_div_iff₀ hpos]
      linarith
    have hlt : ((c % tenTo k : Nat) : ℚ) / tenTo k < 1 :=
      (div_lt_one hpos).2 hmod
    rw [heq, Nat.cast_add, Nat.cast_one]
    constructor <;> linarith

/-- With a half to the even neighbour, what is left of a half is even. -/
theorem shiftRight_even_of_tie {c k : Nat}
    (h : |(c : ℚ) / 10 ^ k - shiftRight .toEven c k| = 1 / 2) :
    shiftRight .toEven c k % 2 = 0 := by
  have hpos : (0 : ℚ) < tenTo k := by exact_mod_cast tenTo_pos k
  have hmod : ((c % tenTo k : Nat) : ℚ) < tenTo k := by
      exact_mod_cast Nat.mod_lt c (tenTo_pos k)
  have hlt : ((c % tenTo k : Nat) : ℚ) / tenTo k < 1 := (div_lt_one hpos).2 hmod
  have hnonneg : 0 ≤ ((c % tenTo k : Nat) : ℚ) / tenTo k := by positivity
  -- the fraction itself is a half, whichever neighbour is left
  have htie : ((c % tenTo k : Nat) : ℚ) / tenTo k = 1 / 2 →
      2 * (c % tenTo k) = tenTo k := by
    intro hhalf
    rw [div_eq_iff hpos.ne'] at hhalf
    have : 2 * ((c % tenTo k : Nat) : ℚ) = tenTo k := by linarith
    exact_mod_cast this
  rw [div_tenTo_eq] at h
  rcases shiftRight_cases .toEven c k with ⟨heq, -, -, heven⟩ | ⟨heq, -, hodd⟩
  · rw [heq, add_sub_cancel_left, abs_of_nonneg hnonneg] at h
    rw [heq, heven rfl (htie h)]
  · rw [heq, Nat.cast_add, Nat.cast_one, add_sub_add_left_eq_sub,
      abs_of_neg (by linarith)] at h
    have := hodd rfl (htie (by linarith))
    omega

/-- With a half away from zero, dropping places rounds a half up. -/
theorem shiftRight_eq_halfUp (c k : Nat) :
    (shiftRight .awayFromZero c k : ℤ) = halfUp ((c : ℚ) / 10 ^ k) := by
  have hpos : (0 : ℚ) < tenTo k := by exact_mod_cast tenTo_pos k
  have hmod : ((c % tenTo k : Nat) : ℚ) < tenTo k := by
      exact_mod_cast Nat.mod_lt c (tenTo_pos k)
  rw [halfUp, eq_comm, Int.floor_eq_iff, div_tenTo_eq]
  rcases shiftRight_cases .awayFromZero c k
    with ⟨heq, -, hdown, -⟩ | ⟨heq, hup, -⟩
  · have hdown' : 2 * ((c % tenTo k : Nat) : ℚ) < tenTo k := by
        exact_mod_cast hdown rfl
    have hfraction : ((c % tenTo k : Nat) : ℚ) / tenTo k < 1 / 2 := by
      rw [div_lt_iff₀ hpos]
      linarith
    have hnonneg : 0 ≤ ((c % tenTo k : Nat) : ℚ) / tenTo k := by positivity
    rw [heq, Int.cast_natCast]
    constructor <;> linarith
  · have hup' : (tenTo k : ℚ) ≤ 2 * ((c % tenTo k : Nat) : ℚ) := by
        exact_mod_cast hup
    have hfraction : 1 / 2 ≤ ((c % tenTo k : Nat) : ℚ) / tenTo k := by
      rw [le_div_iff₀ hpos]
      linarith
    have hlt : ((c % tenTo k : Nat) : ℚ) / tenTo k < 1 :=
      (div_lt_one hpos).2 hmod
    rw [heq, Int.cast_natCast, Nat.cast_add, Nat.cast_one]
    constructor <;> linarith

/-! ## What the context keeps -/

/-- A coefficient and an exponent within the limits of the context. -/
structure InContext (c : Nat) (e : Int) : Prop where
  digits : digitCount c ≤ precision
  low : tinyExponent ≤ e
  reach : adjusted c e ≤ maxExponent

theorem cutDigits_of_le {c : Nat} (h : digitCount c ≤ precision) (e : Int) :
    cutDigits c e = (c, e) := by
  simp only [cutDigits, if_pos h]

/-- What is within the limits of the context is kept as it is. -/
theorem finish_of_inContext {c : Nat} {e : Int} (h : InContext c e)
    (negative : Bool) :
    finish negative c e = .ok (.finite negative c e) := by
  have hlow := h.low
  have hreach := h.reach
  unfold finish
  by_cases hc : c = 0
  · have hzero : adjusted 0 e = e := by
      unfold adjusted
      rw [show digitCount 0 = 1 from rfl]
      omega
    rw [hc, hzero] at hreach
    rw [if_pos hc, hc, min_eq_left hreach, max_eq_right hlow]
  · have hnotTiny : ¬e < tinyExponent := by omega
    have hnotBeyond : ¬maxExponent < adjusted c e := by omega
    simp only [if_neg hc, hnotTiny, decide_false, Bool.false_and,
      Bool.false_eq_true, if_false, cutDigits_of_le h.digits, if_neg hnotBeyond]

end Decimal

end LedgerSync
