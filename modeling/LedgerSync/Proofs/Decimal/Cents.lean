import LedgerSync.Proofs.Run
import LedgerSync.Transaction.Amount

/-!
# Cents of equal numbers

One value has many spellings: a coefficient may carry zeros at its end that
another spelling has in its exponent. Rounding to a place looks at the value
alone (`quantize_mul_tenTo`), so numbers that are equal have the same value in
cents, or none for the same reason (`cents_eq_of_equal`).
-/

namespace LedgerSync

namespace Text

theorem tenTo_pos (n : Nat) : 0 < tenTo n := Nat.pow_pos (by decide)

theorem tenTo_add (m n : Nat) : tenTo (m + n) = tenTo m * tenTo n :=
  Nat.pow_add 10 m n

theorem tenTo_succ (n : Nat) : tenTo (n + 1) = tenTo n * 10 := Nat.pow_succ 10 n

theorem digitsOf_mul_ten {c : Nat} (hc : c ≠ 0) :
    digitsOf (c * 10) = digitsOf c ++ [0] := by
  rw [digitsOf, if_neg (by omega), Nat.mul_div_cancel _ (by decide),
    Nat.mul_mod_left]

/-- Every zero at the end is one more digit. -/
theorem digitCount_mul_tenTo {c : Nat} (hc : c ≠ 0) (j : Nat) :
    digitCount (c * tenTo j) = digitCount c + j := by
  induction j with
  | zero => rw [show tenTo 0 = 1 from rfl, Nat.mul_one, Nat.add_zero]
  | succ j ih =>
    have hne : c * tenTo j ≠ 0 :=
      Nat.mul_ne_zero hc (Nat.ne_of_gt (tenTo_pos j))
    have hne' : c * tenTo j * 10 ≠ 0 := Nat.mul_ne_zero hne (by decide)
    rw [digitCount, if_neg hne] at ih
    rw [tenTo_succ, ← Nat.mul_assoc, digitCount, if_neg hne',
      digitsOf_mul_ten hne, List.length_append, ih]
    rfl

end Text

namespace Decimal

open Text

theorem shiftRight_zero (tie : Tie) (c : Nat) : shiftRight tie c 0 = c := by
  have hone : tenTo 0 = 1 := rfl
  cases tie <;> simp [shiftRight, hone, Nat.mod_one]

/-- Zeros at the end can be dropped before the other places are. -/
theorem shiftRight_mul_tenTo (tie : Tie) {c : Nat} (hc : c ≠ 0) (k j : Nat) :
    shiftRight tie (c * tenTo j) (k + j) = shiftRight tie c k := by
  have ht := tenTo_pos j
  have hdiv : c * tenTo j / (tenTo k * tenTo j) = c / tenTo k :=
    Nat.mul_div_mul_right _ _ ht
  have hmod : c * tenTo j % (tenTo k * tenTo j) = c % tenTo k * tenTo j :=
    Nat.mul_mod_mul_right _ _ _
  have htwice : 2 * (c % tenTo k * tenTo j) = 2 * (c % tenTo k) * tenTo j :=
    (Nat.mul_assoc _ _ _).symm
  have hle : tenTo k * tenTo j ≤ 2 * (c % tenTo k) * tenTo j ↔
      tenTo k ≤ 2 * (c % tenTo k) :=
    Nat.mul_le_mul_right_iff ht
  have hlt : tenTo k * tenTo j < 2 * (c % tenTo k) * tenTo j ↔
      tenTo k < 2 * (c % tenTo k) :=
    Nat.mul_lt_mul_right ht
  have heq : 2 * (c % tenTo k) * tenTo j = tenTo k * tenTo j ↔
      2 * (c % tenTo k) = tenTo k :=
    Nat.mul_left_inj (Nat.ne_of_gt ht)
  simp only [shiftRight, digitCount_mul_tenTo hc, Nat.add_lt_add_iff_right,
    tenTo_add, hdiv, hmod, htwice, hle, hlt, heq]

/-- Dropping no more places than there are zeros loses nothing. -/
theorem shiftRight_mul_tenTo_of_le (tie : Tie) {c k j : Nat} (hc : c ≠ 0)
    (h : k ≤ j) : shiftRight tie (c * tenTo j) k = c * tenTo (j - k) := by
  have hne : c * tenTo (j - k) ≠ 0 :=
    Nat.mul_ne_zero hc (Nat.ne_of_gt (tenTo_pos _))
  have hsplit : c * tenTo j = c * tenTo (j - k) * tenTo k := by
    rw [Nat.mul_assoc, ← tenTo_add, Nat.sub_add_cancel h]
  have hdrop := shiftRight_mul_tenTo tie hne 0 k
  rw [Nat.zero_add, shiftRight_zero] at hdrop
  rw [hsplit, hdrop]

/-- Rounding to a place looks at the value, not at the spelling. -/
theorem quantize_mul_tenTo {c : Nat} (hc : c ≠ 0) (negative : Bool) (e e₀ : Int)
    (j : Nat) :
    quantize e (.finite negative (c * tenTo j) e₀) =
      quantize e (.finite negative c (e₀ + j)) := by
  have hne : c * tenTo j ≠ 0 := Nat.mul_ne_zero hc (Nat.ne_of_gt (tenTo_pos j))
  have hbound : ((digitCount (c * tenTo j) : Nat) : Int) + (e₀ - e) =
      digitCount c + (e₀ + j - e) := by
    rw [digitCount_mul_tenTo hc]
    omega
  have hcoefficient : (if e ≤ e₀ then c * tenTo j * tenTo (e₀ - e).toNat
      else shiftRight .awayFromZero (c * tenTo j) (e - e₀).toNat) =
      if e ≤ e₀ + j then c * tenTo (e₀ + j - e).toNat
      else shiftRight .awayFromZero c (e - (e₀ + j)).toNat := by
    by_cases h : e ≤ e₀
    · rw [if_pos h, if_pos (by omega), Nat.mul_assoc, ← tenTo_add,
        show j + (e₀ - e).toNat = (e₀ + j - e).toNat by omega]
    · rw [if_neg h]
      by_cases h' : e ≤ e₀ + j
      · rw [if_pos h', shiftRight_mul_tenTo_of_le _ hc (by omega),
          show j - (e - e₀).toNat = (e₀ + j - e).toNat by omega]
      · rw [if_neg h', show (e - e₀).toNat = (e - (e₀ + j)).toNat + j by omega,
          shiftRight_mul_tenTo _ hc]
  simp only [quantize, if_neg hne, if_neg hc, hbound, hcoefficient]

/-- Equal magnitudes are one coefficient, up to zeros at the end that count in
the exponent. -/
theorem exists_shift_of_sameMagnitude {c₁ c₂ : Nat} {e₁ e₂ : Int} (hc : c₁ ≠ 0)
    (h : sameMagnitude c₁ e₁ c₂ e₂ = true) :
    c₂ ≠ 0 ∧ ((∃ j : Nat, c₁ = c₂ * tenTo j ∧ e₂ = e₁ + j) ∨
      ∃ j : Nat, c₂ = c₁ * tenTo j ∧ e₁ = e₂ + j) := by
  unfold sameMagnitude at h
  split at h
  · next hzero =>
    have heq : c₁ = c₂ := by simpa using h
    have : c₁ = 0 ∨ c₂ = 0 := by simpa using hzero
    omega
  · next hzero =>
    have hzero' : c₁ ≠ 0 ∧ c₂ ≠ 0 := by simpa using hzero
    split at h
    · cases h
    · refine ⟨hzero'.2, ?_⟩
      have heq : c₁ * tenTo (e₁ - e₂).toNat = c₂ * tenTo (e₂ - e₁).toNat :=
        eq_of_beq h
      have hone : tenTo 0 = 1 := rfl
      rcases Int.le_total e₁ e₂ with hle | hle
      · rw [show (e₁ - e₂).toNat = 0 by omega, hone, Nat.mul_one] at heq
        exact Or.inl ⟨(e₂ - e₁).toNat, heq, by omega⟩
      · rw [show (e₂ - e₁).toNat = 0 by omega, hone, Nat.mul_one] at heq
        exact Or.inr ⟨(e₁ - e₂).toNat, heq.symm, by omega⟩

/-- Every spelling of zero is no cents. -/
theorem cents_zero (negative : Bool) (e : Int) :
    (finite negative 0 e).cents = .ok 0 := by
  cases negative <;> rfl

/-- Numbers that are equal have the same value in cents. -/
theorem cents_eq_of_equal {a b : Decimal} (h : a.equal b = .ok true) :
    a.cents = b.cents := by
  cases a with
  | nan negative signaling payload =>
    cases signaling with
    | true => cases h
    | false =>
      cases b with
      | nan negative' signaling' payload' => cases signaling' <;> cases h
      | infinite => cases h
      | finite => cases h
  | infinite n₁ =>
    cases b with
    | nan negative signaling payload => cases signaling <;> cases h
    | infinite n₂ => rfl
    | finite => cases h
  | finite n₁ c₁ e₁ =>
    cases b with
    | nan negative signaling payload => cases signaling <;> cases h
    | infinite => cases h
    | finite n₂ c₂ e₂ =>
      simp only [equal, Except.ok.injEq, Bool.and_eq_true] at h
      obtain ⟨hsign, hmagnitude⟩ := h
      by_cases hc : c₁ = 0
      · subst hc
        have hc₂ : c₂ = 0 := by
          have : 0 = c₂ := by simpa [sameMagnitude] using hmagnitude
          exact this.symm
        rw [hc₂, cents_zero, cents_zero]
      · obtain ⟨hc₂, hshift⟩ := exists_shift_of_sameMagnitude hc hmagnitude
        obtain rfl : n₁ = n₂ := by simpa [hc] using hsign
        -- only the rounding looks at the spelling
        have hquantize : quantize (-2) (.finite n₁ c₁ e₁) =
            quantize (-2) (.finite n₁ c₂ e₂) := by
          rcases hshift with ⟨j, rfl, rfl⟩ | ⟨j, rfl, rfl⟩
          · exact quantize_mul_tenTo hc₂ n₁ (-2) e₁ j
          · exact (quantize_mul_tenTo hc n₁ (-2) e₂ j).symm
        simp only [cents, isFinite, hquantize]

end Decimal

end LedgerSync
