import LedgerSync.Text.Digit

/-!
# Decimal numbers

A decimal number keeps its digits and its exponent, so `1.0` and `1.00` have one
value and two spellings. Beside the finite numbers there are the infinities and
two kinds of not-a-number; a *signaling* one makes an operation fail.

Amounts are decimal numbers from the file to the storage, and are never turned
into doubles on the way. Any of the special numbers may occur among them, since
a file may say so.
-/

namespace LedgerSync

/-- A decimal number. The finite one stands for
`±coefficient · 10 ^ exponent`. -/
inductive Decimal where
  | finite (negative : Bool) (coefficient : Nat) (exponent : Int)
  | infinite (negative : Bool)
  | nan (negative signaling : Bool) (payload : Nat)
  deriving DecidableEq, Repr, Inhabited

namespace Decimal

/-- Why an operation on decimals has no result. -/
inductive Signal
  | invalidOperation
  | overflow
  deriving DecidableEq, Repr

/-- Whether the number is neither infinite nor a not-a-number. -/
def isFinite : Decimal → Bool
  | .finite .. => true
  | _ => false

/-- Whether the sign is minus, which a zero and a not-a-number may carry too. -/
def isNegative : Decimal → Bool
  | .finite negative _ _ => negative
  | .infinite negative => negative
  | .nan negative _ _ => negative

def negate : Decimal → Decimal
  | .finite negative c e => .finite (!negative) c e
  | .infinite negative => .infinite (!negative)
  | .nan negative signaling p => .nan (!negative) signaling p

/-- The exponent of the first digit when the number is written with one digit
before the point. -/
def adjusted (coefficient : Nat) (exponent : Int) : Int :=
  exponent + Text.digitCount coefficient - 1

/-- Whether two magnitudes are equal. Magnitudes of one leading exponent differ
in their exponents by no more than their digits, which bounds the power of
ten. -/
def sameMagnitude (c₁ : Nat) (e₁ : Int) (c₂ : Nat) (e₂ : Int) : Bool :=
  if c₁ = 0 || c₂ = 0 then c₁ == c₂
  else if adjusted c₁ e₁ ≠ adjusted c₂ e₂ then false
  else c₁ * Text.tenTo (e₁ - e₂).toNat == c₂ * Text.tenTo (e₂ - e₁).toNat

/-- Whether two numbers are equal in value. A not-a-number equals nothing, and a
signaling one cannot be compared at all. -/
def equal : Decimal → Decimal → Except Signal Bool
  | .nan _ true _, _ => .error .invalidOperation
  | _, .nan _ true _ => .error .invalidOperation
  | .finite n₁ c₁ e₁, .finite n₂ c₂ e₂ =>
    .ok ((n₁ == n₂ || (c₁ == 0 && c₂ == 0)) && sameMagnitude c₁ e₁ c₂ e₂)
  | .infinite n₁, .infinite n₂ => .ok (n₁ == n₂)
  | _, _ => .ok false

/-- The integer left when the digits after the point are dropped; none unless
finite. -/
def truncated? : Decimal → Option Int
  | .finite negative c e =>
    let n : Nat := c * Text.tenTo e.toNat / Text.tenTo (-e).toNat
    some (if negative then -(n : Int) else n)
  | _ => none

end Decimal

end LedgerSync
