import LedgerSync.Decimal.Write

/-!
# Decimal arithmetic

Results keep at most 28 digits, a half going to the even neighbour, and
exponents stay within ± 999999. A result beyond that overflows; one too small is
rounded at the last representable place, possibly to zero. An operation on a
signaling not-a-number is invalid.

Reading a number does not round it, but every operation does, and taking the
magnitude or the opposite of a number is an operation. So an amount of more than
28 digits changes when its sign is applied, before it is rounded to cents.
-/

namespace LedgerSync.Decimal

/-- The most digits of a result. -/
def precision : Nat := 28

/-- The largest exponent of the first digit of a result. -/
def maxExponent : Int := 999999

/-- The smallest exponent of the first digit of a result with all its digits. -/
def minExponent : Int := -999999

/-- The exponent of the last place of the smallest results. -/
def tinyExponent : Int := minExponent - (precision - 1)

/-- A finite result with its digits cut to the precision. Rounding up may carry
into one digit more, which is a power of ten and loses its last zero. -/
def cutDigits (c : Nat) (e : Int) : Nat × Int :=
  let n := Text.digitCount c
  if n ≤ precision then (c, e)
  else
    let k := n - precision
    let c' := shiftRight .toEven c k
    if Text.digitCount c' ≤ precision then (c', e + k) else (c' / 10, e + k + 1)

/-- A finite result brought into the range of the context. -/
def finish (negative : Bool) (c : Nat) (e : Int) : Except Signal Decimal :=
  if c = 0 then
    .ok (.finite negative 0 (max tinyExponent (min e maxExponent)))
  else if e < tinyExponent && adjusted c e < minExponent then
    let c' := shiftRight .toEven c (tinyExponent - e).toNat
    .ok (.finite negative c' tinyExponent)
  else
    let (c', e') := cutDigits c e
    if maxExponent < adjusted c' e' then .error .overflow
    else .ok (.finite negative c' e')

/-- The payload of a not-a-number cut to its last digits, as for any other
result. -/
def cutPayload (payload : Nat) : Nat := payload % Text.tenTo precision

/-- A number brought into the range of the context. -/
def round : Decimal → Except Signal Decimal
  | .finite negative c e => finish negative c e
  | .infinite negative => .ok (.infinite negative)
  | .nan _ true _ => .error .invalidOperation
  | .nan negative false payload =>
  .ok (.nan negative false (cutPayload payload))

/-- The magnitude; a not-a-number keeps its sign. -/
def abs : Decimal → Except Signal Decimal
  | .finite _ c e => round (.finite false c e)
  | .infinite _ => .ok (.infinite false)
  | d => round d

/-- The opposite number; zero is never negative and a not-a-number keeps its
sign. -/
def neg : Decimal → Except Signal Decimal
  | .finite negative c e => round (.finite (c != 0 && !negative) c e)
  | .infinite negative => .ok (.infinite (!negative))
  | d => round d

def mulFinite (n₁ : Bool) (c₁ : Nat) (e₁ : Int) (n₂ : Bool) (c₂ : Nat)
    (e₂ : Int) : Except Signal Decimal :=
  finish (n₁ != n₂) (c₁ * c₂) (e₁ + e₂)

/-- The product; infinity times zero is invalid. -/
def mul : Decimal → Decimal → Except Signal Decimal
  | .nan _ true _, _ => .error .invalidOperation
  | _, .nan _ true _ => .error .invalidOperation
  | .nan n s p, _ => round (.nan n s p)
  | _, .nan n s p => round (.nan n s p)
  | .finite n₁ c₁ e₁, .finite n₂ c₂ e₂ => mulFinite n₁ c₁ e₁ n₂ c₂ e₂
  | .infinite n₁, .infinite n₂ => .ok (.infinite (n₁ != n₂))
  | .infinite n₁, .finite n₂ c _ =>
    if c = 0 then .error .invalidOperation else .ok (.infinite (n₁ != n₂))
  | .finite n₁ c _, .infinite n₂ =>
    if c = 0 then .error .invalidOperation else .ok (.infinite (n₁ != n₂))

/-- A finite number with its last digit at the exponent `e`, half away from
zero. Invalid when the result would have more digits than the precision. -/
def quantize (e : Int) : Decimal → Except Signal Decimal
  | .finite negative c e₀ =>
    if c = 0 then .ok (.finite negative 0 e)
    else if (precision : Int) < Text.digitCount c +
      (e₀ - e) then .error .invalidOperation else
      let c' := if e ≤ e₀ then c * Text.tenTo (e₀ - e).toNat
        else shiftRight .awayFromZero c (e - e₀).toNat
      if precision < Text.digitCount c' then .error .invalidOperation
      else .ok (.finite negative c' e)
  | .infinite _ => .error .invalidOperation
  | d => round d

/-- A number rounded to an integer, a half to the even neighbour. -/
def toIntegral : Decimal → Except Signal Decimal
  | .finite negative c e =>
    .ok (if 0 ≤ e then .finite negative c e
      else .finite negative (shiftRight .toEven c (-e).toNat) 0)
  | .infinite negative => .ok (.infinite negative)
  | d => round d

end LedgerSync.Decimal
