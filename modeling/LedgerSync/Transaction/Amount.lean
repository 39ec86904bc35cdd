import LedgerSync.Decimal.Context
import LedgerSync.Transaction.Record

/-!
# Amounts in cents

Amounts are compared as whole cents: rounded to two places, a half away from
zero, and scaled by a hundred. The result must be a signed 64-bit integer.

Two spellings of one amount have one number of cents, and the sign is that of
the direction. Rounding comes last: the sign is applied to the decimal number,
in the arithmetic of `Decimal`.
-/

namespace LedgerSync

/-- The least amount in cents, a signed number of 64 bits. -/
def minCents : Int := -9223372036854775808

/-- The greatest amount in cents. -/
def maxCents : Int := 9223372036854775807

/-- An amount in cents, rounded to the nearest and a half away from zero. It
must be a number that 64 bits hold. -/
def Decimal.cents (d : Decimal) : Except AmountFault Int := do
  if !d.isFinite then throw .notFinite
  let scaled ← ((d.quantize (-2)).bind fun q =>
    q.mul (.finite false 100 0)).mapError fun _ => AmountFault.notScalable
  let isExact := ((scaled.toIntegral).bind fun n =>
    scaled.equal n).toOption.getD false
  if !isExact then throw .notExact
  let some n := scaled.truncated? | throw .notExact
  if minCents ≤ n ∧ n ≤ maxCents then return n else throw .outOfRange

namespace Reported

/-- The amount with the sign of its direction: money out is negative. A report
says how much, and separately which way. -/
def signedAmount (t : Reported) : Except Failure Decimal := do
  let magnitude ← t.amount.abs.mapError .arithmetic
  match t.direction with
  | .debit => magnitude.neg.mapError .arithmetic
  | .credit => return magnitude

/-- The signed amount in cents. -/
def cents (t : Reported) : Except Failure Int := do
  (← t.signedAmount).cents.mapError .amount

end Reported

def Stored.cents (t : Stored) : Except Failure Int :=
  t.amount.cents.mapError .amount

end LedgerSync
