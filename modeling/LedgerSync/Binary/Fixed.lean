import LedgerSync.Binary.Double

/-!
# Doubles with a given number of digits

A finite double is a decimal number with finitely many digits, so it can be
rounded like one. The digits that are dropped are those of the value itself and
not those of its shortest text, and a half goes to the even neighbour.
-/

namespace LedgerSync.Double

/-- The decimal number that a double equals. There always is one, because two
divides ten. -/
def exact : Double → Decimal
  | .finite negative m e =>
    if 0 ≤ e then .finite negative (m * twoTo e.toNat) 0
    else .finite negative (m * Nat.pow 5 (-e).toNat) e
  | .infinite negative => .infinite negative
  | .nan => .nan false false 0

/-- A finite decimal number cut to so many digits, a half going to the even
neighbour. -/
def cutTo (digits : Nat) (c : Nat) (e : Int) : Nat × Int :=
  let surplus := Text.digitCount c - digits
  if surplus = 0 then (c, e)
  else (Decimal.shiftRight .toEven c surplus, e + surplus)

/-- The double nearest to the value cut to so many digits. -/
def rounded (digits : Nat) (d : Double) : Double :=
  match d.exact with
  | .finite negative c e =>
    let (c, e) := cutTo digits c e
    (ofDecimal? (.finite negative c e)).getD .nan
  | _ => d

/-- The value with two places, as a length of time is shown to a person. -/
def twoPlaces (d : Double) : String :=
  match d.exact with
  | .finite negative c e =>
    let cents := if -2 ≤ e then c * Text.tenTo (e + 2).toNat
    else Decimal.shiftRight .toEven c (-2 - e).toNat
    let places := [Text.digitChar (cents / 10 % 10),
      Text.digitChar (cents % 10)]
    (if negative then "-" else "") ++ Text.decimalText (cents / 100) ++ "." ++
      String.ofList places
  | _ => d.text

end LedgerSync.Double
