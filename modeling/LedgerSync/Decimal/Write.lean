import LedgerSync.Decimal.Read
import LedgerSync.Text.Column

/-!
# Writing decimal numbers

`text` keeps every digit and the exponent: positional when the exponent is not
positive and the number is not tiny, with an exponent part otherwise, so that
reading gives the same number back.

`fixedText` is for people: two places, thousands divided by commas. It rounds,
so it stands in messages and on the screen and never in anything that is read
again.
-/

namespace LedgerSync.Decimal

/-- The digits of a coefficient as text, at least one. -/
def digitText (c : Nat) : List Char :=
  if c = 0 then ['0'] else (Text.digitsOf c).map Text.digitChar

def exponentText (e : Int) : List Char :=
  (if e < 0 then '-' else '+') :: (Text.decimalText e.natAbs).toList

/-- The digits of a finite magnitude with a point and an exponent part where
needed. A number is positional when its leading digit stands no further than six
places after the point. -/
def magnitudeText (c : Nat) (e : Int) : List Char :=
  let digits := digitText c
  let leading : Int := e + digits.length
  if e ≤ 0 && -6 < leading then
    if e = 0 then digits
    else if 0 < leading then digits.take leading.toNat ++ '.' ::
      digits.drop leading.toNat
    else '0' :: '.' :: List.replicate (-leading).toNat '0' ++ digits
  else
    let body := match digits with
      | [] => []
      | [d] => [d]
      | d :: ds => d :: '.' :: ds
    body ++ 'E' :: exponentText (leading - 1)

/-- The text of a number, which reads back as the same number: no digit is
dropped, and the exponent can be told from it. -/
def text : Decimal → String
  | .finite negative c e => sign negative (magnitudeText c e)
  | .infinite negative => sign negative "Infinity".toList
  | .nan negative signaling payload =>
    let name := if signaling then "sNaN" else "NaN"
    sign negative (name.toList ++ if payload = 0 then [] else digitText payload)
where
  sign (negative : Bool) (cs : List Char) : String :=
    String.ofList (if negative then '-' :: cs else cs)

inductive Tie
  | toEven
  | awayFromZero
  deriving DecidableEq, Repr

/-- The quotient of `c` by `10 ^ k`, rounded to the nearest integer. A number
with fewer than `k` digits is below a tenth of the unit. -/
def shiftRight (tie : Tie) (c k : Nat) : Nat :=
  if Text.digitCount c < k then 0
  else
    let unit := Text.tenTo k
    let q := c / unit
    let r := c % unit
    let up : Bool := match tie with
      | .awayFromZero => unit ≤ 2 * r
      | .toEven => unit < 2 * r || (2 * r = unit && q % 2 = 1)
    if up then q + 1 else q

/-- Divides digits into groups of three from the right, with commas between. -/
def grouped (digits : List Char) : List Char :=
  ((Text.blocks 3 digits.reverse).map List.reverse).reverse.intersperse
    [','] |>.flatten

/-- A number with two places, ties to the even neighbour, and commas between
thousands. -/
def fixedText : Decimal → String
  | .finite negative c e =>
    let cents := if -2 ≤ e then c * Text.tenTo (e + 2).toNat
    else shiftRight .toEven c (-2 - e).toNat
    let whole := grouped (digitText (cents / 100))
    let places := [Text.digitChar (cents / 10 % 10),
      Text.digitChar (cents % 10)]
    text.sign negative (whole ++ '.' :: places)
  | d => text d

end LedgerSync.Decimal
