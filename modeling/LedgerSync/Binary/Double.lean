import LedgerSync.Decimal.Write

/-!
# Double precision numbers

A finite double is `± mantissa · 2 ^ exponent` with a mantissa below `2 ^ 53`.
Durations, and the numbers of a configuration or of a report, are doubles;
amounts of money never are.

`ofDecimal?` gives the double nearest to a decimal number, a tie going to the
even mantissa. `text` gives the fewest digits that read back as the same double,
and of those the nearest. For each number of digits only the two neighbours of
the value on the grid of that many digits come into question, so the search is
over at most seventeen grids. All of it is done with natural numbers: a ratio is
scaled by a power of two until its quotient has the bits that are kept.
-/

namespace LedgerSync

inductive Double where
  | finite (negative : Bool) (mantissa : Nat) (exponent : Int)
  | infinite (negative : Bool)
  | nan
  deriving DecidableEq, Repr, Inhabited

namespace Double

def twoTo (n : Nat) : Nat := Nat.pow 2 n

/-- Below this exponent no double goes. The smallest doubles keep it and have
fewer bits instead. -/
def leastExponent : Int := -1074

/-- The exponent of the largest doubles; what would need a greater one is
infinite. -/
def greatestExponent : Int := 971

/-- The quotient rounded to the nearest integer, a tie to the even one. -/
def roundQuotient (num den : Nat) : Nat :=
  let q := num / den
  let r := num % den
  if den < 2 * r || (2 * r = den && q % 2 = 1) then q + 1 else q

/-- The ratio scaled by a power of two. -/
def scaled (num den : Nat) (e : Int) : Nat × Nat :=
  (num * twoTo (-e).toNat, den * twoTo e.toNat)

/-- The double nearest to a positive ratio. The exponent is chosen so that the
mantissa has 53 bits, or as many as the smallest doubles leave it. -/
def ofRatio (negative : Bool) (num den : Nat) : Double :=
  if num = 0 then .finite negative 0 leastExponent
  else
    let guess : Int := (num.log2 : Int) - den.log2 - 53
    let fits := fun e : Int => let (n, d) := scaled num den e; n < d * twoTo 53
    let e₀ := if fits guess then guess else if fits (guess + 1) then guess + 1
    else guess + 2
    let e := max leastExponent e₀
    let (n, d) := scaled num den e
    let m := roundQuotient n d
    let (m, e) := if m = twoTo 53 then (twoTo 52, e + 1) else (m, e)
    if greatestExponent < e then .infinite negative else .finite negative m e

/-- The double nearest to a decimal number; none for a signaling not-a-number. A
leading digit beyond the 310th place is out of the range of the doubles. -/
def ofDecimal? : Decimal → Option Double
  | .finite negative c e =>
    let leading := Decimal.adjusted c e
    if c = 0 || leading < -330 then some (.finite negative 0 leastExponent)
    else if 310 < leading then some (.infinite negative)
    else some (ofRatio negative (c * Text.tenTo e.toNat)
      (Text.tenTo (-e).toNat))
  | .infinite negative => some (.infinite negative)
  | .nan _ signaling _ => if signaling then none else some .nan

def integer? : Double → Option Int
  | .finite negative m e =>
    let unit := twoTo (-e).toNat
    if m % unit = 0 then
      let n : Nat := m / unit * twoTo e.toNat
      some (if negative then -(n : Int) else n)
    else none
  | _ => none

/-- The exponent of the leading decimal digit of a positive ratio. -/
def leadingPlace (num den : Nat) : Int :=
  let guess : Int := (Text.digitCount num : Int) - Text.digitCount den
  if num * Text.tenTo (-guess).toNat < den * Text.tenTo guess.toNat then guess -
    1 else guess

/-- The bounds between which numbers round to `m · 2 ^ e`, as numerators over
`4 · 2 ^ max 0 (-e)`: half a unit on each side, and a quarter below a power of
two, where the next double is nearer. -/
def roundingBounds (m : Nat) (e : Int) : Nat × Nat :=
  let unit := twoTo e.toNat
  let below := if m = twoTo 52 ∧ leastExponent < e then 1 else 2
  ((4 * m - below) * unit, (4 * m + 2) * unit)

/-- A number of `count` digits, as digits and the exponent of the last, that
rounds to `m · 2 ^ e`. The two neighbours on the grid of that many digits are
tried, the nearer one first. -/
def digitsOfLength? (m : Nat) (e : Int) (count : Nat) : Option (Nat × Int) :=
  let num := m * twoTo e.toNat
  let den := twoTo (-e).toNat
  let place := leadingPlace num den - (count - 1)
  let up := Text.tenTo (-place).toNat
  let down := Text.tenTo place.toNat
  let q := num * up / (den * down)
  let (low, high) := roundingBounds m e
  let inside := fun d : Nat =>
    let x := 4 * den * down * d
    let l := low * up
    let h := high * up
    if m % 2 = 0 then l ≤ x && x ≤ h else l < x && x < h
  let nearest := roundQuotient (num * up) (den * down)
  let other := if nearest = q then q + 1 else q
  if inside nearest then some (nearest, place)
  else if inside other then some (other, place)
  else none

/-- The fewest digits that round to `m · 2 ^ e`; seventeen always do. -/
def shortest (m : Nat) (e : Int) : Nat × Int :=
  ((List.range 17).findSome? fun n => digitsOfLength? m e (n + 1)).getD (0, 0)

/-- An exponent with its sign and at least two digits. -/
def exponentText (e : Int) : List Char :=
  let digits := (Text.decimalText e.natAbs).toList
  (if e < 0 then '-' else '+') :: (if digits.length < 2 then '0' :: digits
  else digits)

/-- Digits with a point: positional when the leading digit stands from four
places after the point to sixteen before it, and with an exponent part
otherwise. -/
def pointed (digits : List Char) (last : Int) : List Char :=
  let leading : Int := last + digits.length
  if -4 < leading && leading ≤ 16 then
    if leading ≤ 0 then '0' :: '.' :: List.replicate (-leading).toNat
      '0' ++ digits
    else if 0 ≤ last then digits ++ List.replicate last.toNat '0' ++ ['.', '0']
    else digits.take leading.toNat ++ '.' :: digits.drop leading.toNat
  else
    let body := match digits with
      | d :: r :: rest => d :: '.' :: r :: rest
      | ds => ds
    body ++ 'e' :: exponentText (leading - 1)

/-- The text of a double: of all decimal numbers that read back as it, one with
the fewest digits, and of those the nearest. -/
def text : Double → String
  | .finite negative m e =>
    let body := if m = 0 then ['0', '.', '0']
      else
        let (digits, last) := shortest m e
        -- a carry to the next power of ten leaves zeros at the end
        let kept := ((Decimal.digitText digits).reverse.dropWhile
          (· = '0')).reverse
        pointed kept (last + ((Decimal.digitText digits).length - kept.length))
    String.ofList (if negative then '-' :: body else body)
  | .infinite negative => if negative then "-inf" else "inf"
  | .nan => "nan"

end Double

end LedgerSync
