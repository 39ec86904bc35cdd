import LedgerSync.Decimal.Basic
import LedgerSync.Text.Blank

/-!
# Reading decimal numbers

Reading is exact: no digit is rounded away. A number may be surrounded by
blanks, use the digits of any script, and contain underscores, which are
skipped. The names of the special numbers are read in any case. Only a number
whose exponent is beyond the largest one representable is refused.
-/

namespace LedgerSync.Decimal

/-- The largest exponent of a leading digit. -/
def largestExponent : Int := 999999999999999999

/-- The smallest exponent of a last digit. -/
def smallestExponent : Int := -1999999999999999997

/-- Whether the exponents of a magnitude are representable. -/
def representable (c : Nat) (e : Int) : Bool :=
  smallestExponent ≤ e && (if c = 0 then e else adjusted c e) ≤ largestExponent

/-- One character of a number in plain ASCII: digits of any script become ASCII
digits, and any other character beyond ASCII belongs to no number. -/
def plain? (c : Char) : Option Char :=
  match Text.digitValue? c with
  | some d => some (Text.digitChar d)
  | none => if 0 < c.toNat && c.toNat < 0x80 then some c else none

/-- The digits at the front, and what follows them. -/
def splitDigits (cs : List Char) : List Nat × List Char :=
  ((cs.takeWhile Char.isDigit).map fun c => c.toNat - 0x30,
    cs.dropWhile Char.isDigit)

/-- An exponent part: nothing, or a letter e, an optional sign and at least one
digit. -/
def exponentPart? : List Char → Option Int
  | [] => some 0
  | mark :: rest =>
    if mark = 'e' || mark = 'E' then
      let (negative, body) : Bool × List Char := match rest with
        | '-' :: body => (true, body)
        | '+' :: body => (false, body)
        | body => (false, body)
      match splitDigits body with
      | (d :: ds, []) =>
        let n : Nat := Text.numberOf (d :: ds)
        some (if negative then -(n : Int) else n)
      | _ => none
    else none

/-- A finite magnitude: digits with at most one point among them, then an
exponent part. -/
def magnitude? (cs : List Char) : Option (Nat × Int) := do
  let (whole, rest) := splitDigits cs
  let (fraction, tail) := match rest with
    | '.' :: more => splitDigits more
    | _ => ([], rest)
  if whole.isEmpty && fraction.isEmpty then none
  else
    let e ← exponentPart? tail
    return (Text.numberOf (whole ++ fraction), e - fraction.length)

/-- The payload of a not-a-number: digits only. -/
def payload? (cs : List Char) : Option Nat :=
  match splitDigits cs with
  | (ds, []) => some (Text.numberOf ds)
  | _ => none

/-- A number without its sign, given the sign. -/
def unsigned? (negative : Bool) (cs : List Char) : Option Decimal :=
  match cs.map Char.toLower with
  | ['i', 'n', 'f'] => some (.infinite negative)
  | ['i', 'n', 'f', 'i', 'n', 'i', 't', 'y'] => some (.infinite negative)
  | 'n' :: 'a' :: 'n' :: rest => (payload? rest).map (.nan negative false)
  | 's' :: 'n' :: 'a' :: 'n' :: rest => (payload? rest).map (.nan negative true)
  | _ => do
    let (c, e) ← magnitude? cs
    if representable c e then some (.finite negative c e) else none

def ofText? (s : String) : Option Decimal := do
  let cs ← ((Text.trimBy Text.isBlank s.toList).filter (· ≠ '_')).mapM plain?
  match cs with
  | '-' :: rest => unsigned? true rest
  | '+' :: rest => unsigned? false rest
  | _ => unsigned? false cs

end LedgerSync.Decimal
