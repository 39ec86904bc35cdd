/-!
# Decimal digits

Every script of Unicode that has decimal digits lists its ten digits in order,
so the zeros determine them all. A digit of any script stands for its value.
Numbers are written in ASCII digits only.
-/

namespace LedgerSync.Text

/-- The code points of the zeros, in ascending order. -/
def zeroDigits : List Nat := [
  0x30, 0x660, 0x6f0, 0x7c0, 0x966, 0x9e6, 0xa66, 0xae6, 0xb66, 0xbe6, 0xc66,
  0xce6, 0xd66,
  0xde6, 0xe50, 0xed0, 0xf20, 0x1040, 0x1090, 0x17e0, 0x1810, 0x1946, 0x19d0,
  0x1a80, 0x1a90,
  0x1b50, 0x1bb0, 0x1c40, 0x1c50, 0xa620, 0xa8d0, 0xa900, 0xa9d0, 0xa9f0,
  0xaa50, 0xabf0,
  0xff10, 0x104a0, 0x10d30, 0x11066, 0x110f0, 0x11136, 0x111d0, 0x112f0,
  0x11450, 0x114d0,
  0x11650, 0x116c0, 0x11730, 0x118e0, 0x11950, 0x11c50, 0x11d50, 0x11da0,
  0x16a60, 0x16ac0,
  0x16b50, 0x1d7ce, 0x1d7d8, 0x1d7e2, 0x1d7ec, 0x1d7f6, 0x1e140, 0x1e2f0,
    0x1e950, 0x1fbf0]

/-- The value of a decimal digit of any script. -/
def digitValue? (c : Char) : Option Nat :=
  let n := c.toNat
  if n < 0x80 then
    if 0x30 ≤ n && n ≤ 0x39 then some (n - 0x30) else none
  else
    (zeroDigits.find? fun z => z ≤ n && n < z + 10).map fun z => n - z

/-- The ASCII digit of a value below ten. -/
def digitChar (d : Nat) : Char := Char.ofNat (0x30 + d)

/-- Ten to a power, the value of a digit's place. It is written with `Nat.pow`,
which is computed rather than unfolded where numbers are known. -/
def tenTo (n : Nat) : Nat := Nat.pow 10 n

/-- The number that a list of digit values spells, most significant first. -/
def numberOf (digits : List Nat) : Nat := digits.foldl (fun n d => 10 * n + d) 0

/-- The digit values of a number, most significant first; none for zero. -/
def digitsOf (n : Nat) : List Nat :=
  if n = 0 then [] else digitsOf (n / 10) ++ [n % 10]
termination_by n
decreasing_by omega

/-- A number in ASCII digits without leading zeros. -/
def decimalText (n : Nat) : String :=
  if n = 0 then "0" else String.ofList ((digitsOf n).map digitChar)

/-- An integer in ASCII digits, with a minus sign when it is negative. -/
def integerText (n : Int) : String :=
  (if n < 0 then "-" else "") ++ decimalText n.natAbs

/-- How many decimal digits a number is written with. -/
def digitCount (n : Nat) : Nat := if n = 0 then 1 else (digitsOf n).length

end LedgerSync.Text
