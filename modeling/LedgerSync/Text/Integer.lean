import LedgerSync.Text.Blank
import LedgerSync.Text.Digit
import LedgerSync.Text.Quoted

/-!
# Reading integers

An integer may be surrounded by blanks, carry a sign, use the digits of any
script, and divide its digits by single underscores. A decimal integer of more
than 4300 digits is refused.
-/

namespace LedgerSync.Text

/-- Why a text is not an integer of a base. -/
inductive IntegerFault
  | notInteger (base : Nat) (text : String)
  | tooManyDigits (count : Nat)
  deriving DecidableEq, Repr

/-- The most digits that a decimal integer may have; reading longer ones would
take too long. -/
def maxIntegerDigits : Nat := 4300

/-- The wording of a fault; the quoted text is cut at 200 characters. -/
def IntegerFault.message : IntegerFault → String
  | .notInteger base text =>
    let shown := String.ofList ((quoted text).toList.take 200)
    s!"invalid literal for int() with base {base}: {shown}"
  | .tooManyDigits count =>
    s!"Exceeds the limit ({maxIntegerDigits} digits) for integer string conversion: value has " ++
    s!"{count} digits; use sys.set_int_max_str_digits() to increase the limit"

/-- The value of a digit in a base up to 36; letters follow the decimal
digits. -/
def baseDigit? (base : Nat) (c : Char) : Option Nat := do
  let d ← match digitValue? c with
    | some d => some d
    | none =>
      if 'a' ≤ c && c ≤ 'z' then some (c.toNat - 0x57)
      else if 'A' ≤ c && c ≤ 'Z' then some (c.toNat - 0x37)
      else none
  if d < base then some d else none

/-- Digits divided by single underscores, none of them first or last. -/
def groupedDigits? (base : Nat) : List Char → Option (List Nat)
  | [] => none
  | [c] => (baseDigit? base c).map ([·])
  | c :: '_' :: rest => do
    let d ← baseDigit? base c
    let ds ← groupedDigits? base rest
    return d :: ds
  | c :: rest => do
    let d ← baseDigit? base c
    let ds ← groupedDigits? base rest
    return d :: ds

/-- Splits a sign off; `true` for minus. -/
def splitSign : List Char → Bool × List Char
  | '-' :: rest => (true, rest)
  | '+' :: rest => (false, rest)
  | cs => (false, cs)

/-- A zero of any script and the letter x mark a hexadecimal number. -/
def isHexMark (z x : Char) : Bool :=
  digitValue? z == some 0 && (x == 'x' || x == 'X')

/-- Drops the mark of a hexadecimal number, with one underscore after it. -/
def dropHexMark : List Char → List Char
  | z :: x :: '_' :: rest => if isHexMark z x then rest else z :: x ::
  '_' :: rest
  | z :: x :: rest => if isHexMark z x then rest else z :: x :: rest
  | cs => cs

/-- Reads an integer in base ten or sixteen. -/
def readInteger (base : Nat) (s : String) : Except IntegerFault Int :=
  let (negative, body) := splitSign (trimBy isBlank s.toList)
  match groupedDigits? base (if base = 16 then dropHexMark body else body) with
  | none => .error (.notInteger base s)
  | some digits =>
    if base = 10 && maxIntegerDigits < digits.length then .error
      (.tooManyDigits digits.length)
    else
      let n : Nat := digits.foldl (fun n d => base * n + d) 0
      .ok (if negative then -(n : Int) else n)

def integer? (s : String) : Option Int := (readInteger 10 s).toOption

end LedgerSync.Text
