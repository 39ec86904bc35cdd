import LedgerSync.Config.Value
import LedgerSync.Text.Integer
import LedgerSync.Yaml.Text

/-!
# The meaning of plain scalars

A plain scalar is a null, a truth value, an integer in one of five notations, a
floating point number, a date or date-time, or else a text. What it is decides
its first characters and its whole text, so a text that happens to look like a
number has to be quoted by whoever writes it.
-/

namespace LedgerSync.Yaml

def nullWords : List String := ["", "~", "null", "Null", "NULL"]

def trueWords : List String :=
  ["yes", "Yes", "YES", "true", "True", "TRUE", "on", "On", "ON"]

def falseWords : List String :=
  ["no", "No", "NO", "false", "False", "FALSE", "off", "Off", "OFF"]

/-- The words for infinity, without sign. -/
def infinityWords : List String := [".inf", ".Inf", ".INF"]

/-- The words for not-a-number. -/
def nanWords : List String := [".nan", ".NaN", ".NAN"]

/-- Whether a text is not empty and holds only characters of a kind or
underscores. -/
def isRun (isDigit : Char → Bool) (cs : List Char) : Bool :=
  !cs.isEmpty && cs.all fun c => isDigit c || c = '_'

/-- Whether a text is such a run and does not start with an underscore. -/
def isNumber (cs : List Char) : Bool :=
  isRun Char.isDigit cs && cs.head? ≠ some '_'

/-- The number that digits of a base spell, underscores aside. -/
def numberIn (base : Nat) (cs : List Char) : Nat :=
  (cs.filter (· ≠ '_')).foldl (fun n c => base * n + (hexDigit? c).getD 0) 0

/-- The parts of a text between the occurrences of a character. -/
def splitAt (mark : Char) : List Char → List (List Char)
  | [] => [[]]
  | c :: rest =>
    match splitAt mark rest with
    | [] => [[c]]
    | part :: parts => if c = mark then [] :: part :: parts
    else (c :: part) :: parts

/-- Whether a text is a number below sixty in one or two digits. -/
def isSixtieth : List Char → Bool
  | [a] => a.isDigit
  | [a, b] => '0' ≤ a && a ≤ '5' && b.isDigit
  | _ => false

/-- The magnitude of an integer: binary, octal, decimal, hexadecimal, or in base
sixty with colons. -/
def magnitude? : List Char → Option Nat
  | ['0'] => some 0
  | '0' :: 'b' :: rest =>
    if isRun (fun c => c = '0' || c = '1') rest then some (numberIn 2 rest)
    else none
  | '0' :: 'x' :: rest =>
    if isRun (fun c => (hexDigit? c).isSome) rest
    then some (numberIn 16 rest) else none
  | '0' :: rest => if isRun (fun c => '0' ≤ c && c ≤ '7') rest then
    some (numberIn 8 rest) else none
  | cs =>
    match splitAt ':' cs with
    | whole :: parts =>
      if isNumber whole && parts.all isSixtieth then
        some (parts.foldl (fun n part => 60 * n + numberIn 10 part)
          (numberIn 10 whole)) else none
    | [] => none

/-- The integer that a text is written for. -/
def integer? (cs : List Char) : Option Int :=
  let (negative, rest) := Text.splitSign cs
  (magnitude? rest).map fun n => if negative then -(n : Int) else n

/-- Whether a text is an exponent with its sign, or empty. -/
def isExponent : List Char → Bool
  | [] => true
  | e :: sign :: rest => (e = 'e' || e = 'E') && (sign = '+' || sign = '-') &&
      !rest.isEmpty && rest.all Char.isDigit
  | _ => false

/-- Whether a text is a floating point number in base ten. A point is
required. -/
def isDecimal (cs : List Char) : Bool :=
  let (signed, body) := match cs with
    | '-' :: rest => (true, rest)
    | '+' :: rest => (true, rest)
    | cs => (false, cs)
  let whole := body.takeWhile fun c => c.isDigit || c = '_'
  match body.drop whole.length with
  | '.' :: rest =>
    let fraction := rest.takeWhile fun c => c.isDigit || c = '_'
    isExponent (rest.drop fraction.length) &&
      if whole.isEmpty then !signed && isNumber fraction else isNumber whole
  | _ => false

/-- The floating point number that a text is written for. -/
def float? (cs : List Char) : Option Double :=
  let (negative, rest) := Text.splitSign cs
  if infinityWords.contains (String.ofList rest) then some (.infinite negative)
  else if nanWords.contains (String.ofList cs) then some .nan
  else if isDecimal cs then
    (Decimal.ofText? (String.ofList (cs.filter (· ≠ '_')))).bind
      Double.ofDecimal?
  else none

/-- Takes so many digits, at least one, off a text. -/
def dropDigits? (least most : Nat) (cs : List Char) : Option (List Char) :=
  let digits := (cs.take most).takeWhile Char.isDigit
  if least ≤ digits.length then some (cs.drop digits.length) else none

/-- Takes one character off a text. -/
def dropChar? (c : Char) : List Char → Option (List Char)
  | x :: rest => if x = c then some rest else none
  | [] => none

/-- Whether a text is empty or an offset from UTC after blanks. -/
def isOffset (cs : List Char) : Bool :=
  match cs.dropWhile fun c => c = ' ' || c = '\t' with
  | [] => cs.isEmpty
  | ['Z'] => true
  | sign :: rest =>
    (sign = '+' || sign = '-') &&
    match dropDigits? 1 2 rest with
    | some [] => true
    | some (':' :: minutes) => dropDigits? 2 2 minutes == some []
    | _ => false

/-- Whether a text is a time of day, perhaps with a fraction and an offset. -/
def isTimeOfDay (cs : List Char) : Bool :=
  let rest := do
    let cs ← dropChar? ':' (← dropDigits? 1 2 cs)
    dropDigits? 2 2 (← dropChar? ':' (← dropDigits? 2 2 cs))
  match rest with
  | some ('.' :: rest) => isOffset (rest.dropWhile Char.isDigit)
  | some rest => isOffset rest
  | none => false

/-- Whether a text is a date, or a date and a time. -/
def isStamp (cs : List Char) : Bool :=
  let date := fun least => do
    let cs ← dropChar? '-' (← dropDigits? 4 4 cs)
    dropDigits? least 2 (← dropChar? '-' (← dropDigits? least 2 cs))
  match date 2, date 1 with
  | some [], _ => true
  | _, some (t :: rest) =>
    if t = 'T' || t = 't' then isTimeOfDay rest
    else (t = ' ' || t = '\t') && isTimeOfDay (rest.dropWhile fun c =>
      c = ' ' || c = '\t')
  | _, _ => false

/-- The value of a plain scalar; none for a lone equals sign and the mark of a
merge, which stand for no value. -/
def plainValue? (s : String) : Option Value :=
  if s = "=" || s = "<<" then none
  else if nullWords.contains s then some .null
  else if trueWords.contains s then some (.bool true)
  else if falseWords.contains s then some (.bool false)
  else if isStamp s.toList then some (.stamp s)
  else
    match integer? s.toList, float? s.toList with
    | some n, _ => some (.integer n)
    | none, some d => some (.float d)
    | none, none => some (.text s)

end LedgerSync.Yaml
