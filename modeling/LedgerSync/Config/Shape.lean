import LedgerSync.Config.Value
import LedgerSync.Failure

/-!
# Giving plain values a shape

A reader turns a plain value into a typed one or says at which places it does
not fit. Readers are lenient: an integer may be written as a whole number of any
kind or as text, a truth value as a number or a word. A map is read field by
field, and the faults of all fields are collected in order.

A place is the list of the keys that lead to a value. Every reader is told where
its value stands, so that a fault deep in a section can be named from the top.
-/

namespace LedgerSync

/-- A value that fits, or all the places where it does not: a person who mends a
configuration wants to know of all faults at once. -/
inductive Checked (α : Type) where
  | ok (a : α)
  | bad (faults : List ShapeFault)

namespace Checked

/-- Applies a function. The faults of both sides are collected in order, which
is why this is not a monad. -/
def ap (f : Checked (α → β)) (x : Checked α) : Checked β :=
  match f, x with
  | .ok g, .ok a => .ok (g a)
  | .ok _, .bad e => .bad e
  | .bad e, .ok _ => .bad e
  | .bad e, .bad e' => .bad (e ++ e')

instance : Applicative Checked where
  pure := .ok
  seq f x := f.ap (x ())

/-- The value, or the faults as a failure. -/
def toExcept : Checked α → Except (List ShapeFault) α
  | .ok a => .ok a
  | .bad faults => .error faults

def all : List (Checked α) → Checked (List α)
  | [] => .ok []
  | x :: rest => List.cons <$> x <*> all rest

end Checked

/-- Reads a value found at a place. -/
abbrev Shape (α : Type) := List String → Value → Checked α

namespace Shape

/-- Does not fit, in one way. -/
def fault (place : List String) (kind : String) : Checked α :=
  .bad [⟨place, kind⟩]

def text : Shape String
  | _, .text s => .ok s
  | place, _ => fault place "string_type"

/-- Whether a character is blank in the text of a number. -/
def isSpace (c : Char) : Bool :=
  Text.isBlank c && !(0x1C ≤ c.toNat && c.toNat ≤ 0x1F)

/-- ASCII digits divided by single underscores. -/
def digits? : List Char → Option (List Nat)
  | [] => none
  | [c] => if c.isDigit then some [c.toNat - 0x30] else none
  | c :: '_' :: rest => if c.isDigit then (digits? rest).map
    ((c.toNat - 0x30) :: ·) else none
  | c :: rest => if c.isDigit then (digits? rest).map ((c.toNat - 0x30) :: ·)
  else none

/-- An integer as text: blanks around it, a sign, and a fraction of zeros are
allowed. -/
def integerOfText (s : String) : Except String Int :=
  let (negative, body) := Text.splitSign (Text.trimBy isSpace s.toList)
  let whole := body.takeWhile (· ≠ '.')
  let fraction := body.drop (whole.length + 1)
  match digits? whole with
  | some ds =>
    if fraction.all (· = '0') then
      if Text.maxIntegerDigits < ds.length then .error "int_parsing_size"
      else
        let n : Nat := Text.numberOf ds
        .ok (if negative then -(n : Int) else n)
    else .error "int_parsing"
  | none => .error "int_parsing"

/-- The first number beyond the integers of 64 bits. -/
def wordBound : Int := 9223372036854775808

/-- The integer that a value stands for, or what is wrong with it. -/
def integerOf : Value → Except String Int
  | .integer n => .ok n
  | .bool b => .ok (if b then 1 else 0)
  | .float (.finite negative m e) =>
    match (Double.finite negative m e).integer? with
    | some n => if -wordBound < n ∧ n < wordBound then .ok n
    else .error "int_parsing_size"
    | none => .error "int_from_float"
  | .float _ => .error "finite_number"
  | .text s => integerOfText s
  | _ => .error "int_type"

def integer : Shape Int := fun place v =>
  match integerOf v with
  | .ok n => .ok n
  | .error kind => fault place kind

def yesWords : List String := ["1", "on", "t", "true", "y", "yes"]

def noWords : List String := ["0", "off", "f", "false", "n", "no"]

/-- The truth value that a number stands for. One beyond 64 bits is not even
looked at, so it is not told what is wrong with it. -/
def boolOfInteger (n : Int) : Except String Bool :=
  if n = 1 then .ok true
  else if n = 0 then .ok false
  else if -wordBound ≤ n ∧ n < wordBound then .error "bool_parsing"
  else .error "bool_type"

/-- The truth value that a value stands for, or what is wrong with it. -/
def boolOf : Value → Except String Bool
  | .bool b => .ok b
  | .integer n => boolOfInteger n
  | .float d =>
    match d.integer? with
    | some n => boolOfInteger n
    | none => .error "bool_type"
  | .text s =>
    let word := String.ofList (s.toList.map Char.toLower)
    if yesWords.contains word then .ok true
    else if noWords.contains word then .ok false
    else .error "bool_parsing"
  | _ => .error "bool_type"

def bool : Shape Bool := fun place v =>
  match boolOf v with
  | .ok b => .ok b
  | .error kind => fault place kind

/-- Nothing, or a value. -/
def optional (shape : Shape α) : Shape (Option α)
  | _, .null => .ok none
  | place, v => some <$> shape place v

def list (shape : Shape α) : Shape (List α)
  | place, .list items =>
    .all (items.zipIdx.map fun p => shape (place ++ [Text.decimalText p.2]) p.1)
  | place, _ => fault place "list_type"

/-- A key as it is shown in a place. -/
def keyText : Value → String
  | .text s => s
  | .integer n => Text.integerText n
  | .bool b => if b then "True" else "False"
  | .float d => d.text
  | .stamp s => s
  | _ => "None"

/-- A map from texts. -/
def map (shape : Shape α) : Shape (List (String × α))
  | place, .map entries =>
    .all (entries.map fun e =>
      let here := place ++ [keyText e.1]
      Prod.mk <$> text (here ++ ["[key]"]) e.1 <*> shape here e.2)
  | place, _ => fault place "dict_type"

/-- A field that may be missing. -/
def field (name : String) (default : α) (shape : Shape α) (place : List String)
    (entries : List (Value × Value)) : Checked α :=
  match Value.find? name entries with
  | some v => shape (place ++ [name]) v
  | none => .ok default

/-- A field that must be there. -/
def required (name : String) (shape : Shape α) (place : List String)
    (entries : List (Value × Value)) : Checked α :=
  match Value.find? name entries with
  | some v => shape (place ++ [name]) v
  | none => fault (place ++ [name]) "missing"

/-- A record: a map whose fields are read by name; unknown fields are
ignored. -/
def record (fields : List String → List (Value × Value) → Checked α) : Shape α
  | place, .map entries => fields place entries
  | place, _ => fault place "model_type"

end Shape

end LedgerSync
