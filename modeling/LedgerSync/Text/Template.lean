import LedgerSync.Failure

/-!
# Templates

A template is a text with fields in braces. A field names a value; after an
exclamation mark it may say that the value is to be quoted, and after a colon
how it is laid out: to what width, on which side, with which filling, and cut at
how many characters. The layout may itself hold fields. Doubled braces stand for
single ones.

The name of a report file is written as a template in the settings, so a
template may be anything that a person writes. What does not fit is a failure
and never a strange name.
-/

namespace LedgerSync

structure TemplateField where
  name : List Char
  conversion : Option Char
  layout : List Char

inductive TemplatePart
  | text (cs : List Char)
  | field (f : TemplateField)

namespace Template

/-- A template that is not well formed, or a layout that no text has. -/
def fault (message : String) : Except Failure α :=
  .error (.argument (.template message))

/-- The name of a field and what ends it; brackets may hold any character. -/
def fieldName (acc : List Char) (inBrackets : Bool) : List Char →
    Except Failure (List Char × Option Char × List Char)
  | [] => .ok (acc.reverse, none, [])
  | c :: rest =>
    if inBrackets then fieldName (c :: acc) (c ≠ ']') rest
    else if c = '\x7b' then fault "unexpected '\x7b' in field name"
    else if c = '[' then fieldName (c :: acc) true rest
    else if c = '\x7d' || c = ':' || c = '!' then
      .ok (acc.reverse, some c, rest)
    else fieldName (c :: acc) false rest

/-- The layout up to the brace that closes the field. -/
def layoutPart (acc : List Char) (depth : Nat) :
    List Char → Except Failure (List Char × List Char)
  | [] => fault "unmatched '\x7b' in format spec"
  | c :: rest =>
    if c = '\x7d' then
      if depth = 0 then .ok (acc.reverse, rest)
      else layoutPart (c :: acc) (depth - 1) rest
    else layoutPart (c :: acc) (if c = '\x7b' then depth + 1 else depth) rest

/-- A field after its opening brace, and what follows it. -/
def field (cs : List Char) : Except Failure (TemplateField × List Char) := do
  let (name, mark, rest) ← fieldName [] false cs
  match mark with
  | none => fault "expected '\x7d' before end of string"
  | some ':' =>
    let (layout, rest) ← layoutPart [] 0 rest
    return (⟨name, none, layout⟩, rest)
  | some '!' =>
    match rest with
    | [] => fault "end of string while looking for conversion specifier"
    | c :: '\x7d' :: rest => return (⟨name, some c, []⟩, rest)
    | c :: ':' :: rest =>
      let (layout, rest) ← layoutPart [] 0 rest
      return (⟨name, some c, layout⟩, rest)
    | [_] => fault "unmatched '\x7b' in format spec"
    | _ => fault "expected ':' after conversion specifier"
  | some _ => return (⟨name, none, []⟩, rest)

/-- The next part of a template, and what follows it. -/
def part (cs : List Char) : Except Failure (TemplatePart × List Char) :=
  match cs with
  | '\x7b' :: '\x7b' :: rest => .ok (.text ['\x7b'], rest)
  | '\x7d' :: '\x7d' :: rest => .ok (.text ['\x7d'], rest)
  | '\x7b' :: [] => fault "Single '\x7b' encountered in format string"
  | '\x7b' :: rest => (field rest).map fun r => (.field r.1, r.2)
  | '\x7d' :: _ => fault "Single '\x7d' encountered in format string"
  | c :: rest => .ok (.text [c], rest)
  | [] => .ok (.text [], [])

/-- One character of a text, by its place. -/
def characterAt (value place : List Char) : Except Failure (List Char) :=
  if place.isEmpty then fault "Empty attribute in format string"
  else if place.all Char.isDigit then
    match value[Text.numberOf (place.map fun c => c.toNat - 0x30)]? with
    | some c => .ok [c]
    | none => .error .noSuchPosition
  else .error .incomparable

/-- Follows the accessors after the name of a value: places in brackets. A text
has no attributes. -/
def access (value : List Char) (fuel : Nat) (accessors : List Char) :
    Except Failure (List Char) :=
  match fuel, accessors with
  | fuel + 1, '[' :: rest => do
    let place := rest.takeWhile (· ≠ ']')
    match rest.drop place.length with
    | [] => fault "Missing ']' in format string"
    | _ :: rest => access (← characterAt value place) fuel rest
  | _ + 1, '.' :: rest =>
    if (rest.takeWhile fun c => c ≠ '.' && c ≠ '[').isEmpty then
      fault "Empty attribute in format string"
    else .error .noSuchAttribute
  | _, [] => .ok value
  | _, _ => fault "Only '.' or '[' may follow ']' in format field specifier"

/-- The value that the name of a field stands for. Values have names and no
numbers. -/
def lookup (values : List (String × String)) (name : List Char) :
    Except Failure (List Char) := do
  let first := name.takeWhile fun c => c ≠ '.' && c ≠ '['
  if first.all Char.isDigit then throw .noSuchPosition
  let some value := values.lookup (String.ofList first) | throw .noSuchKey
  access value.toList name.length (name.drop first.length)

/-- A value as its conversion asks for it. -/
def converted (conversion : Option Char) (value : List Char) :
    Except Failure (List Char) :=
  match conversion with
  | none | some 's' => .ok value
  | some 'r' => .ok (Text.quoted (String.ofList value)).toList
  | some 'a' => .ok ((Text.quoted (String.ofList value)).toList.flatMap fun c =>
      let n := c.toNat
      if n < 0x80 then [c]
      else if n < 0x100 then '\\' :: 'x' :: Text.hexText 2 n
      else if n < 0x10000 then '\\' :: 'u' :: Text.hexText 4 n
      else '\\' :: 'U' :: Text.hexText 8 n)
  | some c => fault s!"Unknown conversion specifier {c.toString}"

/-- On which side of a text the filling goes. -/
inductive Side
  | after
  | before
  | around
  deriving DecidableEq

structure Layout where
  fill : Char
  side : Side
  width : Nat
  limit : Option Nat

/-- The side that a character asks for; none for a number's alignment. -/
def side? : Char → Option (Option Side)
  | '<' => some (some .after)
  | '>' => some (some .before)
  | '^' => some (some .around)
  | '=' => some none
  | _ => none

/-- The filling and the side in front of a layout, and the rest. -/
def alignment (cs : List Char) : Char × Option (Option Side) × List Char :=
  match cs with
  | fill :: a :: rest =>
    match side? a, side? fill with
    | some s, _ => (fill, some s, rest)
    | none, some s => (' ', some s, a :: rest)
    | none, none => (' ', none, cs)
  | [a] => (' ', side? a, if (side? a).isSome then [] else cs)
  | [] => (' ', none, [])

/-- The number in front of a text, and the rest. -/
def leadingNumber (cs : List Char) : Option Nat × List Char :=
  let digits := cs.takeWhile Char.isDigit
  (if digits.isEmpty then none
  else some (Text.numberOf (digits.map fun c => c.toNat - 0x30)),
    cs.drop digits.length)

/-- Reads a layout. What only numbers have is refused. -/
def layoutOf (cs : List Char) : Except Failure Layout := do
  let (fill, asked, rest) := alignment cs
  let (signed, rest) := match rest with
    | '+' :: rest => (some '+', rest)
    | '-' :: rest => (some '-', rest)
    | ' ' :: rest => (some ' ', rest)
    | rest => (none, rest)
  let (unsignedZero, rest) := match rest with
    | 'z' :: rest => (true, rest)
    | rest => (false, rest)
  let (alternate, rest) := match rest with
    | '#' :: rest => (true, rest)
    | rest => (false, rest)
  let (fill, rest) := match asked, rest with
    | none, '0' :: rest => ('0', rest)
    | some _, '0' :: rest => (fill, rest)
    | _, rest => (fill, rest)
  let (width, rest) := leadingNumber rest
  let (grouped, rest) := match rest with
    | ',' :: rest => (some ',', rest)
    | '_' :: rest => (some '_', rest)
    | rest => (none, rest)
  let (limit, rest) ← match rest with
    | '.' :: rest =>
      match leadingNumber rest with
      | (none, _) => fault "Format specifier missing precision"
      | (n, rest) => pure (n, rest)
    | rest => pure (none, rest)
  match rest with
  | _ :: _ :: _ =>
    fault s!"Invalid format specifier '{String.ofList cs}' for object of type 'str'"
  | [c] =>
    if c ≠ 's' then
      fault s!"Unknown format code '{c.toString}' for object of type 'str'"
  | [] => pure ()
  if let some c := grouped then
    fault s!"Cannot specify '{c.toString}' with 's'."
  if signed = some ' ' then fault "Space not allowed in string format specifier"
  if signed.isSome then fault "Sign not allowed in string format specifier"
  if unsignedZero then
    fault "Negative zero coercion (z) not allowed in string format specifier"
  if alternate then
    fault "Alternate form (#) not allowed in string format specifier"
  if asked = some none then
    fault "'=' alignment not allowed in string format specifier"
  return ⟨fill, asked.join.getD .after, width.getD 0, limit⟩

def Layout.apply (l : Layout) (cs : List Char) : List Char :=
  let cs := (l.limit.map fun n => cs.take n).getD cs
  let missing := l.width - cs.length
  let (before, after) := match l.side with
    | .after => (0, missing)
    | .before => (missing, 0)
    | .around => (missing / 2, missing - missing / 2)
  List.replicate before l.fill ++ cs ++ List.replicate after l.fill

/-- Fills a template. The layout of a field may hold fields, but theirs may
not. -/
def expand (values : List (String × String)) (depth fuel : Nat)
    (cs : List Char) :
    Except Failure (List Char) :=
  match fuel, cs with
  | 0, _ | _, [] => .ok []
  | fuel + 1, cs => do
    let (p, rest) ← part cs
    let text ← match p with
      | .text t => pure t
      | .field f => do
        let value ← converted f.conversion (← lookup values f.name)
        let layout ← if !f.layout.contains '\x7b' then pure f.layout
          else if depth = 0 then fault "Max string recursion exceeded"
          else expand values (depth - 1) fuel f.layout
        pure ((← layoutOf layout).apply value)
    return text ++ (← expand values depth fuel rest)

/-- Fills a template with named values. -/
def fill (values : List (String × String)) (template : String) :
    Except Failure String := do
  return String.ofList (← expand values 1 template.length template.toList)

end Template

end LedgerSync
