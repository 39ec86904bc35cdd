/-!
# Characters and folded text

What the scalars of a YAML document are made of. A line break within a scalar is
folded: a single one becomes a space, and of several the first is dropped. A
quoted scalar is written between two quotes and a plain one up to the first
character that cannot belong to it.
-/

namespace LedgerSync.Yaml

/-- Whether a character may occur in a document at all. -/
def isPrintable (c : Char) : Bool :=
  let n := c.toNat
  n = 0x09 || n = 0x0A || n = 0x0D || (0x20 ≤ n && n ≤ 0x7E) || n = 0x85 ||
    (0xA0 ≤ n && n ≤ 0xD7FF) || (0xE000 ≤ n && n ≤ 0xFFFD) || 0x10000 ≤ n

/-- Whether a character ends a line. -/
def isBreak (c : Char) : Bool :=
  c = '\n' || c = '\x85' || c = '\u2028' || c = '\u2029'

/-- Whether a text is empty or goes on with a space, a tab or a line break. -/
def startsBlank : List Char → Bool
  | [] => true
  | c :: _ => c = ' ' || c = '\t' || isBreak c

/-- Whether a line starts with the mark `---` or `...` that divides
documents. -/
def startsDivider : List Char → Bool
  | '-' :: '-' :: '-' :: rest => startsBlank rest
  | '.' :: '.' :: '.' :: rest => startsBlank rest
  | _ => false

/-- The character that a line break stands for. -/
def breakChar (c : Char) : Char := if c = '\x85' then '\n' else c

/-- A run of blanks within a scalar. -/
inductive Gap
  /-- Blanks on one line. -/
  | blanks (cs : List Char)
  /-- One line break, and the breaks after it. -/
  | folded (first : Char) (others : List Char)
  /-- An escaped line break, and the breaks after it. -/
  | joined (others : List Char)

namespace Gap

/-- What the run contributes to the scalar. -/
def text : Gap → List Char
  | .blanks cs => cs
  | .folded first others =>
    if first ≠ '\n' then first :: others else if others.isEmpty then [' ']
    else others
  | .joined others => others

/-- The run with one more blank. -/
def addBlank (g : Gap) (c : Char) : Gap :=
  match g with
  | .blanks cs => .blanks (cs ++ [c])
  | g => g

/-- The run with one more line break. -/
def addBreak (g : Gap) (c : Char) : Gap :=
  match g with
  | .blanks _ => .folded (breakChar c) []
  | .folded first others => .folded first (others ++ [breakChar c])
  | .joined others => .joined (others ++ [breakChar c])

end Gap

/-- The character that a one-letter escape stands for. -/
def escaped? : Char → Option Char
  | '0' => some '\x00'
  | 'a' => some '\x07'
  | 'b' => some '\x08'
  | 't' | '\t' => some '\t'
  | 'n' => some '\n'
  | 'v' => some '\x0b'
  | 'f' => some '\x0c'
  | 'r' => some '\r'
  | 'e' => some '\x1b'
  | 'N' => some '\x85'
  | '_' => some '\xa0'
  | 'L' => some '\u2028'
  | 'P' => some '\u2029'
  | c => if c = ' ' || c = '"' || c = '\\' || c = '/' then some c else none

/-- The value of a hexadecimal digit. -/
def hexDigit? (c : Char) : Option Nat :=
  if '0' ≤ c && c ≤ '9' then some (c.toNat - 0x30)
  else if 'a' ≤ c && c ≤ 'f' then some (c.toNat - 0x57)
  else if 'A' ≤ c && c ≤ 'F' then some (c.toNat - 0x37)
  else none

/-- The character of a code written in hexadecimal digits. -/
def coded? (digits : List Char) : Option Char := do
  let n := (← digits.mapM hexDigit?).foldl (fun n d => 16 * n + d) 0
  if n.isValidChar then some (Char.ofNat n) else none

/-- The text of a double-quoted scalar after its opening quote, and what follows
its closing one. -/
def doubleQuoted (acc : List Char) (gap : Gap) :
    List Char → Option (List Char × List Char)
  | [] => none
  | '"' :: rest => some (acc ++ gap.text, rest)
  | '\\' :: 'x' :: a :: b :: rest => do
    doubleQuoted (acc ++ gap.text ++ [← coded? [a, b]]) (.blanks []) rest
  | '\\' :: 'u' :: a :: b :: c :: d :: rest => do
    doubleQuoted (acc ++ gap.text ++ [← coded? [a, b, c, d]]) (.blanks []) rest
  | '\\' :: 'U' :: a :: b :: c :: d :: e :: f :: g :: h :: rest => do
    doubleQuoted (acc ++ gap.text ++ [← coded? [a, b, c, d, e, f, g, h]])
      (.blanks []) rest
  | '\\' :: e :: rest =>
    if isBreak e then
      if startsDivider rest then none else doubleQuoted (acc ++ gap.text)
        (.joined []) rest else
      match escaped? e with
      | some c => doubleQuoted (acc ++ gap.text ++ [c]) (.blanks []) rest
      | none => none
  | c :: rest =>
    if c = ' ' || c = '\t' then doubleQuoted acc (gap.addBlank c) rest
    else if isBreak c then
      if startsDivider rest then none else doubleQuoted acc
        (gap.addBreak c) rest
    else doubleQuoted (acc ++ gap.text ++ [c]) (.blanks []) rest

/-- The text of a single-quoted scalar after its opening quote, and what follows
its closing one. -/
def singleQuoted (acc : List Char) (gap : Gap) :
    List Char → Option (List Char × List Char)
  | [] => none
  | '\'' :: '\'' :: rest => singleQuoted (acc ++ gap.text ++ ['\''])
    (.blanks []) rest
  | '\'' :: rest => some (acc ++ gap.text, rest)
  | c :: rest =>
    if c = ' ' || c = '\t' then singleQuoted acc (gap.addBlank c) rest
    else if isBreak c then
      if startsDivider rest then none else singleQuoted acc
        (gap.addBreak c) rest
    else singleQuoted (acc ++ gap.text ++ [c]) (.blanks []) rest

/-- Whether a character divides the items of a collection in brackets. -/
def isFlowMark (c : Char) : Bool :=
  c = ',' || c = '[' || c = ']' || c = '\x7b' || c = '\x7d'

/-- The part of a plain scalar up to the next blank or to its end. -/
def plainWord (inFlow : Bool) : List Char → List Char
  | [] => []
  | c :: rest =>
    if startsBlank [c] then []
    else if c = ':' &&
      (startsBlank rest || (inFlow && rest.head?.any isFlowMark)) then []
    else if inFlow && (c = '?' || isFlowMark c) then []
    else c :: plainWord inFlow rest

/-- Whether a plain scalar can start here. -/
def startsPlain (inFlow : Bool) : List Char → Bool
  | [] => false
  | c :: rest =>
    if c = '-' then !startsBlank rest
    else if c = '?' || c = ':' then !inFlow && !startsBlank rest
    else !(startsBlank [c] || isFlowMark c || "#&*!|>'\"%@".toList.contains c ||
      c = '\x60')

end LedgerSync.Yaml
