import LedgerSync.Yaml.Scalar

/-!
# Writing documents

Maps and lists are written in block style, two columns deep, a list at the
indentation of its key. A text is written plain unless it would then be read as
something else, and in single quotes otherwise.
-/

namespace LedgerSync.Yaml

/-- Whether a text can stand plain in a block, as far as its characters go. The
flag tells whether a blank goes before. -/
def isBareFrom (afterBlank : Bool) : List Char → Bool
  | [] => !afterBlank
  | c :: rest =>
    if isBreak c || !isPrintable c || c = '\t' then false
    else if c = ':' && startsBlank rest then false
    else if c = '#' && afterBlank then false
    else isBareFrom (c = ' ') rest

/-- Whether a text can stand plain in a block and is then read as a text. -/
def isBare (s : String) : Bool :=
  (match plainValue? s with
    | some (.text _) => true
    | _ => false) &&
  s.toList.head?.any (· ≠ ' ') && startsPlain false s.toList &&
    !startsDivider s.toList && isBareFrom false s.toList

/-- A text as a scalar. -/
def textScalar (s : String) : String :=
  if isBare s then s
  else "'" ++ String.ofList (s.toList.flatMap fun c =>
    if c = '\'' then ['\'', '\''] else [c]) ++ "'"

/-- A value without parts as a scalar; an empty collection is written in
brackets. -/
def scalar : Value → String
  | .null => "null"
  | .bool b => if b then "true" else "false"
  | .integer n => Text.integerText n
  | .float d => d.text
  | .text s => textScalar s
  | .stamp s => s
  | .list _ => "[]"
  | .map _ => "\x7b\x7d"

/-- Lines moved two columns to the right. -/
def indented (lines : List String) : List String := lines.map ("  " ++ ·)

/-- The lines of a list item. -/
def itemOf (lines : List String) : List String :=
  match lines with
  | [] => []
  | first :: rest => ("- " ++ first) :: indented rest

mutual

/-- The lines of a value. -/
def blockLines : Value → List String
  | .map (e :: rest) => entryLines (e :: rest)
  | .list (v :: rest) => itemLines (v :: rest)
  | v => [scalar v]

/-- The lines of the entries of a map. -/
def entryLines : List (Value × Value) → List String
  | [] => []
  | (k, .map (e :: more)) :: rest =>
    (scalar k ++ ":") :: indented (entryLines (e :: more)) ++ entryLines rest
  | (k, .list (v :: more)) :: rest => (scalar k ++ ":") ::
  itemLines (v :: more) ++ entryLines rest
  | (k, v) :: rest => (scalar k ++ ": " ++ scalar v) :: entryLines rest

/-- The lines of the items of a list. -/
def itemLines : List Value → List String
  | [] => []
  | v :: rest => itemOf (blockLines v) ++ itemLines rest

end

def document (v : Value) : String := "\n".intercalate (blockLines v) ++ "\n"

end LedgerSync.Yaml
