import LedgerSync.Binary.Double

/-!
# Plain values

The values of a configuration file before they are given a shape. A map keeps
its entries in order, and no key occurs twice. Keys are values of any kind,
because that is what files allow, but nearly all are texts.
-/

namespace LedgerSync

inductive Value where
  | null
  | bool (b : Bool)
  | integer (n : Int)
  | float (d : Double)
  | text (s : String)
  | stamp (s : String)
  | list (items : List Value)
  | map (entries : List (Value × Value))
  deriving Repr, Inhabited

namespace Value

/-- The text of a value that is one. -/
def text? : Value → Option String
  | .text s => some s
  | _ => none

def isText (s : String) : Value → Bool
  | .text t => t == s
  | _ => false

/-- The value of a key among entries. -/
def find? (key : String) : List (Value × Value) → Option Value
  | [] => none
  | (k, v) :: rest => if k.isText key then some v else find? key rest

/-- The value of a key of a map. -/
def get? (v : Value) (key : String) : Option Value :=
  match v with
  | .map entries => find? key entries
  | _ => none

/-- A map of texts to values. -/
def record (entries : List (String × Value)) : Value :=
  .map (entries.map fun e => (.text e.1, e.2))

def texts (items : List String) : Value := .list (items.map .text)

end Value

end LedgerSync
