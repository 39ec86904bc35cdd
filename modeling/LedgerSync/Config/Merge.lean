import LedgerSync.Config.Value

/-!
# Merging plain values

A map is laid over another: where both hold a map under one key the two are
merged, anywhere else the upper value stands. The keys of the lower map keep
their places, and new keys follow in their order.

A list is not merged but replaced, and so is a map by anything that is no map.
Keys are compared as values of a configuration file are, where a whole number,
however it is written, and a truth value may be one key.
-/

namespace LedgerSync.Value

/-- A key in the form in which keys are compared: a truth value or a whole
number of any kind is an integer, so `1` and `true` are one key. -/
def asKey : Value → Value
  | .bool b => .integer (if b then 1 else 0)
  | .float d =>
    match d.integer? with
    | some n => .integer n
    | none => .float d
  | v => v

/-- Whether two keys are one key of a map. -/
def sameKey (a b : Value) : Bool :=
  match a.asKey, b.asKey with
  | .null, .null => true
  | .text s, .text t => s == t
  | .stamp s, .stamp t => s == t
  | .integer m, .integer n => m == n
  | .float c, .float d => c == d
  | _, _ => false

def lookup (key : Value) : List (Value × Value) → Option Value
  | [] => none
  | (k, v) :: rest => if k.sameKey key then some v else lookup key rest

/-- Sets the value of a key. An old key keeps its place and a new one goes last,
so that laying a map over another does not reorder it. -/
def put (entries : List (Value × Value)) (key value : Value) :
    List (Value × Value) :=
  match entries with
  | [] => [(key, value)]
  | (k, v) :: rest => if k.sameKey key then (k, value) :: rest else (k, v) ::
    put rest key value

mutual

/-- Lays a value over the one that stands at its place, if any. -/
def laidOver (lower : Option Value) : Value → Value
  | .map entries =>
    match lower with
    | some (.map base) => .map (merge base entries)
    | _ => .map entries
  | v => v

/-- Lays the entries of a map over those of another. -/
def merge (base : List (Value × Value)) :
    List (Value × Value) → List (Value × Value)
  | [] => base
  | (k, v) :: rest => merge (put base k (laidOver (lookup k base) v)) rest

end

end LedgerSync.Value
