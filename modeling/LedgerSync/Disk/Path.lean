/-!
# Paths

A path is the names on the way to a file, from the root or from where the
program runs. Repeated slashes and single dots do not count, so that two texts
of one way are one path.
-/

namespace LedgerSync

structure Path where
  isAbsolute : Bool
  names : List String
  deriving DecidableEq, Repr

namespace Path

/-- The names between the slashes of a text. -/
def namesOf (cs : List Char) : List (List Char) :=
  let (last, done) := cs.foldl (fun (name, done) c =>
    if c = '/' then ([], name :: done) else (c :: name, done))
      (([], []) : List Char × List (List Char))
  ((last :: done).reverse.map List.reverse).filter fun n =>
    !n.isEmpty && n ≠ ['.']

def ofText (s : String) : Path :=
  ⟨s.toList.head? = some '/', (namesOf s.toList).map String.ofList⟩

def text (p : Path) : String :=
  let body := "/".intercalate p.names
  if p.isAbsolute then "/" ++ body else if body.isEmpty then "." else body

def name (p : Path) : String := p.names.getLast?.getD ""

/-- The folder that the file lies in. -/
def parent (p : Path) : Path := { p with names := p.names.dropLast }

/-- All folders above, the nearest last. -/
def ancestors (p : Path) : List Path :=
  (List.range p.names.length).map fun n => { p with names := p.names.take n }

end Path

end LedgerSync
