import LedgerSync.Failure

/-!
# Universally unique identifiers

A number of 128 bits, written as 32 hexadecimal digits in five groups. Reading
is lenient: it skips the words `urn:` and `uuid:`, braces around the text and
hyphens anywhere, and takes whatever reads as a hexadecimal integer of 32
characters.
-/

namespace LedgerSync

/-- How many identifiers there are. -/
def Uuid.count : Nat := 0x100000000000000000000000000000000

/-- A number of 128 bits. Two texts that spell one number are one identifier. -/
structure Uuid where
  value : Nat
  value_lt : value < Uuid.count
  deriving DecidableEq, Repr

namespace Uuid

instance : Inhabited Uuid := ⟨0, by decide⟩

/-- The 32 lower-case digits, in groups of 8, 4, 4, 4 and 12. -/
def text (u : Uuid) : String :=
  let ds := Text.hexText 32 u.value
  let part := fun start length => String.ofList ((ds.drop start).take length)
  "-".intercalate [part 0 8, part 8 4, part 12 4, part 16 4, part 20 12]

/-- Drops every occurrence of a word, from left to right. -/
def dropWord (word : List Char) : List Char → List Char
  | [] => []
  | c :: rest =>
    if _h : word ≠ [] ∧ word.isPrefixOf (c :: rest) then dropWord word
      ((c :: rest).drop word.length) else c :: dropWord word rest
termination_by cs => cs.length
decreasing_by
  · have : word.length ≠ 0 := fun h0 => _h.1 (List.length_eq_zero_iff.1 h0)
    simp only [List.length_drop, List.length_cons]
    omega
  · simp

def ofText (s : String) : Except CellFault Uuid :=
  let bare := dropWord "uuid:".toList (dropWord "urn:".toList s.toList)
  let digits := (Text.trimBy (fun c => c = '\x7b' || c = '\x7d') bare).filter
    (· ≠ '-')
  if digits.length ≠ 32 then .error .uuidForm
  else
    match Text.readInteger 16 (String.ofList digits) with
    | .error f => .error (.integer f)
    | .ok n =>
      if h : 0 ≤ n ∧ n.toNat < count then .ok ⟨n.toNat, h.2⟩
      else .error .uuidRange

/-- The identifier of the random kind that has given bits beside its marks. -/
def ofRandomBits (bits : Nat) : Uuid :=
  let low := bits % 0x4000000000000000
  let middle := bits / 0x4000000000000000 % 0x1000
  let high := bits / 0x4000000000000000000 % 0x1000000000000
  let upper := (high * 0x10 + 4) * 0x1000 + middle
  ⟨(upper * 0x10000000000000000 + 0x8000000000000000 + low) % count,
    Nat.mod_lt _ (by decide)⟩

end Uuid

end LedgerSync
