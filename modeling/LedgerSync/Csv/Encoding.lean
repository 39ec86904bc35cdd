/-!
# Encodings of files

The encodings in which files of transactions are read. Bytes that an encoding
does not allow make the whole text unreadable: a character that was guessed
could belong to an id or an amount.

The names of the encodings are those that people write into settings, so case
and marks between the words do not count.
-/

namespace LedgerSync.Csv

/-- The order of the bytes of a unit of two. -/
inductive ByteOrder
  | little
  | big
  deriving DecidableEq, Repr

inductive Encoding
  | utf8
  /-- UTF-8 behind a mark that is no part of the text. -/
  | utf8Marked
  /-- UTF-16, with a mark for the byte order in front or in an order that is
  known. -/
  | utf16 (order : Option ByteOrder)
  | latin1
  | windows1252
  | ascii
  deriving DecidableEq, Repr

namespace Encoding

def names : List (Encoding × List String) := [
  (.utf8, ["utf_8", "utf8", "u8", "utf", "cp65001"]),
  (.utf8Marked, ["utf_8_sig"]),
  (.utf16 none, ["utf_16", "utf16", "u16"]),
  (.utf16 (some .little), ["utf_16_le", "utf_16le", "unicodelittleunmarked"]),
  (.utf16 (some .big), ["utf_16_be", "utf_16be", "unicodebigunmarked"]),
  (.latin1, ["latin_1", "latin1", "latin", "l1", "iso8859_1", "iso_8859_1",
    "iso8859", "8859", "cp819"]),
  (.windows1252, ["cp1252", "windows_1252", "1252"]),
  (.ascii, ["ascii", "us_ascii", "us", "646", "cp367"])]

/-- A name in small letters, with one underscore for every run of other
marks. -/
def normalized : List Char → List Char
  | [] => []
  | c :: rest =>
    if c.isAlphanum || c = '.' then c.toLower :: normalized rest
    else
      match normalized rest with
      | '_' :: more => '_' :: more
      | more => '_' :: more

def ofName? (name : String) : Option Encoding :=
  let key := String.ofList (normalized name.toList)
  (names.find? fun n => n.2.contains key).map (·.1)

/-- The characters of the bytes 80 to 9F where the encoding of Windows has
any. -/
def windowsTable : List (Option Nat) := [
  some 0x20AC, none, some 0x201A, some 0x0192, some 0x201E, some 0x2026,
  some 0x2020, some 0x2021,
  some 0x02C6, some 0x2030, some 0x0160, some 0x2039, some 0x0152, none,
  some 0x017D, none,
  none, some 0x2018, some 0x2019, some 0x201C, some 0x201D, some 0x2022,
  some 0x2013, some 0x2014,
  some 0x02DC, some 0x2122, some 0x0161, some 0x203A, some 0x0153, none,
    some 0x017E, some 0x0178]

/-- The code units of bytes; none if a byte is left over. -/
def units? (order : ByteOrder) : List UInt8 → Option (List Nat)
  | [] => some []
  | [_] => none
  | a :: b :: rest =>
    let n := match order with
      | .little => b.toNat * 256 + a.toNat
      | .big => a.toNat * 256 + b.toNat
    (units? order rest).map (n :: ·)

/-- The text of code units; none if a surrogate stands alone. -/
def ofUnits? : List Nat → Option (List Char)
  | [] => some []
  | n :: rest =>
    if n < 0xD800 || 0xE000 ≤ n then (ofUnits? rest).map (Char.ofNat n :: ·)
    else
      match rest with
      | m :: more =>
        if n < 0xDC00 && 0xDC00 ≤ m && m < 0xE000 then
          (ofUnits? more).map
            (Char.ofNat (0x10000 + (n - 0xD800) * 0x400 + (m - 0xDC00)) :: ·)
        else none
      | [] => none

/-- The character of a single byte. -/
def ofByte? (e : Encoding) (b : UInt8) : Option Char :=
  let n := b.toNat
  match e with
  | .ascii => if n < 0x80 then some (Char.ofNat n) else none
  | .windows1252 =>
    if 0x80 ≤ n && n < 0xA0 then (windowsTable[n - 0x80]?.join).map Char.ofNat
    else some (Char.ofNat n)
  | _ => some (Char.ofNat n)

def decode? (e : Encoding) (bytes : ByteArray) : Option (List Char) :=
  let utf8 := (String.fromUTF8? bytes).map (·.toList)
  match e with
  | .utf8 => utf8
  | .utf8Marked => utf8.map fun cs => if cs.head? =
    some '\ufeff' then cs.drop 1 else cs
  | .utf16 (some order) => (units? order bytes.toList).bind ofUnits?
  | .utf16 none =>
    match bytes.toList with
    | 0xFE :: 0xFF :: rest => (units? .big rest).bind ofUnits?
    | 0xFF :: 0xFE :: rest => (units? .little rest).bind ofUnits?
    | rest => (units? .little rest).bind ofUnits?
  | e => bytes.toList.mapM (ofByte? e)

end Encoding

end LedgerSync.Csv
