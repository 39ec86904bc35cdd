import LedgerSync.Disk.Path
import LedgerSync.Failure

/-!
# What lies on the disk

The files and folders that a run can see, and why a new file cannot be put
somewhere: a file lies where a folder is needed, or a folder where the file is
to be. A run decides on this picture of the disk what it will write, and nothing
else of the machine is known to it.
-/

namespace LedgerSync

/-- What a path leads to. -/
inductive DiskEntry
  | file (bytes : ByteArray)
  | folder

/-- The entries of a disk. Whatever lies above an entry is a folder, so folders
need not be listed. -/
structure Disk where
  entries : List (Path × DiskEntry)

namespace Disk

/-- What a path leads to, if anything. The root, the place where the program
runs, and every folder above an entry are there. -/
def find? (d : Disk) (p : Path) : Option DiskEntry :=
  match d.entries.find? fun e => e.1 == p with
  | some e => some e.2
  | none =>
    if p.names.isEmpty || d.entries.any fun e =>
      e.1.ancestors.contains p then some .folder else none

def isFile (d : Disk) (p : Path) : Bool :=
  match d.find? p with
  | some (.file _) => true
  | _ => false

def exists? (d : Disk) (p : Path) : Bool := (d.find? p).isSome

def bytes? (d : Disk) (p : Path) : Option ByteArray :=
  match d.find? p with
  | some (.file b) => some b
  | _ => none

/-- Why no file can be written at a path, together with the folders that it
needs. It is asked before a report is made. -/
def refusal? (d : Disk) (p : Path) : Option DiskFault :=
  let folder := p.parent
  if folder.ancestors.any d.isFile then some (.notFolder folder.text)
  else if d.isFile folder then some (.fileExists folder.text)
  else if (d.exists? p && !d.isFile p) ||
    p.names.isEmpty then some (.isFolder p.text)
  else none

def write (d : Disk) (p : Path) (bytes : ByteArray) : Disk :=
  ⟨(p, .file bytes) :: d.entries.filter fun e => e.1 != p⟩

end Disk

end LedgerSync
