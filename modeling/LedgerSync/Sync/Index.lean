import LedgerSync.Transaction.View

/-!
# An index of a reported batch

The members of a batch are kept in slots with a flag that tells which are still
live. Two multimaps lead from external ids and from signed amounts to slots.
Taking a member out clears one flag and erases the slot from both maps, so that
every slot is matched at most once.

Membership is by key: a record that is listed twice occupies two slots, and the
earlier one is taken first. Slots are never moved, so the order of the batch can
be told from an index at any time.
-/

namespace LedgerSync

/-- A map from keys to lists of slots. No list is empty, so a key is there as
long as a slot is filed under it. -/
structure Multimap (κ : Type) where
  buckets : List (κ × List Nat)
  deriving DecidableEq, Repr

namespace Multimap

variable {κ : Type} [DecidableEq κ]

def empty : Multimap κ := ⟨[]⟩

/-- The slots filed under a key, in the order in which they were added. -/
def slots (m : Multimap κ) (k : κ) : List Nat := (m.buckets.lookup k).getD []

/-- Files a slot under a key; a new key goes last. -/
def add (m : Multimap κ) (k : κ) (slot : Nat) : Multimap κ := ⟨go m.buckets⟩
where
  go : List (κ × List Nat) → List (κ × List Nat)
    | [] => [(k, [slot])]
    | (k', slots) :: rest => if k' = k then (k', slots ++ [slot]) :: rest
    else (k', slots) :: go rest

/-- Erases a slot from its key, and the key with its last slot; none if it is
not filed there. -/
def erase? (m : Multimap κ) (k : κ) (slot : Nat) : Option (Multimap κ) :=
  (go m.buckets).map (⟨·⟩)
where
  go : List (κ × List Nat) → Option (List (κ × List Nat))
    | [] => none
    | (k', slots) :: rest =>
      if k' = k then
        if slot ∈ slots then
          match slots.erase slot with
          | [] => some rest
          | left => some ((k', left) :: rest)
        else none
      else (go rest).map ((k', slots) :: ·)

end Multimap

/-- One slot of an index: a member of the batch and its signed amount in cents,
which is worked out once. -/
structure Slot where
  member : Member Reported
  cents : Int
  deriving DecidableEq, Repr

/-- An index of a reported batch. -/
structure Index where
  arena : List Slot
  live : List Bool
  byExternalId : Multimap (Option String)
  byCents : Multimap Int
  duplicateIds : Nat
  missingIds : Nat
  deriving DecidableEq, Repr

namespace Index

/-- Whether an external id is there and not blank. -/
def isUsableId (id : Option String) : Bool := id.any Text.hasContent

/-- The slots of a batch; fails at the first amount that has no value in
cents. -/
def fill (batch : List (Member Reported)) : Except Failure (List Slot) :=
  batch.mapM fun m => do return ⟨m, ← m.record.cents⟩

/-- The index of a list of slots, all live. The counters describe the batch as
it came: how many members share their id with another one, and how many have
none. -/
def ofSlots (arena : List Slot) : Index :=
  let numbered := arena.zipIdx
  let byExternalId := numbered.foldl
    (fun m s => m.add s.1.member.record.externalId s.2) Multimap.empty
  let byCents := numbered.foldl (fun m s => m.add s.1.cents s.2) Multimap.empty
  { arena, byExternalId, byCents
    live := arena.map fun _ => true
    duplicateIds := ((byExternalId.buckets.filter fun b =>
      isUsableId b.1 && 1 < b.2.length).flatMap (·.2)).length
    missingIds := (arena.filter fun s =>
      !isUsableId s.member.record.externalId).length }

def ofBatch (batch : List (Member Reported)) : Except Failure Index := do
  return ofSlots (← fill batch)

def isLive (x : Index) (slot : Nat) : Bool := x.live[slot]?.getD false

def membersAt (x : Index) (slots : List Nat) : List (Member Reported) :=
  slots.filterMap fun s => x.arena[s]?.map (·.member)

/-- The live members in batch order. -/
def members (x : Index) : List (Member Reported) :=
  ((x.arena.zip x.live).filter (·.2)).map (·.1.member)

def size (x : Index) : Nat := (x.live.filter id).length

/-- The live members with an external id; none for a blank one. -/
def withExternalId (x : Index) (id : Option String) : List (Member Reported) :=
  if isUsableId id then x.membersAt (x.byExternalId.slots id) else []

/-- The live members with a signed amount. -/
def withCents (x : Index) (cents : Int) : List (Member Reported) :=
  x.membersAt (x.byCents.slots cents)

/-- The live members grouped by external id. -/
def groups (x : Index) : List (Option String × List (Member Reported)) :=
  x.byExternalId.buckets.map fun b => (b.1, x.membersAt b.2)

/-- The slots of a record, live or not. -/
def slotsOf (x : Index) (m : Member Reported) : List Nat :=
  (x.arena.zipIdx.filter fun s => s.1.member.key == m.key).map (·.2)

/-- The first live slot of a record, which is the one that it is taken out
of. -/
def firstLiveSlot? (x : Index) (m : Member Reported) : Option Nat :=
  (x.slotsOf m).find? x.isLive

/-- Whether a record still has a live slot. -/
def contains (x : Index) (m : Member Reported) : Bool :=
  (x.firstLiveSlot? m).isSome

/-- Takes a record out of its earliest live slot. -/
def remove (x : Index) (m : Member Reported) : Except Failure Index := do
  if (x.slotsOf m).isEmpty then throw (.index (.notListed m.record.label))
  let some slot := x.firstLiveSlot?
    m | throw (.index (.alreadyRemoved m.record.label))
  let some entry := x.arena[slot]? | throw .noSuchKey
  let some byExternalId :=
    x.byExternalId.erase? entry.member.record.externalId slot
    | throw .noSuchKey
  let some byCents := x.byCents.erase? entry.cents slot | throw .noSuchKey
  return { x with live := x.live.set slot false, byExternalId, byCents }

end Index

end LedgerSync
