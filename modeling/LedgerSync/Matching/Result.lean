import LedgerSync.Matching.Attribute

/-!
# Match results

A round of matching leaves every transaction in one of three places: paired with
one of the other side, tied to several of them, or unmatched with a reason. A
later verdict replaces an earlier one only if it weighs as much.

A chain of results grows by rounds that neither lose nor invent a transaction.
All of them are kept, because the report on a chain shows how it came to its
result.
-/

namespace LedgerSync.Matching

/-- Why a transaction is not matched. -/
inductive Reason
  | unprocessed
  | rejected
  | duplicate
  | peerless
  deriving DecidableEq, Repr

namespace Reason

def all : List Reason := [.unprocessed, .rejected, .duplicate, .peerless]

/-- How definite the verdict is. A transaction that has been compared and found
alone is known best, one that could not be compared hardly. -/
def weight : Reason → Nat
  | .unprocessed => 0
  | .rejected => 1
  | .duplicate => 2
  | .peerless => 3

def word : Reason → String
  | .unprocessed => "UNPROCESSED"
  | .rejected => "REJECTED"
  | .duplicate => "DUPLICATE"
  | .peerless => "PEERLESS"

def heavier (a b : Reason) : Bool := b.weight < a.weight

def atMost (a b : Reason) : Bool := a.weight ≤ b.weight

end Reason

/-- The matcher that is named for transactions which no matcher has looked
at. -/
def bootstrap : String := "bootstrap"

/-- One reported transaction paired with one stored one. -/
structure Matched where
  matcher : String
  reported : Member Reported
  stored : Member Stored
  attributes : Key
  deriving DecidableEq, Repr

/-- One reported transaction tied to several stored ones. The matchers of this
library make no ties, but results have room for them. -/
structure MultiMatched where
  matcher : String
  reported : Member Reported
  stored : List (Member Stored)
  attributes : Key
  deriving DecidableEq, Repr

/-- A tie needs at least two stored transactions and at least one attribute. -/
def MultiMatched.make (matcher : String) (reported : Member Reported)
    (stored : List (Member Stored)) (attributes : Key) :
    Except Failure MultiMatched :=
  if stored.length < 2 then .error (.argument .multiMatchTooSmall)
  else if attributes.isEmpty then .error
    (.argument .multiMatchWithoutAttributes)
  else .ok ⟨matcher, reported, stored, attributes⟩

/-- A transaction without counterpart, and why. -/
structure Unmatched (α : Type) where
  matcher : String
  transaction : α
  attributes : Key
  reason : Reason
  deriving DecidableEq, Repr

/-- A verdict of a matcher rests on at least one attribute. -/
def Unmatched.make (matcher : String) (transaction : α) (attributes : Key)
    (reason : Reason) : Except Failure (Unmatched α) :=
  if attributes.isEmpty && reason != .unprocessed then
    .error (.argument (.verdictWithoutAttributes reason.word))
  else .ok ⟨matcher, transaction, attributes, reason⟩

/-- A transaction that no matcher has looked at. -/
def Unmatched.untouched (transaction : α) : Unmatched α :=
  ⟨bootstrap, transaction, [], .unprocessed⟩

/-- What a round of matching leaves. -/
structure MatchResult where
  matched : List Matched
  multiMatched : List MultiMatched
  unmatchedReported : List (Unmatched (Member Reported))
  unmatchedStored : List (Unmatched (Member Stored))
  deriving DecidableEq, Repr

namespace MatchResult

/-- The result before the first round. -/
def start (reported : List (Member Reported)) (stored : List (Member Stored)) :
    MatchResult :=
  ⟨[], [], reported.map .untouched, stored.map .untouched⟩

/-- The transactions of the result: those of pairs, then of ties, then the
unmatched ones. -/
def transactions (r : MatchResult) : List (Member Reported ⊕ Member Stored) :=
  (r.matched.flatMap fun m => [.inl m.reported, .inr m.stored]) ++
  (r.multiMatched.flatMap fun m => .inl m.reported :: m.stored.map .inr) ++
  (r.unmatchedReported.map fun u => .inl u.transaction) ++
  (r.unmatchedStored.map fun u => .inr u.transaction)

def count (r : MatchResult) : Nat :=
  r.matched.length * 2 + r.multiMatched.length +
    (r.multiMatched.flatMap (·.stored)).length +
  r.unmatchedReported.length + r.unmatchedStored.length

/-- Whether a transaction is left without counterpart, so that another matcher
has something to do. -/
def hasUnmatched (r : MatchResult) : Bool :=
  !(r.unmatchedReported.isEmpty && r.unmatchedStored.isEmpty)

/-- The reported transactions that are unmatched for a reason. -/
def reportedFor (r : MatchResult) (reason : Reason) :
    List (Unmatched (Member Reported)) :=
  r.unmatchedReported.filter fun u => u.reason == reason

/-- The stored transactions that are unmatched for a reason. -/
def storedFor (r : MatchResult) (reason : Reason) :
    List (Unmatched (Member Stored)) :=
  r.unmatchedStored.filter fun u => u.reason == reason

end MatchResult

/-- The results of a chain of rounds. There is always a last one, which is what
the next round starts from. -/
structure MatchResults where
  earlier : List MatchResult
  last : MatchResult
  deriving DecidableEq, Repr

namespace MatchResults

def of (first : MatchResult) : MatchResults := ⟨[], first⟩

def ofList (results : List MatchResult) : Except Failure MatchResults :=
  match results.getLast? with
  | none => .error (.argument .emptyChain)
  | some last => .ok ⟨results.dropLast, last⟩

def toList (c : MatchResults) : List MatchResult := c.earlier ++ [c.last]

def length (c : MatchResults) : Nat := c.earlier.length + 1

/-- Appends the result of the next round, which must hold as many transactions
as the last one. So a matcher that drops one is noticed at once. -/
def append (c : MatchResults) (result : MatchResult) (matcher : Option String) :
    Except Failure MatchResults :=
  if result.count = c.last.count then .ok ⟨c.earlier ++ [c.last], result⟩
  else .error (.chain matcher result.count c.last.count)

end MatchResults

end LedgerSync.Matching
