import LedgerSync.Journal
import LedgerSync.Matching.Result
import LedgerSync.Matching.Selector

/-!
# Matchers

A matcher is one round of matching. Its selectors give every unmatched
transaction a key. A transaction with an unusable attribute is rejected; one
whose key occurs again on its own side is a duplicate; one whose key occurs on
both sides, once on each, is matched; any other is peerless.

Rejections and duplicates do not replace a heavier verdict of an earlier round:
a transaction that was compared and found alone is not forgotten when a later
matcher cannot look at it. Pairs of earlier rounds are not looked at again.
-/

namespace LedgerSync.Matching

/-- A matcher with the selectors that form its key. There is at least one, so no
key is empty. -/
structure Matcher where
  name : String
  selectors : List Selector
  selectors_ne_nil : selectors ≠ []

namespace Matcher

/-- A matcher needs at least one selector. -/
def make (name : String) (selectors : List Selector) : Except Failure Matcher :=
  if h : selectors ≠ [] then .ok ⟨name, selectors, h⟩
  else .error (.configuration (.matcherWithoutSelectors name))

/-- The matcher without the field's own selectors. A selector that was made of
the field's one is another selector, and stays. -/
def without (m : Matcher) (suffix : String) (field : Field) :
    Except Failure Matcher :=
  let kept := m.selectors.filter fun s => s.own != some field
  if kept.length = m.selectors.length then
    .error (.configuration (.selectorNotUsed m.name field.name))
  else make s!"{m.name}-{suffix}" kept

theorem selectors_of_without {m m' : Matcher} {suffix : String} {f : Field}
    (h : m.without suffix f = .ok m') :
    m'.selectors = m.selectors.filter fun s => s.own != some f := by
  unfold without make at h
  dsimp only at h
  split at h
  · cases h
  · split at h
    · obtain rfl := Except.ok.inj h
      rfl
    · cases h

def label (m : Matcher) : String :=
  s!"EqualityAttributeTransactionMatcher({m.name})"

/-- The key of a view, and whether all of it is usable. Every selector is asked,
also after one that finds its attribute unusable. -/
def keyOf (m : Matcher) (v : View) : Except Failure (Key × Bool) := do
  let results ← m.selectors.mapM fun s => s.select v
  return (Key.ofList (results.map (·.1)), ← allUsable (results.map (·.2)))

/-- An unmatched transaction with the key that the matcher gives it. -/
structure Keyed (α : Type) where
  entry : Unmatched α
  key : Key
  deriving DecidableEq, Repr

/-- A verdict of this round. -/
def verdict (m : Matcher) (k : Keyed α) (reason : Reason) :
    Except Failure (Unmatched α) :=
  Unmatched.make m.name k.entry.transaction k.key reason

/-- The heavier of the verdict carried over and that of this round; this round
wins a tie. So what is known about a transaction is not forgotten. -/
def carry (m : Matcher) (k : Keyed α) (reason : Reason) :
    Except Failure (Unmatched α) :=
  if k.entry.reason.atMost reason then m.verdict k reason else .ok k.entry

/-- Splits entries into those with a usable key and those rejected. -/
def splitUsable [Viewable α] (m : Matcher) :
    List (Unmatched α) → Except Failure (List (Keyed α) × List (Unmatched α))
  | [] => .ok ([], [])
  | entry :: rest => do
    let (key, usable) ← m.keyOf (view entry.transaction)
    if usable then
      let (keyed, rejected) ← splitUsable m rest
      return (⟨entry, key⟩ :: keyed, rejected)
    else
      let verdict ← m.carry ⟨entry, key⟩ .rejected
      let (keyed, rejected) ← splitUsable m rest
      return (keyed, verdict :: rejected)

/-- The entries that share the key of `k`. -/
def group (keyed : List (Keyed α)) (k : Key) : List (Keyed α) :=
  keyed.filter fun other => k.same other.key

/-- One entry per key, the first: it stands for all entries of its key. -/
def representatives : List (Keyed α) → List (Keyed α)
  | [] => []
  | k :: rest => k :: (representatives rest).filter fun other =>
  !k.key.same other.key

/-- The entries whose key occurs once on their side. -/
def uniques (keyed : List (Keyed α)) : List (Keyed α) :=
  (representatives keyed).filter fun k => (group keyed k.key).length == 1

/-- The entries whose key occurs more than once on their side, key by key. -/
def repeated (keyed : List (Keyed α)) : List (Keyed α) :=
  ((representatives keyed).filter fun k => (group keyed k.key).length !=
    1).flatMap fun k => group keyed k.key

/-- The entry of a list with a key. -/
def find? (keyed : List (Keyed α)) (k : Key) : Option (Keyed α) :=
  keyed.find? fun other => k.same other.key

structure Round where
  matched : List Matched
  reportedPeerless : List (Unmatched (Member Reported))
  reportedRejected : List (Unmatched (Member Reported))
  reportedDuplicate : List (Unmatched (Member Reported))
  storedPeerless : List (Unmatched (Member Stored))
  storedRejected : List (Unmatched (Member Stored))
  storedDuplicate : List (Unmatched (Member Stored))
  deriving DecidableEq, Repr

/-- Matches what the last round left unmatched. -/
def round (m : Matcher) (previous : MatchResult) : Except Failure Round := do
  let (reported, reportedRejected) ← m.splitUsable previous.unmatchedReported
  let (stored, storedRejected) ← m.splitUsable previous.unmatchedStored
  let reportedDuplicate ← (repeated reported).mapM (m.carry · .duplicate)
  let storedDuplicate ← (repeated stored).mapM (m.carry · .duplicate)
  let reportedUnique := uniques reported
  let storedUnique := uniques stored
  let matched := reportedUnique.filterMap fun k =>
    (find? storedUnique k.key).map fun s =>
    ⟨m.name, k.entry.transaction, s.entry.transaction, k.key⟩
  let reportedPeerless ← (reportedUnique.filter fun k =>
    (find? storedUnique k.key).isNone).mapM (m.verdict · .peerless)
  let storedPeerless ← (storedUnique.filter fun k =>
    (find? reportedUnique k.key).isNone).mapM (m.verdict · .peerless)
  return { matched, reportedPeerless, reportedRejected, reportedDuplicate,
           storedPeerless, storedRejected, storedDuplicate }

/-- The result of a round after the one before. Earlier matches stay, and what
is unmatched is what the round left. -/
def Round.after (r : Round) (previous : MatchResult) : MatchResult := {
  matched := previous.matched ++ r.matched
  multiMatched := previous.multiMatched
  unmatchedReported := r.reportedPeerless ++ r.reportedRejected ++
  r.reportedDuplicate
  unmatchedStored := r.storedPeerless ++ r.storedRejected ++ r.storedDuplicate }

def apply (m : Matcher) (previous : MatchResult) :
    Except Failure MatchResult := do
  return (← m.round previous).after previous

/-- What is logged about a round. -/
def summary (m : Matcher) (r : Round) : String :=
  s!"Matcher {m.name}: {r.matched.length} matched, " ++
  s!"upstream {r.reportedPeerless.length} peerless / {r.reportedRejected.length} rejected / " ++
  s!"{r.reportedDuplicate.length} duplicate, " ++
  s!"stored {r.storedPeerless.length} peerless / {r.storedRejected.length} rejected / " ++
  s!"{r.storedDuplicate.length} duplicate"

/-- Matches and logs. -/
def run (m : Matcher) (previous : MatchResult) : Run MatchResult := do
  let r ← Run.ofExcept (m.round previous)
  Run.log .debug .matchers (m.summary r)
  return r.after previous

end Matcher

end LedgerSync.Matching
