import LedgerSync.Matching.Provider

/-!
# Running a chain of matchers

The matchers of a provider run one after the other, each on what the one before
left, until nothing is unmatched. Strict matchers come first, so that what they
can tell for certain is out of the way when a more lenient one looks at the
rest.

Every round must hold as many transactions as the one before. A matcher that
loses or invents one is noticed here, and the reconciliation stops before
anything is written.
-/

namespace LedgerSync.Matching

/-- Only booked transactions take part: a pending one may still change in any of
its parts. -/
def requireBooked [Viewable α] (side : Side) (ts : List α) :
    Except Failure Unit :=
  if ts.all fun t => (view t).status == .booked then .ok ()
  else .error (.argument (.notBooked side))

/-- One round of a chain. A matcher is skipped when nothing is left to match,
and the chain does not grow then. -/
def extend (results : MatchResults) (m : Matcher) : Run MatchResults :=
  if results.last.hasUnmatched then do
    let result ← m.run results.last
    Run.ofExcept (results.append result (some m.name))
  else do
    Run.log .debug .chain s!"Nothing left to match, skipping matcher {m.name}"
    return results

/-- Runs the chain of a provider over booked transactions. -/
def Provider.reconcile (p : Provider) (reported : List (Member Reported))
    (stored : List (Member Stored)) : Run MatchResults := do
  Run.ofExcept (requireBooked .reported reported)
  Run.ofExcept (requireBooked .stored stored)
  p.matchers.foldlM extend (.of (.start reported stored))

end LedgerSync.Matching
