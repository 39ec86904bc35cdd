import LedgerSync.Matching.Interval
import LedgerSync.Proofs.Calendar.Extremes

/-!
# How intervals lie

The relation of two intervals is found by a ladder of tests whose order matters
where an interval is a single day. Said by the ends alone (`Relation.Holds`), a
single day at an end of another interval meets it or is met by it, so that
whatever starts or finishes another interval is longer than a day. The ladder
finds a relation that holds (`Interval.relationTo_holds`), and no two relations
hold at once, so the relation that is found is the one that holds
(`Interval.relationTo_eq_iff`). A relation holds exactly when its converse holds
the other way round, and so the ladder finds converse relations from the two
sides (`Interval.relationTo_eq_converse`).

An interval leads into another one when it begins before it, or is the first day
of a longer one (`Interval.LeadsInto`). That is so for five of the relations
(`Relation.Holds.leadsInto_iff`).
-/

namespace LedgerSync.Matching

/-- How the ends of two intervals lie where the first has a relation to the
second. -/
def Relation.Holds (r : Relation) (x y : Interval) : Prop :=
  match r with
  | .precedes => x.stop < y.start
  | .precededBy => y.stop < x.start
  | .meets => x.stop = y.start ∧ ¬(x.start = y.start ∧ x.stop = y.stop)
  | .metBy => x.start = y.stop ∧ ¬(x.start = y.start ∧ x.stop = y.stop)
  | .overlaps => x.start < y.start ∧ y.start < x.stop ∧ x.stop < y.stop
  | .overlappedBy => y.start < x.start ∧ x.start < y.stop ∧ y.stop < x.stop
  | .starts => x.start = y.start ∧ x.start < x.stop ∧ x.stop < y.stop
  | .startedBy => x.start = y.start ∧ y.start < y.stop ∧ y.stop < x.stop
  | .during => y.start < x.start ∧ x.stop < y.stop
  | .contains => x.start < y.start ∧ y.stop < x.stop
  | .finishes => y.start < x.start ∧ x.start < x.stop ∧ x.stop = y.stop
  | .finishedBy => x.start < y.start ∧ y.start < y.stop ∧ x.stop = y.stop
  | .equal => x.start = y.start ∧ x.stop = y.stop

namespace Interval

variable {x y : Interval}

/-- An interval is longer than a day when it does not end where it begins. -/
theorem one_lt_days_iff (x : Interval) : 1 < x.days ↔ x.start < x.stop := by
  have hle := Date.le_iff.1 x.start_le_stop
  rw [days, Date.lt_iff]
  omega

/-- The relation that is found holds. -/
theorem relationTo_holds (x y : Interval) : (x.relationTo y).Holds x y := by
  have hx := Date.le_iff.1 x.start_le_stop
  have hy := Date.le_iff.1 y.start_le_stop
  fun_cases relationTo x y
  -- the tests that failed before rule out single days at an end
  all_goals
    simp only [Relation.Holds, Date.eq_iff, Date.lt_iff] at *
    omega

end Interval

/-- A relation holds when its converse holds the other way round. -/
theorem Relation.holds_converse_iff {r : Relation} {x y : Interval} :
    r.converse.Holds y x ↔ r.Holds x y := by
  cases r with
  | precedes | precededBy | overlaps | overlappedBy | during | contains =>
    exact Iff.rfl
  | meets | metBy | starts | startedBy | finishes | finishedBy | equal =>
    -- the same conditions, with equal ends named from the other side
    simp only [converse, Holds, Date.eq_iff, Date.lt_iff]
    omega

/-- Two intervals lie to each other in one way only. -/
theorem Relation.Holds.unique {r s : Relation} {x y : Interval}
    (hr : r.Holds x y) (hs : s.Holds x y) : r = s := by
  have hx := Date.le_iff.1 x.start_le_stop
  have hy := Date.le_iff.1 y.start_le_stop
  by_contra hne
  cases r <;> cases s
  all_goals
    simp only [Holds, Date.eq_iff, Date.lt_iff] at hr hs
    first | exact hne rfl | omega

namespace Interval

/-- The relation that is found is the one that holds. -/
theorem relationTo_eq_iff {r : Relation} :
    x.relationTo y = r ↔ r.Holds x y := by
  constructor
  · rintro rfl
    exact relationTo_holds x y
  · exact fun h => (relationTo_holds x y).unique h

/-- Each of two intervals lies to the other in the converse way. What is left
when every test of the ladder has failed is an interval that begins before
another one and ends with it; the other one is longer than a day, since a last
day alone is met. -/
theorem relationTo_eq_converse (x y : Interval) :
    y.relationTo x = (x.relationTo y).converse ∧
      (x.relationTo y = .finishedBy ↔ x.start < y.start ∧ y.start < y.stop ∧
        x.stop = y.stop) :=
  ⟨relationTo_eq_iff.2 (Relation.holds_converse_iff.2 (relationTo_holds x y)),
    relationTo_eq_iff⟩

/-- The first day of an interval does not start it but meets it. -/
example : relationTo ⟨⟨3, by decide⟩, ⟨3, by decide⟩, by decide⟩
    ⟨⟨3, by decide⟩, ⟨5, by decide⟩, by decide⟩ = .meets := by decide

/-- The interval begins before another one, or is the first day of a longer
one. -/
def LeadsInto (x y : Interval) : Prop :=
  x.start < y.start ∨ x.start = x.stop ∧ x.stop = y.start ∧ y.start < y.stop

end Interval

/-- The relations of an interval that leads into another one. -/
theorem Relation.Holds.leadsInto_iff {r : Relation} {x y : Interval}
    (h : r.Holds x y) :
    x.LeadsInto y ↔ r ∈
    [.precedes, .meets, .overlaps, .contains, .finishedBy] := by
  have hx := Date.le_iff.1 x.start_le_stop
  have hy := Date.le_iff.1 y.start_le_stop
  unfold Interval.LeadsInto
  cases r
  all_goals
    simp only [Relation.Holds, Date.eq_iff, Date.lt_iff, List.mem_cons,
      List.not_mem_nil, reduceCtorEq,
      or_false, or_true, iff_true, iff_false] at *
    omega

/-- An interval that comes after another one does not begin before its end. -/
theorem Relation.Holds.stop_le_start {r : Relation} {x y : Interval}
    (h : r.Holds x y) (hr : r = .precededBy ∨ r = .metBy) :
    ¬x.start < y.stop := by
  rcases hr with rfl | rfl
  all_goals
    simp only [Relation.Holds, Date.eq_iff, Date.lt_iff] at *
    omega

/-- An interval that ends before another one ends, and does not come before it,
begins before its end. -/
theorem Relation.Holds.start_lt_stop {r : Relation} {x y : Interval}
    (h : r.Holds x y) (hr : r = .starts ∨ r = .during) : x.start < y.stop := by
  have hx := Date.le_iff.1 x.start_le_stop
  rcases hr with rfl | rfl
  all_goals
    simp only [Relation.Holds, Date.eq_iff, Date.lt_iff] at *
    omega

end LedgerSync.Matching
