import LedgerSync.Calendar.Moment
import LedgerSync.Proofs.Calendar.Changes

/-!
# Equality of moments

Moments of one region are compared by what the clock shows and others by the
instant, and a skipped or repeated time equals nothing of another zone. With
two rules it is not obvious that equality is transitive. It is:
`same_iff_core_eq` says that equal moments are those with one `core`, which is
the instant of a regular moment and the moment itself otherwise.

What it needs of regions is `Region.wall_eq_of_instant_eq`: clocks that show
different regular times never stand for one instant. This holds whatever the
changes of a region are, as long as they are apart.
-/

namespace LedgerSync

/-- Two local times of one region that are neither skipped nor repeated are
equal when they stand for one instant. -/
theorem Region.wall_eq_of_instant_eq {r : Region} {v w : Wall}
    (hv : r.offsetAt false v = r.offsetAt true v)
    (hw : r.offsetAt false w = r.offsetAt true w)
    (h : (v.ticks : Int) - r.offsetAt false v * ticksPerSecond =
      w.ticks - r.offsetAt false w * ticksPerSecond) : v = w :=
  Wall.ext (ClockChange.ticks_eq_of_instant_eq r.apart hv hw h)

namespace Moment

theorem sameRegion_iff (a b : Moment) :
    a.sameRegion b = true ↔ ∃ r, a.zone = .region r ∧ b.zone = .region r := by
  unfold sameRegion
  cases a.zone with
  | offset _ => simp
  | region r =>
    cases b.zone with
    | offset _ => simp
    | region s =>
      constructor
      · intro h
        exact ⟨s, by rw [beq_iff_eq.1 h], rfl⟩
      · rintro ⟨t, h, h'⟩
        cases h
        cases h'
        exact beq_self_eq_true r

theorem eq_of_wall_eq {a b : Moment} (hr : a.sameRegion b = true)
    (hw : a.wall = b.wall) : a = b := by
  obtain ⟨r, ha, hb⟩ := (sameRegion_iff a b).1 hr
  cases a
  cases b
  cases ha
  cases hb
  cases hw
  rfl

/-- Only regions have skipped and repeated times. -/
theorem sameRegion_self_of_irregular {m : Moment}
    (h : m.zone.isIrregular m.wall = true) : m.sameRegion m = true := by
  cases hz : m.zone with
  | offset _ =>
    rw [hz] at h
    cases h
  | region r => exact (sameRegion_iff m m).2 ⟨r, hz, hz⟩

/-- Two moments of one region that are neither skipped nor repeated are equal
when they stand for one instant. -/
theorem eq_of_instant_eq {a b : Moment} (hr : a.sameRegion b = true)
    (ha : a.zone.isIrregular a.wall = false)
    (hb : b.zone.isIrregular b.wall = false) (h : a.instant = b.instant) :
    a = b := by
  refine eq_of_wall_eq hr ?_
  obtain ⟨r, hza, hzb⟩ := (sameRegion_iff a b).1 hr
  simp only [hza, hzb, Zone.isIrregular, bne_eq_false_iff_eq] at ha hb
  refine Region.wall_eq_of_instant_eq ha hb ?_
  simpa only [instant, offset, hza, hzb, Zone.offsetAt] using h

/-- What equal moments have in common: the instant, or the moment itself when
its local time is skipped or occurs twice. -/
def core (m : Moment) : Int ⊕ Moment :=
  if m.zone.isIrregular m.wall then .inr m else .inl m.instant

/-- Equality of moments is equality of their cores, and so an equivalence. -/
theorem same_iff_core_eq (a b : Moment) :
    a.same b = true ↔ a.core = b.core := by
  by_cases hr : a.sameRegion b = true
  · constructor
    · intro h
      rw [same, if_pos hr, beq_iff_eq] at h
      rw [eq_of_wall_eq hr h]
    · intro h
      have heq : a = b := by
        unfold core at h
        split at h <;> split at h
        · exact Sum.inr.inj h
        · cases h
        · cases h
        · next ha hb =>
          exact eq_of_instant_eq hr (by simpa using ha) (by simpa using hb)
            (Sum.inl.inj h)
      rw [same, if_pos hr, heq, beq_self_eq_true]
  · rw [same, if_neg hr]
    simp only [Bool.and_eq_true, Bool.not_eq_true', beq_iff_eq, and_assoc]
    unfold core
    constructor
    · rintro ⟨h, ha, hb⟩
      simp [ha, hb, h]
    · intro h
      split at h <;> split at h
      · next ha _ =>
        cases Sum.inr.inj h
        exact (hr (sameRegion_self_of_irregular ha)).elim
      · cases h
      · cases h
      · next ha hb => exact ⟨Sum.inl.inj
          h, by simpa using ha, by simpa using hb⟩

end Moment

end LedgerSync
