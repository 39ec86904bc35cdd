import LedgerSync.Proofs.Calendar.SameMoment

/-!
# The order of moments

Within one region moments are ordered by what the clock shows, and otherwise by
the instant. Where the clock shows less the instant is earlier too
(`Region.instant_lt_of_wall_lt`), with one exception: a skipped time takes the
offset before the change, so part of it stands for later instants than the
times after the change, which the clock shows later. Of a list in which no
skipped time overtakes another moment in this way, the earliest moment is the
one whose instant is before none of the others
(`Moment.instant_le_of_earliest?`).

Cutting a moment to the second cuts its local time. As long as the offset has
no fraction of a second the instant is cut to the second too
(`Moment.toSeconds_instant`); otherwise it may come out later than the second
of the instant, and `Moment.CutsBack` says when it does not.
-/

namespace LedgerSync

namespace Region

/-- Whether local time is left out when the clocks are put forward. -/
def isSkipped (r : Region) (w : Wall) : Bool :=
  r.offsetAt false w < r.offsetAt true w

/-- The instant of local time, in microseconds. -/
def instant (r : Region) (w : Wall) : Int :=
  (w.ticks : Int) - r.offsetAt false w * ticksPerSecond

/-- Of two times of one region, the one that the clock shows first is the
earlier one, unless it is skipped. -/
theorem instant_lt_of_wall_lt {r : Region} {v w : Wall}
    (hv : r.isSkipped v = false) (hvw : v.ticks < w.ticks) :
    r.instant v < r.instant w :=
  ClockChange.instant_lt_of_ticks_lt r.apart (of_decide_eq_false hv) hvw

end Region

namespace Moment

/-- Whether the local time is left out when the clocks of its region are put
forward. -/
def isSkipped (m : Moment) : Bool :=
  match m.zone with
  | .offset _ => false
  | .region r => r.isSkipped m.wall

/-- A skipped time stands before another time of its region by the clock, and
after it in time. -/
structure Overtakes (a b : Moment) : Prop where
  skipped : a.isSkipped = true
  sameRegion : a.sameRegion b = true
  shown : a.wall.ticks < b.wall.ticks
  later : b.instant < a.instant

variable {a b m u : Moment} {ms : List Moment}

theorem not_overtakes_of_regular (h : a.isSkipped = false) (b : Moment) :
    ¬a.Overtakes b :=
  fun ho => Bool.false_ne_true (h.symm.trans ho.skipped)

/-- The order by the clock is that by the instant where nothing overtakes. -/
theorem instant_le_of_wall_lt (h : ¬a.Overtakes b) (hr : a.sameRegion b = true)
    (hw : a.wall.ticks < b.wall.ticks) : a.instant ≤ b.instant := by
  cases hs : a.isSkipped with
  | true => exact Int.not_lt.1 fun hlt => h ⟨hs, hr, hw, hlt⟩
  | false =>
    obtain ⟨r, ha, hb⟩ := (sameRegion_iff a b).1 hr
    rw [isSkipped, ha] at hs
    have hlt := Region.instant_lt_of_wall_lt hs hw
    rw [instant, instant, offset, offset, ha, hb]
    exact Int.le_of_lt hlt

theorem instant_le_of_earlier (h : ¬a.Overtakes b) (hab : a.earlier b = true) :
    a.instant ≤ b.instant := by
  unfold earlier at hab
  split at hab
  · next hr => exact instant_le_of_wall_lt h hr (of_decide_eq_true hab)
  · exact Int.le_of_lt (of_decide_eq_true hab)

theorem instant_le_of_not_earlier (h : ¬b.Overtakes a)
    (hab : ¬a.earlier b = true) : b.instant ≤ a.instant := by
  unfold earlier at hab
  split at hab
  · next hr =>
    rw [decide_eq_true_iff, Nat.not_lt] at hab
    obtain ⟨r, ha, hb⟩ := (sameRegion_iff a b).1 hr
    have hr' : b.sameRegion a = true := (sameRegion_iff b a).2 ⟨r, hb, ha⟩
    rcases Nat.lt_or_eq_of_le hab with hlt | heq
    · exact instant_le_of_wall_lt h hr' hlt
    · exact Int.le_of_eq (congrArg instant (eq_of_wall_eq hr' (Wall.ext heq)))
  · rw [decide_eq_true_iff] at hab
    exact Int.not_lt.1 hab

/-- The earliest moment of a list is one of them, and no instant is before
it. -/
theorem instant_le_of_earliest? (h : earliest? ms = some u)
    (hms : ∀ a ∈ ms, ∀ b ∈ ms, ¬a.Overtakes b) :
    u ∈ ms ∧ ∀ m ∈ ms, u.instant ≤ m.instant := by
  cases ms with
  | nil => cases h
  | cons m ms =>
    obtain rfl := Option.some.inj h
    clear h
    induction ms generalizing m with
    | nil => exact ⟨List.mem_cons_self, fun m' hm' =>
      (List.mem_singleton.1 hm') ▸ Int.le_refl _⟩
    | cons x ms ih =>
      rw [List.foldl_cons]
      -- the better one of the first two stands for both
      obtain ⟨best, hbest, hone, hbx, hbm⟩ :
          ∃ best, (if x.earlier m = true then x else m) = best ∧
          (best = x ∨ best = m) ∧ best.instant ≤ x.instant ∧
          best.instant ≤ m.instant := by
        have hm : m ∈ m :: x :: ms := List.mem_cons_self
        have hx : x ∈ m :: x :: ms := List.mem_cons_of_mem _ List.mem_cons_self
        by_cases hlt : x.earlier m = true
        · exact ⟨x, if_pos hlt, .inl rfl, Int.le_refl _,
            instant_le_of_earlier (hms x hx m hm) hlt⟩
        · exact ⟨m, if_neg hlt, .inr rfl,
            instant_le_of_not_earlier (hms m hm x hx) hlt, Int.le_refl _⟩
      rw [hbest]
      have hsub : best :: ms ⊆ m :: x :: ms := by
        rcases hone with rfl | rfl
        · exact List.subset_cons_self _ _
        · exact List.cons_subset_cons _ (List.subset_cons_self _ _)
      obtain ⟨hmem, hrest⟩ :=
        ih best fun a ha b hb => hms a (hsub ha) b (hsub hb)
      refine ⟨hsub hmem, ?_⟩
      intro m' hm'
      rcases List.mem_cons.1 hm' with rfl | hm'
      · exact Int.le_trans (hrest best List.mem_cons_self) hbm
      · rcases List.mem_cons.1 hm' with rfl | hm'
        · exact Int.le_trans (hrest best List.mem_cons_self) hbx
        · exact hrest m' (List.mem_cons_of_mem _ hm')

/-! ## Whole seconds -/

/-- The offset of local time does not depend on what is finer than a second. -/
theorem toSeconds_offset (m : Moment) : m.toSeconds.offset = m.offset := by
  obtain ⟨wall, zone⟩ := m
  cases zone with
  | offset ticks => rfl
  | region r =>
    exact congrArg (· * (ticksPerSecond : Int))
      (ClockChange.offsetAfter_floorTo_second false wall)

/-- Whether a moment that is cut to the second is no later than the second of
its instant: what its offset has beyond whole seconds is no more than what its
local time has. -/
def CutsBack (m : Moment) : Prop :=
  m.offset % ticksPerSecond ≤ (m.wall.ticks : Int) % ticksPerSecond

instance (m : Moment) : Decidable m.CutsBack :=
  inferInstanceAs (Decidable (_ ≤ _))

theorem CutsBack.of_seconds (h : (ticksPerSecond : Int) ∣ m.offset) :
    m.CutsBack := by
  rw [CutsBack, Int.emod_eq_zero_of_dvd h]
  exact Int.emod_nonneg _ (by decide)

/-- The offsets of regions are whole seconds. -/
theorem CutsBack.of_region {r : Region} (h : m.zone = .region r) :
    m.CutsBack := by
  refine .of_seconds ?_
  rw [offset, h]
  exact Int.dvd_mul_left _ _

/-- What `CutsBack` says, in terms of instants. -/
theorem cutsBack_iff (m : Moment) :
    m.CutsBack ↔ m.toSeconds.instant ≤ m.instant / ticksPerSecond *
    ticksPerSecond := by
  rw [CutsBack, instant, toSeconds_offset, instant]
  simp only [toSeconds, Wall.floorTo, ticksPerSecond]
  omega

/-- At an offset of whole seconds, cutting local time to the second cuts the
instant to the second. -/
theorem toSeconds_instant (h : (ticksPerSecond : Int) ∣ m.offset) :
    m.toSeconds.instant = m.instant / ticksPerSecond * ticksPerSecond := by
  rw [instant, toSeconds_offset, instant]
  simp only [toSeconds, Wall.floorTo, ticksPerSecond] at h ⊢
  omega

end Moment

end LedgerSync
