import LedgerSync.Calendar.Zone

/-!
# The offset after some changes

Local time is placed among the changes of a region by what the clock shows:
`ClockChange.offsetAfter` goes through them in order and stops at the first one
that is still to come. Because one change is over before the next begins
(`ClockChange.areApart`), local time lies before the first change, within it, or
after it, and in the last case only the later changes matter. Every proof here
is an induction along this distinction.

Two facts come out of it. Local times that are neither skipped nor repeated are
told apart by their instants (`ClockChange.ticks_eq_of_instant_eq`). And where
the clock shows less the instant is earlier, unless the earlier showing is
skipped (`ClockChange.instant_lt_of_ticks_lt`). Both compare a time before a
change with one after it, and both get across by the instant of the change:
what lies before it by the clock is earlier than it, and what lies after it is
not (`ClockChange.instant_le_of_shown`).
-/

namespace LedgerSync.ClockChange

variable {before : Int} {c d : ClockChange} {cs : List ClockChange} {v w : Wall}

theorem opens_le_closes (c : ClockChange) (before : Int) :
    c.opens before ≤ c.closes before := by
  simp only [opens, closes]
  omega

theorem areApart_tail (h : areApart before (c :: cs) = true) :
    areApart c.offset cs = true := by
  cases cs with
  | nil => rfl
  | cons d rest =>
    rw [areApart, Bool.and_eq_true] at h
    exact h.2

theorem closes_le_opens (h : areApart before (c :: d :: cs) = true) :
    c.closes before ≤ d.opens c.offset := by
  rw [areApart, Bool.and_eq_true, decide_eq_true_eq] at h
  exact h.1

/-- Changes that are apart by the clock are in the order of time. -/
theorem instant_le_of_mem (h : areApart before (c :: cs) = true) (hd : d ∈ cs) :
    c.instant ≤ d.instant := by
  induction cs generalizing before c with
  | nil => cases hd
  | cons next rest ih =>
    have hnext : c.instant ≤ next.instant := by
      have hle := closes_le_opens h
      simp only [closes, opens] at hle
      omega
    rcases List.mem_cons.1 hd with rfl | hd
    · exact hnext
    · exact Int.le_trans hnext (ih (areApart_tail h) hd)

/-! ## One change at a time -/

theorem offsetAfter_of_lt {second : Bool}
    (h : w.ticks < (if second then c.opens before else c.closes before) *
      ticksPerSecond) :
    offsetAfter second w before (c :: cs) = before := by
  rw [offsetAfter]
  exact if_neg (Int.not_le.2 h)

theorem offsetAfter_of_le {second : Bool}
    (h : (if second then c.opens before else c.closes before) * ticksPerSecond ≤
      w.ticks) :
    offsetAfter second w before (c :: cs) =
      offsetAfter second w c.offset cs := by
  rw [offsetAfter]
  exact if_pos h

/-- While a change takes place, no later one has begun. -/
theorem offsetAfter_during (h : areApart before (c :: cs) = true)
    (hopen : c.opens before * ticksPerSecond ≤ w.ticks)
    (hclosed : w.ticks < c.closes before * ticksPerSecond) :
    offsetAfter true w before (c :: cs) = c.offset := by
  rw [offsetAfter_of_le (by simpa using hopen)]
  cases cs with
  | nil => rfl
  | cons d rest =>
    have hle := closes_le_opens h
    refine offsetAfter_of_lt ?_
    simp only [if_true, ticksPerSecond] at hclosed ⊢
    omega

/-- What the clock shows from an instant on, at the offset in force then, does
not stand for anything earlier. -/
theorem instant_le_of_shown {t : Int} (h : areApart before cs = true)
    (ht : ∀ d ∈ cs, t ≤ d.instant)
    (hshown : (t + before) * ticksPerSecond ≤ w.ticks) :
    t * ticksPerSecond ≤ w.ticks - offsetAfter false w before cs *
    ticksPerSecond := by
  induction cs generalizing before t with
  | nil =>
    rw [offsetAfter]
    simp only [ticksPerSecond] at hshown ⊢
    omega
  | cons c rest ih =>
    by_cases hclosed : c.closes before * ticksPerSecond ≤ w.ticks
    · rw [offsetAfter_of_le (by simpa using hclosed)]
      have hc : (c.instant + c.offset) * ticksPerSecond ≤ w.ticks := by
        simp only [closes, ticksPerSecond] at hclosed ⊢
        omega
      have hlater := ih (areApart_tail h) (fun d hd =>
          instant_le_of_mem h hd) hc
      have htc := ht c List.mem_cons_self
      simp only [ticksPerSecond] at hlater ⊢
      omega
    · rw [offsetAfter_of_lt (by simpa using hclosed)]
      simp only [ticksPerSecond] at hshown ⊢
      omega

/-- After a change, no local time stands for an instant before it. -/
theorem instant_le_of_closed (h : areApart before (c :: cs) = true)
    (hclosed : c.closes before * ticksPerSecond ≤ w.ticks) :
    c.instant * ticksPerSecond ≤
      w.ticks - offsetAfter false w before (c :: cs) * ticksPerSecond := by
  rw [offsetAfter_of_le (by simpa using hclosed)]
  refine instant_le_of_shown (areApart_tail h) (fun d hd =>
    instant_le_of_mem h hd) ?_
  simp only [closes, ticksPerSecond] at hclosed ⊢
  omega

/-! ## Local times and their instants -/

/-- Local time that is neither skipped nor repeated lies before a change or
after it. -/
theorem regular_cases (h : areApart before (c :: cs) = true)
    (hw : offsetAfter false w before (c :: cs) = offsetAfter true w before
      (c :: cs)) :
    (w.ticks < c.opens before * ticksPerSecond ∧
        offsetAfter false w before (c :: cs) = before) ∨
      c.closes before * ticksPerSecond ≤ w.ticks ∧
        offsetAfter false w c.offset cs = offsetAfter true w c.offset cs := by
  have hle := opens_le_closes c before
  by_cases hclosed : c.closes before * ticksPerSecond ≤ w.ticks
  · have hopen : c.opens before * ticksPerSecond ≤ w.ticks := by
      simp only [ticksPerSecond] at hclosed ⊢
      omega
    rw [offsetAfter_of_le (by simpa using hclosed),
      offsetAfter_of_le (by simpa using hopen)] at hw
    exact .inr ⟨hclosed, hw⟩
  · left
    have hoffset : offsetAfter false w before (c :: cs) = before :=
      offsetAfter_of_lt (by simpa using hclosed)
    refine ⟨Int.not_le.1 fun hopen => ?_, hoffset⟩
    rw [hoffset, offsetAfter_during h hopen (Int.not_le.1 hclosed)] at hw
    -- a change to the same offset takes no time
    simp only [opens, closes, ticksPerSecond] at hopen hclosed
    omega

/-- Local times that are neither skipped nor repeated are told apart by their
instants. -/
theorem ticks_eq_of_instant_eq (h : areApart before cs = true)
    (hv : offsetAfter false v before cs = offsetAfter true v before cs)
    (hw : offsetAfter false w before cs = offsetAfter true w before cs)
    (heq : v.ticks - offsetAfter false v before cs * ticksPerSecond =
      w.ticks - offsetAfter false w before cs * ticksPerSecond) :
      v.ticks = w.ticks := by
  induction cs generalizing before with
  | nil =>
    simp only [offsetAfter] at heq
    omega
  | cons c rest ih =>
    rcases regular_cases h hv with ⟨hvopen, hvoffset⟩ | ⟨hvclosed, hvrest⟩ <;>
      rcases regular_cases h hw with ⟨hwopen, hwoffset⟩ | ⟨hwclosed, hwrest⟩
    · rw [hvoffset, hwoffset] at heq
      omega
    · -- one lies before the change and the other one after it
      have hafter := instant_le_of_closed h hwclosed
      rw [← heq, hvoffset] at hafter
      simp only [opens, ticksPerSecond] at hvopen hafter
      omega
    · have hafter := instant_le_of_closed h hvclosed
      rw [heq, hwoffset] at hafter
      simp only [opens, ticksPerSecond] at hwopen hafter
      omega
    · rw [offsetAfter_of_le (by simpa using hvclosed),
        offsetAfter_of_le (by simpa using hwclosed)] at heq
      exact ih (areApart_tail h) hvrest hwrest heq

/-- Where the clock shows less the instant is earlier, unless the local time
that it shows is skipped. -/
theorem instant_lt_of_ticks_lt (h : areApart before cs = true)
    (hv : ¬offsetAfter false v before cs < offsetAfter true v before cs)
    (hvw : v.ticks < w.ticks) :
    v.ticks - offsetAfter false v before cs * ticksPerSecond <
      w.ticks - offsetAfter false w before cs * ticksPerSecond := by
  induction cs generalizing before with
  | nil =>
    simp only [offsetAfter]
    omega
  | cons c rest ih =>
    by_cases hvclosed : c.closes before * ticksPerSecond ≤ v.ticks
    · have hle := opens_le_closes c before
      have hvopen : c.opens before * ticksPerSecond ≤ v.ticks := by
        simp only [ticksPerSecond] at hvclosed ⊢
        omega
      have hwclosed : c.closes before * ticksPerSecond ≤ w.ticks := by omega
      rw [offsetAfter_of_le (by simpa using hvclosed),
        offsetAfter_of_le (by simpa using hvopen)] at hv
      rw [offsetAfter_of_le (by simpa using hvclosed),
        offsetAfter_of_le (by simpa using hwclosed)]
      exact ih (areApart_tail h) hv
    · have hvoffset : offsetAfter false v before (c :: rest) = before :=
        offsetAfter_of_lt (by simpa using hvclosed)
      -- before the change by the clock is before it in time, as the time is not
      -- skipped
      have hbefore : v.ticks - before * ticksPerSecond < c.instant *
      ticksPerSecond := by
        by_cases hvopen : c.opens before * ticksPerSecond ≤ v.ticks
        · rw [hvoffset, offsetAfter_during h hvopen (Int.not_le.1 hvclosed)]
            at hv
          simp only [opens, closes, ticksPerSecond] at hvopen hvclosed ⊢
          omega
        · simp only [opens, ticksPerSecond] at hvopen ⊢
          omega
      rw [hvoffset]
      by_cases hwclosed : c.closes before * ticksPerSecond ≤ w.ticks
      · exact Int.lt_of_lt_of_le hbefore (instant_le_of_closed h hwclosed)
      · rw [offsetAfter_of_lt (by simpa using hwclosed)]
        omega

/-- The offset of local time does not depend on what is finer than a second. -/
theorem offsetAfter_floorTo_second (second : Bool) (w : Wall) :
    offsetAfter second (w.floorTo ticksPerSecond) before cs =
      offsetAfter second w before cs := by
  induction cs generalizing before with
  | nil => rfl
  | cons c rest ih =>
    have hiff : ∀ n : Int, n * ticksPerSecond ≤
        (w.floorTo ticksPerSecond).ticks ↔ n * ticksPerSecond ≤ w.ticks := by
      intro n
      simp only [Wall.floorTo, ticksPerSecond]
      omega
    simp only [offsetAfter, hiff, ih]

end LedgerSync.ClockChange
