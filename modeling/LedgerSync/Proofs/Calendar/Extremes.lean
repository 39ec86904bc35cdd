import LedgerSync.Calendar.Date
import Mathlib.Data.List.Perm.Basic
import Mathlib.Logic.Basic

/-!
# The earliest and the latest of some dates

Dates are ordered linearly, so the earliest date of a list is the one that is in
the list and after none of its dates (`Date.earliest?_eq_some_iff`), and
likewise the latest one. Neither depends on the order in which the dates are
listed (`Date.earliest?_perm`, `Date.latest?_perm`).
-/

namespace LedgerSync.Date

variable {ds ds' : List Date} {d : Date}

/-- Dates are told apart by their counts of days. -/
theorem eq_iff {a b : Date} : a = b ↔ a.days = b.days := by
  constructor
  · rintro rfl
    rfl
  · obtain ⟨n, _⟩ := a
    obtain ⟨m, _⟩ := b
    rintro (rfl : n = m)
    rfl

instance : Std.IsLinearOrder Date where
  le_refl a := Nat.le_refl a.days
  le_trans _ _ _ h h' := Nat.le_trans (le_iff.1 h) (le_iff.1 h')
  le_antisymm _ _ h h' := eq_iff.2 (Nat.le_antisymm (le_iff.1 h) (le_iff.1 h'))
  le_total a b := Nat.le_total a.days b.days

instance : Std.LawfulOrderMin Date where
  min_eq_or a b := ite_eq_or_eq (a ≤ b) a b
  le_min_iff a b c := by
    show a ≤ (if b ≤ c then b else c) ↔ _
    split <;> simp only [le_iff] at * <;> omega

instance : Std.LawfulOrderMax Date where
  max_eq_or a b := (ite_eq_or_eq (a ≤ b) b a).symm
  max_le_iff a b c := by
    show (if a ≤ b then b else a) ≤ c ↔ _
    split <;> simp only [le_iff] at * <;> omega

theorem earliest?_eq_min? (ds : List Date) : earliest? ds = ds.min? := by
  cases ds <;> rfl

theorem latest?_eq_max? (ds : List Date) : latest? ds = ds.max? := by
  cases ds <;> rfl

theorem earliest?_eq_some_iff :
    earliest? ds = some d ↔ d ∈ ds ∧ ∀ d' ∈ ds, d ≤ d' := by
  rw [earliest?_eq_min?]
  exact List.min?_eq_some_iff

theorem latest?_eq_some_iff :
    latest? ds = some d ↔ d ∈ ds ∧ ∀ d' ∈ ds, d' ≤ d := by
  rw [latest?_eq_max?]
  exact List.max?_eq_some_iff

/-- Some dates have an earliest one. -/
theorem exists_earliest? (h : ds ≠ []) : ∃ d, earliest? ds = some d := by
  cases ds with
  | nil => exact (h rfl).elim
  | cons d ds => exact ⟨_, rfl⟩

/-- Some dates have a latest one. -/
theorem exists_latest? (h : ds ≠ []) : ∃ d, latest? ds = some d := by
  cases ds with
  | nil => exact (h rfl).elim
  | cons d ds => exact ⟨_, rfl⟩

theorem earliest?_mem (h : earliest? ds = some d) : d ∈ ds :=
  (earliest?_eq_some_iff.1 h).1

theorem latest?_mem (h : latest? ds = some d) : d ∈ ds :=
  (latest?_eq_some_iff.1 h).1

theorem earliest?_perm (h : ds.Perm ds') : earliest? ds = earliest? ds' := by
  ext d
  simp only [earliest?_eq_some_iff, h.mem_iff]

theorem latest?_perm (h : ds.Perm ds') : latest? ds = latest? ds' := by
  ext d
  simp only [latest?_eq_some_iff, h.mem_iff]

/-- Adding days adds to the count of days. -/
theorem days_of_addDays? {d d' : Date} {n : Int} (h : d.addDays? n = some d') :
    (d'.days : Int) = d.days + n := by
  unfold addDays? at h
  dsimp only at h
  split at h
  · next hrange =>
    obtain rfl := Option.some.inj h
    show (((d.days : Int) + n).toNat : Int) = d.days + n
    omega
  · cases h

end LedgerSync.Date
