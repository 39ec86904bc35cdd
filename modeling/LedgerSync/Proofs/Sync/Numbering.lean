import LedgerSync.Sync.StoredWindow
import Mathlib.Data.List.Nodup

/-!
# Numbered batches

Some banks number the transactions of an account. The bound below which the
window leaves rows out is the lowest number of a batch whose numbers have no
gaps, and no other batch has a bound (`StoredWindow.pruningBound_eq_ok_iff`).
None of the transactions of a batch is below its bound.
-/

namespace LedgerSync.StoredWindow

variable {provider : String} {batch : List (Member Reported)}

/-- Some transaction of the batch has the number as its external id. -/
def Numbers (batch : List (Member Reported)) (k : Int) : Prop :=
  ∃ m ∈ batch, integerId? m.record.externalId = some k

/-- All transactions of the batch have numbers, and the numbers have no gaps. -/
structure Numbered (batch : List (Member Reported)) : Prop where
  integer : ∀ m ∈ batch, ∃ k, integerId? m.record.externalId = some k
  noGap : ∀ a b k, Numbers batch a → Numbers batch b → a ≤ k → k ≤ b →
    Numbers batch k

/-- Every number between the ends is needed. The count of ids is then large
enough, whatever repeats there are among them. -/
theorem isContiguous_iff {lowest highest : Int} {ids : List Int}
    (hle : lowest ≤ highest) :
    isContiguous lowest highest ids = true ↔ ∀ k, lowest ≤ k → k ≤ highest →
    k ∈ ids := by
  rw [isContiguous, Bool.and_eq_true, decide_eq_true_iff, List.all_eq_true]
  simp only [List.mem_range, List.contains_iff_mem]
  constructor
  · rintro ⟨-, hall⟩ k hlow hhigh
    have hmem := hall (k - lowest).toNat (by omega)
    rwa [show lowest + ((k - lowest).toNat : Int) = k by omega] at hmem
  · intro hall
    have hrange : ∀ i < (highest - lowest).toNat + 1,
        lowest + (i : Int) ∈ ids :=
      fun i hi => hall _ (by omega) (by omega)
    have hnodup : ((List.range ((highest - lowest).toNat + 1)).map
        fun i : Nat =>
        lowest + (i : Int)).Nodup :=
      List.nodup_range.map fun a b h => Int.ofNat.inj (Int.add_left_cancel h)
    have hsubset : ((List.range ((highest - lowest).toNat + 1)).map
        fun i : Nat =>
        lowest + (i : Int)) ⊆ ids := by
      intro k hk
      obtain ⟨i, hi, rfl⟩ := List.mem_map.1 hk
      exact hrange i (List.mem_range.1 hi)
    have hlength := hnodup.length_le_of_subset hsubset
    rw [List.length_map, List.length_range] at hlength
    exact ⟨hlength, hrange⟩

/-- A computation that succeeds for all elements gives all their results. -/
theorem mapM_eq_some_iff {α β : Type} {f : α → Option β} {as : List α}
    {bs : List β} : as.mapM f = some bs ↔ as.map f = bs.map some := by
  induction as generalizing bs with
  | nil => cases bs <;> simp
  | cons a as ih =>
    simp only [List.mapM_cons, Option.bind_eq_bind, Option.bind_eq_some_iff,
      Option.pure_def, Option.some.injEq]
    constructor
    · rintro ⟨b, hb, rest, hrest, rfl⟩
      rw [List.map_cons, List.map_cons, hb, ih.1 hrest]
    · intro h
      cases bs with
      | nil => cases h
      | cons b bs =>
        obtain ⟨hb, hbs⟩ := List.cons.inj h
        exact ⟨b, hb, bs, ih.2 hbs, rfl⟩

theorem exists_of_mapM_eq_some {α β : Type} {f : α → Option β} {as : List α}
    {bs : List β} (h : as.mapM f = some bs) {a : α} (ha : a ∈ as) :
    ∃ b ∈ bs, f a = some b := by
  have hmem : f a ∈ bs.map some := mapM_eq_some_iff.1 h ▸ List.mem_map_of_mem ha
  obtain ⟨b, hb, heq⟩ := List.mem_map.1 hmem
  exact ⟨b, hb, heq.symm⟩

/-- The numbers of a batch, when all of its external ids are integers. -/
theorem numbers_iff_mem {ids : List Int} {k : Int}
    (h : (batch.mapM fun m => integerId? m.record.externalId) = some ids) :
    Numbers batch k ↔ k ∈ ids := by
  have hmem : some k ∈ batch.map (fun m => integerId? m.record.externalId) ↔
      some k ∈ ids.map some := by
    rw [mapM_eq_some_iff.1 h]
  simpa [Numbers] using hmem

theorem exists_mapM_of_integer
    (h : ∀ m ∈ batch, ∃ k, integerId? m.record.externalId = some k) :
    ∃ ids, (batch.mapM fun m => integerId? m.record.externalId) = some ids := by
  refine ⟨batch.map fun m => (integerId? m.record.externalId).getD 0,
    mapM_eq_some_iff.2 ?_⟩
  rw [List.map_map]
  refine List.map_congr_left fun m hm => ?_
  obtain ⟨k, hk⟩ := h m hm
  rw [Function.comp_apply, hk, Option.getD_some]

/-- The lowest of the ids is the least number of the batch. -/
theorem foldl_min_eq_iff {n lowest : Int} {ns : List Int}
    (h : (batch.mapM fun m => integerId? m.record.externalId) =
      some (n :: ns)) : ns.foldl min n = lowest ↔
      Numbers batch lowest ∧ ∀ k, Numbers batch k → lowest ≤ k := by
  simp only [numbers_iff_mem h]
  rw [← List.min?_eq_some_iff, List.min?_cons', Option.some.injEq]

/-- Between the lowest and the highest of the ids every number is there when the
batch has no gaps. -/
theorem isContiguous_iff_numbered {n : Int} {ns : List Int}
    (h : (batch.mapM fun m => integerId? m.record.externalId) =
      some (n :: ns)) :
    isContiguous (ns.foldl min n) (ns.foldl max n) (n :: ns) = true ↔
    Numbered batch := by
  obtain ⟨hmin, hminle⟩ : ns.foldl min n ∈ n :: ns ∧ ∀ k ∈ n :: ns,
      ns.foldl min n ≤ k :=
    List.min?_eq_some_iff.1 List.min?_cons'
  obtain ⟨hmax, hlemax⟩ : ns.foldl max n ∈ n :: ns ∧ ∀ k ∈ n :: ns,
      k ≤ ns.foldl max n :=
    List.max?_eq_some_iff.1 List.max?_cons'
  rw [isContiguous_iff (hminle _ hmax)]
  constructor
  · intro hall
    refine ⟨fun m hm => ?_, fun a b k ha hb hak hkb => ?_⟩
    · obtain ⟨k, -, hk⟩ := exists_of_mapM_eq_some h hm
      exact ⟨k, hk⟩
    · rw [numbers_iff_mem h] at ha hb ⊢
      exact hall k (Int.le_trans (hminle a ha) hak)
        (Int.le_trans hkb (hlemax b hb))
  · intro hnumbered k hlow hhigh
    rw [← numbers_iff_mem h] at hmin hmax ⊢
    exact hnumbered.noGap _ _ k hmin hmax hlow hhigh

/-- The bound is the lowest number of a batch that is numbered without gaps;
there is none for any other batch. -/
theorem pruningBound_eq_ok_iff {lowest : Int} :
    pruningBound provider batch = .ok lowest ↔
      Numbered batch ∧ Numbers batch lowest ∧ ∀ k, Numbers batch k →
      lowest ≤ k := by
  cases hids : batch.mapM fun m => integerId? m.record.externalId with
  | none =>
    simp only [pruningBound, hids, reduceCtorEq, false_iff]
    rintro ⟨hnumbered, -⟩
    obtain ⟨ids, h⟩ := exists_mapM_of_integer hnumbered.integer
    rw [hids] at h
    cases h
  | some ids =>
    cases ids with
    | nil =>
      simp only [pruningBound, hids, reduceCtorEq, false_iff]
      rintro ⟨-, hlowest, -⟩
      cases (numbers_iff_mem hids).1 hlowest
    | cons n ns =>
      rw [← isContiguous_iff_numbered hids, ← foldl_min_eq_iff hids]
      simp only [pruningBound, hids]
      split
      next hgap => simp [hgap]
      next hgap => simp [hgap]

/-- Some number of a numbered batch is the lowest one. -/
theorem Numbered.exists_pruningBound (hne : batch ≠ []) (h : Numbered batch) :
    ∃ lowest, pruningBound provider batch = .ok lowest := by
  obtain ⟨ids, hids⟩ := exists_mapM_of_integer h.integer
  cases ids with
  | nil =>
    obtain ⟨m, hm⟩ := List.exists_mem_of_ne_nil _ hne
    obtain ⟨k, hk, -⟩ := exists_of_mapM_eq_some hids hm
    cases hk
  | cons n ns =>
    exact ⟨_, pruningBound_eq_ok_iff.2 ⟨h, (foldl_min_eq_iff hids).1 rfl⟩⟩

/-- No reported id is below the bound. -/
theorem isBelow_of_pruningBound {bound : Int}
    (h : pruningBound provider batch = .ok bound) {m : Member Reported}
    (hm : m ∈ batch) : isBelow bound m.record.externalId = false := by
  obtain ⟨hnumbered, -, hle⟩ := pruningBound_eq_ok_iff.1 h
  obtain ⟨k, hk⟩ := hnumbered.integer m hm
  have hbound := hle k ⟨m, hm, hk⟩
  rw [isBelow, hk, Option.any_some, decide_eq_false_iff_not]
  omega

end LedgerSync.StoredWindow
