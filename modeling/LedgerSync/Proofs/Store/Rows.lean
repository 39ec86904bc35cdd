import LedgerSync.Proofs.Transaction.Derived
import LedgerSync.Sync.Store
import Mathlib.Data.List.Nodup
import Mathlib.Data.List.Perm.Basic

/-!
# The rows of a store after an instruction

Deleting keys filters the rows, and putting a record replaces the row of its key
or adds one. With distinct keys the order of the rows does not matter to either,
so the rows after an instruction are, up to order, the written records and the
rows whose key was neither deleted nor written (`apply_perm`). Applying fails
only where the record of something that is to be written cannot be derived
(`apply_error`).
-/

namespace LedgerSync

namespace Store

/-- No two rows have one id. -/
def HasDistinctIds (s : Store) : Prop := (s.rows.map (·.id)).Nodup

/-- The ids drawn from one count of the supply to another are distinct, and no
row has one of them. -/
structure FreshIds (s : Store) (newId : Nat → String) (drawn drawn' : Nat) :
    Prop where
  distinct : ((List.range' drawn (drawn' - drawn)).map newId).Nodup
  absent : ∀ id ∈ (List.range' drawn (drawn' - drawn)).map newId,
    id ∉ s.rows.map (·.id)

namespace HasDistinctIds

variable {s : Store}

/-- Rows are told apart by their ids. -/
theorem row_eq (hs : s.HasDistinctIds) {r r' : Stored} (hr : r ∈ s.rows)
    (hr' : r' ∈ s.rows) (h : r.id = r'.id) : r = r' :=
  List.inj_on_of_nodup_map hs hr hr' h

theorem rows_nodup (hs : s.HasDistinctIds) : s.rows.Nodup :=
  List.Nodup.of_map _ hs

theorem keys_nodup (hs : s.HasDistinctIds) : (s.rows.map (·.key)).Nodup := by
  have hmap : s.rows.map (·.id) = (s.rows.map (·.key)).map (·.2) := by
    rw [List.map_map]
    rfl
  unfold HasDistinctIds at hs
  rw [hmap] at hs
  exact List.Nodup.of_map _ hs

end HasDistinctIds

/-! ## Deleting and putting -/

theorem foldl_delete_rows (keys : List (Date × String)) (s : Store) :
    (keys.foldl delete s).rows =
      s.rows.filter fun r => decide (r.key ∉ keys) := by
  induction keys generalizing s with
  | nil => simp
  | cons k keys ih =>
    rw [List.foldl_cons, ih, delete, List.filter_filter]
    congr 1
    funext r
    by_cases hr : r.key = k <;> simp [hr]

theorem put_go_perm (r : Stored) (rows : List Stored)
    (h : (rows.map (·.key)).Nodup) :
    (put.go r rows).Perm
      (r :: rows.filter fun x => decide (x.key ≠ r.key)) := by
  induction rows with
  | nil => exact List.Perm.refl _
  | cons old rest ih =>
    rw [List.map_cons, List.nodup_cons] at h
    rw [put.go]
    by_cases hk : old.key = r.key
    · -- keys are distinct, so the key of the replaced row does not come again
      have hrest : rest.filter (fun x => decide (x.key ≠ r.key)) = rest := by
        rw [List.filter_eq_self]
        intro x hx
        rw [decide_eq_true_iff, ← hk]
        intro hxk
        exact h.1 (hxk ▸ List.mem_map_of_mem hx)
      rw [if_pos hk, List.filter_cons_of_neg (by simp [hk]), hrest]
    · rw [if_neg hk, List.filter_cons_of_pos (by simpa using hk)]
      exact ((ih h.2).cons old).trans (List.Perm.swap r old _)

/-- A record that is put replaces the row of its key. -/
theorem put_perm {s : Store} (h : (s.rows.map (·.key)).Nodup) (r : Stored) :
    (s.put r).rows.Perm (r :: s.rows.filter fun x => decide (x.key ≠ r.key)) :=
  put_go_perm r s.rows h

theorem put_keys_nodup {s : Store} (h : (s.rows.map (·.key)).Nodup)
    (r : Stored) :
    ((s.put r).rows.map (·.key)).Nodup := by
  rw [((put_perm h r).map (·.key)).nodup_iff, List.map_cons, List.nodup_cons]
  constructor
  · intro hmem
    obtain ⟨x, hx, hk⟩ := List.mem_map.1 hmem
    simpa [hk] using (List.mem_filter.1 hx).2
  · exact h.sublist (List.filter_sublist.map _)

/-- Records with distinct keys that are put one after the other. -/
theorem foldl_put_perm {s : Store} (h : (s.rows.map (·.key)).Nodup)
    (written : List Stored) (hw : (written.map (·.key)).Nodup) :
    (written.foldl put s).rows.Perm
      (written ++ s.rows.filter fun x =>
        decide (x.key ∉ written.map (·.key))) := by
  induction written generalizing s with
  | nil => simp
  | cons r written ih =>
    rw [List.map_cons, List.nodup_cons] at hw
    -- the record that was put first is one of the rows which the later ones
    -- leave
    refine (ih (put_keys_nodup h r) hw.2).trans ?_
    have hrest :
        ((s.put r).rows.filter fun x =>
          decide (x.key ∉ written.map (·.key))).Perm
        (r :: s.rows.filter fun x =>
          decide (x.key ∉ (r :: written).map (·.key))) := by
      refine ((put_perm h r).filter _).trans ?_
      rw [List.filter_cons_of_pos (by simpa using hw.1), List.filter_filter]
      refine List.Perm.of_eq ?_
      congr 2
      funext x
      by_cases hx : x.key = r.key <;> simp [hx]
    exact (hrest.append_left written).trans List.perm_middle

/-! ## Applying an instruction -/

section Apply

variable {s after : Store} {account : Account} {currency : String}
  {now : DateTime} {i : Instruction}

/-- The record that an assigned member is written as. -/
abbrev WrittenAs (account : Account) (currency : String) (now : DateTime)
    (a : Assigned) (r : Stored) : Prop :=
  a.toStored account currency none now = .ok r

theorem foldlM_put_eq_ok_iff {as : List Assigned} :
    as.foldlM
      (fun s a => return s.put (← a.toStored account currency none now)) s =
        .ok after ↔
      ∃ written, List.Forall₂ (WrittenAs account currency now) as written ∧
        after = written.foldl put s := by
  induction as generalizing s with
  | nil =>
    rw [List.foldlM_nil, pure_eq_ok_iff]
    constructor
    · rintro rfl
      exact ⟨[], .nil, rfl⟩
    · rintro ⟨written, hw, rfl⟩
      rw [List.forall₂_nil_left_iff.1 hw, List.foldl_nil]
  | cons a as ih =>
    rw [List.foldlM_cons, bind_eq_ok_iff]
    constructor
    · rintro ⟨s', ha, h⟩
      obtain ⟨r, hr, ha⟩ := bind_eq_ok_iff.1 ha
      obtain rfl := pure_eq_ok_iff.1 ha
      obtain ⟨written, hw, rfl⟩ := ih.1 h
      exact ⟨r :: written, .cons hr hw, rfl⟩
    · rintro ⟨written, hw, rfl⟩
      obtain ⟨r, rest, hr, hrest, rfl⟩ := List.forall₂_cons_left_iff.1 hw
      exact ⟨s.put r, bind_eq_ok_iff.2 ⟨r, hr, rfl⟩, ih.2 ⟨rest, hrest, rfl⟩⟩

theorem foldlM_put_error {as : List Assigned} {f : Failure}
    (h : as.foldlM
      (fun s a => return s.put (← a.toStored account currency none now)) s =
        .error f) :
    ∃ a ∈ as, a.toStored account currency none now = .error f := by
  induction as generalizing s with
  | nil => cases h
  | cons a as ih =>
    rw [List.foldlM_cons] at h
    cases ha : a.toStored account currency none now with
    | error f' =>
      rw [ha] at h
      cases h
      exact ⟨a, List.mem_cons_self, ha⟩
    | ok r =>
      rw [ha] at h
      obtain ⟨b, hb, hf⟩ := ih h
      exact ⟨b, List.mem_cons_of_mem _ hb, hf⟩

/-- Applying fails where something to be written has no record. -/
theorem apply_error {f : Failure}
    (h : s.apply account currency now i = .error f) :
    ∃ a ∈ i.toUpsert, a.toStored account currency none now = .error f :=
  foldlM_put_error h

/-- What has been written is found under the ids that were assigned. -/
theorem written_ids {as : List Assigned} {written : List Stored}
    (h : List.Forall₂ (WrittenAs account currency now) as written) :
    written.map (·.id) = as.map (·.id) := by
  induction h with
  | nil => rfl
  | cons hr _ ih =>
    rw [List.map_cons, List.map_cons, ih, (Reported.toStored_identity hr).1]

theorem written_keys {as : List Assigned} {written : List Stored}
    (h : List.Forall₂ (WrittenAs account currency now) as written) :
    written.map (·.key) = as.map fun a => (a.member.record.date, a.id) := by
  induction h with
  | nil => rfl
  | cons hr _ ih =>
    obtain ⟨hid, hdate, -⟩ := Reported.toStored_identity hr
    rw [List.map_cons, List.map_cons, ih, Stored.key, hid, hdate]

/-- The rows after an instruction: what it wrote, and the rows that it neither
deleted nor wrote over. -/
theorem apply_perm (hs : s.HasDistinctIds)
    (hids : (i.toUpsert.map (·.id)).Nodup)
    (h : s.apply account currency now i = .ok after) :
    ∃ written,
      List.Forall₂ (WrittenAs account currency now) i.toUpsert written ∧
      after.rows.Perm (written ++ s.rows.filter fun r =>
        decide (r.key ∉ i.toDelete.map (·.record.key) ∧
          r.key ∉ written.map (·.key))) := by
  obtain ⟨written, hw, rfl⟩ := foldlM_put_eq_ok_iff.1 h
  refine ⟨written, hw, ?_⟩
  have hkeys : (written.map (·.key)).Nodup := by
    rw [← written_ids hw] at hids
    refine List.Nodup.of_map (·.2) ?_
    rw [List.map_map]
    exact hids
  have hrows := foldl_delete_rows (i.toDelete.map (·.record.key)) s
  refine (foldl_put_perm ?_ written hkeys).trans ?_
  · rw [hrows]
    exact hs.keys_nodup.sublist (List.filter_sublist.map _)
  · rw [hrows, List.filter_filter]
    refine List.Perm.append_left written (List.Perm.of_eq ?_)
    congr 1
    funext r
    rw [← Bool.decide_and]
    simp only [and_comm]

end Apply

end Store

end LedgerSync
