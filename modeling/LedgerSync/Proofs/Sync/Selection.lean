import LedgerSync.Proofs.Drawing
import LedgerSync.Sync.Store

/-!
# The rows a sync looks at

The window of stored transactions is made of rows of the store, each at most
once, and selecting it draws no ids (`selectStoredWindow_spec`, and
`drawsNone_selectStoredWindow` for any loader). Which rows it holds does not
matter to what is proved about a sync: the others are left alone.
-/

namespace LedgerSync

open Run

variable {s : Store} {settings : SyncSettings} {provider : String}
  {batch : List (Member Reported)} {j j' : Journal}

theorem Member.ofList_records {α : Type} (records : List α) :
    (Member.ofList records).map (·.record) = records := by
  rw [ofList, List.map_map]
  exact List.zipIdx_map_fst 0 records

theorem Store.since_rows_sublist (s : Store) (date : Date) :
    ((s.since date).map (·.record)).Sublist s.rows := by
  have hsub := (List.filter_sublist (l := Member.ofList s.rows)
    (p := fun m => decide (date ≤ m.record.date))).map (·.record)
  rw [Member.ofList_records] at hsub
  exact hsub

/-- The rows that are loaded from a day on include all that are not dated before
it. -/
theorem Store.mem_since_of_le (s : Store) {date : Date} {r : Stored}
    (hr : r ∈ s.rows) (hle : date ≤ r.date) :
    r ∈ (s.since date).map (·.record) := by
  rw [← Member.ofList_records s.rows] at hr
  obtain ⟨e, he, rfl⟩ := List.mem_map.1 hr
  exact List.mem_map_of_mem (List.mem_filter.2 ⟨he, decide_eq_true hle⟩)

namespace StoredWindow

theorem pruned_sublist (loaded : List (Member Stored)) :
    (pruned settings provider batch loaded).1.Sublist loaded := by
  unfold pruned
  split
  · split
    · exact List.Sublist.refl _
    · exact List.filter_sublist
  · exact List.Sublist.refl _

theorem kept_sublist (earliest : Moment) (keepIds : List String)
    (stored : List (Member Stored)) :
    (sort earliest keepIds stored).kept.Sublist stored := by
  unfold sort
  dsimp only
  induction stored with
  | nil => exact List.Sublist.slnil
  | cons m stored ih =>
    rw [List.map_cons, List.filterMap_cons]
    cases place earliest keepIds m.record with
    | kept => exact ih.cons_cons m
    | keptOnDate => exact ih.cons_cons m
    | evicted reason => exact ih.cons m

end StoredWindow

/-- A selection that returned asked for the rows from a day on, and sorted those
that are not left out. -/
theorem selectStoredWindow_steps {load : Loader}
    {selection : StoredWindow.Selection}
    (h : Returns (selectStoredWindow settings provider batch load) j
    selection j') :
    ∃ earliest since loaded j₁,
    Moment.earliest? (batch.map (·.record.dateTime)) = some earliest ∧
      earliest.date.addDays? (-settings.dateBackoffDays) = some since ∧
      Returns (load since) { j with asked := j.asked ++ [since] } loaded j₁ ∧
      j'.drawn = j₁.drawn ∧
      selection = StoredWindow.sort earliest
        (StoredWindow.keepIds settings provider batch)
        (StoredWindow.pruned settings provider batch loaded).1 := by
  unfold selectStoredWindow at h
  split at h
  case h_2 => exact (not_returns_throw h).elim
  next earliest hearliest =>
  split at h
  case h_2 => exact (not_returns_throw h).elim
  next since hsince =>
  simp only [returns_bind, returns_ask, returns_noteAll, returns_pure] at h
  obtain ⟨_, _, rfl, loaded, j₁, hload, _, _, rfl, rfl, rfl⟩ := h
  exact ⟨earliest, since, loaded, j₁, hearliest, hsince, hload, rfl, rfl⟩

/-- Selecting the stored window draws no id, when loading draws none. -/
theorem drawsNone_selectStoredWindow (settings : SyncSettings)
    (provider : String) (batch : List (Member Reported)) {load : Loader}
    (hload : ∀ date, DrawsNone (load date)) :
    DrawsNone (selectStoredWindow settings provider batch load) := by
  unfold selectStoredWindow
  split
  · split
    · refine .bind (fun _ => rfl) fun _ => .bind (hload _) fun loaded => ?_
      exact .bind (drawsNone_noteAll _) fun _ => drawsNone_pure _
    · exact drawsNone_throw _
  · exact drawsNone_throw _

/-- The selected transactions are rows of the store, and no id is drawn for
them. -/
theorem selectStoredWindow_spec {selection : StoredWindow.Selection}
    (h : Returns (selectStoredWindow settings provider batch fun date => pure
      (s.since date)) j selection j') :
    (selection.kept.map (·.record)).Sublist s.rows ∧ j'.drawn = j.drawn := by
  obtain ⟨_, since, _, _, -, -, hload, hdrawn, rfl⟩ :=
    selectStoredWindow_steps h
  obtain ⟨rfl, rfl⟩ := returns_pure.1 hload
  refine ⟨?_, hdrawn⟩
  refine List.Sublist.trans ?_ (s.since_rows_sublist since)
  exact ((StoredWindow.kept_sublist _ _ _).trans
    (StoredWindow.pruned_sublist _)).map _

end LedgerSync
