import LedgerSync.Proofs.Store.Rows

/-!
# Plans

Both ways of reconciling decide row by row. A row of the store is dropped,
ignored, updated in its place, or moved to another date, and everything but
dropping is done for a reported transaction. A `Plan` lists rows with their
fates. An instruction carries out a plan when its lists are read off the plan,
with some transactions inserted under fresh ids beside
(`Instruction.CarriesOut`).

Whatever such an instruction is applied to, rows outside the plan and ignored
rows stay, all others are replaced by what was written
(`CarriesOut.apply_perm`), and ids stay distinct
(`CarriesOut.apply_hasDistinctIds`). That is the only place where deleting
before writing matters: a row that is deleted and written again under its key is
gone when the new one is put.
-/

namespace LedgerSync

/-! ## Fates and plans -/

/-- What becomes of a row of the store. -/
inductive Fate
  | dropped
  | ignored (m : Member Reported)
  | updated (m : Member Reported) (deletedFirst : Bool)
  | moved (m : Member Reported)

namespace Fate

/-- The reported transaction for which the row is kept or written. -/
def member? : Fate → Option (Member Reported)
  | .dropped => none
  | .ignored m | .updated m _ | .moved m => some m

/-- Whether the row is deleted, be it that it is written again. -/
def isDeleted : Fate → Bool
  | .dropped | .moved _ => true
  | .ignored _ => false
  | .updated _ deletedFirst => deletedFirst

/-- Whether the row stays as it is. -/
def isIgnored : Fate → Bool
  | .ignored _ => true
  | _ => false

/-- Whether the row is written under its date. -/
def isUpdated : Fate → Bool
  | .updated .. => true
  | _ => false

/-- Whether the row is written under another date. -/
def isMoved : Fate → Bool
  | .moved _ => true
  | _ => false

theorem isIgnored_of_isDeleted {f : Fate} (h : f.isDeleted = true) :
    f.isIgnored = false := by
  cases f with
  | ignored => cases h
  | _ => rfl

theorem isIgnored_of_isUpdated {f : Fate} (h : f.isUpdated = true) :
    f.isIgnored = false := by
  cases f with
  | ignored => cases h
  | _ => rfl

theorem isIgnored_of_isMoved {f : Fate} (h : f.isMoved = true) :
    f.isIgnored = false := by
  cases f with
  | ignored => cases h
  | _ => rfl

theorem isDeleted_of_member? {f : Fate} (h : f.member? = none) :
    f.isDeleted = true := by
  cases f with
  | dropped => rfl
  | _ => cases h

/-- What a fate presupposes: an ignored row has the content of the derived
record, and an updated row has its date. -/
def Suits (s : Stored) : Fate → Prop
  | .ignored m => ∃ fillKind createdAt now d,
      m.record.toStored ⟨s.userId, s.accountId⟩ s.id s.currency fillKind
        createdAt now = .ok d ∧ d.same s = .ok true
  | .updated m _ => m.record.date = s.date
  | _ => True

end Fate

/-- A row and its fate. -/
structure Planned where
  row : Member Stored
  fate : Fate

/-- The reported transaction of a row under the row's id. -/
def Planned.assigned? (e : Planned) : Option Assigned :=
  e.fate.member?.map fun m => ⟨m, e.row.record.id, .regular⟩

theorem Planned.id_of_assigned? {e : Planned} {a : Assigned}
    (h : e.assigned? = some a) :
    a.id = e.row.record.id := by
  obtain ⟨m, -, rfl⟩ := Option.map_eq_some_iff.1 h
  rfl

/-- Rows with their fates. -/
abbrev Plan := List Planned

namespace Plan

/-- The rows of a plan. -/
def rows (p : Plan) : List Stored := p.map (·.row.record)

/-- The rows that are deleted. -/
def deletes (p : Plan) : List (Member Stored) :=
  (p.filter (·.fate.isDeleted)).map (·.row)

/-- The rows that stay. -/
def kept (p : Plan) : List Stored := rows (p.filter (·.fate.isIgnored))

/-- The transactions whose rows have fates of some kind, under the ids of the
rows. -/
def select (kind : Fate → Bool) (p : Plan) : List Assigned :=
  (p.filter fun e => kind e.fate).filterMap (·.assigned?)

/-- All transactions that keep an id of the store. -/
def assigned (p : Plan) : List Assigned := p.filterMap (·.assigned?)

/-- The transactions of a plan. -/
def members (p : Plan) : List (Member Reported) := p.filterMap (·.fate.member?)

@[simp] theorem deletes_append (p q : Plan) :
    deletes (p ++ q) = deletes p ++ deletes q := by
  simp [deletes]

@[simp] theorem select_append (kind : Fate → Bool) (p q : Plan) :
    select kind (p ++ q) = select kind p ++ select kind q := by
  simp [select]

@[simp] theorem members_append (p q : Plan) :
    members (p ++ q) = members p ++ members q :=
  List.filterMap_append

theorem mem_deletes {p : Plan} {m : Member Stored} :
    m ∈ deletes p ↔ ∃ e ∈ p, e.fate.isDeleted = true ∧ e.row = m := by
  simp [deletes, List.mem_map, List.mem_filter, and_assoc]

theorem mem_kept {p : Plan} {r : Stored} :
    r ∈ kept p ↔ ∃ e ∈ p, e.fate.isIgnored = true ∧ e.row.record = r := by
  simp [kept, rows, List.mem_map, List.mem_filter, and_assoc]

theorem mem_select {kind : Fate → Bool} {p : Plan} {a : Assigned} :
    a ∈ select kind p ↔ ∃ e ∈ p, kind e.fate = true ∧ e.assigned? = some a := by
  simp [select, List.mem_filterMap, List.mem_filter, and_assoc]

theorem assigned_members (p : Plan) :
    (assigned p).map (·.member) = members p := by
  rw [assigned, members, List.map_filterMap]
  congr 1
  funext e
  simp [Planned.assigned?, Option.map_map, Function.comp_def]

/-- What keeps an id is moved, updated or ignored. -/
theorem select_perm_assigned (p : Plan) :
    (select Fate.isMoved p ++ select Fate.isUpdated p ++ select
      Fate.isIgnored p).Perm
      (assigned p) := by
  induction p with
  | nil => exact List.Perm.refl _
  | cons e p ih =>
    rcases e with ⟨s, _ | m | ⟨m, b⟩ | m⟩
    · exact ih
    · exact List.perm_middle.trans (ih.cons ⟨m, s.record.id, .regular⟩)
    · have hmiddle : (select Fate.isMoved p ++ ⟨m, s.record.id, .regular⟩ ::
          select Fate.isUpdated p).Perm (⟨m, s.record.id, .regular⟩ ::
            (select Fate.isMoved p ++ select Fate.isUpdated p)) :=
              List.perm_middle
      exact (hmiddle.append_right _).trans (ih.cons _)
    · exact ih.cons ⟨m, s.record.id, .regular⟩

/-- Where rows are deleted only to be moved, what is moved keeps the ids of what
is deleted. -/
theorem moved_ids {p : Plan}
    (h : ∀ e ∈ p, e.fate.isDeleted = true → e.fate.isMoved = true) :
    (select Fate.isMoved p).map (·.id) = (deletes p).map (·.record.id) := by
  induction p with
  | nil => rfl
  | cons e p ih =>
    have hrest := ih fun e' he' => h e' (List.mem_cons_of_mem e he')
    have hfirst := h e List.mem_cons_self
    rcases e with ⟨s, _ | m | ⟨m, _ | _⟩ | m⟩
    · cases hfirst rfl
    · exact hrest
    · exact hrest
    · cases hfirst rfl
    · exact congrArg (List.cons s.record.id) hrest

/-- The ids that are kept are ids of rows, each at most once. -/
theorem assigned_ids_sublist (p : Plan) :
    ((assigned p).map (·.id)).Sublist ((rows p).map (·.id)) := by
  induction p with
  | nil => exact List.Sublist.slnil
  | cons e p ih =>
    rcases e with ⟨s, _ | m | ⟨m, b⟩ | m⟩
    · exact ih.cons s.record.id
    · exact ih.cons_cons s.record.id
    · exact ih.cons_cons s.record.id
    · exact ih.cons_cons s.record.id

theorem kept_sublist (p : Plan) : (kept p).Sublist (rows p) :=
  List.filter_sublist.map (fun e : Planned => e.row.record)

theorem ignored_ids (p : Plan) :
    (select Fate.isIgnored p).map (·.id) = (kept p).map (·.id) := by
  induction p with
  | nil => rfl
  | cons e p ih =>
    rcases e with ⟨s, _ | m | ⟨m, b⟩ | m⟩
    · exact ih
    · exact congrArg (List.cons s.record.id) ih
    · exact ih
    · exact ih

end Plan

/-- The lists that have been built so far are those of a plan for the rows that
have been seen. -/
structure Plan.Tracks (p : Plan) (seen toDelete : List (Member Stored))
    (moved updated ignored : List Assigned) : Prop where
  seen : p.map (·.row) = seen
  suits : ∀ e ∈ p, e.fate.Suits e.row.record
  toDelete : toDelete = p.deletes
  moved : moved = p.select Fate.isMoved
  updated : updated = p.select Fate.isUpdated
  ignored : ignored = p.select Fate.isIgnored

namespace Plan.Tracks

variable {p q : Plan} {seen seen' toDelete toDelete' : List (Member Stored)}
  {moved moved' updated updated' ignored ignored' : List Assigned}

theorem nil : Plan.Tracks [] [] [] [] [] [] :=
  ⟨rfl, fun _ he => absurd he List.not_mem_nil, rfl, rfl, rfl, rfl⟩

theorem append (h : p.Tracks seen toDelete moved updated ignored)
    (h' : q.Tracks seen' toDelete' moved' updated' ignored') :
    Plan.Tracks (p ++ q) (seen ++ seen') (toDelete ++ toDelete')
      (moved ++ moved')
      (updated ++ updated') (ignored ++ ignored') where
  seen := by rw [List.map_append, h.seen, h'.seen]
  suits e he := (List.mem_append.1 he).elim (h.suits e) (h'.suits e)
  toDelete := by rw [h.toDelete, h'.toDelete, Plan.deletes_append]
  moved := by rw [h.moved, h'.moved, Plan.select_append]
  updated := by rw [h.updated, h'.updated, Plan.select_append]
  ignored := by rw [h.ignored, h'.ignored, Plan.select_append]

/-- One more row with a fate that suits it. -/
theorem single {s : Member Stored} {f : Fate} (hf : f.Suits s.record) :
    Plan.Tracks [⟨s, f⟩] [s] (Plan.deletes [⟨s, f⟩])
      (Plan.select Fate.isMoved [⟨s, f⟩])
      (Plan.select Fate.isUpdated [⟨s, f⟩])
        (Plan.select Fate.isIgnored [⟨s, f⟩]) where
  seen := rfl
  suits e he := by
    rw [List.mem_singleton] at he
    rw [he]
    exact hf
  toDelete := rfl
  moved := rfl
  updated := rfl
  ignored := rfl

theorem rows_eq (h : p.Tracks seen toDelete moved updated ignored) :
    p.rows = seen.map (·.record) := by
  rw [← h.seen, List.map_map]
  rfl

end Plan.Tracks

/-! ## Instructions that carry out a plan -/

/-- Everything that an instruction writes or leaves as it is. -/
def Instruction.named (i : Instruction) : List Assigned :=
  i.toInsert ++ i.toUpdate ++ i.toIgnore

/-- An instruction made of the lists of a plan names the transactions of the
plan and those that are inserted beside. -/
theorem Plan.named_perm {i : Instruction} {p : Plan} {fresh : List Assigned}
    (hinsert : i.toInsert = p.select Fate.isMoved ++ fresh)
    (hupdate : i.toUpdate = p.select Fate.isUpdated)
    (hignore : i.toIgnore = p.select Fate.isIgnored) :
    i.named.Perm (p.assigned ++ fresh) := by
  rw [Instruction.named, hinsert, hupdate, hignore, List.append_assoc,
    List.append_assoc]
  refine List.Perm.trans ?_ ((Plan.select_perm_assigned p).append_right fresh)
  rw [List.append_assoc, List.append_assoc]
  refine List.Perm.append_left _ ?_
  rw [← List.append_assoc (p.select Fate.isUpdated)]
  exact List.perm_append_comm

/-- The rows of a store without some of them. -/
def Store.without (s : Store) (rows : List Stored) : List Stored :=
  s.rows.filter fun r => decide (r ∉ rows)

theorem Store.mem_without {s : Store} {rows : List Stored} {r : Stored} :
    r ∈ s.without rows ↔ r ∈ s.rows ∧ r ∉ rows := by
  rw [without, List.mem_filter, decide_eq_true_iff]

theorem Store.not_mem_of_mem_without {s : Store} {rows : List Stored}
    {r : Stored} (h : r ∈ s.without rows) : r ∉ rows := (mem_without.1 h).2

/-- The instruction does with the rows of a store what the plan says, and
inserts some transactions under ids that are not in the store. -/
structure Instruction.CarriesOut (i : Instruction) (s : Store) (p : Plan)
    (fresh : List Assigned) :
    Prop where
  rows : p.rows.Subperm s.rows
  suits : ∀ e ∈ p, e.fate.Suits e.row.record
  toDelete : i.toDelete = p.deletes
  toInsert : i.toInsert = p.select Fate.isMoved ++ fresh
  toUpdate : i.toUpdate = p.select Fate.isUpdated
  toIgnore : i.toIgnore = p.select Fate.isIgnored
  fresh_distinct : (fresh.map (·.id)).Nodup
  fresh_absent : ∀ a ∈ fresh, a.id ∉ s.rows.map (·.id)

theorem Store.without_nodup {s : Store} (hs : s.HasDistinctIds)
    (rows : List Stored) :
    (s.without rows).Nodup := hs.rows_nodup.sublist List.filter_sublist

/-- An instruction made of the lists of a plan, with inserts under ids that were
drawn, carries the plan out. -/
theorem Plan.Tracks.carriesOut {i : Instruction} {s : Store} {p : Plan}
    {seen : List (Member Stored)} {moved fresh : List Assigned}
    {newId : Nat → String} {drawn count : Nat}
    (h : p.Tracks seen i.toDelete moved i.toUpdate i.toIgnore)
    (hinsert : i.toInsert = moved ++ fresh)
    (hseen : (seen.map (·.record)).Subperm s.rows)
    (hids : fresh.map (·.id) = (List.range' drawn count).map newId)
    (hfresh : s.FreshIds newId drawn (drawn + count)) :
    i.CarriesOut s p fresh where
  rows := by rw [h.rows_eq]; exact hseen
  suits := h.suits
  toDelete := h.toDelete
  toInsert := by rw [hinsert, h.moved]
  toUpdate := h.updated
  toIgnore := h.ignored
  fresh_distinct := by
    have hdistinct := hfresh.distinct
    rw [Nat.add_sub_cancel_left] at hdistinct
    rw [hids]
    exact hdistinct
  fresh_absent a ha := by
    refine hfresh.absent a.id ?_
    rw [Nat.add_sub_cancel_left, ← hids]
    exact List.mem_map_of_mem ha

namespace Instruction.CarriesOut

variable {i : Instruction} {s : Store} {p : Plan} {fresh : List Assigned}

/-- Nothing is named but the transactions of the plan and the fresh ones. -/
theorem named_perm (hc : i.CarriesOut s p fresh) :
    i.named.Perm (p.assigned ++ fresh) :=
  Plan.named_perm hc.toInsert hc.toUpdate hc.toIgnore

theorem row_mem (hc : i.CarriesOut s p fresh) {e : Planned} (he : e ∈ p) :
    e.row.record ∈ s.rows := hc.rows.subset (List.mem_map_of_mem he)

theorem rows_ids_subperm (hc : i.CarriesOut s p fresh) :
    (p.rows.map (·.id)).Subperm (s.rows.map (·.id)) := by
  obtain ⟨rows, hperm, hsub⟩ := hc.rows
  exact ⟨rows.map (·.id), hperm.map _, hsub.map _⟩

theorem rows_ids_nodup (hc : i.CarriesOut s p fresh) (hs : s.HasDistinctIds) :
    (p.rows.map (·.id)).Nodup := by
  obtain ⟨ids, hperm, hsub⟩ := hc.rows_ids_subperm
  exact hperm.nodup_iff.1 (List.Nodup.sublist hsub hs)

/-- The plan decides once about a row. -/
theorem planned_eq (hc : i.CarriesOut s p fresh) (hs : s.HasDistinctIds)
    {e e' : Planned} (he : e ∈ p) (he' : e' ∈ p)
    (h : e.row.record.id = e'.row.record.id) : e = e' := by
  have hnodup := hc.rows_ids_nodup hs
  rw [Plan.rows, List.map_map] at hnodup
  exact List.inj_on_of_nodup_map hnodup he he' h

/-- No id is named twice. -/
theorem named_ids_nodup (hc : i.CarriesOut s p fresh) (hs : s.HasDistinctIds) :
    (i.named.map (·.id)).Nodup := by
  rw [(hc.named_perm.map _).nodup_iff, List.map_append, List.nodup_append']
  refine ⟨(hc.rows_ids_nodup hs).sublist (Plan.assigned_ids_sublist p),
    hc.fresh_distinct, ?_⟩
  intro id hid hfresh
  obtain ⟨a, ha, rfl⟩ := List.mem_map.1 hfresh
  exact hc.fresh_absent a ha
    (hc.rows_ids_subperm.subset ((Plan.assigned_ids_sublist p).subset hid))

theorem upsert_ids_nodup (hc : i.CarriesOut s p fresh) (hs : s.HasDistinctIds) :
    (i.toUpsert.map (·.id)).Nodup :=
  (hc.named_ids_nodup hs).sublist ((List.sublist_append_left _ _).map _)

/-- What is written is fresh, or is written for a row that does not stay. -/
theorem mem_toUpsert (hc : i.CarriesOut s p fresh) {a : Assigned}
    (ha : a ∈ i.toUpsert) :
    (∃ e ∈ p, e.fate.isIgnored = false ∧ e.assigned? = some a) ∨ a ∈ fresh := by
  rw [toUpsert, hc.toInsert, hc.toUpdate, List.mem_append, List.mem_append]
    at ha
  rcases ha with (ha | ha) | ha
  · obtain ⟨e, he, hk, hea⟩ := Plan.mem_select.1 ha
    exact Or.inl ⟨e, he, Fate.isIgnored_of_isMoved hk, hea⟩
  · exact Or.inr ha
  · obtain ⟨e, he, hk, hea⟩ := Plan.mem_select.1 ha
    exact Or.inl ⟨e, he, Fate.isIgnored_of_isUpdated hk, hea⟩

/-! ## The rows after such an instruction -/

section Effect

variable {after : Store} {account : Account} {currency : String}
  {now : DateTime} {written : List Stored}

/-- The rows whose keys an instruction deletes or writes are the rows of the
plan that do not stay. -/
theorem touched_iff (hc : i.CarriesOut s p fresh) (hs : s.HasDistinctIds)
    (hw : List.Forall₂ (Store.WrittenAs account currency now) i.toUpsert
      written)
    {r : Stored} (hr : r ∈ s.rows) :
    (r.key ∈ i.toDelete.map (·.record.key) ∨ r.key ∈ written.map (·.key)) ↔
      ∃ e ∈ p, e.fate.isIgnored = false ∧ e.row.record = r := by
  rw [Store.written_keys hw]
  constructor
  · rintro (h | h)
    · obtain ⟨m, hm, hk⟩ := List.mem_map.1 h
      rw [hc.toDelete] at hm
      obtain ⟨e, he, hd, rfl⟩ := Plan.mem_deletes.1 hm
      exact ⟨e, he, Fate.isIgnored_of_isDeleted hd,
        hs.row_eq (hc.row_mem he) hr (congrArg Prod.snd hk)⟩
    · obtain ⟨a, ha, hk⟩ := List.mem_map.1 h
      have hid : a.id = r.id := congrArg Prod.snd hk
      rcases hc.mem_toUpsert ha with ⟨e, he, hi, hea⟩ | hfresh
      · exact ⟨e, he, hi,
          hs.row_eq (hc.row_mem he) hr
            ((Planned.id_of_assigned? hea).symm.trans hid)⟩
      · exact (hc.fresh_absent a hfresh (hid ▸ List.mem_map_of_mem hr)).elim
  · rintro ⟨e, he, hi, rfl⟩
    cases hf : e.fate with
    | ignored m =>
      rw [hf] at hi
      cases hi
    | updated m b =>
      -- whether it is deleted before or not, it is written under the date that
      -- it had
      right
      have hdate : m.record.date = e.row.record.date := by
        have hsuits := hc.suits e he
        rw [hf] at hsuits
        exact hsuits
      refine List.mem_map.2 ⟨⟨m, e.row.record.id, .regular⟩,
        ?_, by rw [hdate]; rfl⟩
      rw [toUpsert, hc.toUpdate]
      exact List.mem_append_right _
        (Plan.mem_select.2 ⟨e,
          he, by rw [hf]; rfl, by rw [Planned.assigned?, hf]; rfl⟩)
    | dropped | moved m =>
      left
      rw [hc.toDelete]
      exact List.mem_map.2 ⟨e.row,
        Plan.mem_deletes.2 ⟨e, he, by rw [hf]; rfl, rfl⟩, rfl⟩

/-- The rows that neither are deleted nor written over: those outside the plan,
and those of it that stay. -/
theorem untouched_perm (hc : i.CarriesOut s p fresh) (hs : s.HasDistinctIds)
    (hw : List.Forall₂ (Store.WrittenAs account currency now) i.toUpsert
      written) :
    (s.rows.filter fun r => decide
      (r.key ∉ i.toDelete.map (·.record.key) ∧
        r.key ∉ written.map (·.key))).Perm
      (s.without p.rows ++ p.kept) := by
  -- neither side repeats a row, so it is enough that they have the same rows
  have hrows := hs.rows_nodup
  have hplan : p.rows.Nodup := List.Nodup.of_map _ (hc.rows_ids_nodup hs)
  have hright : (s.without p.rows ++ p.kept).Nodup := by
    rw [List.nodup_append']
    refine ⟨Store.without_nodup hs p.rows, hplan.sublist (Plan.kept_sublist p),
      ?_⟩
    intro r hr hk
    exact Store.not_mem_of_mem_without hr ((Plan.kept_sublist p).subset hk)
  rw [List.perm_ext_iff_of_nodup (hrows.sublist List.filter_sublist) hright]
  intro r
  rw [List.mem_filter, decide_eq_true_iff, List.mem_append,
    Store.mem_without, ← not_or]
  constructor
  · rintro ⟨hr, ht⟩
    rw [hc.touched_iff hs hw hr] at ht
    by_cases hp : r ∈ p.rows
    · obtain ⟨e, he, rfl⟩ := List.mem_map.1 hp
      refine Or.inr (Plan.mem_kept.2 ⟨e, he, ?_, rfl⟩)
      by_contra hi
      exact ht ⟨e, he, by simpa using hi, rfl⟩
    · exact Or.inl ⟨hr, hp⟩
  · rintro (⟨hr, hp⟩ | hk)
    · refine ⟨hr, fun ht => ?_⟩
      obtain ⟨e, he, -, rfl⟩ := (hc.touched_iff hs hw hr).1 ht
      exact hp (List.mem_map_of_mem he)
    · obtain ⟨e, he, hi, rfl⟩ := Plan.mem_kept.1 hk
      refine ⟨hc.row_mem he, fun ht => ?_⟩
      obtain ⟨e', he', hi', heq⟩ := (hc.touched_iff hs hw (hc.row_mem he)).1 ht
      rw [hc.planned_eq hs he' he (congrArg Stored.id heq), hi] at hi'
      cases hi'

/-- Rows outside the plan and ignored rows stay; beside them there is what was
written. -/
theorem apply_perm (hc : i.CarriesOut s p fresh) (hs : s.HasDistinctIds)
    (h : s.apply account currency now i = .ok after) :
    ∃ written, List.Forall₂ (Store.WrittenAs account currency now)
      i.toUpsert written ∧
      after.rows.Perm (s.without p.rows ++ (written ++ p.kept)) := by
  obtain ⟨written, hw, hperm⟩ := Store.apply_perm hs (hc.upsert_ids_nodup hs) h
  refine ⟨written, hw, hperm.trans ?_⟩
  refine ((hc.untouched_perm hs hw).append_left written).trans ?_
  rw [← List.append_assoc, ← List.append_assoc]
  exact List.perm_append_comm.append_right _

/-- The ids after such an instruction are those of the rows outside the plan and
those it names. -/
theorem apply_ids_perm (hc : i.CarriesOut s p fresh) (hs : s.HasDistinctIds)
    (h : s.apply account currency now i = .ok after) :
    (after.rows.map (·.id)).Perm
    ((s.without p.rows).map (·.id) ++ i.named.map (·.id)) := by
  obtain ⟨written, hw, hperm⟩ := hc.apply_perm hs h
  refine (hperm.map _).trans (List.Perm.of_eq ?_)
  rw [List.map_append, List.map_append, Store.written_ids hw,
    ← Plan.ignored_ids, ← hc.toIgnore, ← List.map_append]
  rfl

/-- A row of the store whose id is named is a row of the plan that keeps its
id. -/
theorem planned_of_named (hc : i.CarriesOut s p fresh) (hs : s.HasDistinctIds)
    {r : Stored} (hr : r ∈ s.rows) (hnamed : r.id ∈ i.named.map (·.id)) :
    ∃ e ∈ p, ∃ a, e.assigned? = some a ∧ e.row.record = r := by
  obtain ⟨a, ha, hid⟩ := List.mem_map.1 ((hc.named_perm.map _).mem_iff.1 hnamed)
  rcases List.mem_append.1 ha with ha | ha
  · obtain ⟨e, he, hea⟩ := List.mem_filterMap.1 ha
    exact ⟨e, he, a, hea,
      hs.row_eq (hc.row_mem he) hr
        ((Planned.id_of_assigned? hea).symm.trans hid)⟩
  · exact absurd (hid ▸ List.mem_map_of_mem hr) (hc.fresh_absent a ha)

/-- The id of a dropped row is not in use any more. -/
theorem dropped_gone (hc : i.CarriesOut s p fresh) (hs : s.HasDistinctIds)
    (h : s.apply account currency now i = .ok after) {e : Planned} (he : e ∈ p)
    (hdropped : e.fate = .dropped) :
    e.row.record.id ∉ after.rows.map (·.id) := by
  intro hmem
  rcases List.mem_append.1 ((hc.apply_ids_perm hs h).mem_iff.1 hmem)
    with hout | hnamed
  · obtain ⟨r, hr, hid⟩ := List.mem_map.1 hout
    obtain ⟨hrow, hp⟩ := Store.mem_without.1 hr
    exact hp (hs.row_eq (hc.row_mem he) hrow hid.symm ▸ List.mem_map_of_mem he)
  · obtain ⟨e', he', a, hea, hrow⟩ :=
      hc.planned_of_named hs (hc.row_mem he) hnamed
    have heq : e' = e := hc.planned_eq hs he' he (congrArg Stored.id hrow)
    rw [heq, Planned.assigned?, hdropped] at hea
    cases hea

/-- Ids stay distinct. -/
theorem apply_hasDistinctIds (hc : i.CarriesOut s p fresh)
    (hs : s.HasDistinctIds) (h : s.apply account currency now i = .ok after) :
    after.HasDistinctIds := by
  unfold Store.HasDistinctIds
  rw [(hc.apply_ids_perm hs h).nodup_iff, List.nodup_append']
  refine ⟨List.Nodup.sublist (List.filter_sublist.map _) hs,
    hc.named_ids_nodup hs, ?_⟩
  -- a row outside the plan does not have an id that the plan or the supply
  -- gives
  intro id hout hnamed
  obtain ⟨r, hr, rfl⟩ := List.mem_map.1 hout
  obtain ⟨hrow, hp⟩ := Store.mem_without.1 hr
  obtain ⟨e, he, -, -, rfl⟩ := hc.planned_of_named hs hrow hnamed
  exact hp (List.mem_map_of_mem he)

end Effect

end Instruction.CarriesOut

end LedgerSync
