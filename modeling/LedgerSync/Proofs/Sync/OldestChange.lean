import LedgerSync.Proofs.Calendar.Extremes
import LedgerSync.Proofs.Sync.Session

/-!
# The oldest change

What was derived from stored rows is valid up to the oldest change of an
instruction. That date is computed in several places: by the reconciliation by
external id and amount, by the chain of matchers, where nothing is stored, and
once more when pending rows are deleted beside. Each of them takes it from one
list, the dates of what is deleted, of what is updated, and of what is inserted
unless it is history (`Instruction.changedDates`, `Instruction.Dates`).

So an instruction that is applied leaves the rows before its oldest change as
they are (`Instruction.Dates.rowsBefore_apply`): it deletes and writes keys of
later dates only, and history is written under ids that no row has.
-/

namespace LedgerSync

open Run

/-! ## The dates that an instruction changes -/

namespace Date

theorem earliest?_eq_none_iff {ds : List Date} :
    earliest? ds = none ↔ ds = [] := by
  cases ds with
  | nil => exact ⟨fun _ => rfl, fun _ => rfl⟩
  | cons d ds =>
    constructor
    · intro h
      cases h
    · intro h
      cases h

/-- The earliest of some dates stands for all of them. -/
theorem earliest?_toList_append (ds es : List Date) :
    earliest? ((earliest? ds).toList ++ es) = earliest? (ds ++ es) := by
  cases h : earliest? ds with
  | none => rw [earliest?_eq_none_iff.1 h, Option.toList_none]
  | some d =>
    obtain ⟨hmem, hle⟩ := earliest?_eq_some_iff.1 h
    ext e
    rw [Option.toList_some, earliest?_eq_some_iff, earliest?_eq_some_iff]
    simp only [List.mem_append, List.mem_singleton]
    constructor
    · rintro ⟨he, hall⟩
      refine ⟨he.imp_left fun heq : e = d => heq ▸ hmem, ?_⟩
      rintro d' (hd' | hd')
      · exact Std.le_trans (hall d (Or.inl rfl)) (hle d' hd')
      · exact hall d' (Or.inr hd')
    · rintro ⟨he, hall⟩
      refine ⟨he.imp_left fun hmem' => ?_, ?_⟩
      · exact Std.le_antisymm (hall d (Or.inl hmem)) (hle e hmem')
      · rintro d' (rfl | hd')
        · exact hall d' (Or.inl hmem)
        · exact hall d' (Or.inr hd')

/-- Whether a date is before a bound; without a bound every date is. -/
def precedes (d : Date) (bound : Option Date) : Bool :=
  bound.all fun b => decide (d < b)

end Date

namespace Instruction

/-- What is inserted and is not history. -/
def regularInserts (i : Instruction) : List Assigned :=
  i.toInsert.filter fun a => a.fillKind == .regular

/-- What is inserted as history. -/
def backfills (i : Instruction) : List Assigned :=
  i.toInsert.filter fun a => a.fillKind == .backfilled

/-- The dates of the rows that are deleted and of what is written, history
apart. -/
def changedDates (i : Instruction) : List Date :=
  i.toDelete.map (·.record.date) ++ i.regularInserts.map
    (·.member.record.date) ++ i.toUpdate.map (·.member.record.date)

/-- The oldest change is the earliest of the dates that are changed, and history
has ids that were drawn between two counts of the supply. -/
structure Dates (i : Instruction) (newId : Nat → String) (drawn drawn' : Nat) :
    Prop where
  oldest : i.oldestChanged = Date.earliest? i.changedDates
  backfill_ids : (i.backfills.map (·.id)).Sublist
    ((List.range' drawn (drawn' - drawn)).map newId)

namespace Dates

variable {i : Instruction} {newId : Nat → String} {drawn drawn' : Nat}

/-- Without history the oldest change is that of all lists. -/
theorem of_regular (hregular : ∀ a ∈ i.toInsert, a.fillKind = .regular)
    (h : i.oldestChanged = oldestChange i.toDelete i.toInsert i.toUpdate) :
    i.Dates newId drawn drawn' := by
  have hinserts : i.regularInserts = i.toInsert :=
    List.filter_eq_self.2 fun a ha => by rw [hregular a ha]; rfl
  have hbackfills : i.backfills = [] :=
    List.filter_eq_nil_iff.2 fun a ha => by rw [hregular a ha]; decide
  constructor
  · rw [h, changedDates, hinserts]
    rfl
  · rw [hbackfills]
    exact List.nil_sublist _

/-- Other counters change no date. -/
theorem countAlso (h : i.Dates newId drawn drawn') (f : Metrics → Metrics) :
    (i.countAlso f).Dates newId drawn drawn' := ⟨h.oldest, h.backfill_ids⟩

/-- Rows that are deleted beside count for the oldest change. -/
theorem deleteAlso (h : i.Dates newId drawn drawn')
    (more : List (Member Stored)) :
    (i.deleteAlso more).Dates newId drawn drawn' := by
  refine ⟨?_, h.backfill_ids⟩
  show Date.earliest? (i.oldestChanged.toList ++ more.map (·.record.date)) = _
  rw [h.oldest, Date.earliest?_toList_append]
  refine Date.earliest?_perm ?_
  -- the rows that are deleted beside stand after those that were deleted before
  show (i.changedDates ++ _).Perm
    ((i.toDelete ++ more).map (·.record.date) ++ _ ++ _)
  rw [changedDates, List.map_append, List.append_assoc, List.append_assoc,
    List.append_assoc, List.append_assoc]
  refine List.Perm.append_left _ ?_
  rw [← List.append_assoc]
  exact List.perm_append_comm

end Dates

end Instruction

/-! ## Where the date is computed -/

/-- What is given an id is filled in the way that was asked for. -/
theorem fillKind_of_mem {newId : Nat → String} {fillKind : FillKind}
    {members : List (Member Reported)} {fresh : List Assigned} {j j' : Journal}
    (h : Returns (assignFresh newId fillKind members) j fresh j') {a : Assigned}
    (ha : a ∈ fresh) : a.fillKind = fillKind := by
  have hmem := List.mem_map_of_mem
    (f := fun a : Assigned => (a.member, a.fillKind)) ha
  rw [fillKind_of_assignFresh h] at hmem
  obtain ⟨m, -, heq⟩ := List.mem_map.1 hmem
  exact (congrArg Prod.snd heq).symm

/-- Nothing that keeps an id is history. -/
theorem Plan.fillKind_of_mem_select {kind : Fate → Bool} {p : Plan}
    {a : Assigned} (ha : a ∈ p.select kind) : a.fillKind = .regular := by
  obtain ⟨e, -, -, hassigned⟩ := Plan.mem_select.1 ha
  obtain ⟨m, -, rfl⟩ := Option.map_eq_some_iff.1 hassigned
  rfl

section Computed

variable {newId : Nat → String} {now : DateTime} {settings : SyncSettings}
  {j j' : Journal} {i : Instruction}

/-- A reconciliation by external id and amount inserts no history. -/
theorem dates_of_reconcile {provider : String} {stored : List (Member Stored)}
    {batch : List (Member Reported)}
    (h : Returns (reconcileByIdAndAmount newId now provider stored batch) j i
      j') : i.Dates newId j.drawn j'.drawn := by
  simp only [reconcileByIdAndAmount, returns_bind, returns_ofExcept,
    returns_pure, returns_log] at h
  obtain ⟨p, _, ⟨hdecide, rfl⟩, fresh, _, hassign, _, _, rfl, rfl, rfl⟩ := h
  obtain ⟨plan, htracks, -⟩ := Heuristic.decide_plan hdecide
  refine .of_regular ?_ rfl
  intro a ha
  rcases List.mem_append.1 ha with ha | ha
  · rw [htracks.moved] at ha
    exact Plan.fillKind_of_mem_select ha
  · exact fillKind_of_mem hassign ha

namespace ChainSync

variable {provider : Matching.Provider}

/-- What is moved is not history, nor is what is recent; the rest of the inserts
is. -/
theorem dates_of_instructionByChain {backfillWindowDays : Int}
    {account : Option Uuid} {reported : List (Member Reported)}
    {stored : List (Member Stored)}
    (h : Returns (instructionByChain newId now backfillWindowDays provider
    account reported stored) j i j') : i.Dates newId j.drawn j'.drawn := by
  obtain ⟨c, recent, history, k₁, k₂, k₃, -, hstart, hrecent, hhistory,
    hend, rfl⟩ :=
    takes_of_returns h
  have hregular : ∀ a ∈ c.plan.select Fate.isMoved ++ recent,
      a.fillKind = .regular := by
    intro a ha
    rcases List.mem_append.1 ha with ha | ha
    · exact Plan.fillKind_of_mem_select ha
    · exact fillKind_of_mem hrecent ha
  have hinserts : (c.instruction recent history).regularInserts =
      c.plan.select Fate.isMoved ++ recent := by
    show ((c.plan.select Fate.isMoved ++ recent) ++ history).filter _ = _
    rw [List.filter_append, List.filter_eq_self.2
      fun a ha => by rw [hregular a ha]; rfl,
      List.filter_eq_nil_iff.2
      fun a ha => by rw [fillKind_of_mem hhistory ha]; decide, List.append_nil]
  have hbackfills : (c.instruction recent history).backfills = history := by
    show ((c.plan.select Fate.isMoved ++ recent) ++ history).filter _ = _
    rw [List.filter_append, List.filter_eq_nil_iff.2
      fun a ha => by rw [hregular a ha]; decide,
      List.filter_eq_self.2
        fun a ha => by rw [fillKind_of_mem hhistory ha]; rfl, List.nil_append]
  constructor
  · rw [Instruction.changedDates, hinserts]
    rfl
  · -- the ids of history are drawn after those of the other inserts
    obtain ⟨-, -, hrecentDrawn⟩ := returns_assignFresh hrecent
    obtain ⟨-, hids, hhistoryDrawn⟩ := returns_assignFresh hhistory
    have hcount : j'.drawn - j.drawn = recent.length + history.length := by
        omega
    rw [hbackfills, hids, hcount, hrecentDrawn, hstart, ← List.range'_append_1]
    exact (List.sublist_append_right _ _).map _

end ChainSync

/-- With nothing stored, everything booked is new and nothing is history. -/
theorem ChainSync.dates_of_determineByChain {provider : Matching.Provider}
    {accountId : Uuid} {batch : List (Member Reported)}
    {fetch : Date → Except Failure (List (Member Stored))}
    (h : Returns (determineByChain newId now settings provider accountId batch
      fun date => Run.ofExcept (fetch date)) j i j') :
      i.Dates newId j.drawn j'.drawn := by
  cases concludes_of_returns h with
  | nothingBooked =>
    exact .of_regular (fun a ha => absurd ha List.not_mem_nil) rfl
  | @nothingStored _ oldest fresh _ _ _ _ holdest _ _ hassign =>
    obtain ⟨hmembers, -⟩ := returns_assignFresh hassign
    refine .of_regular (fun a ha => fillKind_of_mem hassign ha) ?_
    have hdates : fresh.map (·.member.record.date) = (bookedIn batch).map
        (·.record.date) := by
      rw [← hmembers, List.map_map]
      rfl
    show some oldest =
      Date.earliest? ([] ++ fresh.map (·.member.record.date) ++ [])
    rw [List.nil_append, List.append_nil, hdates, holdest]
  | chained _ hselection _ hchain hdrawn =>
    have hdates := dates_of_instructionByChain hchain
    have hselect := drawsNone_selectStoredWindow settings provider.name
        (bookedIn batch) fun date => drawsNone_ofExcept (fetch date)
    rw [hselect.drawn_of_returns hselection, ← hdrawn] at hdates
    exact (hdates.countAlso _).deleteAlso _

/-- On every way to an instruction, the oldest change is the earliest date that
is changed. -/
theorem dates_of_determineInstruction {env : Environment} {account : Account}
    {provider : String} {batch : List (Member Reported)}
    {fetch : Account → Date → Except Failure (List (Member Stored))}
    (h : Returns (determineInstruction env account provider batch
      fun account date => Run.ofExcept (fetch account date)) j i j') :
    i.Dates env.newId j.drawn j'.drawn := by
  cases determines_of_returns h with
  | nothing => exact .of_regular (fun a ha => absurd ha List.not_mem_nil) rfl
  | byChain _ h => exact ChainSync.dates_of_determineByChain h
  | byIdAndAmount _ hselection hreconcile hsame =>
    have hdates := dates_of_reconcile hreconcile
    have hselect := drawsNone_selectStoredWindow env.settings provider batch
      fun date => drawsNone_ofExcept (fetch account date)
    rw [hselect.drawn_of_returns hselection, ← hsame] at hdates
    exact hdates.countAlso _

end Computed

/-! ## The rows before the oldest change -/

/-- Whether a row is dated before a bound. -/
def Stored.precedes (bound : Option Date) (r : Stored) : Bool :=
  r.date.precedes bound

/-- The key of a row tells its date. -/
theorem Stored.precedes_of_key_eq {r r' : Stored} {bound : Option Date}
    (h : r.key = r'.key) : r.precedes bound = r'.precedes bound := by
  rw [precedes, precedes, show r.date = r'.date from congrArg Prod.fst h]

namespace Store

variable {bound : Option Date} {s : Store} {r : Stored}

/-- The rows that are dated before a bound. -/
def rowsBefore (s : Store) (bound : Option Date) : List Stored :=
  s.rows.filter (Stored.precedes bound)

/-- Deleting keys of later dates leaves the rows before a bound. -/
theorem foldl_delete_rowsBefore {keys : List (Date × String)}
    (h : ∀ k ∈ keys, k.1.precedes bound = false) (s : Store) :
    (keys.foldl delete s).rowsBefore bound = s.rowsBefore bound := by
  rw [rowsBefore, foldl_delete_rows, List.filter_filter]
  refine List.filter_congr fun r _ => ?_
  by_cases hmem : r.key ∈ keys
  · rw [show r.precedes bound = false from h _ hmem]
    rfl
  · rw [decide_eq_true hmem, Bool.and_true]

theorem put_go_filter_of_later (h : r.precedes bound = false)
    (rows : List Stored) :
    (put.go r rows).filter (Stored.precedes bound) = rows.filter
    (Stored.precedes bound) := by
  induction rows with
  | nil => rw [put.go, List.filter_cons, h]; rfl
  | cons old rest ih =>
    rw [put.go]
    split
    · next hkey =>
      have hold : old.precedes bound = false :=
        (Stored.precedes_of_key_eq hkey).trans h
      rw [List.filter_cons, List.filter_cons, h, hold]
      rfl
    · rw [List.filter_cons, List.filter_cons, ih]

theorem put_go_filter_of_new (h : r.precedes bound = true) (rows : List Stored)
    (hnew : r.key ∉ (rows.filter (Stored.precedes bound)).map (·.key)) :
    (put.go r rows).filter (Stored.precedes bound) =
      rows.filter (Stored.precedes bound) ++ [r] := by
  induction rows with
  | nil => rw [put.go, List.filter_cons, h]; rfl
  | cons old rest ih =>
    have hrest : r.key ∉ (rest.filter (Stored.precedes bound)).map
        (·.key) := fun hmem =>
      hnew ((((List.sublist_cons_self old rest).filter _).map _).subset hmem)
    rw [put.go]
    split
    · next hkey =>
      -- a row with the key of the record is dated like it, and so before the
      -- bound
      have hold : old.precedes bound = true :=
        (Stored.precedes_of_key_eq hkey).trans h
      rw [List.filter_cons_of_pos hold] at hnew
      exact (hnew (hkey ▸ List.mem_cons_self)).elim
    · rw [List.filter_cons, List.filter_cons, ih hrest]
      split <;> rfl

/-- Records that are put one after the other: those before a bound are added, if
their keys are neither in use nor given twice. -/
theorem foldl_put_rowsBefore {written : List Stored}
    (hw : ((written.filter (Stored.precedes bound)).map (·.key)).Nodup)
    (hnew : ∀ r ∈ written, r.precedes bound = true →
      r.key ∉ (s.rowsBefore bound).map (·.key)) :
    (written.foldl put s).rowsBefore bound =
      s.rowsBefore bound ++ written.filter (Stored.precedes bound) := by
  induction written generalizing s with
  | nil => exact (List.append_nil _).symm
  | cons r written ih =>
    rw [List.foldl_cons]
    cases hr : r.precedes bound with
    | true =>
      rw [List.filter_cons_of_pos hr] at hw ⊢
      rw [List.map_cons, List.nodup_cons] at hw
      have hput : (s.put r).rowsBefore bound = s.rowsBefore bound ++ [r] :=
        put_go_filter_of_new hr s.rows (hnew r List.mem_cons_self hr)
      rw [ih hw.2, hput, List.append_assoc, List.singleton_append]
      intro r' hr' hbefore
      rw [hput, List.map_append, List.mem_append]
      rintro (hmem | hmem)
      · exact hnew r' (List.mem_cons_of_mem r hr') hbefore hmem
      · rw [List.map_singleton, List.mem_singleton] at hmem
        exact hw.1 (hmem ▸ List.mem_map_of_mem
          (List.mem_filter.2 ⟨hr', hbefore⟩))
    | false =>
      have hput : (s.put r).rowsBefore bound = s.rowsBefore bound :=
        put_go_filter_of_later hr s.rows
      rw [List.filter_cons, hr, if_neg Bool.false_ne_true] at hw ⊢
      rw [ih hw, hput]
      intro r' hr' hbefore
      rw [hput]
      exact hnew r' (List.mem_cons_of_mem r hr') hbefore

end Store

namespace Instruction.Dates

variable {i : Instruction} {newId : Nat → String} {drawn drawn' : Nat}

/-- No date that is changed is before the oldest change. -/
theorem not_precedes (h : i.Dates newId drawn drawn') {d : Date}
    (hd : d ∈ i.changedDates) : d.precedes i.oldestChanged = false := by
  rw [h.oldest]
  cases hd' : Date.earliest? i.changedDates with
  | none =>
    rw [Date.earliest?_eq_none_iff.1 hd'] at hd
    cases hd
  | some d' =>
    have hle := (Date.earliest?_eq_some_iff.1 hd').2 d hd
    rw [Date.precedes, Option.all_some, decide_eq_false_iff_not, Date.lt_iff,
      Nat.not_lt]
    exact hle

/-- What is written before the oldest change is history. -/
theorem upsert_before (h : i.Dates newId drawn drawn') :
    (i.toUpsert.filter fun a => a.member.record.date.precedes i.oldestChanged) =
      i.backfills.filter fun a =>
      a.member.record.date.precedes i.oldestChanged := by
  have hupdate : (i.toUpdate.filter fun a =>
      a.member.record.date.precedes i.oldestChanged) = [] := by
    refine List.filter_eq_nil_iff.2 fun a ha => ?_
    rw [h.not_precedes (List.mem_append_right _ (List.mem_map_of_mem ha))]
    exact Bool.false_ne_true
  rw [toUpsert, List.filter_append, hupdate, List.append_nil, backfills,
    List.filter_filter]
  refine List.filter_congr fun a ha => ?_
  cases hkind : a.fillKind with
  | backfilled => exact (Bool.and_true _).symm
  | regular =>
    have hmem : a ∈ i.regularInserts :=
      List.mem_filter.2 ⟨ha, by rw [hkind]; rfl⟩
    rw [h.not_precedes (List.mem_append_left _
      (List.mem_append_right _ (List.mem_map_of_mem hmem)))]
    rfl

/-- Applying an instruction leaves the rows before its oldest change and adds
the history that is dated before. -/
theorem rowsBefore_apply (h : i.Dates newId drawn drawn') {s after : Store}
    {account : Account} {currency : String} {now : DateTime}
    (hfresh : s.FreshIds newId drawn drawn')
    (happly : s.apply account currency now i = .ok after) :
    ∃ added, List.Forall₂ (Store.WrittenAs account currency now)
        (i.backfills.filter fun a =>
          a.member.record.date.precedes i.oldestChanged) added ∧
      after.rowsBefore i.oldestChanged =
        s.rowsBefore i.oldestChanged ++ added := by
  obtain ⟨written, hw, rfl⟩ := Store.foldlM_put_eq_ok_iff.1 happly
  have hadded : List.Forall₂ (Store.WrittenAs account currency now)
      (i.backfills.filter fun a =>
        a.member.record.date.precedes i.oldestChanged)
      (written.filter (Stored.precedes i.oldestChanged)) := by
    rw [← h.upsert_before]
    refine List.rel_filter (fun a r har => ?_) hw
    show a.member.record.date.precedes i.oldestChanged = true ↔
      r.date.precedes i.oldestChanged = true
    rw [(Reported.toStored_identity har).2.1]
  have hids : ((written.filter (Stored.precedes i.oldestChanged)).map
      (·.id)).Sublist ((List.range' drawn (drawn' - drawn)).map newId) := by
    rw [Store.written_ids hadded]
    exact (List.filter_sublist.map _).trans h.backfill_ids
  have hdelete : ((i.toDelete.map (·.record.key)).foldl Store.delete
      s).rowsBefore i.oldestChanged = s.rowsBefore i.oldestChanged := by
    refine Store.foldl_delete_rowsBefore (fun k hk => ?_) s
    obtain ⟨m, hm, rfl⟩ := List.mem_map.1 hk
    exact h.not_precedes
      (List.mem_append_left _ (List.mem_append_left _ (List.mem_map_of_mem hm)))
  refine ⟨_, hadded, ?_⟩
  rw [Store.foldl_put_rowsBefore, hdelete]
  · refine List.Nodup.of_map (·.2) ?_
    rw [List.map_map]
    exact hfresh.distinct.sublist hids
  · intro r hr hbefore hmem
    rw [hdelete] at hmem
    obtain ⟨r', hr', hkey⟩ := List.mem_map.1 hmem
    have hid : r'.id = r.id := congrArg Prod.snd hkey
    refine hfresh.absent r.id
      (hids.subset (List.mem_map_of_mem (List.mem_filter.2 ⟨hr, hbefore⟩))) ?_
    exact hid ▸ List.mem_map_of_mem (List.mem_filter.1 hr').1

end Instruction.Dates

/-! ## The oldest change of a sync -/

section Determine

variable {env : Environment} {account : Account} {provider : String}
  {batch : List (Member Reported)}
  {fetch : Account → Date → Except Failure (List (Member Stored))}
  {i : Instruction} {j j' : Journal}

/-- The oldest change of a sync is the earliest date of what it deletes,
updates, and inserts beside history, and there is none when it does none of
these. When the instruction is applied to a store that has none of the drawn
ids, the rows before that date are what they were, and history dated before it
is added. -/
theorem determineInstruction_oldestChanged
    (h : Returns (determineInstruction env account provider batch
      fun account date => Run.ofExcept (fetch account date)) j i j') :
    (∀ d, i.oldestChanged = some d ↔ d ∈ i.changedDates ∧
      ∀ d' ∈ i.changedDates, d ≤ d') ∧
      (i.oldestChanged = none ↔ i.changedDates = []) ∧
      ∀ (s after : Store) (currency : String) (later : DateTime),
        s.FreshIds env.newId j.drawn j'.drawn →
        s.apply account currency later i = .ok after →
        ∃ added, List.Forall₂ (Store.WrittenAs account currency later)
            (i.backfills.filter fun a =>
              a.member.record.date.precedes i.oldestChanged) added ∧
          after.rowsBefore i.oldestChanged =
            s.rowsBefore i.oldestChanged ++ added := by
  have hdates := dates_of_determineInstruction h
  refine ⟨?_, ?_, ?_⟩
  · intro d
    rw [hdates.oldest]
    exact Date.earliest?_eq_some_iff
  · rw [hdates.oldest]
    exact Date.earliest?_eq_none_iff
  · intro s after currency later hfresh happly
    exact hdates.rowsBefore_apply hfresh happly

/-- A store with a row that is reported a day later, a pending row, and a row of
an earlier month. -/
def Sample.growingStore : Store :=
  ⟨[Sample.stored "r1" "x" "tea" (Sample.day 20),
    { Sample.stored "r2" "w" "jam" (Sample.day 21) with status := .pending },
    Sample.stored "r3" "v" "oat" (Sample.day 0)]⟩

/-- A batch with a known transaction, a new one, and one that is older than a
week. -/
def Sample.delayed : List (Member Reported) :=
  Member.ofList
    [Sample.reported "z" "rye" (Sample.day 2),
      Sample.reported "x" "tea" (Sample.day 21),
      Sample.reported "y" "milk" (Sample.day 22)]

/-- The sync of the batch. -/
def Sample.backfilling : Run Instruction :=
  determineInstruction Sample.environment Sample.account "TRIODOS_BANK_NL"
    Sample.delayed
    fun _ date => Run.ofExcept (.ok (Sample.growingStore.since date))

theorem backfilling_oldestChanged :
    ∃ i j' after, Returns Sample.backfilling .empty i j' ∧
      Sample.growingStore.apply Sample.account "EUR" Sample.now i = .ok after ∧
      i.oldestChanged = some (Sample.day 20) ∧
      (Sample.day 20 ∈ i.changedDates ∧ ∀ d' ∈ i.changedDates,
        Sample.day 20 ≤ d') ∧
      ∃ added, List.Forall₂ (Store.WrittenAs Sample.account "EUR" Sample.now)
          (i.backfills.filter fun a =>
            a.member.record.date.precedes i.oldestChanged) added ∧
        after.rowsBefore i.oldestChanged =
          Sample.growingStore.rowsBefore i.oldestChanged ++ added := by
  have hrun : (Sample.backfilling.run.run .empty).1 =
      .ok ((Sample.backfilling.run.run .empty).1.toOption.getD .empty) := by
      decide +kernel
  have hdrawn : (Sample.backfilling.run.run .empty).2.drawn = 2 := by
      decide +kernel
  have holdest : ((Sample.backfilling.run.run .empty).1.toOption.getD
      .empty).oldestChanged = some (Sample.day 20) := by decide +kernel
  have happly : Sample.growingStore.apply Sample.account "EUR" Sample.now
      ((Sample.backfilling.run.run .empty).1.toOption.getD .empty) =
      .ok ((Sample.growingStore.apply Sample.account "EUR" Sample.now
        ((Sample.backfilling.run.run .empty).1.toOption.getD
          .empty)).toOption.getD ⟨[]⟩) := by
    decide +kernel
  have hfresh : Sample.growingStore.FreshIds Sample.newId Journal.empty.drawn
      (Sample.backfilling.run.run .empty).2.drawn := by
    rw [hdrawn]
    exact ⟨by decide +kernel, by decide +kernel⟩
  obtain ⟨hsome, -, hrows⟩ :=
    determineInstruction_oldestChanged (returns_of_run hrun)
  exact ⟨_, _, _, returns_of_run hrun, happly, holdest, (hsome _).1 holdest,
    hrows _ _ _ _ hfresh happly⟩

end Determine

end LedgerSync
