import LedgerSync.Proofs.Sync.Session

/-!
# Booked rows stay

As long as batches are reconciled by a chain, a booked row is final. Such an
instruction writes booked transactions alone, and the only booked records that
it deletes are those that it writes again under another date
(`Instruction.KeepsBooked`): the chain never drops a matched row, and what is
deleted beside the matched rows is pending. Applied to a store, it therefore
leaves every booked id with a booked row, and adds no pending row
(`Store.Advances`). Stores advance along a session (`runSession_keeps_booked`).
-/

namespace LedgerSync

open Run Matching

/-- The instruction writes booked transactions alone, and writes every booked
record that it deletes again under its id and another date. -/
structure Instruction.KeepsBooked (i : Instruction) : Prop where
  written : ∀ a ∈ i.toUpsert, a.member.record.status = .booked
  redated : ∀ m ∈ i.toDelete, m.record.status = .booked →
    ∃ a ∈ i.toInsert, a.id = m.record.id ∧ a.member.record.date ≠ m.record.date

/-- From one store to a later one, the id of a booked row stays in use, for
booked rows alone, and no pending row is added. -/
structure Store.Advances (s t : Store) : Prop where
  booked : ∀ r ∈ s.rows, r.status = .booked →
    (∃ r' ∈ t.rows, r'.id = r.id) ∧ ∀ r' ∈ t.rows, r'.id = r.id →
    r'.status = .booked
  pending : ∀ r ∈ t.rows, r.status = .pending → r ∈ s.rows

namespace Store.Advances

variable {s t u : Store}

theorem refl (hs : s.HasDistinctIds) : s.Advances s where
  booked r hr hbooked :=
    ⟨⟨r, hr, rfl⟩, fun _ hr' hid => hs.row_eq hr' hr hid ▸ hbooked⟩
  pending _ hr _ := hr

theorem trans (hst : s.Advances t) (htu : t.Advances u) : s.Advances u where
  booked r hr hbooked := by
    obtain ⟨⟨r₁, hr₁, hid₁⟩, hall₁⟩ := hst.booked r hr hbooked
    obtain ⟨⟨r₂, hr₂, hid₂⟩, hall₂⟩ := htu.booked r₁ hr₁ (hall₁ r₁ hr₁ hid₁)
    exact ⟨⟨r₂, hr₂, hid₂.trans hid₁⟩, fun r' hr' hid =>
      hall₂ r' hr' (hid.trans hid₁.symm)⟩
  pending r hr hpending := hst.pending r (htu.pending r hr hpending) hpending

end Store.Advances

/-! ## Applying such an instruction -/

namespace Instruction.CarriesOut

variable {i : Instruction} {s after : Store} {p : Plan} {fresh : List Assigned}
  {account : Account} {currency : String} {now : DateTime}

/-- A booked row keeps its id, unless it is a row of the plan that is
dropped. -/
theorem id_kept (hc : i.CarriesOut s p fresh) (hk : i.KeepsBooked) {r : Stored}
    (hr : r ∈ s.rows) (hbooked : r.status = .booked) :
    r ∈ s.without p.rows ∨ r.id ∈ i.named.map (·.id) := by
  by_cases hp : r ∈ p.rows
  case neg => exact Or.inl (Store.mem_without.2 ⟨hr, hp⟩)
  right
  obtain ⟨e, he, rfl⟩ := List.mem_map.1 hp
  cases ha : e.assigned? with
  | some a =>
    have hmem : a ∈ p.assigned := List.mem_filterMap.2 ⟨e, he, ha⟩
    rw [← Planned.id_of_assigned? ha]
    exact List.mem_map_of_mem
      (hc.named_perm.mem_iff.2 (List.mem_append_left _ hmem))
  | none =>
    -- a row without a transaction is deleted, and a booked one would be written
    -- again
    have hdeleted : e.row ∈ i.toDelete := by
      rw [hc.toDelete]
      exact Plan.mem_deletes.2
        ⟨e, he, Fate.isDeleted_of_member? (Option.map_eq_none_iff.1 ha), rfl⟩
    obtain ⟨a, ha, hid, -⟩ := hk.redated e.row hdeleted hbooked
    rw [← hid]
    exact List.mem_map_of_mem
      (List.mem_append_left _ (List.mem_append_left _ ha))

/-- A row afterwards was there before, or is booked. -/
theorem mem_after (hc : i.CarriesOut s p fresh) (hs : s.HasDistinctIds)
    (hk : i.KeepsBooked) (h : s.apply account currency now i = .ok after)
    {r : Stored} (hr : r ∈ after.rows) : r ∈ s.rows ∨ r.status = .booked := by
  obtain ⟨written, hw, hperm⟩ := hc.apply_perm hs h
  rcases List.mem_append.1 (hperm.mem_iff.1 hr) with hr | hr
  · exact Or.inl (Store.mem_without.1 hr).1
  rcases List.mem_append.1 hr with hr | hr
  · obtain ⟨a, ha, hwritten⟩ := exists_of_forall₂_right hw hr
    right
    rw [(Reported.toStored_identity hwritten).2.2]
    exact hk.written a ha
  · obtain ⟨e, he, -, rfl⟩ := Plan.mem_kept.1 hr
    exact Or.inl (hc.row_mem he)

/-- The store advances when the instruction is applied. -/
theorem advances (hc : i.CarriesOut s p fresh) (hs : s.HasDistinctIds)
    (hk : i.KeepsBooked) (h : s.apply account currency now i = .ok after) :
    s.Advances after where
  booked r hr hbooked := by
    refine ⟨?_, fun r' hr' hid => ?_⟩
    · have hid : r.id ∈ after.rows.map (·.id) := by
        rw [(hc.apply_ids_perm hs h).mem_iff, List.mem_append]
        exact (hc.id_kept hk hr hbooked).imp_left List.mem_map_of_mem
      exact List.mem_map.1 hid
    · rcases hc.mem_after hs hk h hr' with hold | hnew
      · exact hs.row_eq hold hr hid ▸ hbooked
      · exact hnew
  pending r hr hpending := by
    refine (hc.mem_after hs hk h hr).resolve_right fun hbooked => ?_
    rw [hpending] at hbooked
    cases hbooked

end Instruction.CarriesOut

/-! ## Instructions of a chain -/

namespace ChainSync

variable {newId : Nat → String} {settings : SyncSettings} {provider : Provider}
  {batch : List (Member Reported)} {load : Loader} {i : Instruction}
  {j j' : Journal}

theorem booked_of_mem_bookedIn {m : Member Reported} (h : m ∈ bookedIn batch) :
    m.record.status = .booked := eq_of_beq (List.mem_filter.1 h).2

/-- What the chain writes are transactions of the window. -/
theorem Chained.member_mem {reported : List (Member Reported)}
    {stored : List (Member Stored)} {w : Windowed} {results : MatchResults}
    {plan : Plan} {moved fresh : List Assigned}
    (hc : Chained newId provider reported stored j i j' w results plan moved
      fresh)
    {a : Assigned} (ha : a ∈ i.toUpsert) : a.member ∈ reported := by
  obtain ⟨_, _, hcut, -⟩ := hc.ran
  have hnamed := (Plan.named_perm (hc.tracks.moved ▸ hc.toInsert)
      hc.tracks.updated hc.tracks.ignored).map (·.member)
  rw [List.map_append, Plan.assigned_members] at hnamed
  have hmem := List.mem_map_of_mem (f := (·.member))
    (List.mem_append_left i.toIgnore ha)
  exact (cut_spec hcut).1.subset (hc.reported_perm.subset (hnamed.subset hmem))

/-- What the chain deletes it writes again under another date. -/
theorem Chained.redated_of_mem {reported : List (Member Reported)}
    {stored : List (Member Stored)} {w : Windowed} {results : MatchResults}
    {plan : Plan} {moved fresh : List Assigned}
    (hc : Chained newId provider reported stored j i j' w results plan moved
      fresh)
    {m : Member Stored} (hm : m ∈ i.toDelete) :
    ∃ a ∈ i.toInsert, a.id = m.record.id ∧ a.member.record.date ≠
    m.record.date := by
  rw [hc.tracks.toDelete] at hm
  obtain ⟨e, he, hdeleted, rfl⟩ := Plan.mem_deletes.1 hm
  obtain ⟨m', hmoved, hdate⟩ := hc.redated e he hdeleted
  refine ⟨⟨m', e.row.record.id, .regular⟩, ?_, rfl, hdate⟩
  rw [hc.toInsert, hc.tracks.moved]
  refine List.mem_append_left _ (Plan.mem_select.2 ⟨e, he, ?_, ?_⟩)
  · rw [hmoved]
    rfl
  · rw [Planned.assigned?, hmoved]
    rfl

/-- A sync by a chain keeps booked rows. -/
theorem Determined.keepsBooked
    (h : Determined newId settings provider batch load j i j') :
    i.KeepsBooked := by
  cases h with
  | nothingBooked _ hi =>
    subst hi
    exact ⟨fun _ ha => absurd ha List.not_mem_nil, fun _ hm =>
      absurd hm List.not_mem_nil⟩
  | nothingStored _ _ _ hdelete hupdate _ hmembers =>
    refine ⟨fun a ha => ?_, fun m hm => ?_⟩
    · rw [Instruction.toUpsert, hupdate, List.append_nil] at ha
      exact booked_of_mem_bookedIn (hmembers ▸ List.mem_map_of_mem ha)
    · rw [hdelete] at hm
      exact absurd hm List.not_mem_nil
  | chained _ _ _ hchained hdelete hinsert hupdate =>
    refine ⟨fun a ha => ?_, fun m hm hbooked => ?_⟩
    · rw [Instruction.toUpsert, hinsert, hupdate] at ha
      exact booked_of_mem_bookedIn (hchained.member_mem ha)
    · rw [hdelete] at hm
      rcases List.mem_append.1 hm with hm | hm
      · rw [hinsert]
        exact hchained.redated_of_mem hm
      · have hpending : m.record.status = .pending :=
          eq_of_beq (List.mem_filter.1 hm).2
        rw [hpending] at hbooked
        cases hbooked

end ChainSync

section Session

variable {env : Environment} {account : Account} {currency : String} {s : Store}
  {j j' : Journal}

theorem determineInstruction_keepsBooked {provider : String}
    {batch : List (Member Reported)} {load : AccountLoader} {i : Instruction}
    (hchain : (env.chainFor? provider).isSome = true)
    (h : Returns (determineInstruction env account provider batch load) j i
    j') : i.KeepsBooked := by
  cases determines_of_returns h with
  | nothing => exact ⟨fun _ ha => absurd ha List.not_mem_nil, fun _ hm =>
    absurd hm List.not_mem_nil⟩
  | byChain _ h => exact (ChainSync.determineByChain_spec h).keepsBooked
  | byIdAndAmount hnone =>
    rw [hnone] at hchain
    cases hchain

/-- A step by a chain keeps booked rows. -/
theorem play_keeps_booked {f : Fetch} (hs : s.HasDistinctIds)
    (hfresh : s.FreshIds env.newId j.drawn
      (s.play env account currency f j).2.drawn)
    (hchain : (env.chainFor? f.provider).isSome = true) :
    s.Advances (s.play env account currency f j).1.after ∧
      ∀ i, (s.play env account currency f j).1.outcome = .ok i →
      i.KeepsBooked := by
  rcases hrun : (s.sync env account currency f).run.run j
    with ⟨⟨e⟩ | ⟨i, after⟩, j₁⟩
  · have hplay : s.play env account currency f j = (⟨s, .error e, s⟩, j₁) := by
      rw [Store.play, hrun]
    rw [hplay]
    exact ⟨.refl hs, fun i hi => by cases hi⟩
  · have hplay : s.play env account currency f j = (⟨s, .ok i, after⟩, j₁) := by
      rw [Store.play, hrun]
    rw [hplay] at hfresh ⊢
    obtain ⟨hdetermined, happlied⟩ := sync_returns hrun
    obtain ⟨plan, fresh, hc⟩ :=
      determineInstruction_carriesOut hs hdetermined hfresh
    have hkeeps : i.KeepsBooked := by
      refine determineInstruction_keepsBooked ?_ hdetermined
      exact hchain
    refine ⟨hc.advances hs hkeeps happlied, fun i' hi' => ?_⟩
    cases hi'
    exact hkeeps

/-- Along a session of batches that are all reconciled by a chain, every store
advances to every later one: a booked id never leaves the store and stays
booked, and no pending row is added. Every instruction writes booked
transactions alone, and writes the booked records that it deletes again under
another date, be it one that was applied or any other that such a batch
determines for the store of a step. -/
theorem runSession_keeps_booked {fetches : List Fetch} {steps : List Step}
    (hs : s.HasDistinctIds)
    (hfresh : s.FreshAlong env account currency j fetches)
    (hchain : ∀ f ∈ fetches, (env.chainFor? f.provider).isSome = true)
    (h : (runSession env account currency s fetches).run j = (steps, j')) :
    (s :: steps.map (·.after)).Pairwise Store.Advances ∧
      ∀ step ∈ steps, (∀ i, step.outcome = .ok i → i.KeepsBooked) ∧
        ∀ (f : Fetch) (i : Instruction) (k k' : Journal),
          (env.chainFor? f.provider).isSome = true →
          Returns (determineInstruction { env with now :=
            f.now } account f.provider f.batch
            fun _ date => pure (step.before.since date)) k i k' →
            i.KeepsBooked := by
  -- the induction is on the batches, as for the ids; stores advance to those
  -- after the first by trans
  induction fetches generalizing s j steps with
  | nil =>
    cases h
    exact ⟨List.pairwise_singleton _ s, fun _ hstep =>
      absurd hstep List.not_mem_nil⟩
  | cons f rest ih =>
    rw [runSession_cons] at h
    cases h
    obtain ⟨hfirst, hrest⟩ := hfresh
    have hby := hchain f List.mem_cons_self
    obtain ⟨hadvances, hkeeps⟩ := play_keeps_booked hs hfirst hby
    obtain ⟨hpairwise, hsteps⟩ := ih (play_keeps_ids_distinct hs hfirst).1 hrest
      (fun f' hf' => hchain f' (List.mem_cons_of_mem f hf')) rfl
    refine ⟨List.pairwise_cons.2 ⟨?_, hpairwise⟩, ?_⟩
    · intro t ht
      rcases List.mem_cons.1 ht with rfl | ht
      · exact hadvances
      · exact hadvances.trans ((List.pairwise_cons.1 hpairwise).1 t ht)
    · intro step hstep
      rcases List.mem_cons.1 hstep with rfl | hstep
      · refine ⟨hkeeps, fun f' i k k' hby' hdetermined => ?_⟩
        refine determineInstruction_keepsBooked ?_ hdetermined
        exact hby'
      · exact hsteps step hstep

/-- A batch that gives a known transaction another date. -/
def Sample.postponing : List (Member Reported) :=
  Member.ofList
    [Sample.reported "z" "rye" (Sample.day 3),
      Sample.reported "x" "tea" (Sample.day 4),
      Sample.reported "y" "milk" (Sample.day 4)]

/-- Two batches of a bank with a chain. -/
def Sample.chainFetches : List Fetch :=
  [⟨"TRIODOS_BANK_NL", Sample.growing, Sample.now⟩,
    ⟨"TRIODOS_BANK_NL", Sample.postponing, Sample.now⟩]

/-- The session of these batches from a store with rows of all kinds. -/
def Sample.chainSession : List Step × Journal :=
  (runSession Sample.environment Sample.account "EUR" Sample.mixedStore
    Sample.chainFetches).run .empty

/-- The first step deletes the pending row, and the second one moves a booked
row. -/
theorem chainFetches_keep_booked :
    (Sample.chainSession.1.map fun step =>
        step.outcome.toOption.map fun i => i.toDelete.map (·.record.id)) =
      [some ["r2"], some ["r1"]] ∧
    (Sample.mixedStore :: Sample.chainSession.1.map (·.after)).Pairwise
      Store.Advances ∧
      ∀ step ∈ Sample.chainSession.1,
      (∀ i, step.outcome = .ok i → i.KeepsBooked) ∧
        ∀ (f : Fetch) (i : Instruction) (k k' : Journal),
          (Sample.environment.chainFor? f.provider).isSome = true →
          Returns (determineInstruction { Sample.environment with now :=
            f.now } Sample.account
            f.provider f.batch fun _ date =>
              pure (step.before.since date)) k i k' → i.KeepsBooked := by
  have hids : Sample.mixedStore.HasDistinctIds := by
    unfold Store.HasDistinctIds
    decide
  have hfresh : Sample.mixedStore.FreshAlong Sample.environment Sample.account
      "EUR" .empty Sample.chainFetches :=
    ⟨⟨by decide +kernel, by decide +kernel⟩,
      ⟨by decide +kernel, by decide +kernel⟩, trivial⟩
  have hchain : ∀ f ∈ Sample.chainFetches,
      (Sample.environment.chainFor? f.provider).isSome = true := by
      decide +kernel
  exact ⟨by decide +kernel, runSession_keeps_booked hids hfresh hchain rfl⟩

end Session

end LedgerSync
