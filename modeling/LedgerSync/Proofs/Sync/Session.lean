import LedgerSync.Proofs.Sync.ChainPlan
import LedgerSync.Proofs.Sync.HeuristicPlan

/-!
# Ids along a session

Rows are found by date and id, so a record that gets another date could leave
two rows of one id behind. It does not: whichever way a batch is reconciled, the
instruction carries out a plan for rows of the store
(`determineInstruction_carriesOut`), and a plan keeps ids distinct. By induction
over the batches this holds after every step of a session
(`runSession_keeps_ids_distinct`), as long as the ids that a step draws are
fresh to the store it starts from (`Store.FreshAlong`).
-/

namespace LedgerSync

open Run Matching

variable {env : Environment} {account : Account} {currency : String} {s : Store}
  {j j' : Journal}

/-! ## One step -/

/-- The ways in which a sync returns: without a batch it does nothing, and
otherwise it leaves the batch to the chain of its provider, or else to the
reconciliation by external id and amount for the stored rows of its window. -/
inductive Determines (env : Environment) (account : Account) (provider : String)
    (batch : List (Member Reported)) (load : AccountLoader) (j : Journal) :
    Instruction → Journal → Prop
  | nothing : Determines env account provider batch load j .empty j
  | byChain {chain : Provider} {i : Instruction} {j' : Journal} :
      env.chainFor? provider = some chain →
      Returns (determineByChain env.newId env.now env.settings chain
        account.accountId batch (load account))
        j i j' →
      Determines env account provider batch load j i j'
  | byIdAndAmount {selection : StoredWindow.Selection} {i : Instruction}
    {j₁ j₂ j' : Journal} :
      env.chainFor? provider = none →
      Returns (selectStoredWindow env.settings provider batch (load account)) j
        selection j₁ →
      Returns (reconcileByIdAndAmount env.newId env.now provider selection.kept
        batch) j₁ i j₂ →
      j'.drawn = j₂.drawn →
      Determines env account provider batch load j
        (i.countAlso fun m => { m with windowDateFallbacks :=
          selection.dateFallbacks }) j'

theorem determines_of_returns {provider : String}
    {batch : List (Member Reported)} {load : AccountLoader} {i : Instruction}
    (h : Returns (determineInstruction env account provider batch load) j i
    j') :
    Determines env account provider batch load j i j' := by
  simp only [determineInstruction] at h
  split at h
  · obtain ⟨rfl, rfl⟩ := returns_pure.1 h
    exact .nothing
  split at h
  · next chain hchain => exact .byChain hchain h
  · next hnone =>
    simp only [returns_bind] at h
    obtain ⟨selection, j₁, hselection, found, j₂, hfound, h⟩ := h
    split at h
    · simp only [returns_bind, returns_log, returns_pure] at h
      obtain ⟨_, _, rfl, rfl, rfl⟩ := h
      exact .byIdAndAmount hnone hselection hfound rfl
    · obtain ⟨rfl, rfl⟩ := returns_pure.1 h
      exact .byIdAndAmount hnone hselection hfound rfl

/-- An instruction without operations carries out the plan for no rows. -/
theorem carriesOut_empty (s : Store) :
    Instruction.empty.CarriesOut s [] [] where
  rows := (List.nil_sublist _).subperm
  suits _ he := absurd he List.not_mem_nil
  toDelete := rfl
  toInsert := rfl
  toUpdate := rfl
  toIgnore := rfl
  fresh_distinct := List.nodup_nil
  fresh_absent _ ha := absurd ha List.not_mem_nil

/-- Whether by a chain or by external id and amount, a batch is reconciled by
carrying out a plan. -/
theorem determineInstruction_carriesOut {provider : String}
    {batch : List (Member Reported)} {i : Instruction} (hs : s.HasDistinctIds)
    (h : Returns (determineInstruction env account provider batch
      fun _ date => pure (s.since date)) j i j')
    (hfresh : s.FreshIds env.newId j.drawn j'.drawn) :
    ∃ plan fresh, i.CarriesOut s plan fresh := by
  cases determines_of_returns h with
  | nothing => exact ⟨[], [], carriesOut_empty s⟩
  | byChain _ h =>
    obtain ⟨plan, fresh, hc, -⟩ := ChainSync.determineByChain_plan hs hfresh h
    exact ⟨plan, fresh, hc⟩
  | byIdAndAmount _ hselection hfound hsame =>
    obtain ⟨hselected, hdrawn⟩ := selectStoredWindow_spec hselection
    rw [← hdrawn, hsame] at hfresh
    obtain ⟨plan, fresh, hc, -, -, -⟩ :=
      carriesOut_of_reconcile hfound hselected.subperm hfresh
    exact ⟨plan, fresh, { hc with }⟩

/-- A sync that returns has determined an instruction for the store and applied
it. -/
theorem sync_returns {f : Fetch} {i : Instruction} {after : Store}
    (h : Returns (s.sync env account currency f) j (i, after) j') :
    Returns (determineInstruction { env with now := f.now } account
      f.provider f.batch
      fun _ date => pure (s.since date)) j i j' ∧
    s.apply account currency f.now i = .ok after := by
  simp only [Store.sync, returns_bind, returns_ofExcept, returns_pure,
    Prod.mk.injEq] at h
  obtain ⟨i', _, hi, applied, _, ⟨happlied, rfl⟩, ⟨rfl, rfl⟩, rfl⟩ := h
  exact ⟨hi, happlied⟩

/-! ## Sessions -/

/-- One step of a session, and the journal after it. -/
def Store.play (env : Environment) (account : Account) (currency : String)
    (s : Store) (f : Fetch) (j : Journal) : Step × Journal :=
  match (s.sync env account currency f).run.run j with
  | (.ok (i, applied), j') => (⟨s, .ok i, applied⟩, j')
  | (.error e, j') => (⟨s, .error e, s⟩, j')

/-- A session is its first step, and the session from the store and the journal
after it. -/
theorem runSession_cons (f : Fetch) (rest : List Fetch) :
    (runSession env account currency s (f :: rest)).run j =
      let first := s.play env account currency f j
      let others := (runSession env account currency first.1.after rest).run
        first.2
      (first.1 :: others.1, others.2) := by
  rw [runSession, Store.play, StateT.run_bind]
  rcases (s.sync env account currency f).run.run j with ⟨⟨e⟩ | ⟨i, applied⟩, j₁⟩
  · rfl
  · rfl

theorem play_before (f : Fetch) :
    (s.play env account currency f j).1.before = s := by
  unfold Store.play
  split
  · rfl
  · rfl

/-- A step keeps ids distinct, and its instruction names no id twice. -/
theorem play_keeps_ids_distinct {f : Fetch} (hs : s.HasDistinctIds)
    (hfresh : s.FreshIds env.newId j.drawn
      (s.play env account currency f j).2.drawn) :
    (s.play env account currency f j).1.after.HasDistinctIds ∧
      ∀ i, (s.play env account currency f j).1.outcome = .ok i →
      (i.named.map (·.id)).Nodup := by
  rcases hrun : (s.sync env account currency f).run.run j
    with ⟨⟨e⟩ | ⟨i, after⟩, j₁⟩
  · have hplay : s.play env account currency f j = (⟨s, .error e, s⟩, j₁) := by
      rw [Store.play, hrun]
    rw [hplay]
    exact ⟨hs, fun i hi => by cases hi⟩
  · have hplay : s.play env account currency f j = (⟨s, .ok i, after⟩, j₁) := by
      rw [Store.play, hrun]
    rw [hplay] at hfresh ⊢
    -- the ids that the step drew are those that determining its instruction
    -- drew
    obtain ⟨hdetermined, happlied⟩ := sync_returns hrun
    obtain ⟨plan, fresh, hc⟩ :=
      determineInstruction_carriesOut hs hdetermined hfresh
    refine ⟨hc.apply_hasDistinctIds hs happlied, fun i' hi' => ?_⟩
    cases hi'
    exact hc.named_ids_nodup hs

/-- In every step of a session, the ids that are drawn are distinct and no row
of the store that the step starts from has one of them. -/
def Store.FreshAlong (env : Environment) (account : Account)
    (currency : String) :
    Store → Journal → List Fetch → Prop
  | _, _, [] => True
  | s, j, f :: rest =>
    s.FreshIds env.newId j.drawn (s.play env account currency f j).2.drawn ∧
      FreshAlong env account currency (s.play env account currency f j).1.after
        (s.play env account currency f j).2 rest

/-- After every step of a session the ids of the rows are distinct. No
instruction names an id twice, be it one that was applied or any other that a
batch determines for the store of a step. -/
theorem runSession_keeps_ids_distinct {fetches : List Fetch} {steps : List Step}
    (hs : s.HasDistinctIds)
    (hfresh : s.FreshAlong env account currency j fetches)
    (h : (runSession env account currency s fetches).run j = (steps, j')) :
    ∀ step ∈ steps, step.after.HasDistinctIds ∧
      (∀ i, step.outcome = .ok i → (i.named.map (·.id)).Nodup) ∧
      ∀ (f : Fetch) (i : Instruction) (k k' : Journal),
        Returns (determineInstruction { env with now :=
          f.now } account f.provider f.batch
          fun _ date => pure (step.before.since date)) k i k' →
        step.before.FreshIds env.newId k.drawn k'.drawn →
        (i.named.map (·.id)).Nodup := by
  -- the induction is on the batches; the store and the journal are those before
  -- the next one
  induction fetches generalizing s j steps with
  | nil =>
    cases h
    exact fun _ hstep => absurd hstep List.not_mem_nil
  | cons f rest ih =>
    rw [runSession_cons] at h
    cases h
    obtain ⟨hfirst, hrest⟩ := hfresh
    obtain ⟨hafter, hnamed⟩ := play_keeps_ids_distinct hs hfirst
    intro step hstep
    rcases List.mem_cons.1 hstep with rfl | hstep
    · refine ⟨hafter, hnamed, ?_⟩
      intro f' i k k' hdetermined hdrawn
      rw [play_before] at hdetermined hdrawn
      obtain ⟨plan, fresh, hc⟩ :=
        determineInstruction_carriesOut hs hdetermined hdrawn
      exact hc.named_ids_nodup hs
    · exact ih hafter hrest rfl step hstep

/-- A session with a batch that is reconciled by a chain and one that is not. -/
def Sample.fetches : List Fetch :=
  [⟨"TRIODOS_BANK_NL", Sample.growing, Sample.now⟩,
    ⟨"BANK", Sample.redating, Sample.now⟩]

/-- The built-in providers and the standard settings. -/
def Sample.environment : Environment :=
  ⟨Registry.builtIn, .standard, Sample.newId, Sample.now⟩

/-- The session from a store with rows of all kinds. -/
def Sample.session : List Step × Journal :=
  (runSession Sample.environment Sample.account "EUR" Sample.mixedStore
    Sample.fetches).run .empty

theorem fetches_keep_ids_distinct :
    Sample.session.1.length = 2 ∧ ∀ step ∈ Sample.session.1,
      step.after.HasDistinctIds ∧
      (∀ i, step.outcome = .ok i → (i.named.map (·.id)).Nodup) ∧
      ∀ (f : Fetch) (i : Instruction) (k k' : Journal),
        Returns (determineInstruction { Sample.environment with now :=
          f.now } Sample.account
          f.provider f.batch fun _ date =>
            pure (step.before.since date)) k i k' →
        step.before.FreshIds Sample.environment.newId k.drawn k'.drawn →
          (i.named.map (·.id)).Nodup := by
  have hids : Sample.mixedStore.HasDistinctIds := by
    unfold Store.HasDistinctIds
    decide
  have hfresh : Sample.mixedStore.FreshAlong Sample.environment Sample.account
      "EUR" .empty
      Sample.fetches :=
    ⟨⟨by decide +kernel, by decide +kernel⟩,
      ⟨by decide +kernel, by decide +kernel⟩, trivial⟩
  exact ⟨by decide +kernel, runSession_keeps_ids_distinct hids hfresh rfl⟩

end LedgerSync
