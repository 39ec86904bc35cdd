import LedgerSync.Proofs.Sync.Acceptance
import LedgerSync.Proofs.Sync.Session

/-!
# How many ids a sync spends

A sync that returns has drawn one id for every transaction that it counts as new
(`Run.SpendsNew`). A sync that fails should have drawn none, and draws none
where everything that can fail comes before the ids: by external id and amount,
and by a chain for stored rows. There is one exception. A sync by a chain that
finds nothing stored gives its ids first and reads the amounts for its counters
then, so a batch with an amount that has no cents is refused when its ids are
gone (`ChainSync.WastesIds`).

`determineInstruction_spends_ids` says this of every sync, and of every step of
a session.
-/

namespace LedgerSync

open Run Matching

/-! ## Runs that return -/

/-- How many transactions an instruction counts as new. -/
def Instruction.newCount (i : Instruction) : Nat :=
  i.metrics.elim 0 (·.reportedNew)

/-- A run that returns has drawn an id for every transaction that it counts as
new. Only an instruction without operations has no counters. -/
def Run.SpendsNew (r : Run Instruction) : Prop :=
  ∀ j i j', Returns r j i j' → j'.drawn = j.drawn + i.newCount ∧
    (i.metrics = none → i = .empty)

section Returning

variable {newId : Nat → String} {now : DateTime} {settings : SyncSettings}
  {load : Loader} {batch : List (Member Reported)}

theorem reconcileByIdAndAmount_spendsNew (newId : Nat → String) (now : DateTime)
    (provider : String) (stored : List (Member Stored))
    (batch : List (Member Reported)) :
    SpendsNew (reconcileByIdAndAmount newId now provider stored batch) := by
  intro j i j' h
  simp only [reconcileByIdAndAmount, returns_bind, returns_ofExcept,
    returns_pure, returns_log] at h
  obtain ⟨p, _, ⟨-, rfl⟩, fresh, _, hassign, _, _, rfl, rfl, rfl⟩ := h
  exact ⟨(returns_assignFresh hassign).2.2, fun hnone => by cases hnone⟩

theorem instructionByChain_newCount {backfillWindowDays : Int}
    {provider : Provider} {account : Option Uuid}
    {reported : List (Member Reported)} {stored : List (Member Stored)}
    {i : Instruction} {j j' : Journal}
    (h : Returns (instructionByChain newId now backfillWindowDays provider
    account reported stored)
      j i j') : j'.drawn = j.drawn + i.newCount ∧ i.metrics ≠ none := by
  obtain ⟨c, recent, history, -, rfl, hinserts, -⟩ :=
    ChainSync.inserts_of_returns h
  refine ⟨?_, fun hnone => by cases hnone⟩
  rw [hinserts.drawn, List.length_append]
  rfl

theorem ChainSync.determineByChain_spendsNew (newId : Nat → String)
    (now : DateTime) (settings : SyncSettings) (provider : Provider)
    (account : Uuid) (batch : List (Member Reported))
    (hload : ∀ date, DrawsNone (load date)) :
    SpendsNew (determineByChain newId now settings provider account batch
      load) := by
  intro j i j' h
  have hselect := drawsNone_selectStoredWindow settings provider.name
      (bookedIn batch) hload
  cases concludes_of_returns h with
  | nothingBooked => exact ⟨rfl, fun _ => rfl⟩
  | nothingStored _ hselected _ hassign _ hdrawn =>
    refine ⟨?_, fun hnone => by cases hnone⟩
    rw [hdrawn, (returns_assignFresh hassign).2.2,
      hselect.drawn_of_returns hselected]
    rfl
  | @chained selection i₀ _ _ _ _ hselected _ hchain hdrawn =>
    obtain ⟨hspent, hcounted⟩ := instructionByChain_newCount hchain
    obtain ⟨m, hm⟩ := Option.ne_none_iff_exists'.1 hcounted
    constructor
    · rw [hdrawn, hspent, hselect.drawn_of_returns hselected]
      simp only [Instruction.newCount, Instruction.deleteAlso,
        Instruction.countAlso, hm, Option.map_some, Option.elim_some]
    · intro hnone
      simp only [Instruction.deleteAlso, Instruction.countAlso, hm,
        Option.map_some] at hnone
      cases hnone

end Returning

/-! ## Runs that fail -/

theorem reconcileByIdAndAmount_sparesIds (newId : Nat → String) (now : DateTime)
    (provider : String) (stored : List (Member Stored))
    (batch : List (Member Reported)) :
    SparesIds (reconcileByIdAndAmount newId now provider stored batch) := by
  unfold reconcileByIdAndAmount
  refine .bind (drawsNone_ofExcept _) fun p => IsTotal.sparesIds ?_
  exact .bind (isTotal_assignFresh _ _ _) fun fresh => .bind (isTotal_log _ _ _)
    fun _ => isTotal_pure _

namespace ChainSync

section Failing

variable {newId : Nat → String} {now : DateTime} {settings : SyncSettings}
  {provider : Provider} {account : Uuid} {batch : List (Member Reported)}
  {load : Loader} {j : Journal}

/-- A sync by a chain gives its ids too early: nothing is stored in the window
of the booked transactions, and one of them has no amount in cents. -/
structure WastesIds (settings : SyncSettings) (provider : String)
    (batch : List (Member Reported)) (load : Loader) (j : Journal) : Prop where
  nothingStored : ∃ selection j₁,
    Returns (selectStoredWindow settings provider (bookedIn batch) load) j
      selection j₁ ∧ selection.kept = []
  unpriced : ∃ m ∈ bookedIn batch, ∀ n, m.record.cents ≠ .ok n

/-- Where no ids are wasted, a sync by a chain that fails has drawn none. -/
theorem determineByChain_sparesIds (hload : ∀ date, DrawsNone (load date))
    (hwaste : ¬WastesIds settings provider.name batch load j) {e : Failure}
    (he : Fails (determineByChain newId now settings provider account batch
      load) j e) :
    ((determineByChain newId now settings provider account batch load).run.run
      j).2.drawn = j.drawn := by
  simp only [determineByChain] at he ⊢
  split at he
  case h_2 => exact (not_fails_pure he).elim
  refine (drawsNone_selectStoredWindow settings _ _ hload).bind_drawn
    fun selection j₁ hselected => ?_
  unfold Fails at he
  rw [hselected.bind_run] at he
  split at he
  · next hempty =>
    have hcents : ∀ m ∈ bookedIn batch, ∃ n, m.record.cents = .ok n := by
      by_contra hcents
      push Not at hcents
      exact hwaste ⟨⟨selection, j₁, hselected, List.isEmpty_iff.1 hempty⟩,
        hcents⟩
    obtain ⟨metrics, hmetrics⟩ := startMetrics_total provider.name 0 hcents
    rw [if_pos hempty]
    refine IsTotal.sparesIds (.bind (isTotal_assignFresh _ _ _) fun fresh =>
      ?_) j₁ e he
    refine .bind (isTotal_log _ _ _) fun _ => ?_
    exact .bind (isTotal_ofExcept hmetrics) fun _ => isTotal_pure _
  · next hstored =>
    rw [if_neg hstored]
    refine SparesIds.bind_isTotal (instructionByChain_sparesIds _ _ _ _ _ _ _)
      (fun i => ?_) j₁ e he
    exact .bind (isTotal_noteAll _) fun _ => isTotal_pure _

/-- Where ids are wasted, a sync by a chain fails, and has drawn an id for every
booked transaction. -/
theorem WastesIds.fails (h : WastesIds settings provider.name batch load j)
    (hload : ∀ date, DrawsNone (load date)) (newId : Nat → String)
    (now : DateTime) (account : Uuid) :
    ∃ e j', (determineByChain newId now settings provider account batch
      load).run.run j =
        (.error e, j') ∧ j'.drawn = j.drawn + (bookedIn batch).length := by
  obtain ⟨⟨selection, j₁, hselected, hempty⟩, m, hm, hcents⟩ := h
  have hdrawn := (drawsNone_selectStoredWindow settings _ _
      hload).drawn_of_returns hselected
  obtain ⟨fresh, j₂, hassign⟩ :=
    assignFresh_returns newId .regular (bookedIn batch) j₁
  obtain ⟨hmembers, -, hfresh⟩ := returns_assignFresh hassign
  have hcount := congrArg List.length hmembers
  rw [List.length_map] at hcount
  obtain ⟨e, he⟩ : ∃ e, startMetrics provider.name (bookedIn batch) 0 =
      .error e := by
    cases hmetrics : startMetrics provider.name (bookedIn batch) 0 with
    | error e => exact ⟨e, rfl⟩
    | ok metrics =>
      obtain ⟨n, hn⟩ := cents_of_startMetrics hmetrics m hm
      exact (hcents n hn).elim
  -- the ids are drawn and the log is written when the counters fail
  have hrun : ∃ j₃, (determineByChain newId now settings provider account batch
      load).run.run j = (.error e, j₃) ∧ j₃.drawn = j₂.drawn := by
    unfold determineByChain
    dsimp only
    split
    · rw [hselected.bind_run, if_pos (List.isEmpty_iff.2 hempty),
        hassign.bind_run, (log_returns _ _ _ _).bind_run, he]
      exact ⟨_, rfl, rfl⟩
    · next hnone =>
      have hnil : bookedIn batch = [] := eq_nil_of_earliest? hnone
      rw [hnil] at hm
      cases hm
  obtain ⟨j₃, hrun, hsame⟩ := hrun
  exact ⟨e, j₃, hrun, by rw [hsame, hfresh, hdrawn, hcount]⟩

end Failing

end ChainSync

/-! ## Every sync -/

section Every

variable {env : Environment} {account : Account} {provider : String}
  {batch : List (Member Reported)} {load : AccountLoader} {j : Journal}

/-- Whether a sync wastes ids: it is one by a chain that does. -/
def WastesIds (env : Environment) (account : Account) (provider : String)
    (batch : List (Member Reported)) (load : AccountLoader) (j : Journal) :
    Prop :=
  ∃ chain, env.chainFor? provider = some chain ∧
    ChainSync.WastesIds env.settings chain.name batch (load account) j

theorem determineInstruction_spendsNew (env : Environment) (account : Account)
    (provider : String) (batch : List (Member Reported))
    (hload : ∀ date, DrawsNone (load account date)) :
    SpendsNew (determineInstruction env account provider batch load) := by
  intro j i j' h
  cases determines_of_returns h with
  | nothing => exact ⟨rfl, fun _ => rfl⟩
  | byChain _ h =>
    exact ChainSync.determineByChain_spendsNew _ _ _ _ _ _ hload j i j' h
  | @byIdAndAmount selection found j₁ j₂ _ _ hselected hfound hsame =>
    obtain ⟨hspent, hcounted⟩ :=
      reconcileByIdAndAmount_spendsNew _ _ _ _ _ j₁ found j₂ hfound
    have hdrawn := (drawsNone_selectStoredWindow _ _ _ hload).drawn_of_returns
        hselected
    refine ⟨?_, fun hnone => ?_⟩
    · rw [hsame, hspent, hdrawn]
      simp only [Instruction.newCount, Instruction.countAlso]
      cases found.metrics <;> rfl
    · rw [hcounted (Option.map_eq_none_iff.1 hnone)]
      rfl

/-- Where no ids are wasted, a sync that fails has drawn none. -/
theorem determineInstruction_sparesIds
    (hload : ∀ date, DrawsNone (load account date))
    (hwaste : ¬WastesIds env account provider batch load j) {e : Failure}
    (he : Fails (determineInstruction env account provider batch load) j e) :
    ((determineInstruction env account provider batch load).run.run j).2.drawn =
      j.drawn := by
  unfold determineInstruction at he ⊢
  split at he
  · exact (not_fails_pure he).elim
  next hne =>
  rw [if_neg hne]
  split at he
  · next chain hchain =>
    exact ChainSync.determineByChain_sparesIds hload (fun hchained =>
      hwaste ⟨chain, hchain, hchained⟩) he
  · refine SparesIds.bind (drawsNone_selectStoredWindow _ _ _ hload)
      (fun selection => ?_) j e he
    refine .bind_isTotal (reconcileByIdAndAmount_sparesIds _ _ _ _ _)
      fun found => ?_
    exact .ite (.bind (isTotal_log _ _ _) fun _ => isTotal_pure _)
      (isTotal_pure _)

theorem drawn_of_fails (hload : ∀ date, DrawsNone (load account date))
    (hwaste : ¬WastesIds env account provider batch load j) {e : Failure}
    {j' : Journal} (h : (determineInstruction env account provider batch
      load).run.run j = (.error e, j')) :
    j'.drawn = j.drawn := by
  have hfails : Fails (determineInstruction env account provider batch load) j
      e := by
    unfold Fails
    rw [h]
  have hdrawn := determineInstruction_sparesIds hload hwaste hfails
  rwa [h] at hdrawn

/-- Where ids are wasted, a sync fails, and has drawn an id for every booked
transaction. -/
theorem WastesIds.fails (h : WastesIds env account provider batch load j)
    (hload : ∀ date, DrawsNone (load account date)) :
    ∃ e j', (determineInstruction env account provider batch load).run.run j =
      (.error e, j') ∧
      j'.drawn = j.drawn + (ChainSync.bookedIn batch).length := by
  obtain ⟨chain, hchain, hchained⟩ := h
  obtain ⟨m, hm, -⟩ := hchained.unpriced
  have hne : ¬batch.isEmpty = true := by
    intro hempty
    rw [List.isEmpty_iff] at hempty
    rw [hempty] at hm
    cases hm
  unfold determineInstruction
  rw [if_neg hne, hchain]
  exact hchained.fails hload _ _ _

/-! ## Sessions -/

variable {currency : String} {s : Store} {f : Fetch} {j' : Journal}

/-- The sync of a step of a session. -/
def Store.determining (env : Environment) (account : Account) (s : Store)
    (f : Fetch) : Run Instruction :=
  determineInstruction { env with now := f.now } account f.provider f.batch
    fun _ date => pure (s.since date)

/-- Whether the sync of a step wastes ids. -/
def Store.WastesIds (env : Environment) (account : Account) (s : Store)
    (f : Fetch) (j : Journal) : Prop :=
  LedgerSync.WastesIds { env with now := f.now } account f.provider f.batch
    (fun _ date => pure (s.since date)) j

/-- How many transactions a step has brought that are new. -/
def Step.newCount (step : Step) : Nat :=
  match step.outcome with
  | .ok i => i.newCount
  | .error _ => 0

/-- How many transactions the steps of a session have brought that are new. -/
def Step.newTotal (steps : List Step) : Nat :=
  steps.foldr (fun step n => step.newCount + n) 0

/-- A step whose sync fails leaves the store as it was, and what the sync has
left behind. -/
theorem play_of_fails {e : Failure}
    (h : (s.determining env account f).run.run j = (.error e, j')) :
    s.play env account currency f j = (⟨s, .error e, s⟩, j') := by
  have hsync : (s.sync env account currency f).run.run j = (.error e, j') := by
    unfold Store.sync
    unfold Store.determining at h
    rw [ExceptT.run_bind, StateT.run_bind, h]
    rfl
  rw [Store.play, hsync]

/-- A step whose sync returns has drawn the ids of its instruction, when it can
be written. -/
theorem play_of_returns {i : Instruction} {after : Store}
    (h : Returns (s.determining env account f) j i j')
    (happly : s.apply account currency f.now i = .ok after) :
    s.play env account currency f j = (⟨s, .ok i, after⟩, j') := by
  have hsync : (s.sync env account currency f).run.run j =
      (.ok (i, after), j') := by
    unfold Store.sync
    unfold Store.determining at h
    rw [h.bind_run, happly]
    rfl
  rw [Store.play, hsync]

/-- No step of a session wastes ids, and what its syncs determine can be
written. -/
def Store.SparesAlong (env : Environment) (account : Account)
    (currency : String) :
    Store → Journal → List Fetch → Prop
  | _, _, [] => True
  | s, j, f :: rest =>
    ¬s.WastesIds env account f j ∧
      (∀ i j', Returns (s.determining env account f) j i j' →
        ∃ after, s.apply account currency f.now i = .ok after) ∧
      SparesAlong env account currency (s.play env account currency f j).1.after
        (s.play env account currency f j).2 rest

/-- A step that wastes no ids has drawn as many as it has brought new
transactions. -/
theorem play_spends_ids (hwaste : ¬s.WastesIds env account f j)
    (hwritten : ∀ i j', Returns (s.determining env account f) j i j' →
      ∃ after, s.apply account currency f.now i = .ok after) :
    (s.play env account currency f j).2.drawn =
      j.drawn + (s.play env account currency f j).1.newCount := by
  have hload : ∀ date, DrawsNone (pure (s.since date)) :=
    fun date => drawsNone_pure _
  rcases hrun : (s.determining env account f).run.run j with ⟨⟨e⟩ | ⟨i⟩, j'⟩
  · rw [play_of_fails hrun]
    exact drawn_of_fails hload hwaste hrun
  · obtain ⟨after, happly⟩ := hwritten i j' hrun
    rw [play_of_returns hrun happly]
    exact (determineInstruction_spendsNew _ _ _ _ hload j i j' hrun).1

/-- Along a session that wastes no ids, as many are drawn as there are new
transactions. -/
theorem runSession_spends_ids {fetches : List Fetch} {steps : List Step}
    (hspares : s.SparesAlong env account currency j fetches)
    (h : (runSession env account currency s fetches).run j = (steps, j')) :
    j'.drawn = j.drawn + Step.newTotal steps := by
  -- the induction is on the batches; the store and the journal are those before
  -- the next one
  induction fetches generalizing s j steps with
  | nil =>
    cases h
    rfl
  | cons f rest ih =>
    rw [runSession_cons] at h
    cases h
    obtain ⟨hwaste, hwritten, hrest⟩ := hspares
    rw [Step.newTotal, List.foldr_cons, ← Nat.add_assoc,
      ← play_spends_ids hwaste hwritten]
    exact ih hrest rfl

/-- A sync that returns has drawn an id for every transaction that it counts as
new, and none without counters. A sync that fails has drawn none, and a step of
a session that fails in its sync leaves the store and the supply of ids to the
next step as they were, unless the sync is one that wastes ids. Such a sync
fails, after an id for every booked transaction. -/
theorem determineInstruction_spends_ids (env : Environment) (account : Account)
    (provider : String) (batch : List (Member Reported)) (j : Journal)
    (hload : ∀ date, DrawsNone (load account date)) :
    let run := determineInstruction env account provider batch load
    (∀ i j', Returns run j i j' →
      j'.drawn = j.drawn + i.newCount ∧ (i.metrics = none → i = .empty)) ∧
    (¬WastesIds env account provider batch load j →
      ∀ e j', run.run.run j = (.error e, j') → j'.drawn = j.drawn) ∧
    (WastesIds env account provider batch load j →
      ∃ e j', run.run.run j = (.error e, j') ∧
        j'.drawn = j.drawn + (ChainSync.bookedIn batch).length) ∧
    ∀ (currency : String) (s : Store) (f : Fetch),
      ¬s.WastesIds env account f j →
      ∀ e j', (s.determining env account f).run.run j = (.error e, j') →
        s.play env account currency f j = (⟨s, .error e, s⟩, j') ∧
        j'.drawn = j.drawn := by
  intro run
  refine ⟨determineInstruction_spendsNew env account provider batch hload j,
    fun hwaste e j' hrun => drawn_of_fails hload hwaste hrun, fun hwaste =>
      hwaste.fails hload, ?_⟩
  intro currency s f hwaste e j' hrun
  exact ⟨play_of_fails hrun,
    drawn_of_fails (fun date => drawsNone_pure _) hwaste hrun⟩

/-- A payment of an amount that is too large to be given in cents. -/
def Sample.unpriced : Reported :=
  { Sample.reported "x" "tea" (Sample.day 3) with
    amount := .finite false 100000000000000000000 0 }

/-- A loader that finds nothing. -/
def Sample.nothing : AccountLoader := fun _ _ => pure []

/-- The sync of this payment with nothing stored. -/
def Sample.unpricedSync (provider : String) : Run Instruction :=
  determineInstruction Sample.environment Sample.account provider
    (Member.ofList [Sample.unpriced])
    Sample.nothing

theorem Sample.drawsNone_nothing (date : Date) :
    DrawsNone (Sample.nothing Sample.account date) :=
  drawsNone_pure _

/-- By external id and amount the payment is refused without an id, and by a
chain after one. -/
theorem unpriced_spends_ids :
    (∃ e j', (Sample.unpricedSync "BANK").run.run .empty = (.error e, j') ∧
      j'.drawn = 0) ∧
      ∃ e j', (Sample.unpricedSync "ASN_BANK").run.run .empty = (.error e, j') ∧
      j'.drawn = 1 := by
  have hspends (provider : String) :=
    determineInstruction_spends_ids Sample.environment Sample.account
    provider (Member.ofList [Sample.unpriced]) .empty Sample.drawsNone_nothing
  constructor
  · have hfails : ((Sample.unpricedSync "BANK").run.run .empty).1 =
        .error (.amount .outOfRange) := by
      decide +kernel
    have hrun : (Sample.unpricedSync "BANK").run.run .empty =
        (.error (.amount .outOfRange),
          ((Sample.unpricedSync "BANK").run.run .empty).2) :=
      Prod.ext hfails rfl
    have hlisted : Sample.environment.chainFor? "BANK" = none := by
      decide +kernel
    refine ⟨_, _, hrun, (hspends "BANK").2.1 ?_ _ _ hrun⟩
    rintro ⟨chain, hchain, -⟩
    rw [hlisted] at hchain
    cases hchain
  · have hlisted : Sample.environment.chainFor? "ASN_BANK" =
        some ⟨"ASN_BANK", .unbounded,
          [BuiltIn.externalIdAmountStrict.matcher]⟩ := rfl
    have hselected : ∃ j₁, Returns
      (selectStoredWindow SyncSettings.standard "ASN_BANK"
        (ChainSync.bookedIn (Member.ofList [Sample.unpriced]))
          (Sample.nothing Sample.account)) .empty
        ⟨[], 0, []⟩ j₁ := ⟨_, returns_of_run (by decide +kernel)⟩
    obtain ⟨j₁, hselected⟩ := hselected
    refine (hspends "ASN_BANK").2.2.1
      ⟨_, hlisted, ⟨_, j₁, hselected, rfl⟩, ⟨0, Sample.unpriced⟩, ?_, ?_⟩
    · decide +kernel
    · intro n hn
      have hcents : Sample.unpriced.cents = .error (.amount .outOfRange) := by
          decide +kernel
      cases hcents.symm.trans hn

/-- A sync by a chain may fail with an id. -/
theorem failing_sync_not_always_sparesIds :
    ¬∀ (env : Environment) (account : Account) (provider : String)
      (batch : List (Member Reported))
      (load : AccountLoader), (∀ date, DrawsNone (load account date)) →
      SparesIds (determineInstruction env account provider batch load) := by
  intro h
  have hfails : ((Sample.unpricedSync "ASN_BANK").run.run .empty).1 =
      .error (.amount .outOfRange) := by
    decide +kernel
  have hspared := h Sample.environment Sample.account "ASN_BANK"
      (Member.ofList [Sample.unpriced])
    Sample.nothing Sample.drawsNone_nothing .empty _ hfails
  have hdrawn : ((Sample.unpricedSync "ASN_BANK").run.run .empty).2.drawn =
      1 := by decide +kernel
  exact absurd (hdrawn.symm.trans hspared) (by decide)

end Every

end LedgerSync
