import LedgerSync.Proofs.Matching.Completion
import LedgerSync.Proofs.Matching.WindowCuts
import LedgerSync.Sync.ChainSync

/-!
# Cutting to the window and checking what is left

A reconciliation by a chain first cuts both sides to the sync window, and
afterwards checks what the chain has left unmatched. Cutting only leaves
transactions out (`Cuts`). The checks are passed exactly by what is peerless,
and on the stored side lies on the oldest reported day (`checkReported_spec`,
`checkStored_spec` and their converses); anything else that has been processed
is refused as unresolved (`checkReported_refuses`, `checkStored_refuses`).
-/

namespace LedgerSync

open Run Matching

namespace Matching

theorem Unmatched.reason_ne {α : Type} {us : List (Unmatched α)}
    {reason : Reason} {u : Unmatched α}
    (h : (us.filter fun u => u.reason == reason).isEmpty = true) (hu : u ∈ us) :
    u.reason ≠ reason := by
  intro hr
  have hmem : u ∈ us.filter fun u => u.reason == reason :=
    List.mem_filter.2 ⟨hu, by rw [hr]; exact beq_self_eq_true _⟩
  rw [List.isEmpty_iff.1 h] at hmem
  exact List.not_mem_nil hmem

end Matching

namespace ChainSync

variable {provider : Provider} {reported : List (Member Reported)}
  {stored : List (Member Stored)} {final : MatchResult} {j j' : Journal}

/-! ## Cutting -/

/-- Both sides are cut to the window that the provider selects, and the oldest
day of what is left of the reported side is known. -/
structure Cuts (provider : Provider) (reported : List (Member Reported))
    (stored : List (Member Stored)) (w : Windowed) : Prop where
  nonempty : reported ≠ []
  selected : ∃ note, provider.window.select reported stored =
    .ok ⟨w.window, note⟩
  reported : w.window.truncate reported = .ok w.reported
  stored : w.window.truncate stored = .ok w.stored
  oldest : Date.earliest? (w.reported.map (·.record.date)) =
    some w.oldestReported

theorem cuts_of_returns {w : Windowed}
    (h : Returns (cut provider reported stored) j w j') :
    Cuts provider reported stored w ∧ j'.drawn = j.drawn := by
  unfold cut at h
  split at h
  · rw [returns_bind] at h
    obtain ⟨_, _, h, -⟩ := h
    exact (not_returns_throw h).elim
  next hne =>
  simp only [returns_bind, returns_ofExcept, returns_noteAll] at h
  obtain ⟨choice, _, ⟨hchoice, rfl⟩, _, _, rfl, keptReported, _,
    ⟨hreported, rfl⟩, keptStored, _, ⟨hstored, rfl⟩, h⟩ := h
  split at h
  · next oldest holdest =>
    rw [returns_pure] at h
    obtain ⟨rfl, rfl⟩ := h
    exact ⟨⟨fun hnil => hne (List.isEmpty_iff.2 hnil), ⟨choice.note, hchoice⟩,
      hreported, hstored, holdest⟩, rfl⟩
  · exact (not_returns_throw h).elim

theorem Cuts.returns {w : Windowed} (h : Cuts provider reported stored w)
    (j : Journal) : ∃ j', Returns (cut provider reported stored) j w j' := by
  obtain ⟨note, hselected⟩ := h.selected
  unfold cut
  rw [if_neg (by simpa using h.nonempty)]
  simp only [returns_bind, returns_ofExcept, returns_noteAll]
  refine ⟨{ j with records := j.records ++ note.toList }, ⟨w.window, note⟩, j,
    ⟨hselected, rfl⟩, (), _,
    rfl, w.reported, _, ⟨h.reported, rfl⟩, w.stored, _, ⟨h.stored, rfl⟩, ?_⟩
  rw [h.oldest]
  exact returns_pure.2 ⟨rfl, rfl⟩

/-- Both sides are cut in one way. -/
theorem Cuts.unique {w w' : Windowed} (h : Cuts provider reported stored w)
    (h' : Cuts provider reported stored w') : w = w' := by
  obtain ⟨window, keptReported, keptStored, oldest⟩ := w
  obtain ⟨window', keptReported', keptStored', oldest'⟩ := w'
  obtain ⟨note, hselected⟩ := h.selected
  obtain ⟨note', hselected'⟩ := h'.selected
  obtain rfl : window = window' :=
    congrArg Choice.window (Except.ok.inj (hselected.symm.trans hselected'))
  obtain rfl : keptReported = keptReported' :=
    Except.ok.inj (h.reported.symm.trans h'.reported)
  obtain rfl : keptStored = keptStored' :=
    Except.ok.inj (h.stored.symm.trans h'.stored)
  obtain rfl : oldest = oldest' :=
    Option.some.inj (h.oldest.symm.trans h'.oldest)
  rfl

/-- An unbounded window keeps both sides as they are. -/
theorem cuts_of_unbounded (stored : List (Member Stored))
    (hwindow : provider.window = .unbounded) (hne : reported ≠ []) :
    ∃ oldest, Date.earliest? (reported.map (·.record.date)) = some oldest ∧
      Cuts provider reported stored ⟨.unbounded, reported, stored, oldest⟩ := by
  obtain ⟨oldest, holdest⟩ :
      ∃ d, Date.earliest? (reported.map (·.record.date)) = some d :=
    Date.exists_earliest? (by simpa using hne)
  refine ⟨oldest, holdest, hne, ⟨none, ?_⟩, rfl, rfl, holdest⟩
  rw [hwindow]
  rfl

/-- Both sides of the sync window are parts of what was given. -/
theorem cut_spec {w : Windowed}
    (h : Returns (cut provider reported stored) j w j') :
    w.reported.Sublist reported ∧ w.stored.Sublist stored ∧
    j'.drawn = j.drawn := by
  obtain ⟨hcuts, hdrawn⟩ := cuts_of_returns h
  exact ⟨Window.truncate_sublist hcuts.reported,
    Window.truncate_sublist hcuts.stored, hdrawn⟩

/-! ## Checking -/

theorem reportedFor_eq_nil {reason : Reason}
    (h : ∀ u ∈ final.unmatchedReported, u.reason ≠ reason) :
    final.reportedFor reason = [] := by
  rw [MatchResult.reportedFor, List.filter_eq_nil_iff]
  intro u hu
  rw [beq_iff_eq]
  exact h u hu

theorem storedFor_eq_nil {reason : Reason}
    (h : ∀ u ∈ final.unmatchedStored, u.reason ≠ reason) :
    final.storedFor reason = [] := by
  rw [MatchResult.storedFor, List.filter_eq_nil_iff]
  intro u hu
  rw [beq_iff_eq]
  exact h u hu

/-- Where all that is left of the stored side is peerless, the peerless are all
that is left. -/
theorem storedFor_peerless_eq
    (h : ∀ u ∈ final.unmatchedStored, u.reason = .peerless) :
    final.storedFor .peerless = final.unmatchedStored := by
  refine List.filter_eq_self.2 fun u hu => ?_
  rw [h u hu]
  exact beq_self_eq_true _

/-- What is left on the reported side is peerless. -/
theorem checkReported_spec {name : String} {final : MatchResult} {u : Unit}
    (h : checkReported name final = .ok u) :
    ∀ u ∈ final.unmatchedReported, u.reason = .peerless := by
  simp only [checkReported] at h
  split at h
  · cases h
  next hunprocessed =>
  split at h
  · obtain ⟨_, -, h⟩ := bind_eq_ok_iff.1 h
    obtain ⟨_, -, h⟩ := bind_eq_ok_iff.1 h
    cases h
  next hempty =>
  simp only [Bool.not_eq_true', Bool.not_eq_false, Bool.and_eq_true]
    at hunprocessed hempty
  intro u hu
  cases hr : u.reason with
  | peerless => rfl
  | unprocessed => exact (Unmatched.reason_ne hunprocessed hu hr).elim
  | rejected => exact (Unmatched.reason_ne hempty.1 hu hr).elim
  | duplicate => exact (Unmatched.reason_ne hempty.2 hu hr).elim

/-- The check of the reported side passes what is peerless. -/
theorem checkReported_of_peerless (name : String)
    (h : ∀ u ∈ final.unmatchedReported, u.reason = .peerless) :
    checkReported name final = .ok () := by
  have hnone : ∀ reason, reason ≠ .peerless → final.reportedFor reason = [] :=
    fun reason hne => reportedFor_eq_nil
      fun u hu => by rw [h u hu]; exact hne.symm
  unfold checkReported
  rw [hnone .unprocessed Reason.noConfusion, hnone .rejected Reason.noConfusion,
    hnone .duplicate Reason.noConfusion]
  rfl

/-- The check of the reported side refuses the rest as unresolved, when it has
been processed and can be shown. -/
theorem checkReported_refuses (name : String)
    (hprocessed : ∀ u ∈ final.unmatchedReported, u.reason ≠ .unprocessed)
    (htimestamps : ∀ u ∈ final.unmatchedReported,
      ∃ t, (view u.transaction).timestamp = .ok t)
    (h : ¬ ∀ u ∈ final.unmatchedReported, u.reason = .peerless) :
    ∃ why, checkReported name final = .error (.unresolved why) := by
  have htable : ∀ reason, ∃ rows, unmatchedTable (final.reportedFor reason) =
      .ok rows :=
    fun reason => unmatchedTable_total _ fun u hu =>
      htimestamps u (List.mem_filter.1 hu).1
  obtain ⟨rejectedRows, hrejected⟩ := htable .rejected
  obtain ⟨duplicateRows, hduplicate⟩ := htable .duplicate
  have hsome : ((final.reportedFor .rejected).isEmpty &&
      (final.reportedFor .duplicate).isEmpty) = false := by
    rw [← Bool.not_eq_true, Bool.and_eq_true]
    rintro ⟨hnoRejected, hnoDuplicate⟩
    refine h fun u hu => ?_
    cases hr : u.reason with
    | peerless => rfl
    | unprocessed => exact (hprocessed u hu hr).elim
    | rejected => exact (Unmatched.reason_ne hnoRejected hu hr).elim
    | duplicate => exact (Unmatched.reason_ne hnoDuplicate hu hr).elim
  unfold checkReported
  rw [reportedFor_eq_nil hprocessed]
  simp only [List.isEmpty_nil, Bool.not_true, Bool.false_eq_true, if_false,
    hsome, Bool.not_false, if_true, hrejected, hduplicate]
  exact ⟨_, rfl⟩

/-- The last of the checks of the stored side. -/
theorem no_duplicate {name : String} {final : MatchResult} {u : Unit}
    (h : Returns (if (!(final.storedFor .duplicate).isEmpty) = true then do
        let rows ← Run.ofExcept (unmatchedTable (final.storedFor .duplicate))
        throw (.unresolved
          (.storedDuplicate name (final.storedFor .duplicate).length rows))
      else pure ()) j u j') :
    (final.storedFor .duplicate).isEmpty = true ∧ j' = j := by
  split at h
  · simp only [returns_bind] at h
    obtain ⟨_, _, -, h⟩ := h
    exact (not_returns_throw h).elim
  · next hduplicate =>
    simp only [Bool.not_eq_true', Bool.not_eq_false] at hduplicate
    exact ⟨hduplicate, (returns_pure.1 h).2⟩

/-- What is peerless lies on the day that the check of the peerless ones asks
for. -/
theorem date_of_all {oldest : Date}
    (h : (final.storedFor .peerless).all
      (fun u => u.transaction.record.date == oldest) = true)
    {u : Unmatched (Member Stored)} (hu : u ∈ final.unmatchedStored)
    (hreason : u.reason = .peerless) :
    u.transaction.record.date = oldest := by
  have hmem : u ∈ final.storedFor .peerless :=
    List.mem_filter.2 ⟨hu, by rw [hreason]; exact beq_self_eq_true _⟩
  exact eq_of_beq (List.all_eq_true.1 h u hmem)

/-- What is left on the stored side is peerless and lies on the oldest reported
day. -/
theorem checkStored_spec {name : String} {final : MatchResult} {oldest : Date}
    {u : Unit} (h : Returns (checkStored name final oldest) j u j') :
    (∀ u ∈ final.unmatchedStored, u.reason = .peerless ∧
      u.transaction.record.date = oldest) ∧ j'.drawn = j.drawn := by
  simp only [checkStored] at h
  split at h
  · rw [returns_bind] at h
    obtain ⟨_, _, h, -⟩ := h
    exact (not_returns_throw h).elim
  next hunprocessed =>
  split at h
  · simp only [returns_bind] at h
    obtain ⟨_, _, -, _, _, h, -⟩ := h
    exact (not_returns_throw h).elim
  next hrejected =>
  simp only [Bool.not_eq_true', Bool.not_eq_false] at hunprocessed hrejected
  -- the peerless ones are looked at before the duplicates, and let the run go
  -- on or stop it
  have hrest : (final.storedFor .duplicate).isEmpty = true ∧
      (∀ u ∈ final.unmatchedStored, u.reason = .peerless →
        u.transaction.record.date = oldest) ∧ j'.drawn = j.drawn := by
    split at h
    · simp only [returns_bind, returns_ofExcept] at h
      obtain ⟨_, _, ⟨-, rfl⟩, h⟩ := h
      split at h
      · next hall =>
        rw [returns_bind] at h
        obtain ⟨_, _, hlog, h⟩ := h
        obtain rfl := returns_log.1 hlog
        obtain ⟨hduplicate, rfl⟩ := no_duplicate h
        exact ⟨hduplicate, fun u hu hr => date_of_all hall hu hr, rfl⟩
      · exact (not_returns_throw h).elim
    · next hpeerless =>
      simp only [Bool.not_eq_true', Bool.not_eq_false] at hpeerless
      obtain ⟨hduplicate, rfl⟩ := no_duplicate h
      exact ⟨hduplicate, fun u hu hr =>
        (Unmatched.reason_ne hpeerless hu hr).elim, rfl⟩
  obtain ⟨hduplicate, holdest, hdrawn⟩ := hrest
  refine ⟨fun u hu => ?_, hdrawn⟩
  cases hr : u.reason with
  | peerless => exact ⟨rfl, holdest u hu hr⟩
  | unprocessed => exact (Unmatched.reason_ne hunprocessed hu hr).elim
  | rejected => exact (Unmatched.reason_ne hrejected hu hr).elim
  | duplicate => exact (Unmatched.reason_ne hduplicate hu hr).elim

/-- The check of the stored side passes what is peerless and lies on the oldest
reported day. -/
theorem checkStored_of_peerless (name : String) (oldest : Date) (j : Journal)
    (h : ∀ u ∈ final.unmatchedStored, u.reason = .peerless)
    (holdest : ∀ u ∈ final.unmatchedStored,
      u.transaction.record.date = oldest) :
    ∃ j', Returns (checkStored name final oldest) j () j' := by
  have hnone : ∀ reason, reason ≠ .peerless → final.storedFor reason = [] :=
    fun reason hne => storedFor_eq_nil
      fun u hu => by rw [h u hu]; exact hne.symm
  obtain ⟨rows, hrows⟩ := unmatchedTable_total (final.storedFor .peerless)
    fun u _ => timestamp_stored u.transaction
  have hall : (final.storedFor .peerless).all (fun u =>
      u.transaction.record.date == oldest) = true := by
    rw [List.all_eq_true]
    intro u hu
    rw [holdest u (List.mem_filter.1 hu).1]
    exact beq_self_eq_true oldest
  unfold checkStored
  rw [hnone .unprocessed Reason.noConfusion, hnone .rejected Reason.noConfusion,
    hnone .duplicate Reason.noConfusion]
  simp only [List.isEmpty_nil, Bool.not_true, Bool.false_eq_true, if_false]
  split
  · simp only [returns_bind, returns_ofExcept, returns_log, returns_pure]
    exact ⟨_, rows, j, ⟨hrows, rfl⟩, (), _, rfl, trivial, rfl⟩
  · exact ⟨j, returns_pure.2 ⟨rfl, rfl⟩⟩

/-- The check of the stored side refuses the rest as unresolved, when it has
been processed. -/
theorem checkStored_refuses (name : String) (oldest : Date) (j : Journal)
    (hprocessed : ∀ u ∈ final.unmatchedStored, u.reason ≠ .unprocessed)
    (h : ¬ ∀ u ∈ final.unmatchedStored,
      u.reason = .peerless ∧ u.transaction.record.date = oldest) :
    ∃ why, Fails (checkStored name final oldest) j (.unresolved why) := by
  have hreturns : ∀ reason k, ∃ rows,
      Returns (Run.ofExcept (unmatchedTable (final.storedFor reason))) k
        rows k := by
    intro reason k
    obtain ⟨rows, hrows⟩ := unmatchedTable_total (final.storedFor reason)
      fun u _ => timestamp_stored u.transaction
    exact ⟨rows, returns_ofExcept.2 ⟨hrows, rfl⟩⟩
  unfold checkStored
  rw [storedFor_eq_nil hprocessed]
  simp only [List.isEmpty_nil, Bool.not_true, Bool.false_eq_true, if_false]
  by_cases hrejected : (final.storedFor .rejected).isEmpty = true
  case neg =>
    obtain ⟨rows, hrows⟩ := hreturns .rejected j
    rw [if_pos (by simpa using hrejected)]
    exact ⟨_, hrows.bind_fails fails_throw.bind⟩
  -- where the peerless ones are tolerated, there is a duplicate, which is
  -- refused
  have hlast : ∀ k, (∀ u ∈ final.unmatchedStored, u.reason = .peerless →
      u.transaction.record.date = oldest) →
      ∃ why, Fails (if (!(final.storedFor .duplicate).isEmpty) = true then do
        let rows ← Run.ofExcept (unmatchedTable (final.storedFor .duplicate))
        throw (.unresolved
          (.storedDuplicate name (final.storedFor .duplicate).length rows))
      else pure ()) k (.unresolved why) := by
    intro k htolerated
    have hduplicate : ¬ (final.storedFor .duplicate).isEmpty = true := by
      intro hduplicate
      refine h fun u hu => ?_
      cases hr : u.reason with
      | peerless => exact ⟨rfl, htolerated u hu hr⟩
      | unprocessed => exact (hprocessed u hu hr).elim
      | rejected => exact (Unmatched.reason_ne hrejected hu hr).elim
      | duplicate => exact (Unmatched.reason_ne hduplicate hu hr).elim
    obtain ⟨rows, hrows⟩ := hreturns .duplicate k
    rw [if_pos (by simpa using hduplicate)]
    exact ⟨_, hrows.bind_fails fails_throw⟩
  rw [if_neg (by simpa using hrejected)]
  split
  · obtain ⟨rows, hrows⟩ := hreturns .peerless j
    by_cases hall : (final.storedFor .peerless).all (fun u =>
      u.transaction.record.date == oldest) = true
    · obtain ⟨why, hwhy⟩ := hlast _ fun u hu hr => date_of_all hall hu hr
      refine ⟨why, hrows.bind_fails ?_⟩
      rw [if_pos hall]
      exact (log_returns _ _ _ _).bind_fails hwhy
    · refine ⟨.storedPeerless name (final.storedFor .peerless).length rows,
        hrows.bind_fails ?_⟩
      rw [if_neg hall]
      exact fails_throw
  · next hnone =>
    simp only [Bool.not_eq_true', Bool.not_eq_false] at hnone
    exact hlast j fun u hu hr => (Unmatched.reason_ne hnone hu hr).elim

end ChainSync

end LedgerSync
