import LedgerSync.Proofs.Failing
import LedgerSync.Proofs.Matching.Completion

/-!
# What stops a chain of matchers

A round stops where a part of a transaction cannot be read: the amount or the
time has no value, or a selector that is held back cannot compare its time with
the present one (`Failure.IsOfReading`). The other failures of a round are about
conditions that hold by construction. A matcher has selectors, so its keys are
not empty and its verdicts rest on attributes; and no round gains or loses a
transaction, so its result is never refused. Beside what cannot be read, only a
transaction that is not booked stops a chain (`Provider.reconcile_stopsOnly`).
-/

namespace LedgerSync

open Run

/-- A part of a transaction cannot be read: it has no value, or the times of a
selector cannot be compared. -/
def Failure.IsOfReading (e : Failure) : Prop := e.IsOfValue ∨ e = .incomparable

theorem Failure.isOfReading_of_value {e : Failure} (h : e.IsOfValue) :
    e.IsOfReading := Or.inl h

/-- What a view cannot show has no value. -/
structure View.Readable (v : View) : Prop where
  cents : FailsOnly Failure.IsOfValue v.cents
  timestamp : FailsOnly Failure.IsOfValue v.timestamp

theorem Reported.readable (m : Member Reported) : (view m).Readable where
  cents := cents_failsOnly
  timestamp := timestamp_failsOnly.map

theorem Stored.readable (m : Member Stored) : (view m).Readable where
  cents := cents_failsOnly
  timestamp := .ok _

namespace Matching

/-! ## Selectors -/

namespace Selector

theorem extract_failsOnly {v : View} (hv : v.Readable) (s : Selector) :
    FailsOnly Failure.IsOfReading (s.extract v) := by
  intro e he
  obtain h | h | rfl := s.failure_of_extract he
  · exact Failure.isOfReading_of_value (hv.cents e h)
  · exact Failure.isOfReading_of_value (hv.timestamp e h)
  · exact Or.inr rfl

theorem select_failsOnly {v : View} (hv : v.Readable) (s : Selector) :
    FailsOnly Failure.IsOfReading (s.select v) := by
  refine (s.extract_failsOnly hv).bind fun a ha => ?_
  obtain ⟨b, hb⟩ := s.usable_of_extract ha
  exact FailsOnly.bind (.of_ok hb) fun _ _ => .ok _

end Selector

/-! ## Rounds -/

namespace Matcher

variable {m : Matcher}

theorem keyOf_failsOnly {v : View} (hv : v.Readable) :
    FailsOnly Failure.IsOfReading (m.keyOf v) := by
  refine (FailsOnly.mapM fun s _ => s.select_failsOnly hv).bind
    fun results hresults => ?_
  refine .bind ?_ fun _ _ => .ok _
  have hlength := (mapM_eq_ok_iff.1 hresults).length_eq
  cases results with
  | nil =>
    exact absurd (List.eq_nil_of_length_eq_zero hlength) m.selectors_ne_nil
  | cons a results => exact .ok _

section Split

variable {α : Type} [Viewable α] {entries rejected : List (Unmatched α)}
  {keyed : List (Keyed α)}

theorem splitUsable_failsOnly
    (h : ∀ e ∈ entries, (view e.transaction).Readable) :
    FailsOnly Failure.IsOfReading (m.splitUsable entries) := by
  induction entries with
  | nil => exact .ok _
  | cons e entries ih =>
    have hrest := ih fun e' he' => h e' (List.mem_cons_of_mem _ he')
    rw [splitUsable]
    refine (keyOf_failsOnly (h e List.mem_cons_self)).bind
      fun found hfound => ?_
    obtain ⟨key, usable⟩ := found
    cases usable with
    | true => exact hrest.bind fun _ _ => .ok _
    | false =>
      obtain ⟨u, hu⟩ := carry_total (m := m) (k := ⟨e, key⟩) .rejected
        (key_ne_nil hfound)
      exact FailsOnly.bind (.of_ok hu) fun _ _ => hrest.bind fun _ _ => .ok _

/-- Verdicts on the entries that have keys do not fail. -/
theorem mapM_verdicts_failsOnly {ks : List (Keyed α)}
    {f : Keyed α → Except Failure (Unmatched α)} {P : Failure → Prop}
    (h : m.splitUsable entries = .ok (keyed, rejected)) (hks : ks ⊆ keyed)
    (hf : ∀ k : Keyed α, k.key ≠ [] → ∃ u, f k = .ok u) :
    FailsOnly P (ks.mapM f) := by
  obtain ⟨us, hus⟩ := mapM_verdicts h hks hf
  exact .of_ok hus

end Split

theorem round_failsOnly (previous : MatchResult) :
    FailsOnly Failure.IsOfReading (m.round previous) := by
  unfold round
  refine (splitUsable_failsOnly fun e _ => Reported.readable e.transaction).bind
    fun found hr => ?_
  obtain ⟨reported, reportedRejected⟩ := found
  refine (splitUsable_failsOnly fun e _ => Stored.readable e.transaction).bind
    fun found hs => ?_
  obtain ⟨stored, storedRejected⟩ := found
  have hduplicate {α : Type} (k : Keyed α) (hk : k.key ≠ []) :=
    carry_total (m := m) .duplicate hk
  have hpeerless {α : Type} (k : Keyed α) (hk : k.key ≠ []) :=
    verdict_total (m := m) .peerless hk
  refine (mapM_verdicts_failsOnly hr
    (repeated_subset (haveSets_of_splitUsable hr))
    hduplicate).bind fun _ _ => ?_
  refine (mapM_verdicts_failsOnly hs
    (repeated_subset (haveSets_of_splitUsable hs))
    hduplicate).bind fun _ _ => ?_
  refine (mapM_verdicts_failsOnly hr
    (List.filter_sublist.trans (uniques_sublist reported)).subset
      hpeerless).bind fun _ _ => ?_
  exact (mapM_verdicts_failsOnly hs
    (List.filter_sublist.trans (uniques_sublist stored)).subset hpeerless).bind
    fun _ _ => .ok _

end Matcher

/-! ## Chains -/

/-- A link of a chain stops only where its round does. -/
theorem extend_stopsOnly (results : MatchResults) (m : Matcher) :
    StopsOnly Failure.IsOfReading (extend results m) := by
  unfold extend
  split
  · have hrun : StopsOnly Failure.IsOfReading (m.run results.last) :=
      (StopsOnly.ofExcept (Matcher.round_failsOnly results.last)).bind
        fun _ _ =>
        (StopsOnly.log _ _ _).bind fun _ _ => .pure _
    refine hrun.bind fun result hresult => .ofExcept ?_
    -- what a round returned holds as many transactions as before
    obtain ⟨j, j', h⟩ := hresult
    simp only [Matcher.run, returns_bind, returns_ofExcept, returns_log,
      returns_pure] at h
    obtain ⟨round, _, ⟨hround, rfl⟩, _, _, rfl, rfl, rfl⟩ := h
    rw [MatchResults.append, if_pos (Matcher.count_after hround)]
    exact .ok _
  · exact (StopsOnly.log _ _ _).bind fun _ _ => .pure _

/-- A chain stops where a transaction is not booked or cannot be read. -/
theorem Provider.reconcile_stopsOnly (provider : Provider)
    (reported : List (Member Reported)) (stored : List (Member Stored)) :
    StopsOnly (fun e => e.IsOfReading ∨ ∃ side, e = .argument (.notBooked side))
      (provider.reconcile reported stored) := by
  have hbooked {α : Type} [Viewable α] (side : LedgerSync.Side) (ts : List α) :
      FailsOnly (fun e => e.IsOfReading ∨
        ∃ side, e = .argument (.notBooked side))
        (requireBooked side ts) := by
    unfold requireBooked
    split
    · exact .ok ()
    · exact .error (Or.inr ⟨side, rfl⟩)
  refine (StopsOnly.ofExcept (hbooked .reported reported)).bind fun _ _ => ?_
  refine (StopsOnly.ofExcept (hbooked .stored stored)).bind fun _ _ => ?_
  exact .foldlM fun results m => (extend_stopsOnly results m).mono
    fun _ => Or.inl

/-! ## Tables and reports -/

theorem unmatchedTable_failsOnly {α : Type} [Viewable α]
    {us : List (Unmatched α)} (h : ∀ u ∈ us, (view u.transaction).Readable) :
    FailsOnly Failure.IsOfValue (unmatchedTable us) := by
  unfold unmatchedTable
  split
  · exact .ok _
  · refine (FailsOnly.mapM fun u hu => ?_).bind fun _ _ => .ok _
    exact (h u hu).timestamp.bind fun _ _ => .ok _

theorem MatchResults.logText_failsOnly (results : MatchResults)
    (provider : String) (account : Option Uuid) (window : Window)
    (reported : List (Member Reported)) (stored : List (Member Stored)) :
    FailsOnly Failure.IsOfValue
      (results.logText provider account window reported stored) := by
  have hstage (stage : Nat) (r : MatchResult) :
      FailsOnly Failure.IsOfValue (stageText stage r) := by
    unfold stageText
    dsimp only
    split
    · exact .ok _
    · refine (unmatchedTable_failsOnly fun u _ =>
        Reported.readable u.transaction).bind fun _ _ => ?_
      refine (unmatchedTable_failsOnly fun u _ =>
        Stored.readable u.transaction).bind fun _ _ => ?_
      exact .ok _
  have hreport : FailsOnly Failure.IsOfValue results.report :=
    (FailsOnly.mapM fun s _ => hstage s.2 s.1).bind fun _ _ => .ok _
  exact hreport.bind fun _ _ => .ok _

end Matching

end LedgerSync
