import LedgerSync.Proofs.Matching.Tables
import LedgerSync.Proofs.Store.Records

/-!
# What a report shows

A report on a chain goes to a log, where amounts, names and account numbers must
not appear. Two chains that agree in what may be shown of their transactions
(`MatchResults.ShownAlike`) therefore have one report, whatever else is in them.

What may be shown is shown in full. The first result holds every transaction, so
it has its counts alone; every other one has a table for each side
(`ShowsStage`), with a row for each transaction that is unmatched.
-/

namespace LedgerSync

namespace Matching

/-! ## Tables -/

section Tables

variable {α : Type} [Viewable α] {u u' : Unmatched α}
  {us us' : List (Unmatched α)}

/-- Both transactions agree in what may be shown of them, and of the verdict on
them. -/
structure Unmatched.ShownAlike (u u' : Unmatched α) : Prop where
  internalId : (view u.transaction).internalId =
    (view u'.transaction).internalId
  externalId : (view u.transaction).externalId =
    (view u'.transaction).externalId
  date : (view u.transaction).date = (view u'.transaction).date
  bookingDate : (view u.transaction).bookingDate =
    (view u'.transaction).bookingDate
  timestamp : (view u.transaction).timestamp = (view u'.transaction).timestamp
  reason : u.reason = u'.reason
  matcher : u.matcher = u'.matcher
  attributes : u.attributes.length = u'.attributes.length

theorem Unmatched.ShownAlike.row (h : u.ShownAlike u') :
    unmatchedRow u = unmatchedRow u' := by
  unfold unmatchedRow
  dsimp only
  rw [h.internalId, h.externalId, h.date, h.bookingDate, h.timestamp, h.reason,
    h.matcher, h.attributes]

theorem unmatchedTable_congr (h : List.Forall₂ Unmatched.ShownAlike us us') :
    unmatchedTable us = unmatchedTable us' := by
  have hrows : us.mapM unmatchedRow = us'.mapM unmatchedRow :=
    mapM_congr_of_forall₂ (h.imp fun _ _ halike => halike.row)
  cases h with
  | nil => rfl
  | cons => simp only [unmatchedTable, hrows, List.isEmpty_cons]

end Tables

/-! ## Reports -/

variable {r r' : MatchResult} {c c' : MatchResults} {stage : Nat}
  {text : String}

/-- Both results hold as many transactions of each kind, and agree in what may
be shown of those that are unmatched. -/
structure MatchResult.ShownAlike (r r' : MatchResult) : Prop where
  matched : r.matched.length = r'.matched.length
  multiMatched : r.multiMatched.length = r'.multiMatched.length
  reported : List.Forall₂ Unmatched.ShownAlike r.unmatchedReported
    r'.unmatchedReported
  stored : List.Forall₂ Unmatched.ShownAlike r.unmatchedStored
    r'.unmatchedStored

/-- Both chains have as many results, which agree one by one in what may be
shown. -/
def MatchResults.ShownAlike (c c' : MatchResults) : Prop :=
  List.Forall₂ MatchResult.ShownAlike c.toList c'.toList

theorem MatchResult.ShownAlike.stageText (h : r.ShownAlike r') (stage : Nat) :
    stageText stage r = Matching.stageText stage r' := by
  unfold Matching.stageText
  rw [h.matched, h.multiMatched, h.reported.length_eq, h.stored.length_eq,
    unmatchedTable_congr h.reported, unmatchedTable_congr h.stored]

/-- The counts of a result, as they are shown. -/
def countsText (stage : Nat) (r : MatchResult) : String :=
  s!"MatchResult ({stage})\n" ++
    s!"Matched: {r.matched.length}, MultiMatched: {r.multiMatched.length}, " ++
    s!"Unmatched upstream: {r.unmatchedReported.length}, " ++
    s!"Unmatched stored: {r.unmatchedStored.length}"

/-- The text shows a result of a chain: the first one by its counts, and any
other one by its counts and the tables of both sides. -/
inductive ShowsStage (stage : Nat) (r : MatchResult) : String → Prop
  | counts : stage = 0 → ShowsStage stage r (countsText stage r)
  | tables {reported stored : String} : stage ≠ 0 →
      IsTable r.unmatchedReported reported →
      IsTable r.unmatchedStored stored → ShowsStage stage r
        s!"{countsText stage r}\n\nUnmatched upstream:\n{reported}\n\nUnmatched stored:\n{stored}"

theorem showsStage_of_stageText (h : stageText stage r = .ok text) :
    ShowsStage stage r text := by
  unfold stageText at h
  dsimp only at h
  split at h
  · next hfirst =>
    obtain rfl := pure_eq_ok_iff.1 h
    exact .counts hfirst
  · next hlater =>
    obtain ⟨reported, hreported, h⟩ := bind_eq_ok_iff.1 h
    obtain ⟨stored, hstored, h⟩ := bind_eq_ok_iff.1 h
    obtain rfl := pure_eq_ok_iff.1 h
    exact .tables hlater (isTable_of_unmatchedTable hreported)
      (isTable_of_unmatchedTable hstored)

/-- The text shows the results of a chain, one after the other. -/
def MatchResults.IsReport (c : MatchResults) (text : String) : Prop :=
  ∃ stages, List.Forall₂ (fun s stage => ShowsStage s.2 s.1 stage)
    c.toList.zipIdx stages ∧ text = "\n\n".intercalate stages

namespace MatchResults

theorem isReport_of_report (h : c.report = .ok text) : c.IsReport text := by
  obtain ⟨stages, hstages, h⟩ := bind_eq_ok_iff.1 h
  exact ⟨stages, (mapM_eq_ok_iff.1 hstages).imp fun _ _ hstage =>
    showsStage_of_stageText hstage, pure_eq_ok_iff.1 h⟩

/-- Results that agree one by one do so at their places. -/
theorem ShownAlike.stages (h : c.ShownAlike c') :
    c.toList.zipIdx.mapM (fun s => stageText s.2 s.1) = c'.toList.zipIdx.mapM
    fun s => stageText s.2 s.1 := by
  refine mapM_congr_of_forall₂ ?_
  unfold MatchResults.ShownAlike at h
  -- the induction is on the results, from any place on
  generalize c.toList = rs, c'.toList = rs', 0 = place at h ⊢
  induction h generalizing place with
  | nil => exact .nil
  | cons halike _ ih => exact .cons (halike.stageText place) (ih (place + 1))

theorem ShownAlike.report (h : c.ShownAlike c') : c.report = c'.report := by
  unfold MatchResults.report
  rw [h.stages]

/-- Chains that agree in what may be shown have one report. It shows the
unmatched transactions of every result after the first one, and is written when
the timestamps of those of the reported side are in the calendar. -/
theorem report_shows_alike (h : c.ShownAlike c') :
    c.report = c'.report ∧ (∀ text, c.report = .ok text → c.IsReport text) ∧
      ((∃ text, c.report = .ok text) ↔ ∀ q ∈ c.toList.tail,
        ∀ u ∈ q.unmatchedReported,
        ∃ t, (view u.transaction).timestamp = .ok t) :=
  ⟨h.report, fun _ => isReport_of_report, report_returns_iff⟩

end MatchResults

end Matching

open Matching

/-- A payment of some amount and description that a round leaves peerless. -/
def Sample.unpaired (cents : Nat) (description : String) (k : Nat) :
    Unmatched (Member Reported) where
  matcher := "external-id-amount-strict"
  transaction := ⟨k, {
    Sample.reported (Text.decimalText k) description (Sample.day 4)
      with amount := .finite false cents (-2) }⟩
  attributes := [⟨"external-id", some (.text (Text.decimalText k))⟩,
    ⟨"amount", some (.cents cents)⟩]
  reason := .peerless

/-- A chain that leaves one payment more than a block has rows. -/
def Sample.unpairedChain (cents : Nat) (description : String) : MatchResults :=
  let left := (List.range 51).map (Sample.unpaired cents description)
  ⟨[.start (left.map (·.transaction)) []], ⟨[], [], left, []⟩⟩

/-- Neither amounts nor descriptions make a difference to the report. -/
theorem unpaired_report_shows_alike :
    ∃ text, (Sample.unpairedChain 1250 "tea").report = .ok text ∧
      (Sample.unpairedChain 99900 "rent").report = .ok text ∧
        (Sample.unpairedChain 1250 "tea").IsReport text := by
  have hleft : List.Forall₂ Unmatched.ShownAlike
      ((List.range 51).map (Sample.unpaired 1250 "tea"))
      ((List.range 51).map (Sample.unpaired 99900 "rent")) := by
    rw [List.forall₂_map_left_iff, List.forall₂_map_right_iff,
      List.forall₂_same]
    exact fun k _ => ⟨rfl, rfl, rfl, rfl, rfl, rfl, rfl, rfl⟩
  have hstart :
      (MatchResult.start (((List.range 51).map (Sample.unpaired 1250 "tea")).map
        (·.transaction)) []).ShownAlike
        (.start (((List.range 51).map (Sample.unpaired 99900 "rent")).map
          (·.transaction)) []) := by
    refine ⟨rfl, rfl, ?_, .nil⟩
    simp only [MatchResult.start, List.map_map]
    rw [List.forall₂_map_left_iff, List.forall₂_map_right_iff,
      List.forall₂_same]
    exact fun k _ => ⟨rfl, rfl, rfl, rfl, rfl, rfl, rfl, rfl⟩
  obtain ⟨hsame, hshows, hwritten⟩ :=
    @MatchResults.report_shows_alike (Sample.unpairedChain 1250 "tea")
    (Sample.unpairedChain 99900 "rent")
      (.cons hstart (.cons ⟨rfl, rfl, hleft, .nil⟩ .nil))
  obtain ⟨text, htext⟩ := hwritten.2 fun q hq u hu => by
    obtain rfl := List.mem_singleton.1 hq
    obtain ⟨k, -, rfl⟩ := List.mem_map.1 hu
    have htime : (view (Sample.unpaired 1250 "tea" 0).transaction).timestamp =
        .ok (some (Sample.midnight (Sample.day 4))) := by decide +kernel
    exact ⟨_, htime⟩
  exact ⟨text, htext, hsame ▸ htext, hshows text htext⟩

end LedgerSync
