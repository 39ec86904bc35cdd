import LedgerSync.Proofs.Matching.Rounds

/-!
# Verdicts along a chain

Every round of a chain judges what the rounds before left, and the heaviest
verdict on a transaction stays. Within one round a key that is usable on both
sides leaves a transaction of either side only where one of the two is a
duplicate (`Matcher.duplicate_of_sharesKey`), and no transaction is both a
duplicate and peerless. So a transaction that ends peerless but was a duplicate
in one round was peerless in another (`Party.overruled_of_duplicate`).
-/

namespace LedgerSync.Matching

open Run

namespace Matcher

/-! ## One round -/

/-- The matcher gives both transactions a usable key, and it is the same. -/
def SharesKey (m : Matcher) (t : Member Reported) (s : Member Stored) : Prop :=
  ∃ key key', m.keyOf (view t) = .ok (key, true) ∧
    m.keyOf (view s) = .ok (key', true) ∧ key.same key' = true

namespace Side

variable {α : Type} [Viewable α] {m : Matcher}
  {entries peerless rejected duplicate : List (Unmatched α)}
  {found : Key → Bool} {keyed : List (Keyed α)} {t : α} {key : Key}

/-- What is left with a usable key is a duplicate, or unique and not found on
the other side. -/
theorem duplicate_or_lonely
    (h : Side m entries found keyed peerless rejected duplicate)
    (ht : t ∈ (peerless ++ rejected ++ duplicate).map (·.transaction))
    (hkey : m.keyOf (view t) = .ok (key, true)) :
    t ∈ duplicate.map (·.transaction) ∨ ∃ k ∈ uniques keyed, k.key = key ∧
    found key = false := by
  obtain ⟨u, hu, rfl⟩ := List.mem_map.1 ht
  rcases List.mem_append.1 hu with hu | hu
  · rcases List.mem_append.1 hu with hu | hu
    · obtain ⟨k, hk, hfound, -, hkey'⟩ := h.mem_peerless hu
      rw [hkey] at hkey'
      cases hkey'
      exact Or.inr ⟨k, hk, rfl, hfound⟩
    · obtain ⟨key', hkey'⟩ := h.mem_rejected hu
      rw [hkey] at hkey'
      cases hkey'
  · exact Or.inl (List.mem_map_of_mem hu)

/-- Nothing is peerless and a duplicate. -/
theorem peerless_duplicate_disjoint
    (h : Side m entries found keyed peerless rejected duplicate)
    (hpeerless : t ∈ peerless.map (·.transaction)) :
    t ∉ duplicate.map (·.transaction) := by
  intro hduplicate
  obtain ⟨u, hu, rfl⟩ := List.mem_map.1 hpeerless
  obtain ⟨u', hu', heq⟩ := List.mem_map.1 hduplicate
  obtain ⟨k, hk, -, -, hkey⟩ := h.mem_peerless hu
  obtain ⟨k', hk', -, hkey'⟩ := h.mem_duplicate hu'
  rw [heq, hkey] at hkey'
  -- both entries have the key of the transaction, so they are in one group
  have hsame : k.key = k'.key := congrArg Prod.fst (Except.ok.inj hkey')
  have hseveral := (group_of_mem_repeated h.haveSets hk').2
  rw [← hsame, group_of_mem_uniques h.haveSets hk] at hseveral
  exact hseveral rfl

end Side

/-- A round that leaves two transactions with a shared key finds a duplicate on
one of the sides. -/
theorem duplicate_of_sharesKey {m : Matcher} {previous : MatchResult}
    {r : Round} {t : Member Reported} {s : Member Stored}
    (h : m.round previous = .ok r)
    (ht : t ∈ (r.after previous).unmatchedReported.map (·.transaction))
    (hs : s ∈ (r.after previous).unmatchedStored.map (·.transaction))
    (hshared : m.SharesKey t s) :
    t ∈ r.reportedDuplicate.map (·.transaction) ∨
    s ∈ r.storedDuplicate.map (·.transaction) := by
  obtain ⟨key, key', hkey, hkey', hsame⟩ := hshared
  obtain ⟨reported, stored, hsides⟩ := round_sides h
  rcases hsides.reportedSide.duplicate_or_lonely ht hkey with hduplicate | ⟨k,
    -, rfl, hnone⟩
  · exact Or.inl hduplicate
  rcases hsides.storedSide.duplicate_or_lonely hs hkey' with hduplicate | ⟨k',
    hk', rfl, -⟩
  · exact Or.inr hduplicate
  -- both are unique on their side, so the round would have paired them
  have hset := isSet_of_keyOf hkey
  have hfound : (find? (uniques stored) k.key).isSome = true :=
    (find?_isSome_iff hset).2 ⟨k', hk', (Key.same_iff_core_eq hset).1 hsame⟩
  rw [hnone] at hfound
  cases hfound

end Matcher

/-! ## The rounds of a chain -/

namespace MatchResult

variable {ms ms' : List Matcher} {start final previous previous' : MatchResult}
  {k : Nat} {m m' : Matcher} {round round' : Matcher.Round}

/-- In a chain, the matcher at a place plays a round on what the matchers before
it left. -/
structure PlaysAt (ms : List Matcher) (start : MatchResult) (k : Nat)
    (m : Matcher) (previous : MatchResult) (round : Matcher.Round) : Prop where
  matcher : ms[k]? = some m
  before : playAll (ms.take k) start = .ok previous
  played : m.round previous = .ok round

namespace PlaysAt

/-- There is one round at a place. -/
theorem unique (h : PlaysAt ms start k m previous round)
    (h' : PlaysAt ms start k m' previous' round') : round = round' := by
  have hm : m = m' := Option.some.inj (h.matcher.symm.trans h'.matcher)
  have hprevious : previous = previous' :=
    Except.ok.inj (h.before.symm.trans h'.before)
  have hround := h.played
  rw [hm, hprevious, h'.played] at hround
  exact (Except.ok.inj hround).symm

/-- Longer chains have the same rounds at first. -/
theorem append (h : PlaysAt ms start k m previous round) (ms' : List Matcher) :
    PlaysAt (ms ++ ms') start k m previous round := by
  have hk : k < ms.length := (List.getElem?_eq_some_iff.1 h.matcher).1
  refine ⟨?_, ?_, h.played⟩
  · rw [List.getElem?_append_left hk]
    exact h.matcher
  · rw [List.take_append_of_le_length (Nat.le_of_lt hk)]
    exact h.before

/-- The round after all the matchers of a chain. -/
theorem last (h : playAll ms start = .ok previous)
    (hround : m.round previous = .ok round) :
    PlaysAt (ms ++ [m]) start ms.length m previous round := by
  refine ⟨List.getElem?_concat_length, ?_, hround⟩
  rw [List.take_left]
  exact h

end PlaysAt

/-- A chain goes through the result before any of its matchers, which then plays
or has nothing to play on. -/
theorem playAll_at (h : playAll ms start = .ok final) (hm : ms[k]? = some m) :
    ∃ previous next, playAll (ms.take k) start = .ok previous ∧
      (if previous.hasUnmatched then m.apply previous else .ok previous) =
        .ok next ∧ playAll (ms.drop (k + 1)) next = .ok final := by
  obtain ⟨hk, rfl⟩ := List.getElem?_eq_some_iff.1 hm
  rw [← List.take_append_drop k ms, playAll_append,
    List.drop_eq_getElem_cons hk] at h
  obtain ⟨previous, hprevious, h⟩ := bind_eq_ok_iff.1 h
  unfold playAll at h
  rw [List.foldlM_cons] at h
  obtain ⟨next, hnext, hrest⟩ := bind_eq_ok_iff.1 h
  exact ⟨previous, next, hprevious, hnext, hrest⟩

end MatchResult

/-! ## The verdicts on one side -/

open MatchResult

/-- Nothing is peerless before the first round. -/
theorem not_peerless_of_untouched {α : Type} (ts : List α) :
    ∀ u ∈ ts.map Unmatched.untouched, u.reason ≠ .peerless := by
  intro u hu
  obtain ⟨t, -, rfl⟩ := List.mem_map.1 hu
  exact Reason.noConfusion

/-- One of the sides of a chain: what a result leaves of it, and what a round
says of it. -/
structure Party (α : Type) [Viewable α] where
  left : MatchResult → List (Unmatched α)
  verdicts : Matcher.Round → Reason → List (Unmatched α)
  left_after : ∀ round previous, left (Matcher.Round.after round previous) =
    verdicts round .peerless ++ verdicts round .rejected ++
    verdicts round .duplicate
  side : ∀ {m previous round}, Matcher.round m previous = .ok round →
    ∃ found keyed,
    Matcher.Side m (left previous) found keyed (verdicts round .peerless)
      (verdicts round .rejected) (verdicts round .duplicate)
  hasUnmatched : ∀ {r u}, u ∈ left r → r.hasUnmatched = true

namespace Party

/-- The reported side. -/
def reported : Party (Member Reported) where
  left := (·.unmatchedReported)
  verdicts := fun round reason => match reason with
    | .unprocessed => []
    | .rejected => round.reportedRejected
    | .duplicate => round.reportedDuplicate
    | .peerless => round.reportedPeerless
  left_after := fun _ _ => rfl
  side := fun h => by
    obtain ⟨reported, stored, hsides⟩ := Matcher.round_sides h
    exact ⟨_, reported, hsides.reportedSide⟩
  hasUnmatched := fun {r u} hu => by
    cases h : r.unmatchedReported with
    | nil => simp [h] at hu
    | cons => simp [MatchResult.hasUnmatched, h]

/-- The stored side. -/
def stored : Party (Member Stored) where
  left := (·.unmatchedStored)
  verdicts := fun round reason => match reason with
    | .unprocessed => []
    | .rejected => round.storedRejected
    | .duplicate => round.storedDuplicate
    | .peerless => round.storedPeerless
  left_after := fun _ _ => rfl
  side := fun h => by
    obtain ⟨reported, stored, hsides⟩ := Matcher.round_sides h
    exact ⟨_, stored, hsides.storedSide⟩
  hasUnmatched := fun {r u} hu => by
    cases h : r.unmatchedStored with
    | nil => simp [h] at hu
    | cons => simp [MatchResult.hasUnmatched, h]

variable {α : Type} [Viewable α] (p : Party α) {ms : List Matcher}
  {start final : MatchResult} {k : Nat} {m : Matcher} {t : α} {u : Unmatched α}

/-- In a chain, the round at a place gives a transaction a verdict. -/
def Judges (ms : List Matcher) (start : MatchResult) (k : Nat) (reason : Reason)
    (t : α) : Prop :=
  ∃ m previous round, PlaysAt ms start k m previous round ∧
    t ∈ (p.verdicts round reason).map (·.transaction)

/-- In a chain, the round at a place finds a transaction a duplicate, and
another round finds it peerless. -/
def Overruled (ms : List Matcher) (start : MatchResult) (k : Nat) (t : α) :
    Prop :=
  p.Judges ms start k .duplicate t ∧ ∃ l, l ≠ k ∧
    p.Judges ms start l .peerless t

variable {p} in
/-- Only a chain of several matchers overrules. -/
theorem Overruled.one_lt_length (h : p.Overruled ms start k t) :
    1 < ms.length := by
  obtain ⟨⟨_, _, _, hplays, -⟩, l, hne, _, _, _, hplays', -⟩ := h
  have hk := (List.getElem?_eq_some_iff.1 hplays.matcher).1
  have hl := (List.getElem?_eq_some_iff.1 hplays'.matcher).1
  omega

/-- Nothing is left that was not there. -/
theorem left_subset (h : playAll ms start = .ok final) :
    (p.left final).map (·.transaction) ⊆ (p.left start).map
    (·.transaction) := by
  refine playAll_induction h
    (fun q => (p.left q).map (·.transaction) ⊆ (p.left start).map
      (·.transaction)) (List.Subset.refl _) ?_
  intro m q round hq hround
  obtain ⟨_, _, hside⟩ := p.side hround
  rw [p.left_after]
  intro t ht
  exact hq (hside.transactions_perm.subset (List.mem_append_right _ ht))

/-- Every matcher of a chain plays a round while something is left, and leaves
it. -/
theorem exists_playsAt (h : playAll ms start = .ok final) (hm : ms[k]? = some m)
    (hu : u ∈ p.left final) :
    ∃ previous round, PlaysAt ms start k m previous round ∧
      playAll (ms.drop (k + 1)) (round.after previous) = .ok final := by
  obtain ⟨previous, next, hprevious, hnext, hrest⟩ := playAll_at h hm
  have hunmatched : previous.hasUnmatched = true := by
    by_contra hnone
    rw [if_neg hnone] at hnext
    cases hnext
    obtain ⟨u', hu', -⟩ :=
      List.mem_map.1 (p.left_subset hrest (List.mem_map_of_mem hu))
    exact hnone (p.hasUnmatched hu')
  rw [if_pos hunmatched] at hnext
  obtain ⟨round, hround, rfl⟩ := apply_eq_ok_iff.1 hnext
  exact ⟨previous, round, ⟨hm, hprevious, hround⟩, hrest⟩

/-- What ends peerless was judged peerless in some round. -/
theorem judges_peerless (h : playAll ms start = .ok final)
    (hstart : ∀ u ∈ p.left start, u.reason ≠ .peerless) (hu : u ∈ p.left final)
    (hreason : u.reason = .peerless) :
    ∃ k, p.Judges ms start k .peerless u.transaction := by
  have hall : playAll ms start = .ok final ∧ ∀ u ∈ p.left final,
      u.reason = .peerless →
      ∃ k, p.Judges ms start k .peerless u.transaction := by
    refine foldlM_ok_induction h (fun seen q => playAll seen start = .ok q ∧
      ∀ u ∈ p.left q, u.reason = .peerless →
        ∃ k, p.Judges seen start k .peerless u.transaction) ?_ ?_
    · exact ⟨rfl, fun u hu hr => (hstart u hu hr).elim⟩
    · intro seen m q q' hq hstep
      obtain ⟨hseen, hq⟩ := hq
      refine ⟨?_, ?_⟩
      · rw [playAll_append, hseen]
        show playAll [m] q = _
        unfold playAll
        rw [List.foldlM_cons, hstep]
        rfl
      intro u hu hr
      -- a verdict of an earlier round is still one in the longer chain
      have hcarried : u ∈ p.left q →
          ∃ k, p.Judges (seen ++ [m]) start k .peerless u.transaction := by
        intro hmem
        obtain ⟨k, m', previous, round, hplays, ht⟩ := hq u hmem hr
        exact ⟨k, m', previous, round, hplays.append [m], ht⟩
      split at hstep
      · obtain ⟨round, hround, rfl⟩ := apply_eq_ok_iff.1 hstep
        obtain ⟨_, _, hside⟩ := p.side hround
        rw [p.left_after] at hu
        rcases hside.peerless_of_reason hu hr with hnew | hold
        · exact ⟨seen.length, m, q, round, .last hseen hround,
            List.mem_map_of_mem hnew⟩
        · exact hcarried hold
      · cases hstep
        exact hcarried hu
  exact hall.2 u hu hreason

/-- A duplicate of one round that ends peerless was overruled by another
round. -/
theorem overruled_of_duplicate (h : playAll ms start = .ok final)
    (hstart : ∀ u ∈ p.left start, u.reason ≠ .peerless) (hu : u ∈ p.left final)
    (hreason : u.reason = .peerless)
    (hduplicate : p.Judges ms start k .duplicate u.transaction) :
    p.Overruled ms start k u.transaction := by
  obtain ⟨l, hpeerless⟩ := p.judges_peerless h hstart hu hreason
  refine ⟨hduplicate, l, ?_, hpeerless⟩
  intro hl
  subst hl
  obtain ⟨m, previous, round, hplays, ht⟩ := hpeerless
  obtain ⟨m', previous', round', hplays', ht'⟩ := hduplicate
  obtain rfl := hplays.unique hplays'
  obtain ⟨_, _, hside⟩ := p.side hplays.played
  exact hside.peerless_duplicate_disjoint ht ht'

end Party

end LedgerSync.Matching
