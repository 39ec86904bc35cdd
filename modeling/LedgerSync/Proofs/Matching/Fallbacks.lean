import LedgerSync.Proofs.Matching.Mirrors
import LedgerSync.Proofs.Matching.Retracing

/-!
# The built-in chains over rows that mirror their transactions

The strict matcher, with which every built-in chain begins, agrees with every
row that mirrors its transaction, and so does the matcher without the time. The
others look at the time. If one of them gives both a key in common, then the row
shows the time of the transaction (`Matcher.Compares.showsInTime`), and all
matchers agree with the two. Otherwise only the matcher without the time can
join them, which is the last of its chain and comes after the matcher that it
was made of: the built-in chains fall back (`fallsBack_of_builtIn`).
-/

namespace LedgerSync.Matching

open Matcher

variable {m : Matcher} {provider : Provider}
  {pairs : List (Member Reported × Member Stored)}
  {p : Member Reported × Member Stored} {t : Member Reported}
  {s : Member Stored} {n : Int}

/-- A row that shares a key with the time in it shows the time. -/
theorem Matcher.Compares.showsInTime (hm : m.Compares .timestamp)
    (hmirrors : s.record.Mirrors t.record) (hcents : t.record.cents = .ok n)
    (h : m.SharesKey t s) : (view t).ShowsInTime (view s) where
  toShows := hmirrors.shows hcents
  timestamp := by
    obtain ⟨u, v, hu, hv, -⟩ := hmirrors.view_timestamp
    obtain ⟨a, b, ha, hb, hsame⟩ := hm.same_of_sharesKey h
    have hu' : (view t).timestamp = .ok (some u) := hu
    have hv' : (view s).timestamp = .ok (some v.toMillis) := hv
    obtain ⟨x, hx, ha⟩ := bind_eq_ok_iff.1 ha
    obtain ⟨y, hy, hb⟩ := bind_eq_ok_iff.1 hb
    obtain rfl := pure_eq_ok_iff.1 ha
    obtain rfl := pure_eq_ok_iff.1 hb
    obtain rfl := Except.ok.inj (hu'.symm.trans hx)
    obtain rfl := Except.ok.inj (hv'.symm.trans hy)
    refine ⟨u, v.toMillis, hu', hv', ?_⟩
    simpa [Attribute.same, Content.same] using hsame

/-- The matcher on the date looks at the time. -/
theorem compares_timestamp :
    BuiltIn.dateAmountStrict.matcher.Compares .timestamp :=
  ⟨⟨.plain .timestamp, by simp [BuiltIn.matcher, BuiltIn.detailFields],
    Selector.isOf_plain _⟩, (BuiltIn.compares .dateAmountStrict).1.2⟩

/-- All built-in matchers agree with a row that shows the time of its
transaction. -/
theorem agrees_of_builtIn (h : provider ∈ Registry.builtIn.providers)
    (hm : m ∈ provider.matchers) (hmirrors : p.2.record.Mirrors p.1.record)
    (hmillis : p.2.record.HasMillisOffset) (hcents : p.1.record.cents = .ok n) :
    m.Agrees p :=
  (isSteady_of_builtIn h hm).tag_eq (hmirrors.showsInTime hmillis hcents)

/-- Built-in matchers can look at a transaction and at a row that mirrors it. -/
theorem reads_of_builtIn (h : provider ∈ Registry.builtIn.providers)
    (hm : m ∈ provider.matchers) (hmirrors : s.record.Mirrors t.record)
    (hcents : t.record.cents = .ok n) :
    m.Reads (view t) ∧ m.Reads (view s) := by
  obtain ⟨u, v, hu, hv, -⟩ := hmirrors.view_timestamp
  have hcompares := (compares_of_builtIn h hm).1
  exact ⟨hcompares.reads hcents hu,
    hcompares.reads (hmirrors.cents.trans hcents) hv⟩

/-- The built-in chains fall back over rows that mirror their transactions. -/
theorem fallsBack_of_builtIn (h : provider ∈ Registry.builtIn.providers)
    (hmirrors : ∀ p ∈ pairs, p.2.record.Mirrors p.1.record)
    (hcents : ∀ p ∈ pairs, ∃ n, p.1.record.cents = .ok n) :
    FallsBack pairs provider.matchers := by
  have hlast : ∀ m : Matcher, FallsBack pairs [m] :=
    fun m => ⟨fun _ _ _ _ hm' => absurd hm' List.not_mem_nil, trivial⟩
  have hstrict : ∀ ms : List Matcher, FallsBack pairs ms →
      FallsBack pairs (BuiltIn.externalIdAmountStrict.matcher :: ms) := by
    refine fun ms hms => ⟨fun p hp hodd => ?_, hms⟩
    obtain ⟨n, hn⟩ := hcents p hp
    exact (hodd (isSteady_strict.tag_eq ((hmirrors p hp).shows hn))).elim
  refine Registry.forall_chains_builtIn (P := FallsBack pairs) (hlast _)
    (hstrict _ (hlast _)) (hstrict _ ⟨?_, hlast _⟩) (hstrict _ ⟨?_, hlast _⟩)
    provider h
  · -- a key with the time in it is one of the other matcher too
    intro p hp hodd m' hm' hshared
    obtain rfl := List.mem_singleton.1 hm'
    obtain ⟨n, hn⟩ := hcents p hp
    exact (hodd ((BuiltIn.isSteady .bookingDateAmountStrict).tag_eq
      (compares_timestamp.showsInTime (hmirrors p hp) hn hshared))).elim
  · intro p _ _ m' hm' _
    obtain rfl := List.mem_singleton.1 hm'
    exact ⟨rfl, (BuiltIn.compares
      .bookingDateAmountStrict).1.covers_of_without BuiltIn.without_timestamp⟩

end LedgerSync.Matching
