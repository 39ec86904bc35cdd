import LedgerSync.Proofs.Matching.Joining

/-!
# The fields that a matcher compares

A key is a set of named values, so equal keys need not come about in the same
order. But each field has a name of its own (`Field.name_injective`), and
restrictions do not change what a selector extracts. So two transactions with
one key have equal values in every field that the matcher compares
(`Matcher.Compares.same_of_sharesKey`), and the pairs of a chain have them in
every field that all its matchers compare (`MatchResult.same_of_playAll`). They
also have one key of a matcher that compares fewer of the fields
(`Matcher.Compares.covers_of_without`).
-/

namespace LedgerSync.Matching

namespace Field

theorem name_injective : Function.Injective name := by
  intro f g h
  have hfind : ∀ f : Field, ofName? f.name = some f := by
    intro f
    cases f <;> decide
  exact Option.some.inj
    ((hfind f).symm.trans ((congrArg ofName? h).trans (hfind g)))

/-- What is extracted for a field has its name. -/
theorem name_of_extract {f : Field} {v : View} {a : Attribute}
    (h : f.extract v = .ok a) : a.name = f.name := by
  cases f with
  | amount | timestamp =>
    obtain ⟨value, -, h⟩ := bind_eq_ok_iff.1 h
    rw [pure_eq_ok_iff.1 h]
  | _ =>
    rw [pure_eq_ok_iff.1 h]

/-- Views with equal attributes for the external id have one external id, or
both none. -/
theorem externalId_eq_of_same {v w : View} {a b : Attribute}
    (ha : externalId.extract v = .ok a) (hb : externalId.extract w = .ok b)
    (h : a.same b = true) : v.externalId = w.externalId := by
  obtain rfl := pure_eq_ok_iff.1 ha
  obtain rfl := pure_eq_ok_iff.1 hb
  have hvalue : (v.externalId.map Content.text).map Content.core =
      (w.externalId.map Content.text).map Content.core :=
    (Prod.mk.inj ((Attribute.same_iff_core_eq _ _).1 h)).2
  rw [Option.map_map, Option.map_map] at hvalue
  refine Option.map_injective (fun s s' hs => ?_) hvalue
  cases hs
  rfl

/-- Views with equal attributes for the amount have one amount in cents. -/
theorem cents_eq_of_same {v w : View} {a b : Attribute}
    (ha : amount.extract v = .ok a) (hb : amount.extract w = .ok b)
    (h : a.same b = true) : ∃ n, v.cents = .ok n ∧ w.cents = .ok n := by
  obtain ⟨n, hn, ha⟩ := bind_eq_ok_iff.1 ha
  obtain ⟨n', hn', hb⟩ := bind_eq_ok_iff.1 hb
  obtain rfl := pure_eq_ok_iff.1 ha
  obtain rfl := pure_eq_ok_iff.1 hb
  obtain rfl : n = n' := by simpa [Attribute.same, Content.same] using h
  exact ⟨n, hn, hn'⟩

end Field

namespace Selector

/-- The selector extracts a field as it stands, and is not the own selector of
another one. -/
structure IsOf (s : Selector) (f : Field) : Prop where
  extract (v : View) : s.extract v = f.extract v
  own {g : Field} : s.own = some g → g = f

theorem isOf_plain (f : Field) : (plain f).IsOf f :=
  ⟨fun _ => rfl, fun h => (Option.some.inj h).symm⟩

/-- Restrictions do not change what is extracted. -/
theorem IsOf.restricted {s : Selector} {f : Field} (h : s.IsOf f)
    (r : Restriction) :
    (restricted r s).IsOf f := ⟨h.extract, fun hown => (nomatch hown)⟩

theorem isOf_present (f : Field) : (BuiltIn.present f).IsOf f :=
  (isOf_plain f).restricted .notNull

end Selector

namespace Matcher

variable {m m' : Matcher} {f : Field} {t : Member Reported} {s : Member Stored}

/-- A field is part of the keys of a matcher, which holds nothing back: every
selector extracts some field as it stands. -/
def Compares (m : Matcher) (f : Field) : Prop :=
  (∃ s ∈ m.selectors, s.IsOf f) ∧ ∀ s ∈ m.selectors, ∃ g, s.IsOf g

/-- A matcher from which another field is left out still compares a field. -/
theorem Compares.without (hm : m.Compares f) {suffix : String} {g : Field}
    (hne : g ≠ f) (h : m.without suffix g = .ok m') : m'.Compares f := by
  obtain ⟨⟨s, hs, hfield⟩, hfields⟩ := hm
  have hkept : s.own ≠ some g := fun hown => hne (hfield.own hown)
  unfold Compares
  rw [selectors_of_without h]
  exact ⟨⟨s, List.mem_filter.2 ⟨hs, bne_iff_ne.2 hkept⟩, hfield⟩,
    fun s' hs' => hfields s' (List.mem_of_mem_filter hs')⟩

/-- A matcher that compares fields can look at every view whose amount and time
can be read. -/
theorem Compares.reads (hm : m.Compares f) {v : View} {n : Int}
    {time : Option Moment} (hcents : v.cents = .ok n)
    (htime : v.timestamp = .ok time) : m.Reads v := by
  refine Extracts.reads fun s hs => ?_
  obtain ⟨g, hg⟩ := hm.2 s hs
  rw [hg.extract]
  cases hextract : g.extract v with
  | ok a => exact ⟨a, rfl⟩
  | error e =>
    rcases g.failure_of_extract hextract with h | h
    · cases hcents.symm.trans h
    · cases htime.symm.trans h

/-- Views of one tag have equal values in a field that is compared. -/
theorem Compares.same_of_tag (hm : m.Compares f) {v w : View} {c : Tag}
    (hv : m.tag v = some c) (hw : m.tag w = some c) :
    ∃ a b, f.extract v = .ok a ∧ f.extract w = .ok b ∧ a.same b = true := by
  obtain ⟨key, hkey, rfl⟩ := exists_keyOf_of_tag hv
  have hreads : m.Reads w := by
    obtain ⟨key', hkey', -⟩ := exists_keyOf_of_tag hw
    exact ⟨key', true, hkey'⟩
  obtain ⟨-, hkeySet⟩ := (tag_eq_iff hv hreads).1 hw
  obtain ⟨⟨sel, hsel, hfield⟩, hfields⟩ := hm
  obtain ⟨a, ha⟩ := (keyOf_spec hkey).2.1 rfl sel hsel
  have hextract := extract_of_select ha
  have hmem : a ∈ m.keySet w :=
    hkeySet ▸ ⟨sel, hsel, a, hextract, (Attribute.same_iff_core_eq a a).2 rfl⟩
  -- the attribute of the other view that equals it has its name, so it is that
  -- of the same field
  obtain ⟨sel', hsel', b, hextract', hba⟩ := hmem
  obtain ⟨g, hfield'⟩ := hfields sel' hsel'
  rw [hfield.extract] at hextract
  rw [hfield'.extract] at hextract'
  have hcores : b.core = a.core := (Attribute.same_iff_core_eq b a).1 hba
  obtain rfl : g = f := by
    refine Field.name_injective ?_
    rw [← Field.name_of_extract hextract', ← Field.name_of_extract hextract]
    exact congrArg Prod.fst hcores
  exact ⟨a, b, hextract, hextract',
    (Attribute.same_iff_core_eq a b).2 hcores.symm⟩

/-- Transactions that share a key have equal values in a field that is
compared. -/
theorem Compares.same_of_sharesKey (hm : m.Compares f) (h : m.SharesKey t s) :
    ∃ a b, f.extract (view t) = .ok a ∧ f.extract (view s) = .ok b ∧
    a.same b = true := by
  obtain ⟨c, ht, hs⟩ := sharesKey_iff.1 h
  exact hm.same_of_tag ht hs

/-- Whatever has one tag of the matcher has one tag of the other. -/
def Covers (m m' : Matcher) : Prop :=
  ∀ (v w : View) (c : Tag), m.tag v = some c → m.tag w = some c →
    ∃ c', m'.tag v = some c' ∧ m'.tag w = some c'

/-- A matcher of fields covers what is left of it without one of them. -/
theorem Compares.covers_of_without (hm : m.Compares f) {suffix : String}
    {g : Field} (h : m.without suffix g = .ok m') : m.Covers m' := by
  have hsub : m'.selectors ⊆ m.selectors := by
    rw [selectors_of_without h]
    exact List.filter_subset_self _
  have hreads : ∀ {v : View}, m'.Accepts v → m'.Reads v :=
    fun haccepts => Extracts.reads fun s hs =>
      (haccepts s hs).imp fun _ ha => extract_of_select ha
  have haccepts : ∀ {v : View} {c : Tag}, m.tag v = some c → m'.Accepts v := by
    intro v c hv s hs
    obtain ⟨key, hkey, -⟩ := exists_keyOf_of_tag hv
    exact (keyOf_spec hkey).2.1 rfl s (hsub hs)
  have hkeySet : ∀ {v w : View} {c : Tag}, m.tag v = some c →
      m.tag w = some c → m'.keySet v ⊆ m'.keySet w := by
    rintro v w c hv hw a ⟨s, hs, b, hb, hba⟩
    obtain ⟨k, hk⟩ := hm.2 s (hsub hs)
    obtain ⟨b', d, hb', hd, hsame⟩ :=
      Compares.same_of_tag ⟨⟨s, hsub hs, hk⟩, hm.2⟩ hv hw
    rw [hk.extract, hb'] at hb
    obtain rfl := Except.ok.inj hb
    refine ⟨s, hs, d, (hk.extract w).trans hd, ?_⟩
    rw [Attribute.same_iff_core_eq] at hba hsame ⊢
    exact hsame.symm.trans hba
  intro v w c hv hw
  obtain ⟨c', hv'⟩ := (exists_tag_iff (hreads (haccepts hv))).2 (haccepts hv)
  exact ⟨c', hv', (tag_eq_iff hv' (hreads (haccepts hw))).2
    ⟨haccepts hw, (hkeySet hw hv).antisymm (hkeySet hv hw)⟩⟩

/-- A round pairs transactions that share a key. -/
theorem sharesKey_of_round {previous : MatchResult} {r : Round}
    (h : m.round previous = .ok r) {x : Matched} (hx : x ∈ r.matched) :
    m.SharesKey x.reported x.stored := by
  obtain ⟨reported, stored, hsides⟩ := round_sides h
  obtain ⟨c, ⟨-, htag, -⟩, -, htag', -⟩ :=
    hsides.mem_pairs_iff.1 (List.mem_map_of_mem hx)
  exact sharesKey_iff.2 ⟨c, htag, htag'⟩

end Matcher

namespace MatchResult

variable {ms : List Matcher} {reported : List (Member Reported)}
  {stored : List (Member Stored)} {final : MatchResult} {x : Matched}

/-- The transactions of a pair share a key of some matcher of the chain. -/
theorem sharesKey_of_playAll
    (h : playAll ms (.start reported stored) = .ok final)
    (hx : x ∈ final.matched) : ∃ m ∈ ms, m.SharesKey x.reported x.stored := by
  suffices hall : ∀ x ∈ final.matched, ∃ m ∈ ms,
      m.SharesKey x.reported x.stored from hall x hx
  refine foldlM_ok_induction h
    (fun seen q => ∀ x ∈ q.matched, ∃ m ∈ seen, m.SharesKey x.reported x.stored)
    (fun x hx => absurd hx List.not_mem_nil) ?_
  intro seen m q q' hq hstep
  have hearlier : ∀ x ∈ q.matched, ∃ m' ∈ seen ++ [m],
      m'.SharesKey x.reported x.stored := by
    intro x hx
    obtain ⟨m', hm', hshared⟩ := hq x hx
    exact ⟨m', List.mem_append_left _ hm', hshared⟩
  split at hstep
  · obtain ⟨round, hround, rfl⟩ := apply_eq_ok_iff.1 hstep
    intro x hx
    rcases List.mem_append.1 hx with hx | hx
    · exact hearlier x hx
    · exact ⟨m, List.mem_append_right _ List.mem_cons_self,
        Matcher.sharesKey_of_round hround hx⟩
  · obtain rfl := Except.ok.inj hstep
    exact hearlier

/-- The transactions of a pair have equal values in a field that all matchers of
the chain compare. -/
theorem same_of_playAll {f : Field} (hms : ∀ m ∈ ms, m.Compares f)
    (h : playAll ms (.start reported stored) = .ok final)
    (hx : x ∈ final.matched) :
    ∃ a b, f.extract (view x.reported) = .ok a ∧
    f.extract (view x.stored) = .ok b ∧ a.same b = true := by
  obtain ⟨m, hm, hshared⟩ := sharesKey_of_playAll h hx
  exact (hms m hm).same_of_sharesKey hshared

end MatchResult

/-! ## The built-in matchers -/

open Selector

/-- The stricter matchers compare the details as they stand. -/
theorem isOf_detailFields : ∀ s ∈ BuiltIn.detailFields, ∃ g, s.IsOf g := by
  simp only [BuiltIn.detailFields, List.forall_mem_cons]
  exact ⟨⟨_, isOf_plain _⟩, ⟨_, isOf_plain _⟩, ⟨_, isOf_plain _⟩,
    ⟨_, isOf_plain _⟩, ⟨_, isOf_plain _⟩, List.forall_mem_nil _⟩

/-- A matcher with two fields beside the details compares them, and the external
id. -/
theorem compares_of_details {m : Matcher} {f g : Field}
    (h : m.selectors = BuiltIn.present f :: BuiltIn.present g ::
      BuiltIn.detailFields) :
    m.Compares .externalId ∧ m.Compares f ∧ m.Compares g := by
  have hfields : ∀ s ∈ m.selectors, ∃ g, s.IsOf g := by
    rw [h, List.forall_mem_cons, List.forall_mem_cons]
    exact ⟨⟨f, isOf_present f⟩, ⟨g, isOf_present g⟩, isOf_detailFields⟩
  have hid : Selector.plain .externalId ∈ m.selectors := by
    simp [h, BuiltIn.detailFields]
  have hfirst : BuiltIn.present f ∈ m.selectors := h ▸ List.mem_cons_self
  have hsecond : BuiltIn.present g ∈ m.selectors :=
    h ▸ List.mem_cons_of_mem _ List.mem_cons_self
  exact ⟨⟨⟨_, hid, isOf_plain _⟩, hfields⟩,
    ⟨⟨_, hfirst, isOf_present f⟩, hfields⟩,
    ⟨⟨_, hsecond, isOf_present g⟩, hfields⟩⟩

theorem BuiltIn.compares (b : BuiltIn) :
    b.matcher.Compares .externalId ∧ b.matcher.Compares .amount := by
  cases b with
  | externalIdAmountStrict =>
    have hid := (isOf_plain .externalId).restricted .notBlank
    have hamount := isOf_present .amount
    have hfields : ∀ s ∈ BuiltIn.externalIdAmountStrict.matcher.selectors,
        ∃ g, s.IsOf g := by
      simp only [BuiltIn.matcher, List.forall_mem_cons]
      exact ⟨⟨_, hid⟩, ⟨_, hamount⟩, List.forall_mem_nil _⟩
    exact ⟨⟨⟨_, List.mem_cons_self, hid⟩, hfields⟩,
      ⟨⟨_, List.mem_cons_of_mem _ List.mem_cons_self, hamount⟩, hfields⟩⟩
  | bookingDateAmountStrict =>
    exact (compares_of_details (m := BuiltIn.bookingDateAmountStrict.matcher)
      rfl).imp_right (·.2)
  | dateAmountStrict =>
    exact (compares_of_details (m := BuiltIn.dateAmountStrict.matcher)
      rfl).imp_right (·.2)
  | openBanking =>
    exact (compares_of_details (m := BuiltIn.openBanking.matcher) rfl).imp_right
      (·.1)

/-- The matchers of the built-in providers compare the external id and the
amount. -/
theorem compares_of_builtIn {provider : Provider}
    (h : provider ∈ Registry.builtIn.providers) {m : Matcher}
    (hm : m ∈ provider.matchers) :
    m.Compares .externalId ∧ m.Compares .amount := by
  obtain ⟨hid, hamount⟩ := BuiltIn.compares .bookingDateAmountStrict
  have huntimed : BuiltIn.untimed.Compares .externalId ∧
      BuiltIn.untimed.Compares .amount :=
    ⟨hid.without (by decide) BuiltIn.without_timestamp,
      hamount.without (by decide) BuiltIn.without_timestamp⟩
  exact Registry.forall_matchers_builtIn (P := fun m => m.Compares .externalId ∧
    m.Compares .amount) BuiltIn.compares huntimed provider h m hm

end LedgerSync.Matching
