import LedgerSync.Matching.Provider
import LedgerSync.Proofs.Matching.Completion
import LedgerSync.Proofs.Transaction.Unchanged

/-!
# What matchers see of a record

A row that mirrors a reported transaction shows a matcher what the transaction
shows, account numbers and times apart (`View.Shows`). Its timestamp may be
written differently, and where local time has fractions of a millisecond that
universal time does not have, it is even cut to another instant; otherwise the
row shows the time of the transaction as well (`View.ShowsInTime`).

A selector is steady under such a relation when that is enough for it to find
the same in both: it reads another field than an account number, looks for no
placeholder in a text and is not held back. A matcher with steady selectors
gives the row the tag of the transaction (`Matcher.IsSteady.tag_eq`). All
matchers of the built-in providers are steady under `View.ShowsInTime`
(`isSteady_of_builtIn`), and those that do not look at the time under
`View.Shows` (`isSteady_strict`, `isSteady_untimed`).
-/

namespace LedgerSync

/-! ## Timestamps -/

namespace Moment

/-- A moment that equals one in whole milliseconds of universal time is in
whole milliseconds, if its offset is. -/
theorem toMillis_eq_of_same {t u v : Moment} (ht : t.utcMillis = .ok u)
    (h : u.same v = true) (hoffset : (1000 : Int) ∣ v.offset) :
    v.toMillis = v := by
  unfold utcMillis at ht
  cases hutc : t.toUtc? with
  | none =>
    rw [hutc] at ht
    cases ht
  | some x =>
    rw [hutc] at ht
    obtain rfl := Except.ok.inj ht
    obtain ⟨w, -, rfl⟩ := Option.map_eq_some_iff.1 hutc
    -- a time of universal time is regular, so both stand for one instant
    have hcore := (same_iff_core_eq _ _).1 h
    have hinstant : ((w.ticks / 1000 * 1000 : Nat) : Int) = v.instant := by
      unfold core at hcore
      rw [if_neg (by simp [toMillis, Zone.utc, Zone.isIrregular])] at hcore
      split at hcore
      · cases hcore
      · rw [← Sum.inl.inj hcore]
        show _ = ((w.ticks / 1000 * 1000 : Nat) : Int) - 0
        omega
    have hticks : v.wall.ticks / 1000 * 1000 = v.wall.ticks := by
      simp only [instant] at hinstant
      omega
    obtain ⟨⟨ticks, hlt⟩, zone⟩ := v
    show (⟨⟨ticks / 1000 * 1000, _⟩, zone⟩ : Moment) = ⟨⟨ticks, hlt⟩, zone⟩
    congr 2

end Moment

/-! ## Views -/

/-- Two views show the same, account numbers and times apart. -/
structure View.Shows (v w : View) : Prop where
  externalId : v.externalId = w.externalId
  endToEndId : v.endToEndId = w.endToEndId
  cents : ∃ n, v.cents = .ok n ∧ w.cents = .ok n
  date : v.date = w.date
  bookingDate : v.bookingDate = w.bookingDate
  creditorName : v.creditorName = w.creditorName
  debtorName : v.debtorName = w.debtorName
  description : v.description = w.description

/-- Two views show the same at one time, account numbers apart. -/
structure View.ShowsInTime (v w : View) : Prop extends View.Shows v w where
  timestamp : ∃ a b, v.timestamp = .ok (some a) ∧ w.timestamp = .ok (some b) ∧
    a.same b = true

section Mirrors

variable {s : Stored} {t : Reported} {n : Int}

/-- A row that mirrors a transaction shows what the transaction shows. -/
theorem Stored.Mirrors.shows (h : s.Mirrors t) (hcents : t.cents = .ok n) :
    (view t).Shows (view s) where
  externalId := h.externalId.symm
  endToEndId := h.endToEndId.symm
  cents := ⟨n, hcents, h.cents.trans hcents⟩
  date := h.date.symm
  bookingDate := h.bookingDate.symm
  creditorName := h.creditorName.symm
  debtorName := h.debtorName.symm
  description := h.description.symm

/-- The timestamps that a transaction and a row that mirrors it show. -/
theorem Stored.Mirrors.view_timestamp (h : s.Mirrors t) :
    ∃ u v, (view t).timestamp = .ok (some u) ∧
      (view s).timestamp = .ok (some v.toMillis) ∧
      t.timestamp = .ok u ∧ s.timestamp = some v ∧ u.same v = true := by
  obtain ⟨u, v, hu, hv, hsame⟩ := h.timestamp
  refine ⟨u, v, ?_, ?_, hu, hv, hsame⟩
  · show t.timestamp.map some = _
    rw [hu]
    rfl
  · show Except.ok (s.timestamp.map (·.toMillis)) = _
    rw [hv]
    rfl

/-- It shows the time as well, if no part of its timestamp is lost when local
time is cut to milliseconds. -/
theorem Stored.Mirrors.showsInTime (h : s.Mirrors t)
    (hmillis : s.HasMillisOffset) (hcents : t.cents = .ok n) :
    (view t).ShowsInTime (view s) where
  toShows := h.shows hcents
  timestamp := by
    obtain ⟨u, v, hu, hv, ht, hs, hsame⟩ := h.view_timestamp
    rw [Moment.toMillis_eq_of_same ht hsame (hmillis v hs)] at hv
    exact ⟨u, v, hu, hv, hsame⟩

end Mirrors

namespace Matching

/-! ## Attributes and keys -/

theorem hasContent_append (s t : String) :
    Text.hasContent (s ++ t) = (Text.hasContent s || Text.hasContent t) := by
  simp only [Text.hasContent, String.toList_append, List.any_append]

/-- Moments are not blank. -/
theorem hasContent_moment (m : Moment) :
    Text.hasContent (Content.moment m).shown = true := by
  have hdate : Text.hasContent m.date.text = true := by
    unfold Date.text
    simp only [hasContent_append]
    have hdash : Text.hasContent "-" = true := by decide
    simp only [hdash, Bool.or_true, Bool.true_or]
  unfold Content.shown
  simp only [hasContent_append, hdate, Bool.true_or]

/-- Whether there is content does not depend on how a moment is written. -/
theorem Attribute.hasContent_of_core_eq {a b : Attribute}
    (h : a.core = b.core) : a.hasContent = b.hasContent := by
  obtain ⟨name, value⟩ := a
  obtain ⟨name', value'⟩ := b
  obtain ⟨-, hvalue⟩ := Prod.mk.inj h
  unfold hasContent
  cases value with
  | none =>
    cases value' with
    | none => rfl
    | some y => cases hvalue
  | some x =>
    cases value' with
    | none => cases hvalue
    | some y =>
      have hcore : x.core = y.core := Option.some.inj hvalue
      show Text.hasContent x.shown = Text.hasContent y.shown
      cases x <;> cases y <;> simp only [Content.core, Sum.inl.injEq,
        reduceCtorEq] at hcore
      case moment.moment => rw [hasContent_moment, hasContent_moment]
      all_goals rw [hcore]

/-- The set of a list of attributes depends on their cores alone. -/
theorem Key.core_ofList {as bs : List Attribute}
    (h : as.map Attribute.core = bs.map Attribute.core) :
    (Key.ofList as).core = (Key.ofList bs).core := by
  suffices hgo : ∀ (as bs : List Attribute) (k l : Key),
      as.map Attribute.core = bs.map Attribute.core → k.map Attribute.core =
        l.map Attribute.core →
      (as.foldl (fun k a => if k.any a.same then k else k ++ [a]) k).map
        Attribute.core =
        (bs.foldl (fun k a => if k.any a.same then k else k ++ [a]) l).map
          Attribute.core by
    unfold Key.core Key.ofList
    rw [hgo as bs [] [] h rfl]
  intro as
  induction as with
  | nil =>
    intro bs k l has hkl
    rw [List.map_nil] at has
    rw [List.map_eq_nil_iff.1 has.symm]
    exact hkl
  | cons a as ih =>
    intro bs k l has hkl
    cases bs with
    | nil => cases has
    | cons b bs =>
      obtain ⟨hab, hrest⟩ := List.cons.inj has
      rw [List.foldl_cons, List.foldl_cons]
      refine ih bs _ _ hrest ?_
      have hany : k.any a.same = l.any b.same := by
        rw [Bool.eq_iff_iff, Key.any_same_iff, Key.any_same_iff, hkl, hab]
      rw [hany]
      split
      · exact hkl
      · rw [List.map_append, List.map_append, hkl, List.map_singleton,
          List.map_singleton, hab]

/-! ## Selectors -/

/-- Whether a field is shown alike by a transaction and its record, however
timestamps are written. -/
def Field.isMirrored (f : Field) : Bool :=
  f != .creditorAccount && f != .debtorAccount && f != .timestamp

/-- Views that show the same have equal attributes. -/
theorem Field.extract_of_shows {f : Field} {v w : View}
    (hf : f.isMirrored = true) (h : v.Shows w) :
    ∃ a b, f.extract v = .ok a ∧ f.extract w = .ok b ∧ a.core = b.core := by
  cases f with
  | externalId => exact ⟨_, _, rfl, rfl, by rw [h.externalId]⟩
  | endToEndId => exact ⟨_, _, rfl, rfl, by rw [h.endToEndId]⟩
  | amount =>
    obtain ⟨n, hv, hw⟩ := h.cents
    -- the two amounts may differ in sign and scale, but not in cents
    refine ⟨⟨Field.amount.name, some (.cents n)⟩,
      ⟨Field.amount.name, some (.cents n)⟩, ?_, ?_, rfl⟩
    · exact bind_eq_ok_iff.2 ⟨n, hv, rfl⟩
    · exact bind_eq_ok_iff.2 ⟨n, hw, rfl⟩
  | date => exact ⟨_, _, rfl, rfl, by rw [h.date]⟩
  | bookingDate => exact ⟨_, _, rfl, rfl, by rw [h.bookingDate]⟩
  | creditorName => exact ⟨_, _, rfl, rfl, by rw [h.creditorName]⟩
  | debtorName => exact ⟨_, _, rfl, rfl, by rw [h.debtorName]⟩
  | description => exact ⟨_, _, rfl, rfl, by rw [h.description]⟩
  | timestamp | creditorAccount | debtorAccount => cases hf

variable {R R' : View → View → Prop}

namespace Selector

/-- A selector is steady under a relation of views when it finds the same in
views that it relates. One that looks for a placeholder need not be: it might
look at the text of a moment, of which there are several. -/
def IsSteady (R : View → View → Prop) (s : Selector) : Prop :=
  ∀ v w : View, R v w →
    ∃ a b usable, s.extract v = .ok a ∧ s.extract w = .ok b ∧
      a.core = b.core ∧ s.usable a = .ok usable ∧ s.usable b = .ok usable

theorem IsSteady.mono {s : Selector} (hs : s.IsSteady R)
    (h : ∀ {v w : View}, R' v w → R v w) : s.IsSteady R' :=
  fun v w hvw => hs v w (h hvw)

theorem isSteady_plain {f : Field} (hf : f.isMirrored = true) :
    (plain f).IsSteady View.Shows := by
  intro v w h
  obtain ⟨a, b, ha, hb, hcore⟩ := Field.extract_of_shows hf h
  exact ⟨a, b, true, ha, hb, hcore, rfl, rfl⟩

/-- Moments of one instant have equal attributes. -/
theorem isSteady_timestamp : (plain .timestamp).IsSteady View.ShowsInTime := by
  intro v w h
  obtain ⟨a, b, hv, hw, hsame⟩ := h.timestamp
  refine ⟨⟨Field.timestamp.name, some (.moment a)⟩,
    ⟨Field.timestamp.name, some (.moment b)⟩, true, ?_, ?_, ?_, rfl, rfl⟩
  · exact bind_eq_ok_iff.2 ⟨some a, hv, rfl⟩
  · exact bind_eq_ok_iff.2 ⟨some b, hw, rfl⟩
  · simp only [Attribute.core, Option.map_some, Content.core,
      (Moment.same_iff_core_eq a b).1 hsame]

/-- A restriction that does not look at how a moment is written keeps a selector
steady. -/
theorem IsSteady.restricted {s : Selector} (hs : s.IsSteady R) {r : Restriction}
    (hr : ∀ {a b : Attribute}, a.core = b.core → r.accepts a = r.accepts b) :
    (restricted r s).IsSteady R := by
  intro v w h
  obtain ⟨a, b, usable, ha, hb, hcore, hua, hub⟩ := hs v w h
  rcases haccepts : r.accepts a with _ | _
  · refine ⟨a, b, false, ha, hb, hcore, ?_, ?_⟩
    · rw [usable_restricted, if_neg (by simp [haccepts])]
    · rw [usable_restricted, if_neg (by simp [← hr hcore, haccepts])]
  · refine ⟨a, b, usable, ha, hb, hcore, ?_, ?_⟩
    · rw [usable_restricted, if_pos haccepts, hua]
    · rw [usable_restricted, if_pos ((hr hcore).symm.trans haccepts), hub]

theorem isSteady_present {f : Field} (hf : f.isMirrored = true) :
    (BuiltIn.present f).IsSteady View.Shows := by
  refine (isSteady_plain hf).restricted fun {a b} hcore => ?_
  have hvalue := congrArg Option.isSome (Prod.mk.inj hcore).2
  rw [Option.isSome_map, Option.isSome_map] at hvalue
  exact hvalue

/-- In related views a steady selector finds attributes that are equal and
equally usable. -/
theorem IsSteady.select {s : Selector} {v w : View} (hs : s.IsSteady R)
    (h : R v w) :
    ∃ a b usable, s.select v = .ok (a, usable) ∧ s.select w = .ok (b, usable) ∧
    a.core = b.core := by
  obtain ⟨a, b, usable, ha, hb, hcore, hua, hub⟩ := hs v w h
  exact ⟨a, b, usable,
    bind_eq_ok_iff.2 ⟨a, ha, bind_eq_ok_iff.2 ⟨usable, hua, rfl⟩⟩,
    bind_eq_ok_iff.2 ⟨b, hb, bind_eq_ok_iff.2 ⟨usable, hub, rfl⟩⟩, hcore⟩

end Selector

/-! ## Matchers -/

namespace Matcher

variable {m m' : Matcher} {v w : View}

/-- Whether all selectors of a matcher are steady under a relation of views. -/
def IsSteady (R : View → View → Prop) (m : Matcher) : Prop :=
  ∀ s ∈ m.selectors, s.IsSteady R

theorem IsSteady.mono (hm : m.IsSteady R)
    (h : ∀ {v w : View}, R' v w → R v w) : m.IsSteady R' :=
  fun s hs => (hm s hs).mono h

/-- To related views a steady matcher gives equal keys that are equally
usable. -/
theorem IsSteady.keyOf (hm : m.IsSteady R) (h : R v w) :
    ∃ key key' usable, m.keyOf v = .ok (key, usable) ∧
    m.keyOf w = .ok (key', usable) ∧ key.core = key'.core := by
  have hselected : ∀ ss : List Selector, (∀ s ∈ ss, s.IsSteady R) → ∃ rs rs',
      ss.mapM (fun s => s.select v) = .ok rs ∧
      ss.mapM (fun s => s.select w) = .ok rs' ∧ rs.map (·.2) = rs'.map (·.2) ∧
      (rs.map (·.1)).map Attribute.core =
        (rs'.map (·.1)).map Attribute.core := by
    intro ss
    induction ss with
    | nil => exact fun _ => ⟨[], [], rfl, rfl, rfl, rfl⟩
    | cons s ss ih =>
      intro hss
      obtain ⟨a, b, usable, ha, hb, hcore⟩ :=
        (hss s List.mem_cons_self).select h
      obtain ⟨rs, rs', hrs, hrs', husable, hcores⟩ := ih fun s' hs' =>
        hss s' (List.mem_cons_of_mem s hs')
      refine ⟨(a, usable) :: rs, (b, usable) :: rs', ?_, ?_, ?_, ?_⟩
      · exact mapM_eq_ok_iff.2 (.cons ha (mapM_eq_ok_iff.1 hrs))
      · exact mapM_eq_ok_iff.2 (.cons hb (mapM_eq_ok_iff.1 hrs'))
      · exact congrArg (List.cons usable) husable
      · simp only [List.map_cons, hcore, hcores]
  obtain ⟨rs, rs', hrs, hrs', husable, hcores⟩ := hselected m.selectors hm
  have hne : rs.map (·.2) ≠ [] := by
    intro hnil
    have hlength := (mapM_eq_ok_iff.1 hrs).length_eq
    rw [List.map_eq_nil_iff.1 hnil] at hlength
    exact m.selectors_ne_nil (List.eq_nil_of_length_eq_zero hlength)
  have hall : allUsable (rs.map (·.2)) = .ok ((rs.map (·.2)).all id) := by
    unfold allUsable
    rw [if_neg (by simpa using hne)]
  refine ⟨Key.ofList (rs.map (·.1)), Key.ofList (rs'.map (·.1)),
    (rs.map (·.2)).all id, ?_, ?_, Key.core_ofList hcores⟩
  · exact bind_eq_ok_iff.2 ⟨rs, hrs, bind_eq_ok_iff.2 ⟨_, hall, rfl⟩⟩
  · exact bind_eq_ok_iff.2 ⟨rs', hrs',
      bind_eq_ok_iff.2 ⟨_, husable ▸ hall, rfl⟩⟩

/-- A steady matcher gives related views the same tag. -/
theorem IsSteady.tag_eq (hm : m.IsSteady R) (h : R v w) :
    m.tag v = m.tag w := by
  obtain ⟨key, key', usable, hkey, hkey', hcore⟩ := hm.keyOf h
  rw [tag, tag, hkey, hkey']
  cases usable with
  | true => exact congrArg some hcore
  | false => rfl

end Matcher

open Selector

/-- The stricter matchers compare no account numbers. -/
theorem isSteady_detailFields :
    ∀ s ∈ BuiltIn.detailFields, s.IsSteady View.ShowsInTime := by
  have hplain : ∀ {f : Field}, f.isMirrored = true →
      (plain f).IsSteady View.ShowsInTime :=
    fun hf => (isSteady_plain hf).mono (·.toShows)
  simp only [BuiltIn.detailFields, List.forall_mem_cons]
  exact ⟨hplain rfl, hplain rfl, hplain rfl, hplain rfl, isSteady_timestamp,
    List.forall_mem_nil _⟩

/-- The strict matcher does not look at the time. -/
theorem isSteady_strict :
    BuiltIn.externalIdAmountStrict.matcher.IsSteady View.Shows := by
  have hid : (Selector.restricted .notBlank
      (.plain .externalId)).IsSteady View.Shows :=
    (isSteady_plain rfl).restricted Attribute.hasContent_of_core_eq
  simp only [Matcher.IsSteady, BuiltIn.matcher, List.forall_mem_cons]
  exact ⟨hid, isSteady_present rfl, List.forall_mem_nil _⟩

/-- Neither does the matcher from which it was left out. -/
theorem isSteady_untimed : BuiltIn.untimed.IsSteady View.Shows := by
  simp only [Matcher.IsSteady, BuiltIn.untimed, List.forall_mem_cons]
  exact ⟨isSteady_present rfl, isSteady_present rfl, isSteady_plain rfl,
    isSteady_plain rfl, isSteady_plain rfl, isSteady_plain rfl,
    List.forall_mem_nil _⟩

theorem BuiltIn.isSteady (b : BuiltIn) :
    b.matcher.IsSteady View.ShowsInTime := by
  have hpresent : ∀ {f : Field}, f.isMirrored = true →
      (present f).IsSteady View.ShowsInTime :=
    fun hf => (isSteady_present hf).mono (·.toShows)
  cases b with
  | externalIdAmountStrict => exact isSteady_strict.mono (·.toShows)
  | bookingDateAmountStrict | dateAmountStrict | openBanking =>
    simp only [Matcher.IsSteady, matcher, List.forall_mem_cons]
    exact ⟨hpresent rfl, hpresent rfl, isSteady_detailFields⟩

/-- The matchers of the built-in providers are steady. -/
theorem isSteady_of_builtIn {provider : Provider}
    (h : provider ∈ Registry.builtIn.providers) {m : Matcher}
    (hm : m ∈ provider.matchers) : m.IsSteady View.ShowsInTime :=
  Registry.forall_matchers_builtIn BuiltIn.isSteady
    (isSteady_untimed.mono (·.toShows)) provider h m hm

/-- A built-in provider has matchers. -/
theorem matchers_ne_nil_of_builtIn {provider : Provider}
    (h : provider ∈ Registry.builtIn.providers) : provider.matchers ≠ [] := by
  have hall : ∀ p ∈ Registry.builtIn.providers, p.matchers ≠ [] := by decide
  exact hall provider h

end Matching

end LedgerSync
