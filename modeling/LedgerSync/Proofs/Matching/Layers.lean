import LedgerSync.Proofs.Run
import LedgerSync.Proofs.Store.Records

/-!
# Layers of a selector

A selector is a field with restrictions laid around it, and it may be held back
until some time. Whatever the restrictions are, the field is extracted as it
stands, and the attribute is usable when each of them accepts it
(`Selector.usable_restrictedBy`), so their order and repetitions do not matter.
Selectors that are held back over and over are as good as held back once: while
one of the times is still to come the attribute is absent and usable, and
afterwards none of the layers is noticed (`Selector.select_heldBackBy`).
`Selector.select_build` says this of the selectors of a configuration.
-/

namespace LedgerSync.Matching

/-- A layer that holds a selector back until a time, and what its clock
shows. -/
structure HoldBack where
  useAfter : DateTime
  now : DateTime

namespace HoldBack

/-- The two times can be compared: both have a zone, or neither has one. -/
def IsComparable (l : HoldBack) : Prop :=
  (l.now.earlier? l.useAfter).isSome = true

/-- Whether the time is still to come. -/
def isActive (l : HoldBack) : Bool := l.now.earlier? l.useAfter == some true

end HoldBack

/-- The fields are found by their names. -/
theorem Field.ofName?_name (f : Field) : ofName? f.name = some f := by
  cases f <;> rfl

namespace Selector

variable {s t : Selector} {layers : List HoldBack}

/-- A selector with restrictions laid around it, the first one innermost. -/
def restrictedBy (s : Selector) (rs : List Restriction) : Selector :=
  rs.foldl (fun s r => .restricted r s) s

/-- A selector held back by some layers, the first one outermost. -/
def heldBackBy (s : Selector) (layers : List HoldBack) : Selector :=
  layers.foldr (fun l s => .heldBack l.useAfter l.now s) s

/-! ## Restrictions -/

/-- Restrictions do not change what is extracted. -/
theorem extract_restrictedBy (s : Selector) (rs : List Restriction) (v : View) :
    (s.restrictedBy rs).extract v = s.extract v := by
  unfold restrictedBy
  induction rs generalizing s with
  | nil => rfl
  | cons r rs ih =>
    rw [List.foldl_cons, ih]
    rfl

/-- An attribute is usable when all the restrictions accept it, and the selector
within does. -/
theorem usable_restrictedBy (s : Selector) (rs : List Restriction)
    (a : Attribute) :
    (s.restrictedBy rs).usable a = if rs.all (·.accepts a) then s.usable a
    else .ok false := by
  unfold restrictedBy
  induction rs generalizing s with
  | nil => rfl
  | cons r rs ih =>
    rw [List.foldl_cons, ih, List.all_cons]
    cases hr : r.accepts a with
    | true => simp only [usable_restricted, hr, Bool.true_and, if_true]
    | false =>
      simp only [usable_restricted, hr, Bool.false_and, Bool.false_eq_true,
        if_false, ite_self]

/-- A field is extracted as it stands, and usable when all the restrictions
around it accept it. -/
theorem select_plain_restrictedBy (f : Field) (rs : List Restriction)
    (v : View) : ((plain f).restrictedBy rs).select v =
      (f.extract v).map fun a => (a, rs.all (·.accepts a)) := by
  unfold select
  rw [extract_restrictedBy, extract_plain]
  cases f.extract v with
  | error e => rfl
  | ok a =>
    show (((plain f).restrictedBy rs).usable a).map (a, ·) =
      .ok (a, rs.all (·.accepts a))
    rw [usable_restrictedBy, usable_plain]
    cases rs.all (·.accepts a) <;> rfl

/-- A selector is built when every restriction is known by its name, and they
are laid around the field in their order. -/
theorem build_eq_ok_iff {f : Field} {names placeholders : List String} :
    build f.name names placeholders = .ok s ↔
      (∀ n ∈ names, (Restriction.ofName? placeholders n).isSome = true) ∧
        s = (plain f).restrictedBy
          (names.filterMap (Restriction.ofName? placeholders)) := by
  unfold build restrictedBy
  rw [Field.ofName?_name]
  dsimp only
  generalize plain f = base
  induction names generalizing base with
  | nil =>
    rw [List.foldlM_nil, pure_eq_ok_iff]
    exact ⟨fun h => ⟨fun _ hn => (nomatch hn), h⟩, fun h => h.2⟩
  | cons n names ih =>
    rw [List.foldlM_cons, bind_eq_ok_iff, List.forall_mem_cons]
    cases hn : Restriction.ofName? placeholders n with
    | none =>
      constructor
      · rintro ⟨inner, hinner, -⟩
        cases hinner
      · rintro ⟨⟨hknown, -⟩, -⟩
        cases hknown
    | some r =>
      rw [List.filterMap_cons_some hn, List.foldl_cons, and_assoc, ← ih]
      constructor
      · rintro ⟨inner, hinner, hrest⟩
        obtain rfl := pure_eq_ok_iff.1 hinner
        exact ⟨rfl, hrest⟩
      · rintro ⟨-, hrest⟩
        exact ⟨_, rfl, hrest⟩

/-! ## Holding back -/

/-- Selectors that extract and judge alike do so when they are held back. -/
theorem select_heldBackBy_congr (hextract : ∀ v, s.extract v = t.extract v)
    (husable : ∀ a, s.usable a = t.usable a) (layers : List HoldBack)
    (v : View) :
    (s.heldBackBy layers).select v = (t.heldBackBy layers).select v := by
  have hall : (∀ v, (s.heldBackBy layers).extract v =
      (t.heldBackBy layers).extract v) ∧
      ∀ a, (s.heldBackBy layers).usable a = (t.heldBackBy layers).usable a := by
    unfold heldBackBy
    induction layers with
    | nil => exact ⟨hextract, husable⟩
    | cons l layers ih =>
      constructor
      · intro v
        rw [List.foldr_cons, List.foldr_cons, extract_heldBack,
          extract_heldBack, ih.1]
      · intro a
        rw [List.foldr_cons, List.foldr_cons, usable_heldBack,
          usable_heldBack, ih.2]
  unfold select
  rw [hall.1]
  exact congrArg _ (funext fun a => by rw [hall.2])

theorem isBefore_eq {l : HoldBack} (h : l.IsComparable) :
    isBefore l.now l.useAfter = .ok l.isActive := by
  obtain ⟨b, hb⟩ := Option.isSome_iff_exists.1 h
  rw [isBefore, HoldBack.isActive, hb]
  cases b <;> rfl

/-- The value is dropped while one of the layers is active. -/
theorem extract_heldBackBy (h : ∀ l ∈ layers, l.IsComparable) (v : View) :
    (s.heldBackBy layers).extract v = (s.extract v).map fun a =>
      if layers.any (·.isActive) then ⟨a.name, none⟩ else a := by
  unfold heldBackBy
  induction layers with
  | nil =>
    rw [List.foldr_nil]
    cases s.extract v <;> rfl
  | cons l layers ih =>
    rw [List.foldr_cons, extract_heldBack, ih fun l' hl' =>
      h l' (List.mem_cons_of_mem l hl'),
      isBefore_eq (h l List.mem_cons_self), List.any_cons]
    cases s.extract v with
    | error e => rfl
    | ok a =>
      cases hl : l.isActive with
      | false => rfl
      | true =>
        -- the name is the same whether or not a layer further in has dropped
        -- the value
        cases layers.any (·.isActive) <;> rfl

/-- An attribute is usable while one of the layers is active. -/
theorem usable_heldBackBy (h : ∀ l ∈ layers, l.IsComparable) (a : Attribute) :
    (s.heldBackBy layers).usable a =
      if layers.any (·.isActive) then .ok true else s.usable a := by
  unfold heldBackBy
  induction layers with
  | nil => rfl
  | cons l layers ih =>
    rw [List.foldr_cons, usable_heldBack, ih fun l' hl' =>
      h l' (List.mem_cons_of_mem l hl'),
      isBefore_eq (h l List.mem_cons_self), List.any_cons]
    cases l.isActive <;> rfl

/-- While one of the layers is active the attribute is absent and usable;
otherwise the selector within is used as if there were no layers. -/
theorem select_heldBackBy (h : ∀ l ∈ layers, l.IsComparable) (v : View) :
    (s.heldBackBy layers).select v =
      if layers.any (·.isActive) then (s.extract v).map fun a =>
      (⟨a.name, none⟩, true) else s.select v := by
  unfold select
  rw [extract_heldBackBy h]
  cases s.extract v with
  | error e => cases layers.any (·.isActive) <;> rfl
  | ok a =>
    simp only [usable_heldBackBy h]
    cases layers.any (·.isActive) <;> rfl

/-! ## The selectors of a configuration -/

/-- Whether an attribute is accepted by all the restrictions of some names. -/
def acceptedBy (placeholders names : List String) (a : Attribute) : Bool :=
  names.all fun n => (Restriction.ofName? placeholders n).any (·.accepts a)

/-- It does not matter in which order the names stand, or how often. -/
theorem acceptedBy_congr {names names' : List String}
    (h : ∀ n, n ∈ names' ↔ n ∈ names) (placeholders : List String)
    (a : Attribute) :
    acceptedBy placeholders names' a = acceptedBy placeholders names a := by
  unfold acceptedBy
  rw [Bool.eq_iff_iff, List.all_eq_true, List.all_eq_true]
  exact forall_congr' fun n => imp_congr_left (h n)

/-- The restrictions of known names accept what is accepted by name. -/
theorem all_accepts_eq {names placeholders : List String}
    (h : ∀ n ∈ names, (Restriction.ofName? placeholders n).isSome = true)
    (a : Attribute) :
    (names.filterMap (Restriction.ofName? placeholders)).all (·.accepts a) =
      acceptedBy placeholders names a := by
  unfold acceptedBy
  rw [List.all_filterMap, Bool.eq_iff_iff, List.all_eq_true, List.all_eq_true]
  refine forall₂_congr fun n hn => ?_
  obtain ⟨r, hr⟩ := Option.isSome_iff_exists.1 (h n hn)
  rw [hr]
  rfl

/-- What a selector of a configuration makes of a transaction, held back by any
layers. Without an active one it extracts the field as it stands and says
whether every restriction accepts it; with an active one the attribute is absent
and usable. Listing the restrictions in another order or repeatedly gives a
selector that selects the same. -/
theorem select_build {f : Field} {names placeholders : List String}
    (h : build f.name names placeholders = .ok s) :
    (∀ layers v, (∀ l ∈ layers, l.IsComparable) →
      (s.heldBackBy layers).select v = (f.extract v).map fun a =>
        if layers.any (·.isActive) then (⟨a.name, none⟩, true)
        else (a, acceptedBy placeholders names a)) ∧
    ∀ names', (∀ n, n ∈ names' ↔ n ∈ names) →
      ∃ t, build f.name names' placeholders = .ok t ∧
        ∀ layers v, (t.heldBackBy layers).select v =
          (s.heldBackBy layers).select v := by
  obtain ⟨hknown, rfl⟩ := build_eq_ok_iff.1 h
  constructor
  · intro layers v hlayers
    rw [select_heldBackBy hlayers, extract_restrictedBy, extract_plain,
      select_plain_restrictedBy]
    simp only [all_accepts_eq hknown]
    cases layers.any (·.isActive) <;> rfl
  · intro names' hsame
    have hknown' : ∀ n ∈ names',
        (Restriction.ofName? placeholders n).isSome = true :=
      fun n hn => hknown n ((hsame n).1 hn)
    refine ⟨_, build_eq_ok_iff.2 ⟨hknown', rfl⟩,
      select_heldBackBy_congr (fun v => ?_) fun a => ?_⟩
    · rw [extract_restrictedBy, extract_restrictedBy]
    · rw [usable_restrictedBy, usable_restrictedBy, all_accepts_eq hknown,
        all_accepts_eq hknown', acceptedBy_congr hsame]

end Selector

/-- Descriptions that say something. -/
def Sample.described : Selector :=
  (Selector.plain .description).restrictedBy [.notBlank,
    .notPlaceholder ["n/a"], .notBlank]

/-- A layer until a day of May, by a clock that shows the tenth. -/
def Sample.until (n : Nat) : HoldBack :=
  ⟨(Sample.midnight (Sample.day n)).toDateTime,
    (Sample.midnight (Sample.day 10)).toDateTime⟩

/-- A payment without a description. -/
def Sample.undescribed : View :=
  view (Sample.reported "x" " N/A " (Sample.day 3))

theorem described_select :
    Selector.build Field.description.name ["not_blank", "not_placeholder",
      "not_blank"] ["n/a"] = .ok Sample.described ∧
    (∀ l ∈ [Sample.until 5, Sample.until 20, Sample.until 4], l.IsComparable) ∧
    (Sample.described.heldBackBy [Sample.until 5, Sample.until 4]).select
      Sample.undescribed = .ok (⟨"description", some (.text " N/A ")⟩, false) ∧
    (Sample.described.heldBackBy [Sample.until 5, Sample.until 20,
      Sample.until 4]).select
      Sample.undescribed = .ok (⟨"description", none⟩, true) ∧
    (∀ n, n ∈ ["not_placeholder", "not_blank"] ↔
      n ∈ ["not_blank", "not_placeholder", "not_blank"]) ∧
    ∃ t, Selector.build Field.description.name ["not_placeholder", "not_blank"]
      ["n/a"] = .ok t ∧
      t.select Sample.undescribed = .ok (⟨"description", some (.text " N/A ")⟩,
        false) := by
  have hbuild : Selector.build Field.description.name ["not_blank",
      "not_placeholder", "not_blank"] ["n/a"] = .ok Sample.described := rfl
  have hcomparable : ∀ l ∈ [Sample.until 5, Sample.until 20, Sample.until 4],
      l.IsComparable := by
    unfold HoldBack.IsComparable
    decide +kernel
  have hnames : ∀ n, n ∈ ["not_placeholder", "not_blank"] ↔
      n ∈ ["not_blank", "not_placeholder", "not_blank"] := by
    intro n
    simp only [List.mem_cons, List.not_mem_nil, or_false]
    tauto
  obtain ⟨hselect, hreorder⟩ := Selector.select_build hbuild
  obtain ⟨t, ht, hsame⟩ := hreorder _ hnames
  refine ⟨hbuild, hcomparable, ?_, ?_, hnames, t, ht, ?_⟩
  · rw [hselect _ _ fun l hl =>
      hcomparable l (by simp only [List.mem_cons] at hl ⊢; tauto)]
    decide +kernel
  · rw [hselect _ _ hcomparable]
    decide +kernel
  · refine (hsame [] Sample.undescribed).trans
      ((hselect [] _ fun _ hl => (nomatch hl)).trans ?_)
    decide +kernel

end LedgerSync.Matching
