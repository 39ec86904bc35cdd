import LedgerSync.Matching.Attribute
import LedgerSync.Text.Case

/-!
# Selectors

A selector extracts one attribute and says whether it is usable for matching.
Matchers take any extraction and any predicate; the selectors to choose from
are those of the fields, and what can be made of them. Restrictions are laid
around a selector: they may refuse an attribute, and never change how it is
extracted. Only a selector that is held back until some time replaces the
value: until then the attribute is absent and counts as usable, so the field is
ignored instead of rejecting every transaction.
-/

namespace LedgerSync.Matching

inductive Restriction
  | notNull
  | notBlank
  | notPlaceholder (placeholders : List String)
  deriving DecidableEq, Repr

namespace Restriction

/-- What banks send instead of leaving a field empty. -/
def defaultPlaceholders : List String := ["Not Provided"]

def names : List String := ["not_null", "not_blank", "not_placeholder"]

def name : Restriction → String
  | .notNull => "not_null"
  | .notBlank => "not_blank"
  | .notPlaceholder _ => "not_placeholder"

/-- Whether a text consists of zeros, blanks and separators, with at least one
zero: an account number without digits that mean anything. -/
def isZeroAccount (s : String) : Bool :=
  let cs := s.toList
  cs.contains '0' &&
    cs.all fun c => c = '0' || Text.isBlank c || c = '-' || c = '.' || c = '/'

/-- Whether a text is one of the placeholders, in any case, or an account
number of zeros. -/
def isPlaceholder (placeholders : List String) (s : String) : Bool :=
  let bare := Text.trim s
  (placeholders.map fun p => Text.toLower (Text.trim p)).contains
      (Text.toLower bare) ||
    isZeroAccount bare

/-- Whether the condition holds. An absent value carries no placeholder: it is
left to the other restrictions. -/
def accepts (r : Restriction) (a : Attribute) : Bool :=
  match r with
  | .notNull => a.value.isSome
  | .notBlank => a.hasContent
  | .notPlaceholder placeholders =>
    !a.hasContent ||
      !(a.value.any fun v => isPlaceholder placeholders v.shown)

def ofName? (placeholders : List String) (s : String) : Option Restriction :=
  [.notNull, .notBlank, .notPlaceholder placeholders].find? fun r =>
    r.name == s

end Restriction

/-- A selector is any extraction of an attribute with any predicate on it.
Both may fail. An extraction reads a view, so it fails as a part of the view
does, or because two times cannot be compared; and a predicate has an answer
for whatever was extracted. -/
structure Selector where
  name : String
  /-- The field whose own selector this is, so that a matcher can drop it. What
  is laid around a selector makes another one of it. -/
  own : Option Field
  extract : View → Except Failure Attribute
  usable : Attribute → Except Failure Bool
  failure_of_extract {v : View} {e : Failure} : extract v = .error e →
    v.cents = .error e ∨ v.timestamp = .error e ∨ e = .incomparable
  usable_of_extract {v : View} {a : Attribute} : extract v = .ok a →
    ∃ b, usable a = .ok b

namespace Selector

def label (s : Selector) : String := s!"AttributeSelector({s.name})"

/-- The attribute of a view, and whether it may be used. -/
def select (s : Selector) (v : View) : Except Failure (Attribute × Bool) := do
  let a ← s.extract v
  return (a, ← s.usable a)

/-- The selector of a field takes the attribute at face value. -/
def plain (f : Field) : Selector where
  name := f.name
  own := some f
  extract := f.extract
  usable _ := .ok true
  failure_of_extract h := (f.failure_of_extract h).imp_right Or.inl
  usable_of_extract _ := ⟨true, rfl⟩

/-- Lays a condition around a selector. The extraction stays, and the selector
within is only asked about attributes that meet the condition. -/
def restrict (accepts : Attribute → Bool) (label : String) (inner : Selector) :
    Selector where
  name := s!"{label}({inner.name})"
  own := none
  extract := inner.extract
  usable a := if accepts a then inner.usable a else .ok false
  failure_of_extract := inner.failure_of_extract
  usable_of_extract {v a} h := by
    split
    · exact inner.usable_of_extract h
    · exact ⟨false, rfl⟩

def restricted (r : Restriction) (inner : Selector) : Selector :=
  inner.restrict r.accepts r.name

/-- Whether a time is not reached yet. -/
def isBefore (now useAfter : DateTime) : Except Failure Bool :=
  match now.earlier? useAfter with
  | some b => .ok b
  | none => .error .incomparable

theorem failure_of_isBefore {now useAfter : DateTime} {e : Failure}
    (h : isBefore now useAfter = .error e) : e = .incomparable := by
  unfold isBefore at h
  split at h
  · cases h
  · exact (Except.error.inj h).symm

/-- Holds a selector back: until the time the attribute is absent, and
usable. -/
def heldBack (useAfter now : DateTime) (inner : Selector) : Selector where
  name := s!"use_after_or_null({inner.name})"
  own := none
  extract v := do
    let a ← inner.extract v
    return if ← isBefore now useAfter then ⟨a.name, none⟩ else a
  usable a := do
    if ← isBefore now useAfter then return true else inner.usable a
  failure_of_extract {v e} h := by
    cases hinner : inner.extract v with
    | error e' =>
      rw [hinner] at h
      cases h
      exact inner.failure_of_extract hinner
    | ok a =>
      cases hbefore : isBefore now useAfter with
      | error e' =>
        rw [hinner, hbefore] at h
        cases h
        exact .inr (.inr (failure_of_isBefore hbefore))
      | ok early =>
        rw [hinner, hbefore] at h
        cases h
  usable_of_extract {v a} h := by
    cases hinner : inner.extract v with
    | error e => rw [hinner] at h; cases h
    | ok a' =>
      -- the times were compared for the extraction, so they can be compared
      -- again
      cases hbefore : isBefore now useAfter with
      | error e => rw [hinner, hbefore] at h; cases h
      | ok early =>
        rw [hinner, hbefore] at h
        cases early with
        | true => exact ⟨true, rfl⟩
        | false =>
          obtain rfl : a' = a := Except.ok.inj h
          exact inner.usable_of_extract hinner

/-- The selector of a named field with named restrictions laid around it in
order. -/
def build (field : String) (restrictions : List String)
    (placeholders : List String) : Except Failure Selector := do
  let some f := Field.ofName? field
    | throw (.configuration (.unknownAttribute field Field.sortedNames))
  restrictions.foldlM (fun s name =>
    match Restriction.ofName? placeholders name with
    | some r => return .restricted r s
    | none =>
      throw (.configuration (.unknownRestriction name Restriction.names)))
    (.plain f)

@[simp] theorem extract_plain (f : Field) (v : View) :
    (plain f).extract v = f.extract v := rfl

@[simp] theorem usable_plain (f : Field) (a : Attribute) :
    (plain f).usable a = .ok true := rfl

theorem usable_restricted (r : Restriction) (s : Selector) (a : Attribute) :
    (restricted r s).usable a =
      if r.accepts a then s.usable a else .ok false := rfl

theorem extract_heldBack (useAfter now : DateTime) (s : Selector) (v : View) :
    (heldBack useAfter now s).extract v = (do
      let a ← s.extract v
      return if ← isBefore now useAfter then ⟨a.name, none⟩ else a) := rfl

theorem usable_heldBack (useAfter now : DateTime) (s : Selector)
    (a : Attribute) : (heldBack useAfter now s).usable a = (do
      if ← isBefore now useAfter then return true else s.usable a) := rfl

end Selector

/-- Whether all of a non-empty list of extracted attributes are usable. -/
def allUsable (results : List Bool) : Except Failure Bool :=
  if results.isEmpty then .error (.argument .noSelectorResults)
  else .ok (results.all id)

end LedgerSync.Matching
