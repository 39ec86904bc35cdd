import LedgerSync.Matching.Matcher
import LedgerSync.Matching.Window

/-!
# Providers

For every bank a chain of matchers and a way of choosing the sync window. The
registry lists the banks that are reconciled by such a chain; a bank that it
does not list is not.

The built-in matchers are shared between the providers. They compare the amount,
and beside it the external id alone, or a date together with names, texts and
the time, for banks that do not give every transaction an id of its own. A
matcher can be derived from another one by leaving a field out.
-/

namespace LedgerSync.Matching

inductive BuiltIn
  | externalIdAmountStrict
  | bookingDateAmountStrict
  | dateAmountStrict
  | openBanking
  deriving DecidableEq, Repr

namespace BuiltIn

/-- The fields that the stricter matchers compare beside a date and the amount.
They may be absent, if they are so on both sides. -/
def detailFields : List Selector :=
  [.plain .creditorName, .plain .debtorName, .plain .description,
    .plain .externalId,
   .plain .timestamp]

/-- A field that must be there. -/
def present (f : Field) : Selector := .restricted .notNull (.plain f)

def matcher : BuiltIn → Matcher
  | .externalIdAmountStrict =>
    ⟨"external-id-amount-strict",
      [.restricted .notBlank (.plain .externalId), present .amount], by simp⟩
  | .bookingDateAmountStrict =>
    ⟨"booking-date-amount-strict", present .bookingDate :: present .amount ::
      detailFields, by simp⟩
  | .dateAmountStrict =>
    ⟨"date-amount-strict", present .date :: present .amount ::
      detailFields, by simp⟩
  | .openBanking =>
    ⟨"open-banking", present .amount :: present .bookingDate ::
      detailFields, by simp⟩

def all : List BuiltIn :=
  [.externalIdAmountStrict, .bookingDateAmountStrict, .dateAmountStrict,
   .openBanking]

/-- The matcher on the booking date without the time, for a bank that shifts the
execution times of foreign currency accounts. -/
def untimed : Matcher :=
  ⟨"booking-date-amount-strict-noTs",
    [present .bookingDate, present .amount, .plain .creditorName,
     .plain .debtorName, .plain .description, .plain .externalId], by simp⟩

theorem without_timestamp :
    BuiltIn.bookingDateAmountStrict.matcher.without "noTs" .timestamp =
      .ok untimed := rfl

end BuiltIn

/-- Matchers by name, in the order in which they were defined. -/
abbrev Catalogue := List Matcher

namespace Catalogue

def builtIn : Catalogue := BuiltIn.all.map (·.matcher)

def find? (c : Catalogue) (name : String) : Option Matcher :=
  List.find? (fun m => m.name == name) c

def sortedNames (c : Catalogue) : List String :=
  (c.map (·.name)).mergeSort fun a b => !(b < a)

/-- Looks a matcher up, and leaves one of its fields out if asked to. The name
of the derived matcher ends in the suffix, or in `no-` and the field. -/
def derive (c : Catalogue) (name : String) (without suffix : Option String) :
    Except Failure Matcher := do
  let some m := c.find? name | throw (.configuration
    (.unknownMatcher name c.sortedNames))
  let some left := without | return m
  let some field := Field.ofName? left
    | throw (.configuration (.unknownSelector left Field.sortedNames))
  m.without ((suffix.filter (· ≠ "")).getD s!"no-{left}") field

end Catalogue

/-- The chain of matchers and the window selector of one bank. -/
structure Provider where
  name : String
  window : WindowSelector
  matchers : List Matcher

namespace Provider

/-- A provider needs a name, a window selector and at least one matcher. -/
def make (name : String) (window : Option WindowSelector)
    (matchers : List Matcher) :
    Except Failure Provider := do
  if name = "" then throw (.configuration .unnamedProvider)
  let some w := window | throw (.configuration (.noWindowSelector name))
  if matchers.isEmpty then throw (.configuration (.emptyChain name))
  return ⟨name, w, matchers⟩

/-- The names of the matchers, with arrows between. -/
def chainText (p : Provider) : String :=
  " -> ".intercalate (p.matchers.map (·.name))

def describe (p : Provider) : String :=
  s!"{p.name}: [{p.window.name}] {p.chainText}"

end Provider

/-- The providers that are reconciled by a chain of matchers; no name occurs
twice. -/
structure Registry where
  providers : List Provider

namespace Registry

def empty : Registry := ⟨[]⟩

/-- A registry of providers with distinct names. -/
def ofList (providers : List Provider) : Except Failure Registry := do
  let listed ← providers.foldlM (fun seen (p : Provider) =>
    if seen.any fun (q : Provider) => q.name == p.name then
      Except.error (Failure.configuration (.providerTwice p.name))
    else .ok (seen ++ [p])) []
  return ⟨listed⟩

def find? (r : Registry) (name : String) : Option Provider :=
  r.providers.find? fun p => p.name == name

theorem mem_of_find? {r : Registry} {name : String} {p : Provider}
    (h : r.find? name = some p) : p ∈ r.providers := List.mem_of_find?_eq_some h

/-- The provider of a name, which must be listed. -/
def get (r : Registry) (name : String) : Except Failure Provider :=
  match r.find? name with
  | some p => .ok p
  | none => .error (.configuration (.providerNotConfigured name))

def isActivated (r : Registry) (name : String) : Bool := (r.find? name).isSome

/-- The providers in the alphabetical order of their names, in which they are
shown. -/
def sorted (r : Registry) : List Provider :=
  r.providers.mergeSort fun p q => !(q.name < p.name)

def label (r : Registry) : String :=
  s!"ProviderRegistry({Text.quotedList (r.sorted.map (·.name))})"

/-- The matchers of the built-in providers. Most give every transaction an id of
its own. The others fall back on the booking date, one of them on the date as
well, and one on the booking date without the time. One sends the first day in
part, so its window is cut. -/
def builtInProviders : List Provider :=
  let strict := BuiltIn.externalIdAmountStrict.matcher
  let booking := BuiltIn.bookingDateAmountStrict.matcher
  (["ASN_BANK", "BUNQ", "RABOBANK", "REGIO_BANK", "SNS_BANK"].map fun name =>
    ⟨name, .unbounded, [strict]⟩) ++
  [⟨"TRIODOS_BANK_NL", .unbounded, [strict, booking]⟩,
   ⟨"KNAB_BANK_NL", .bookingDate, [strict, booking]⟩,
   ⟨"ABN_AMRO", .unbounded,
     [strict, booking, BuiltIn.dateAmountStrict.matcher]⟩,
   ⟨"ING_NL", .unbounded, [strict, booking, BuiltIn.untimed]⟩]

def builtIn : Registry := ⟨builtInProviders⟩

/-- The chains of the built-in providers. -/
theorem forall_chains_builtIn {P : List Matcher → Prop}
    (hstrict : P [BuiltIn.externalIdAmountStrict.matcher])
    (hbooking : P [BuiltIn.externalIdAmountStrict.matcher,
      BuiltIn.bookingDateAmountStrict.matcher])
    (hdate : P [BuiltIn.externalIdAmountStrict.matcher,
      BuiltIn.bookingDateAmountStrict.matcher,
      BuiltIn.dateAmountStrict.matcher])
    (huntimed : P [BuiltIn.externalIdAmountStrict.matcher,
      BuiltIn.bookingDateAmountStrict.matcher, BuiltIn.untimed]) :
    ∀ p ∈ builtIn.providers, P p.matchers := by
  simp only [builtIn, builtInProviders, List.forall_mem_append,
    List.forall_mem_map, List.forall_mem_cons]
  simp [hstrict, hbooking, hdate, huntimed]

/-- A built-in provider uses built-in matchers, and the one without the time. -/
theorem forall_matchers_builtIn {P : Matcher → Prop}
    (hshared : ∀ b : BuiltIn, P b.matcher) (huntimed : P BuiltIn.untimed) :
    ∀ p ∈ builtIn.providers, ∀ m ∈ p.matchers, P m := by
  have hstrict := hshared .externalIdAmountStrict
  have hbooking := hshared .bookingDateAmountStrict
  have hdate := hshared .dateAmountStrict
  exact forall_chains_builtIn (P := fun ms => ∀ m ∈ ms, P m)
    (by simp [hstrict]) (by simp [hstrict, hbooking])
    (by simp [hstrict, hbooking, hdate]) (by simp [hstrict, hbooking, huntimed])

end Registry

end LedgerSync.Matching
