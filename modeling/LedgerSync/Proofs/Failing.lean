import LedgerSync.Proofs.Run

/-!
# Why a computation fails

`FailsOnly P x` says that whatever stops the computation `x` is of kind `P`, and
`Run.StopsOnly P r` says the same of a run with effects. A sequence of
computations fails only as its parts do, and a later part may rely on what the
earlier ones gave, so the lemmas below follow the `do` blocks line by line; for
runs, `Run.fails_bind` tells which part it was that failed.
-/

namespace LedgerSync

/-- Every failure of a computation is of one kind. -/
def FailsOnly {ε α : Type} (P : ε → Prop) (x : Except ε α) : Prop :=
  ∀ e, x = .error e → P e

namespace FailsOnly

variable {ε ε' α β σ : Type} {P : ε → Prop}

theorem ok (a : α) : FailsOnly P (.ok a) := fun _ h => by cases h

theorem error {e : ε} (h : P e) : FailsOnly P (.error e : Except ε α) := by
  intro e' he
  cases he
  exact h

/-- A computation that succeeds does not fail. -/
theorem of_ok {x : Except ε α} {a : α} (h : x = .ok a) : FailsOnly P x :=
  h ▸ ok a

theorem bind {x : Except ε α} {f : α → Except ε β} (hx : FailsOnly P x)
    (hf : ∀ a, x = .ok a → FailsOnly P (f a)) : FailsOnly P (x >>= f) := by
  cases x with
  | error e => exact error (hx e rfl)
  | ok a => exact hf a rfl

theorem mono {Q : ε → Prop} {x : Except ε α} (h : FailsOnly P x)
    (hPQ : ∀ e, P e → Q e) : FailsOnly Q x := fun e he => hPQ e (h e he)

theorem mapError {f : ε' → ε} {x : Except ε' α} (h : ∀ e, P (f e)) :
    FailsOnly P (x.mapError f) := by
  cases x with
  | error e => exact error (h e)
  | ok a => exact ok a

theorem map {f : α → β} {x : Except ε α} (h : FailsOnly P x) :
    FailsOnly P (x.map f) := by
  cases x with
  | error e => exact error (h e rfl)
  | ok a => exact ok (f a)

theorem mapM {f : α → Except ε β} {as : List α}
    (h : ∀ a ∈ as, FailsOnly P (f a)) : FailsOnly P (as.mapM f) := by
  induction as with
  | nil => exact ok []
  | cons a as ih =>
    rw [List.mapM_cons]
    refine bind (h a List.mem_cons_self) fun b _ => bind (ih fun a' ha' => ?_)
      fun bs _ => ok _
    exact h a' (List.mem_cons_of_mem a ha')

theorem findM? {f : α → Except ε Bool} {as : List α}
    (h : ∀ a ∈ as, FailsOnly P (f a)) : FailsOnly P (as.findM? f) := by
  induction as with
  | nil => exact ok none
  | cons a as ih =>
    rw [List.findM?]
    refine bind (h a List.mem_cons_self) fun found _ => ?_
    cases found with
    | true => exact ok _
    | false => exact ih fun a' ha' => h a' (List.mem_cons_of_mem a ha')

/-- A fold fails only as its steps do, from states that keep an invariant. -/
theorem foldlM {f : σ → α → Except ε σ} {as : List α} {s : σ} (inv : σ → Prop)
    (hs : inv s) (hkeep : ∀ t a t', inv t → f t a = .ok t' → inv t')
    (h : ∀ t a, inv t → FailsOnly P (f t a)) : FailsOnly P (as.foldlM f s) := by
  induction as generalizing s with
  | nil => exact ok s
  | cons a as ih =>
    rw [List.foldlM_cons]
    exact bind (h s a hs) fun t ht => ih (hkeep s a t hs ht)

end FailsOnly

namespace Run

variable {α β : Type} {j : Journal} {e : Failure}

/-- A run fails in its first part, or in its second part after the first
returned. -/
theorem fails_bind {x : Run α} {f : α → Run β} :
    Fails (x >>= f) j e ↔ Fails x j e ∨ ∃ a j', Returns x j a j' ∧
    Fails (f a) j' e := by
  constructor
  · intro h
    rcases hx : x.run.run j with ⟨⟨e'⟩ | ⟨a⟩, j'⟩
    · left
      unfold Fails at h ⊢
      rw [ExceptT.run_bind, StateT.run_bind, hx] at h
      have heq : (Except.error e' : Except Failure β) = .error e := h
      rw [hx, Except.error.inj heq]
    · right
      refine ⟨a, j', hx, ?_⟩
      unfold Fails at h ⊢
      rw [Returns.bind_run hx] at h
      exact h
  · rintro (h | ⟨a, j', hx, hf⟩)
    · exact h.bind
    · exact hx.bind_fails hf

theorem not_fails_of_returns {r : Run α} {a : α} {j' : Journal}
    (h : Returns r j a j') : ¬Fails r j e := by
  intro he
  unfold Fails at he
  rw [h] at he
  cases he

theorem fails_ofExcept {r : Except Failure α} :
    Fails (ofExcept r) j e ↔ r = .error e := by
  cases r with
  | error e' => exact ⟨fun h => congrArg _ (Except.error.inj h), fun h => h⟩
  | ok a =>
    constructor
    · exact fun h => (not_fails_of_returns
        (returns_ofExcept.2 ⟨rfl, rfl⟩) h).elim
    · exact fun h => by cases h

theorem not_fails_pure {a : α} : ¬Fails (pure a) j e :=
  not_fails_of_returns (returns_pure.2 ⟨rfl, rfl⟩)

theorem not_fails_log {severity : Severity} {topic : Topic} {message : String} :
    ¬Fails (log severity topic message) j e :=
  not_fails_of_returns (log_returns severity topic message j)

/-- Every failure of a run is of one kind, from whatever journal it starts. -/
def StopsOnly (P : Failure → Prop) (r : Run α) : Prop :=
  ∀ j e, Fails r j e → P e

namespace StopsOnly

variable {σ : Type} {P : Failure → Prop}

/-- A run that always returns does not fail. -/
theorem of_returns {r : Run α} (h : ∀ j, ∃ a j', Returns r j a j') :
    StopsOnly P r := by
  intro j e he
  obtain ⟨a, j', hreturns⟩ := h j
  exact (not_fails_of_returns hreturns he).elim

theorem pure (a : α) : StopsOnly P (pure a) :=
  of_returns fun j => ⟨a, j, returns_pure.2 ⟨rfl, rfl⟩⟩

theorem log (severity : Severity) (topic : Topic) (message : String) :
    StopsOnly P (log severity topic message) :=
  of_returns fun j => ⟨(), _, log_returns severity topic message j⟩

theorem noteAll (records : List LogRecord) : StopsOnly P (noteAll records) :=
  of_returns fun _ => ⟨(), _, returns_noteAll.2 rfl⟩

theorem throw (h : P e) : StopsOnly P (throw e : Run α) := by
  intro j e' he
  obtain rfl : e = e' := Except.error.inj he
  exact h

theorem ofExcept {r : Except Failure α} (h : FailsOnly P r) :
    StopsOnly P (ofExcept r) :=
  fun _ e he => h e (fails_ofExcept.1 he)

theorem mono {Q : Failure → Prop} {r : Run α} (h : StopsOnly P r)
    (hPQ : ∀ e, P e → Q e) : StopsOnly Q r := fun j e he => hPQ e (h j e he)

/-- The second part only has to be looked at for what the first one returns. -/
theorem bind {x : Run α} {f : α → Run β} (hx : StopsOnly P x)
    (hf : ∀ a, (∃ j j', Returns x j a j') → StopsOnly P (f a)) :
    StopsOnly P (x >>= f) := by
  intro j e he
  rcases fails_bind.1 he with hfails | ⟨a, j', hreturns, hfails⟩
  · exact hx j e hfails
  · exact hf a ⟨j, j', hreturns⟩ j' e hfails

/-- Nothing comes after a failure. -/
theorem throw_bind {f : α → Run β} (h : P e) :
    StopsOnly P ((MonadExcept.throw e : Run α) >>= f) :=
  (StopsOnly.throw h).bind fun _ hreturns => by
    obtain ⟨_, _, hreturns⟩ := hreturns
    exact (not_returns_throw hreturns).elim

/-- A fold fails only as its steps do. -/
theorem foldlM {f : σ → α → Run σ} {as : List α} {s : σ}
    (h : ∀ t a, StopsOnly P (f t a)) : StopsOnly P (as.foldlM f s) := by
  induction as generalizing s with
  | nil => exact .pure s
  | cons a as ih =>
    rw [List.foldlM_cons]
    exact (h s a).bind fun t _ => ih

end StopsOnly

end Run

/-! ## Failures of values -/

/-- A value of a transaction cannot be had: an amount has no cents, a number is
out of the reach of arithmetic, or an instant has no place in the calendar of
universal time. -/
def Failure.IsOfValue (e : Failure) : Prop :=
  (∃ fault, e = .amount fault) ∨ (∃ signal, e = .arithmetic signal) ∨
    e = .beyondCalendar

theorem Failure.isOfValue_amount (fault : AmountFault) :
    (Failure.amount fault).IsOfValue :=
  Or.inl ⟨fault, rfl⟩

theorem Failure.isOfValue_arithmetic (signal : Decimal.Signal) :
    (Failure.arithmetic signal).IsOfValue := Or.inr (Or.inl ⟨signal, rfl⟩)

namespace Reported

variable {t : Reported}

theorem signedAmount_failsOnly :
    FailsOnly Failure.IsOfValue t.signedAmount := by
  unfold signedAmount
  refine .bind (.mapError Failure.isOfValue_arithmetic) fun magnitude _ => ?_
  cases t.direction with
  | debit => exact .mapError Failure.isOfValue_arithmetic
  | credit => exact .ok magnitude

theorem cents_failsOnly : FailsOnly Failure.IsOfValue t.cents :=
  .bind signedAmount_failsOnly fun _ _ => .mapError Failure.isOfValue_amount

theorem timestamp_failsOnly : FailsOnly Failure.IsOfValue t.timestamp := by
  unfold timestamp Moment.utcMillis
  split
  · exact .ok _
  · exact .error (Or.inr (Or.inr rfl))

theorem toStored_failsOnly {account : Account} {id currency : String}
    {fillKind : FillKind} {createdAt : Option DateTime} {now : DateTime} :
    FailsOnly Failure.IsOfValue
      (t.toStored account id currency fillKind createdAt now) :=
  .bind signedAmount_failsOnly fun _ _ => .bind timestamp_failsOnly
    fun _ _ => .ok _

end Reported

namespace Stored

variable {a b : Stored}

theorem cents_failsOnly : FailsOnly Failure.IsOfValue a.cents :=
  .mapError Failure.isOfValue_amount

theorem sameNumber_failsOnly (n n' : Option Decimal) :
    FailsOnly Failure.IsOfValue (sameNumber n n') := by
  unfold sameNumber
  split
  · exact .mapError Failure.isOfValue_arithmetic
  · exact .ok _
  · exact .ok _

theorem same_failsOnly : FailsOnly Failure.IsOfValue (a.same b) := by
  have hstop : ∀ (condition : Bool) (x : Except Failure Bool),
      FailsOnly Failure.IsOfValue x →
      FailsOnly Failure.IsOfValue (if condition = true then pure false
      else x) := by
    intro condition x hx
    split
    · exact .ok false
    · exact hx
  unfold same
  refine hstop _ _ (.bind (sameNumber_failsOnly _ _) fun _ _ =>
    hstop _ _ (hstop _ _ ?_))
  refine .bind (sameNumber_failsOnly _ _) fun _ _ => hstop _ _ ?_
  exact .bind (sameNumber_failsOnly _ _) fun _ _ => hstop _ _ (.ok _)

end Stored

/-- Drawing ids always succeeds. -/
theorem assignFresh_returns (newId : Nat → String) (fillKind : FillKind)
    (members : List (Member Reported)) (j : Journal) :
    ∃ fresh j', Run.Returns (assignFresh newId fillKind members) j
      fresh j' := by
  unfold assignFresh
  induction members generalizing j with
  | nil => exact ⟨[], j, Run.returns_pure.2 ⟨rfl, rfl⟩⟩
  | cons m members ih =>
    obtain ⟨rest, j', hrest⟩ := ih { j with drawn := j.drawn + 1 }
    refine ⟨⟨m, newId j.drawn, fillKind⟩ :: rest, j', ?_⟩
    simp only [List.mapM_cons, Run.returns_bind, Run.returns_pure,
      Run.returns_drawId]
    exact ⟨_, _, ⟨_, _, ⟨rfl, rfl⟩, rfl, rfl⟩, rest, j', hrest, rfl, rfl⟩

end LedgerSync
