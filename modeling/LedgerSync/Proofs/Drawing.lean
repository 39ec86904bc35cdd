import LedgerSync.Proofs.Failing

/-!
# Which runs draw ids

Ids come from a supply that is shared by all syncs, so a run that fails should
leave it as it was. A run that only reads, computes and logs draws none
(`Run.DrawsNone`), and once ids are drawn nothing can fail (`Run.IsTotal`). A
run that is made of the one and then of the other spares the ids when it fails
(`Run.SparesIds`).
-/

namespace LedgerSync.Run

variable {α β σ : Type} {x : Run α} {f : α → Run β}

/-- The run leaves the supply of ids as it was, whether it returns or fails. -/
def DrawsNone (r : Run α) : Prop := ∀ j, (r.run.run j).2.drawn = j.drawn

/-- The run always returns. -/
def IsTotal (r : Run α) : Prop := ∀ j, ∃ a j', Returns r j a j'

/-- Where the run fails, it leaves the supply of ids as it was. -/
def SparesIds (r : Run α) : Prop :=
  ∀ j e, Fails r j e → (r.run.run j).2.drawn = j.drawn

/-! ## Runs without ids -/

theorem drawsNone_pure (a : α) : DrawsNone (pure a : Run α) := fun _ => rfl

theorem drawsNone_throw (e : Failure) : DrawsNone (throw e : Run α) :=
  fun _ => rfl

/-- A failure goes no further. -/
theorem drawsNone_throw_bind (e : Failure) (f : α → Run β) :
    DrawsNone (throw e >>= f) := fun _ => rfl

theorem drawsNone_ofExcept (r : Except Failure α) : DrawsNone (ofExcept r) := by
  cases r with
  | error e => exact drawsNone_throw e
  | ok a => exact drawsNone_pure a

theorem drawsNone_log (severity : Severity) (topic : Topic) (message : String) :
    DrawsNone (log severity topic message) := fun _ => rfl

theorem drawsNone_noteAll (records : List LogRecord) :
    DrawsNone (noteAll records) := fun _ => rfl

theorem DrawsNone.drawn_of_returns {a : α} {j j' : Journal} (hx : DrawsNone x)
    (h : Returns x j a j') : j'.drawn = j.drawn := by
  have hdrawn := hx j
  rwa [h] at hdrawn

/-- A failure of the first part ends the run, and a result of it goes to the
second. -/
theorem DrawsNone.bind_drawn {j : Journal} (hx : DrawsNone x)
    (hf : ∀ a j', Returns x j a j' → ((f a).run.run j').2.drawn = j'.drawn) :
    ((x >>= f).run.run j).2.drawn = j.drawn := by
  have hfirst := hx j
  rcases hrun : x.run.run j with ⟨⟨e⟩ | ⟨a⟩, j'⟩
  · rw [ExceptT.run_bind, StateT.run_bind, hrun]
    rw [hrun] at hfirst
    exact hfirst
  · have hreturns : Returns x j a j' := hrun
    rw [hrun] at hfirst
    rw [hreturns.bind_run]
    exact (hf a j' hreturns).trans hfirst

namespace DrawsNone

theorem bind (hx : DrawsNone x) (hf : ∀ a, DrawsNone (f a)) :
    DrawsNone (x >>= f) :=
  fun _ => hx.bind_drawn fun a j' _ => hf a j'

theorem ite {c : Prop} [Decidable c] {y : Run α} (hx : DrawsNone x)
    (hy : DrawsNone y) : DrawsNone (if c then x else y) := by
  split
  · exact hx
  · exact hy

theorem foldlM {g : σ → α → Run σ} (hg : ∀ s a, DrawsNone (g s a))
    (as : List α) (s : σ) : DrawsNone (as.foldlM g s) := by
  induction as generalizing s with
  | nil => exact drawsNone_pure s
  | cons a as ih =>
    rw [List.foldlM_cons]
    exact (hg s a).bind fun t => ih t

theorem sparesIds (h : DrawsNone x) : SparesIds x := fun j _ _ => h j

end DrawsNone

/-! ## Runs that end in ids -/

theorem isTotal_pure (a : α) : IsTotal (pure a : Run α) := fun j => ⟨a, j, rfl⟩

theorem isTotal_ofExcept {r : Except Failure α} {a : α} (h : r = .ok a) :
    IsTotal (ofExcept r) :=
  fun j => ⟨a, j, returns_ofExcept.2 ⟨h, rfl⟩⟩

theorem isTotal_noteAll (records : List LogRecord) :
    IsTotal (noteAll records) :=
  fun _ => ⟨(), _, returns_noteAll.2 rfl⟩

theorem isTotal_log (severity : Severity) (topic : Topic) (message : String) :
    IsTotal (log severity topic message) :=
      fun j => ⟨(), _, log_returns severity topic message j⟩

theorem isTotal_assignFresh (newId : Nat → String) (fillKind : FillKind)
    (members : List (Member Reported)) :
    IsTotal (assignFresh newId fillKind members) :=
  assignFresh_returns newId fillKind members

namespace IsTotal

theorem bind (hx : IsTotal x) (hf : ∀ a, IsTotal (f a)) :
    IsTotal (x >>= f) := by
  intro j
  obtain ⟨a, j', ha⟩ := hx j
  obtain ⟨b, k, hb⟩ := hf a j'
  exact ⟨b, k, returns_bind.2 ⟨a, j', ha, hb⟩⟩

theorem ite {c : Prop} [Decidable c] {y : Run α} (hx : IsTotal x)
    (hy : IsTotal y) : IsTotal (if c then x else y) := by
  split
  · exact hx
  · exact hy

theorem sparesIds (h : IsTotal x) : SparesIds x := by
  intro j e he
  obtain ⟨a, j', ha⟩ := h j
  exact (not_fails_of_returns ha he).elim

end IsTotal

theorem SparesIds.bind (hx : DrawsNone x) (hf : ∀ a, SparesIds (f a)) :
    SparesIds (x >>= f) := by
  intro j e he
  refine hx.bind_drawn fun a j' hreturns => hf a j' e ?_
  unfold Fails at he ⊢
  rwa [hreturns.bind_run] at he

/-- What always returns may come after the ids. -/
theorem SparesIds.bind_isTotal (hx : SparesIds x) (hf : ∀ a, IsTotal (f a)) :
    SparesIds (x >>= f) := by
  intro j e he
  rcases hrun : x.run.run j with ⟨⟨e'⟩ | ⟨a⟩, j'⟩
  · have hfails : Fails x j e' := by
      unfold Fails
      rw [hrun]
    have hspared := hx j e' hfails
    rw [hrun] at hspared
    rw [ExceptT.run_bind, StateT.run_bind, hrun]
    exact hspared
  · have hreturns : Returns x j a j' := hrun
    obtain ⟨b, k, hb⟩ := hf a j'
    exact (not_fails_of_returns (returns_bind.2 ⟨a, j', hreturns, hb⟩) he).elim

end LedgerSync.Run
