import LedgerSync.Sync.Heuristic
import Mathlib.Data.List.Forall2
import Mathlib.Data.List.Perm.Basic

/-!
# Runs that return

Every statement about a sync starts from a run that returned. `Run.Returns` says
that a run started from one journal gives a result and leaves another journal,
and the lemmas below take such a run apart: each step of a `do` block returned,
and its journal is where the next one started. The same is said of computations
without effects, which are equations `x = .ok a`.
-/

namespace LedgerSync

section Results

variable {ε ε' α β σ : Type}

theorem bind_eq_ok_iff {x : Except ε α} {f : α → Except ε β} {b : β} :
    (x >>= f) = .ok b ↔ ∃ a, x = .ok a ∧ f a = .ok b := by
  cases x with
  | error e =>
    constructor
    · intro h
      cases h
    · rintro ⟨a, h, -⟩
      cases h
  | ok a =>
    constructor
    · intro h
      exact ⟨a, rfl, h⟩
    · rintro ⟨a', h, h'⟩
      cases h
      exact h'

theorem pure_eq_ok_iff {a b : α} : (pure a : Except ε α) = .ok b ↔ b = a := by
  constructor
  · intro h
    cases h
    rfl
  · rintro rfl
    rfl

theorem mapError_eq_ok_iff {f : ε → ε'} {x : Except ε α} {a : α} :
    x.mapError f = .ok a ↔ x = .ok a := by
  cases x <;> simp [Except.mapError]

/-- A computation for every element succeeds when each of them does. -/
theorem mapM_eq_ok_iff {f : α → Except ε β} {as : List α} {bs : List β} :
    as.mapM f = .ok bs ↔ List.Forall₂ (fun a b => f a = .ok b) as bs := by
  induction as generalizing bs with
  | nil =>
    rw [List.mapM_nil, pure_eq_ok_iff, List.forall₂_nil_left_iff]
  | cons a as ih =>
    rw [List.mapM_cons, bind_eq_ok_iff, List.forall₂_cons_left_iff]
    constructor
    · rintro ⟨b, hb, h⟩
      obtain ⟨rest, hrest, h⟩ := bind_eq_ok_iff.1 h
      exact ⟨b, rest, hb, ih.1 hrest, pure_eq_ok_iff.1 h⟩
    · rintro ⟨b, rest, hb, hrest, rfl⟩
      exact ⟨b, hb, bind_eq_ok_iff.2 ⟨rest, ih.2 hrest, rfl⟩⟩

/-- A computation that succeeds for every element succeeds for all. -/
theorem mapM_total {f : α → Except ε β} {as : List α}
    (h : ∀ a ∈ as, ∃ b, f a = .ok b) : ∃ bs, as.mapM f = .ok bs := by
  induction as with
  | nil => exact ⟨[], rfl⟩
  | cons a as ih =>
    obtain ⟨b, hb⟩ := h a List.mem_cons_self
    obtain ⟨bs, hbs⟩ := ih fun a' ha' => h a' (List.mem_cons_of_mem a ha')
    exact ⟨b :: bs, mapM_eq_ok_iff.2 (.cons hb (mapM_eq_ok_iff.1 hbs))⟩

/-- A computation for every element gives all results, or fails as it does for
the first element for which it fails. -/
theorem mapM_cases (f : α → Except ε β) (as : List α) :
    (∃ bs, as.mapM f = .ok bs) ∨
      ∃ (place : Nat) (a : α) (e : ε), as[place]? = some a ∧
        (∀ i < place, ∀ b, as[i]? = some b → ∃ c, f b = .ok c) ∧
        f a = .error e ∧ as.mapM f = .error e := by
  induction as with
  | nil => exact Or.inl ⟨[], rfl⟩
  | cons a as ih =>
    rw [List.mapM_cons]
    cases ha : f a with
    | error e => exact Or.inr ⟨0, a, e, rfl, nofun, ha, rfl⟩
    | ok b =>
      rcases ih with ⟨bs, hbs⟩ | ⟨place, a', e, hat, hbefore, ha', he⟩
      · exact Or.inl ⟨b :: bs, by rw [hbs]; rfl⟩
      · refine Or.inr ⟨place + 1, a', e, hat, fun i hi c hc => ?_,
          ha', by rw [he]; rfl⟩
        cases i with
        | zero => exact ⟨b, Option.some.inj hc ▸ ha⟩
        | succ i => exact hbefore i (Nat.lt_of_succ_lt_succ hi) c hc

/-- Computing for the elements in another order gives the results in another
order. -/
theorem mapM_perm {f : α → Except ε β} {as as' : List α} {bs : List β}
    (h : as.Perm as') (hbs : as.mapM f = .ok bs) :
    ∃ bs', as'.mapM f = .ok bs' ∧ bs.Perm bs' := by
  obtain ⟨bs', hbs', hperm⟩ :=
    List.perm_comp_forall₂ h.symm (mapM_eq_ok_iff.1 hbs)
  exact ⟨bs', mapM_eq_ok_iff.2 hbs', hperm.symm⟩

/-- Lists whose elements give the same one by one give the same. -/
theorem mapM_congr_of_forall₂ {γ : Type} {f : α → Except ε γ}
    {g : β → Except ε γ} {as : List α} {bs : List β}
    (h : List.Forall₂ (fun a b => f a = g b) as bs) :
    as.mapM f = bs.mapM g := by
  induction h with
  | nil => rfl
  | cons hab _ ih => rw [List.mapM_cons, List.mapM_cons, hab, ih]

/-- A computation that succeeds for all elements succeeds for each of them. -/
theorem ok_of_mapM {f : α → Except ε β} {as : List α} {bs : List β}
    (h : as.mapM f = .ok bs) {a : α} (ha : a ∈ as) : ∃ b, f a = .ok b := by
  have hall := mapM_eq_ok_iff.1 h
  clear h
  induction hall with
  | nil => cases ha
  | cons hb _ ih =>
    rcases List.mem_cons.1 ha with rfl | ha
    · exact ⟨_, hb⟩
    · exact ih ha

/-- Every element on the right has its partner on the left. -/
theorem exists_of_forall₂_right {R : α → β → Prop} {as : List α} {bs : List β}
    (h : List.Forall₂ R as bs) {b : β} (hb : b ∈ bs) : ∃ a ∈ as, R a b := by
  induction h with
  | nil => cases hb
  | cons hab _ ih =>
    rcases List.mem_cons.1 hb with rfl | hb
    · exact ⟨_, List.mem_cons_self, hab⟩
    · obtain ⟨a, ha, hr⟩ := ih hb
      exact ⟨a, List.mem_cons_of_mem _ ha, hr⟩

/-- A fold over a list that succeeds: what holds before the first element and is
kept by every step holds at the end. The invariant may speak about the elements
that were seen. -/
theorem foldlM_ok_induction {f : σ → α → Except ε σ} {as : List α} {s s' : σ}
    (h : as.foldlM f s = .ok s') (motive : List α → σ → Prop)
    (hnil : motive [] s)
    (hstep : ∀ seen a t t', motive seen t → f t a = .ok t' →
      motive (seen ++ [a]) t') : motive as s' := by
  suffices hgo : ∀ (rest seen : List α) (t : σ), motive seen t →
      rest.foldlM f t = .ok s' →
      motive (seen ++ rest) s' from hgo as [] s hnil h
  intro rest
  induction rest with
  | nil =>
    intro seen t ht h
    rw [List.foldlM_nil, pure_eq_ok_iff] at h
    rw [h, List.append_nil]
    exact ht
  | cons a rest ih =>
    intro seen t ht h
    rw [List.foldlM_cons, bind_eq_ok_iff] at h
    obtain ⟨t', ha, h⟩ := h
    rw [List.append_cons]
    exact ih _ t' (hstep seen a t t' ht ha) h

end Results

namespace Run

variable {α β σ : Type} {j j' j'' : Journal}

/-- A run that starts from a journal returns a result and leaves another
journal. -/
def Returns (r : Run α) (j : Journal) (a : α) (j' : Journal) : Prop :=
  r.run.run j = (.ok a, j')

theorem returns_of_run {r : Run α} {a : α} (h : (r.run.run j).1 = .ok a) :
    Returns r j a (r.run.run j).2 := Prod.ext h rfl

theorem Returns.unique {r : Run α} {a b : α} (h : Returns r j a j')
    (h' : Returns r j b j'') : a = b ∧ j' = j'' := by
  have heq := Eq.trans (Eq.symm h) h'
  cases heq
  exact ⟨rfl, rfl⟩

theorem returns_pure {a b : α} : Returns (pure a) j b j' ↔ b = a ∧ j' = j := by
  unfold Returns
  constructor
  · intro h
    cases h
    exact ⟨rfl, rfl⟩
  · rintro ⟨rfl, rfl⟩
    rfl

theorem returns_bind {x : Run α} {f : α → Run β} {b : β} :
    Returns (x >>= f) j b j'' ↔ ∃ a j', Returns x j a j' ∧
    Returns (f a) j' b j'' := by
  unfold Returns
  rw [ExceptT.run_bind, StateT.run_bind]
  rcases x.run.run j with ⟨⟨e⟩ | ⟨a⟩, j₁⟩
  · constructor
    · intro h
      cases h
    · rintro ⟨a, j', h, -⟩
      cases h
  · constructor
    · intro h
      exact ⟨_, j₁, rfl, h⟩
    · rintro ⟨a', j', h, h'⟩
      cases h
      exact h'

theorem not_returns_throw {e : Failure} {a : α} :
    ¬ Returns (throw e) j a j' := by
  intro h
  cases h

theorem returns_ofExcept {r : Except Failure α} {a : α} :
    Returns (ofExcept r) j a j' ↔ r = .ok a ∧ j' = j := by
  cases r with
  | error e =>
    constructor
    · intro h
      exact (not_returns_throw h).elim
    · rintro ⟨h, -⟩
      cases h
  | ok b =>
    show Returns (pure b) j a j' ↔ _
    rw [returns_pure, Except.ok.injEq, eq_comm]

theorem returns_log {severity : Severity} {topic : Topic} {message : String}
    {u : Unit} : Returns (log severity topic message) j u j' ↔
      j' = { j with records := j.records ++ [⟨severity, topic, message⟩] } := by
  unfold Returns
  constructor
  · intro h
    cases h
    rfl
  · rintro rfl
    rfl

theorem log_returns (severity : Severity) (topic : Topic) (message : String)
    (j : Journal) : Returns (log severity topic message) j ()
      { j with records := j.records ++ [⟨severity, topic, message⟩] } := rfl

theorem returns_noteAll {records : List LogRecord} {u : Unit} :
    Returns (noteAll records) j u j' ↔
    j' = { j with records := j.records ++ records } := by
  unfold Returns
  constructor
  · intro h
    cases h
    rfl
  · rintro rfl
    rfl

theorem returns_ask {since : Date} {u : Unit} :
    Returns (ask since) j u j' ↔
    j' = { j with asked := j.asked ++ [since] } := by
  unfold Returns
  constructor
  · intro h
    cases h
    rfl
  · rintro rfl
    rfl

theorem returns_drawId {supply : Nat → String} {id : String} :
    Returns (drawId supply) j id j' ↔ id = supply j.drawn ∧
    j' = { j with drawn := j.drawn + 1 } := by
  unfold Returns
  constructor
  · intro h
    cases h
    exact ⟨rfl, rfl⟩
  · rintro ⟨rfl, rfl⟩
    rfl

/-- A run that starts from a journal fails. -/
def Fails (r : Run α) (j : Journal) (e : Failure) : Prop :=
  (r.run.run j).1 = .error e

theorem fails_throw {e : Failure} : Fails (throw e : Run α) j e := rfl

/-- A run fails where its first part does. -/
theorem Fails.bind {x : Run α} {f : α → Run β} {e : Failure} (h : Fails x j e) :
    Fails (x >>= f) j e := by
  unfold Fails at h ⊢
  rw [ExceptT.run_bind, StateT.run_bind]
  rcases hx : x.run.run j with ⟨r, j₁⟩
  rw [hx] at h
  obtain rfl : r = .error e := h
  rfl

/-- After a part that returns, a run is what its second part is. -/
theorem Returns.bind_run {x : Run α} {f : α → Run β} {a : α}
    (h : Returns x j a j') : (x >>= f).run.run j = (f a).run.run j' := by
  rw [ExceptT.run_bind, StateT.run_bind, h]
  rfl

/-- A run fails where its second part does. -/
theorem Returns.bind_fails {x : Run α} {f : α → Run β} {a : α} {e : Failure}
    (h : Returns x j a j') (hf : Fails (f a) j' e) : Fails (x >>= f) j e := by
  unfold Fails
  rw [h.bind_run]
  exact hf

/-- A run returns a result with a property where its second part does. -/
theorem Returns.bind_exists {x : Run α} {f : α → Run β} {a : α} {P : β → Prop}
    (h : Returns x j a j') (hf : ∃ b k, Returns (f a) j' b k ∧ P b) :
    ∃ b k, Returns (x >>= f) j b k ∧ P b := by
  obtain ⟨b, k, hb, hP⟩ := hf
  exact ⟨b, k, returns_bind.2 ⟨a, j', h, hb⟩, hP⟩

/-- A fold that returns: what holds before the first element and is kept by
every step holds at the end. The invariant may speak about the elements that
were seen and about the journal. -/
theorem foldlM_returns_induction {f : σ → α → Run σ} {as : List α} {s s' : σ}
    (h : Returns (as.foldlM f s) j s' j') (motive : List α → σ → Journal → Prop)
    (hnil : motive [] s j)
    (hstep : ∀ seen a t k t' k', motive seen t k → Returns (f t a) k t' k' →
      motive (seen ++ [a]) t' k') :
    motive as s' j' := by
  suffices hgo : ∀ (rest seen : List α) (t : σ) (k : Journal), motive seen t k →
      Returns (rest.foldlM f t) k s' j' →
      motive (seen ++ rest) s' j' from hgo as [] s j hnil h
  intro rest
  induction rest with
  | nil =>
    intro seen t k ht h
    rw [List.foldlM_nil, returns_pure] at h
    rw [h.1, h.2, List.append_nil]
    exact ht
  | cons a rest ih =>
    intro seen t k ht h
    rw [List.foldlM_cons, returns_bind] at h
    obtain ⟨t', k', ha, h⟩ := h
    rw [List.append_cons]
    exact ih _ t' k' (hstep seen a t k t' k' ht ha) h

end Run

open Run

/-- Members that are given ids keep their order, and the ids are the next ones
of the supply. -/
theorem returns_assignFresh {newId : Nat → String} {fillKind : FillKind}
    {members : List (Member Reported)} {fresh : List Assigned} {j j' : Journal}
    (h : Returns (assignFresh newId fillKind members) j fresh j') :
    fresh.map (·.member) = members ∧
      fresh.map (·.id) = (List.range' j.drawn fresh.length).map newId ∧
      j'.drawn = j.drawn + fresh.length := by
  unfold assignFresh at h
  induction members generalizing fresh j with
  | nil =>
    rw [List.mapM_nil, returns_pure] at h
    obtain ⟨rfl, rfl⟩ := h
    exact ⟨rfl, rfl, rfl⟩
  | cons m members ih =>
    simp only [List.mapM_cons, returns_bind, returns_pure, returns_drawId] at h
    obtain ⟨_, _, ⟨id, _, ⟨rfl, rfl⟩, rfl, rfl⟩, rest, k, hrest, rfl, rfl⟩ := h
    obtain ⟨hmembers, hids, hdrawn⟩ := ih hrest
    refine ⟨by rw [List.map_cons, hmembers], ?_, ?_⟩
    · rw [List.map_cons, hids, List.length_cons, List.range'_succ,
        List.map_cons]
    · rw [hdrawn, List.length_cons, Nat.add_right_comm, Nat.add_assoc]

/-- Members that are given ids are all filled in one way. -/
theorem fillKind_of_assignFresh {newId : Nat → String} {fillKind : FillKind}
    {members : List (Member Reported)} {fresh : List Assigned} {j j' : Journal}
    (h : Returns (assignFresh newId fillKind members) j fresh j') :
    fresh.map (fun a => (a.member, a.fillKind)) = members.map fun m =>
    (m, fillKind) := by
  unfold assignFresh at h
  induction members generalizing fresh j with
  | nil =>
    rw [List.mapM_nil, returns_pure] at h
    obtain ⟨rfl, rfl⟩ := h
    rfl
  | cons m members ih =>
    simp only [List.mapM_cons, returns_bind, returns_pure, returns_drawId] at h
    obtain ⟨_, _, ⟨id, _, ⟨rfl, rfl⟩, rfl, rfl⟩, rest, k, hrest, rfl, rfl⟩ := h
    rw [List.map_cons, List.map_cons, ih hrest]

end LedgerSync
