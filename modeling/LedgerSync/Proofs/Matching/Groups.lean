import LedgerSync.Matching.Matcher
import LedgerSync.Proofs.Matching.Keys
import Mathlib.Data.List.Perm.Basic

/-!
# Groups of one key

A round groups the transactions of a side by key. Each key has one
representative, so the groups of the representatives are the side
(`flatMap_group_perm`), and a transaction is either the only one of its key or
in a group of several (`uniques_append_repeated_perm`). Looking a key up among
the unique ones finds the transaction of that key, if there is one
(`find?_eq_some_iff`).
-/

namespace LedgerSync.Matching.Matcher

variable {α : Type} {keyed : List (Keyed α)}

/-- All keys are sets. -/
def HaveSets (keyed : List (Keyed α)) : Prop := ∀ k ∈ keyed, k.key.IsSet

theorem HaveSets.sublist {l l' : List (Keyed α)} (h : HaveSets l')
    (hsub : l.Sublist l') : HaveSets l := fun k hk => h k (hsub.subset hk)

/-- The part of a list with one value, for every value that occurs, is the
list. -/
theorem flatMap_filter_perm {β γ : Type} [DecidableEq γ] (f : β → γ)
    (values : List γ) (hvalues : values.Nodup) (l : List β)
    (hl : ∀ b ∈ l, f b ∈ values) :
    (values.flatMap fun c => l.filter fun b => decide (f b = c)).Perm l := by
  induction values generalizing l with
  | nil =>
    cases l with
    | nil => exact List.Perm.refl _
    | cons b l => exact absurd (hl b List.mem_cons_self) List.not_mem_nil
  | cons c values ih =>
    rw [List.nodup_cons] at hvalues
    -- the other values occur only in what is left when the first one is taken
    -- out
    have hrest := ih hvalues.2 (l.filter fun b => !decide (f b = c)) (by
      intro b hb
      obtain ⟨hb, hne⟩ := List.mem_filter.1 hb
      rcases List.mem_cons.1 (hl b hb) with heq | hmem
      · simp [heq] at hne
      · exact hmem)
    have hsame : (values.flatMap fun d => l.filter fun b => decide (f b = d)) =
        values.flatMap fun d =>
          (l.filter fun b => !decide (f b = c)).filter fun b =>
            decide (f b = d) := by
      refine List.flatMap_congr fun d hd => ?_
      rw [List.filter_filter]
      refine List.filter_congr fun b _ => ?_
      have hdc : d ≠ c := fun h => hvalues.1 (h ▸ hd)
      by_cases hb : f b = d
      · simp [hb, hdc]
      · simp [hb]
    rw [List.flatMap_cons, hsame]
    exact (hrest.append_left _).trans
      (List.filter_append_perm (fun b => decide (f b = c)) l)

/-! ## Representatives -/

theorem representatives_sublist (keyed : List (Keyed α)) :
    (representatives keyed).Sublist keyed := by
  induction keyed with
  | nil => exact List.Sublist.slnil
  | cons k keyed ih => exact (List.filter_sublist.trans ih).cons_cons k

theorem representatives_cores_nodup (h : HaveSets keyed) :
    ((representatives keyed).map (·.key.core)).Nodup := by
  induction keyed with
  | nil => exact List.nodup_nil
  | cons k keyed ih =>
    have hrest := ih fun k' hk' => h k' (List.mem_cons_of_mem _ hk')
    rw [representatives, List.map_cons, List.nodup_cons]
    refine ⟨?_, hrest.sublist (List.filter_sublist.map _)⟩
    intro hmem
    obtain ⟨k', hk', hcore⟩ := List.mem_map.1 hmem
    obtain ⟨-, hdiffers⟩ := List.mem_filter.1 hk'
    have hsame := (Key.same_iff_core_eq (h k List.mem_cons_self)).2 hcore.symm
    simp [hsame] at hdiffers

/-- Every key has a representative. -/
theorem core_mem_representatives (h : HaveSets keyed) {k : Keyed α}
    (hk : k ∈ keyed) :
    k.key.core ∈ (representatives keyed).map (·.key.core) := by
  induction keyed with
  | nil => cases hk
  | cons first keyed ih =>
    rw [representatives, List.map_cons]
    rcases List.mem_cons.1 hk with rfl | hk
    · exact List.mem_cons_self
    by_cases hcore : first.key.core = k.key.core
    · rw [hcore]
      exact List.mem_cons_self
    · have hrest := ih (fun k' hk' => h k' (List.mem_cons_of_mem _ hk')) hk
      obtain ⟨rep, hrep, heq⟩ := List.mem_map.1 hrest
      refine List.mem_cons_of_mem _
        (List.mem_map.2 ⟨rep, List.mem_filter.2 ⟨hrep, ?_⟩, heq⟩)
      rw [Bool.not_eq_true', ← Bool.not_eq_true,
        Key.same_iff_core_eq (h first List.mem_cons_self), heq]
      exact hcore

/-! ## Groups -/

theorem mem_group {k : Key} (hk : k.IsSet) {other : Keyed α} :
    other ∈ group keyed k ↔ other ∈ keyed ∧ k.core = other.key.core := by
  rw [group, List.mem_filter, Key.same_iff_core_eq hk]

open scoped Classical in
theorem group_eq_filter {k : Key} (hk : k.IsSet) :
    group keyed k = keyed.filter fun other =>
    decide (other.key.core = k.core) := by
  refine List.filter_congr fun other _ => ?_
  rw [Bool.eq_iff_iff, Key.same_iff_core_eq hk, decide_eq_true_iff]
  exact eq_comm

/-- Keys with one core have one group. -/
theorem group_eq_of_core_eq {k l : Key} (hk : k.IsSet) (hl : l.IsSet)
    (h : k.core = l.core) : group keyed k = group keyed l := by
  classical
  rw [group_eq_filter hk, group_eq_filter hl, h]

/-- The groups of the representatives are the side. -/
theorem flatMap_group_perm (h : HaveSets keyed) :
    ((representatives keyed).flatMap fun k => group keyed k.key).Perm
      keyed := by
  classical
  have hgroups : ((representatives keyed).flatMap fun k => group keyed k.key) =
      ((representatives keyed).map (·.key.core)).flatMap fun c =>
        keyed.filter fun other => decide (other.key.core = c) := by
    rw [List.flatMap_map]
    refine List.flatMap_congr fun k hk => ?_
    exact group_eq_filter (h k ((representatives_sublist keyed).subset hk))
  rw [hgroups]
  exact flatMap_filter_perm (fun k => k.key.core) _
    (representatives_cores_nodup h) keyed
    fun k hk => core_mem_representatives h hk

/-! ## Unique and repeated keys -/

theorem uniques_sublist (keyed : List (Keyed α)) :
    (uniques keyed).Sublist keyed :=
  List.filter_sublist.trans (representatives_sublist keyed)

theorem uniques_cores_nodup (h : HaveSets keyed) :
    ((uniques keyed).map (·.key.core)).Nodup :=
  (representatives_cores_nodup h).sublist (List.filter_sublist.map _)

/-- A unique transaction is alone in its group. -/
theorem group_of_mem_uniques (h : HaveSets keyed) {k : Keyed α}
    (hk : k ∈ uniques keyed) : group keyed k.key = [k] := by
  have hmem := (uniques_sublist keyed).subset hk
  obtain ⟨-, hlength⟩ := List.mem_filter.1 hk
  obtain ⟨a, ha⟩ := List.length_eq_one_iff.1 (beq_iff_eq.1 hlength)
  have hself : k ∈ group keyed k.key := (mem_group (h k hmem)).2 ⟨hmem, rfl⟩
  rw [ha, List.mem_singleton] at hself
  rw [ha, hself]

/-- A transaction of a repeated key is not alone in its group. -/
theorem group_of_mem_repeated (h : HaveSets keyed) {k : Keyed α}
    (hk : k ∈ repeated keyed) : k ∈ keyed ∧ (group keyed k.key).length ≠ 1 := by
  obtain ⟨rep, hrep, hkrep⟩ := List.mem_flatMap.1 hk
  obtain ⟨hrep, hlength⟩ := List.mem_filter.1 hrep
  have hset := h rep ((representatives_sublist keyed).subset hrep)
  obtain ⟨hmem, hcore⟩ := (mem_group hset).1 hkrep
  refine ⟨hmem, ?_⟩
  rw [← group_eq_of_core_eq hset (h k hmem) hcore]
  exact bne_iff_ne.1 hlength

theorem repeated_subset (h : HaveSets keyed) : repeated keyed ⊆ keyed :=
  fun _ hk => (group_of_mem_repeated h hk).1

/-- Every transaction is unique or repeated. -/
theorem uniques_append_repeated_perm (h : HaveSets keyed) :
    (uniques keyed ++ repeated keyed).Perm keyed := by
  have huniques : uniques keyed = (uniques keyed).flatMap fun k =>
      group keyed k.key := by
    have hsingle : ((uniques keyed).flatMap fun k => group keyed k.key) =
        (uniques keyed).flatMap fun k => [k] :=
      List.flatMap_congr fun k hk => group_of_mem_uniques h hk
    rw [hsingle, List.flatMap_singleton']
  rw [huniques]
  refine List.Perm.trans ?_ (flatMap_group_perm h)
  rw [uniques, repeated, ← List.flatMap_append]
  exact (List.filter_append_perm (fun k : Keyed α =>
    (group keyed k.key).length == 1) (representatives keyed)).flatMap_right _

theorem mem_uniques_iff (h : HaveSets keyed) {k : Keyed α} :
    k ∈ uniques keyed ↔ k ∈ keyed ∧ (group keyed k.key).length = 1 := by
  constructor
  · intro hk
    exact ⟨(uniques_sublist keyed).subset
      hk, by rw [group_of_mem_uniques h hk]; rfl⟩
  · rintro ⟨hk, hlength⟩
    rcases List.mem_append.1 ((uniques_append_repeated_perm h).mem_iff.2 hk)
      with hunique | hrepeated
    · exact hunique
    · exact absurd hlength (group_of_mem_repeated h hrepeated).2

/-- Which transactions are unique does not depend on their order. -/
theorem uniques_perm {keyed' : List (Keyed α)} (h : HaveSets keyed)
    (hperm : keyed.Perm keyed') : (uniques keyed).Perm (uniques keyed') := by
  have h' : HaveSets keyed' := fun k hk => h k (hperm.mem_iff.2 hk)
  have hnodup := List.Nodup.of_map _ (uniques_cores_nodup h)
  rw [List.perm_ext_iff_of_nodup hnodup
    (List.Nodup.of_map _ (uniques_cores_nodup h'))]
  intro k
  have hgroup : (group keyed k.key).Perm (group keyed' k.key) := hperm.filter _
  rw [mem_uniques_iff h, mem_uniques_iff h', hperm.mem_iff, hgroup.length_eq]

/-- Which transactions are repeated does not depend on their order. -/
theorem repeated_perm {keyed' : List (Keyed α)} (h : HaveSets keyed)
    (hperm : keyed.Perm keyed') : (repeated keyed).Perm (repeated keyed') := by
  have h' : HaveSets keyed' := fun k hk => h k (hperm.mem_iff.2 hk)
  -- the repeated ones are what the unique ones leave
  rw [← List.perm_append_left_iff (uniques keyed)]
  refine (uniques_append_repeated_perm h).trans (hperm.trans ?_)
  refine (uniques_append_repeated_perm h').symm.trans ?_
  exact (uniques_perm h hperm).symm.append_right _

/-! ## Looking up a key -/

/-- What is found has the key. -/
theorem core_eq_of_find? {us : List (Keyed α)} {k : Key} (hk : k.IsSet)
    {other : Keyed α} (h : find? us k = some other) :
    k.core = other.key.core := by
  unfold find? at h
  have hsame : k.same other.key = true := by simpa using List.find?_some h
  exact (Key.same_iff_core_eq hk).1 hsame

theorem find?_eq_some_iff {us : List (Keyed α)}
    (hus : (us.map (·.key.core)).Nodup) {k : Key} (hk : k.IsSet)
    {other : Keyed α} :
    find? us k = some other ↔ other ∈ us ∧ k.core = other.key.core := by
  constructor
  · intro h
    exact ⟨List.mem_of_find?_eq_some h, core_eq_of_find? hk h⟩
  · rintro ⟨hmem, hcore⟩
    cases h : find? us k with
    | none =>
      -- the search would have stopped at the other one at the latest
      have hnone := List.find?_eq_none.1 h other hmem
      exact (hnone ((Key.same_iff_core_eq hk).2 hcore)).elim
    | some found =>
      have hfound := core_eq_of_find? hk h
      have heq := List.inj_on_of_nodup_map hus
          (List.mem_of_find?_eq_some h) hmem (hfound.symm.trans hcore)
      rw [heq]

/-- Where keys are distinct, what is found does not depend on the order. -/
theorem find?_perm {us us' : List (Keyed α)} (hus : (us.map (·.key.core)).Nodup)
    (hperm : us.Perm us') {k : Key} (hk : k.IsSet) :
    find? us k = find? us' k := by
  have hus' : (us'.map (·.key.core)).Nodup := (hperm.map _).nodup_iff.1 hus
  ext other
  rw [find?_eq_some_iff hus hk, find?_eq_some_iff hus' hk, hperm.mem_iff]

/-- A key is found among the unique transactions of a side in whatever order the
side is. -/
theorem find?_uniques_perm {keyed' : List (Keyed α)} (h : HaveSets keyed)
    (hperm : keyed.Perm keyed') {k : Key} (hk : k.IsSet) :
    find? (uniques keyed) k = find? (uniques keyed') k :=
  find?_perm (uniques_cores_nodup h) (uniques_perm h hperm) hk

theorem find?_isSome_iff {us : List (Keyed α)} {k : Key} (hk : k.IsSet) :
    (find? us k).isSome = true ↔ ∃ other ∈ us, k.core = other.key.core := by
  rw [find?, List.find?_isSome]
  constructor
  · rintro ⟨other, hmem, h⟩
    exact ⟨other, hmem, (Key.same_iff_core_eq hk).1 h⟩
  · rintro ⟨other, hmem, h⟩
    exact ⟨other, hmem, (Key.same_iff_core_eq hk).2 h⟩

/-- Each transaction that is found has the key of the one that looked for it. -/
theorem filterMap_find?_cores_sublist {β : Type} {us : List (Keyed α)}
    (hus : HaveSets us) (vs : List (Keyed β)) :
    ((us.filterMap fun k => find? vs k.key).map (·.key.core)).Sublist
    (us.map (·.key.core)) := by
  induction us with
  | nil => exact List.Sublist.slnil
  | cons u us ih =>
    have hrest := ih fun k hk => hus k (List.mem_cons_of_mem _ hk)
    rw [List.filterMap_cons, List.map_cons]
    cases h : find? vs u.key with
    | none => exact hrest.cons _
    | some v =>
      rw [core_eq_of_find? (hus u List.mem_cons_self) h]
      exact hrest.cons_cons _

/-- Pairing the unique transactions of one side with those of the other: the
partners are the unique transactions of the other side whose key is found on the
first. -/
theorem filterMap_find?_perm {β : Type} {us : List (Keyed α)}
    {vs : List (Keyed β)} (hus : HaveSets us) (hvs : HaveSets vs)
    (husCores : (us.map (·.key.core)).Nodup)
    (hvsCores : (vs.map (·.key.core)).Nodup) :
    (us.filterMap fun k => find? vs k.key).Perm
    (vs.filter fun v => (find? us v.key).isSome) := by
  -- both sides have distinct keys, so it is enough that they have the same
  -- members
  have hleft : (us.filterMap fun k => find? vs k.key).Nodup :=
    List.Nodup.of_map _
      (husCores.sublist (filterMap_find?_cores_sublist hus vs))
  have hright := (List.Nodup.of_map _ hvsCores).sublist
    (List.filter_sublist (p := fun v : Keyed β => (find? us v.key).isSome))
  rw [List.perm_ext_iff_of_nodup hleft hright]
  intro v
  rw [List.mem_filterMap, List.mem_filter]
  constructor
  · rintro ⟨u, hu, h⟩
    obtain ⟨hv, hcore⟩ := (find?_eq_some_iff hvsCores (hus u hu)).1 h
    exact ⟨hv, (find?_isSome_iff (hvs v hv)).2 ⟨u, hu, hcore.symm⟩⟩
  · rintro ⟨hv, h⟩
    obtain ⟨u, hu, hcore⟩ := (find?_isSome_iff (hvs v hv)).1 h
    exact ⟨u, hu, (find?_eq_some_iff hvsCores (hus u hu)).2 ⟨hv, hcore.symm⟩⟩

end LedgerSync.Matching.Matcher
