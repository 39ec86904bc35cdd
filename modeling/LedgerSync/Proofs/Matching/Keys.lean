import LedgerSync.Matching.Attribute
import LedgerSync.Proofs.Calendar.SameMoment
import Mathlib.Data.List.Nodup
import Mathlib.Data.List.Perm.Subperm
import Mathlib.Data.Multiset.Basic

/-!
# Keys

A matcher compares keys as sets, and values among their attributes may be
moments, whose equality is not that of their representation. Here every value,
attribute and key gets a `core`, and comparing is equality of cores
(`Key.same_iff_core_eq`). So the transactions of one key form a class, whichever
of them stands for it.
-/

namespace LedgerSync.Matching

/-- What equal values have in common. -/
def Content.core : Content → Content ⊕ (Int ⊕ Moment)
  | .moment m => .inr m.core
  | c => .inl c

theorem Content.same_iff_core_eq (a b : Content) :
    a.same b = true ↔ a.core = b.core := by
  cases a <;> cases b <;> simp [same, core, Moment.same_iff_core_eq]

/-- What equal attributes have in common. -/
def Attribute.core (a : Attribute) :
    String × Option (Content ⊕ (Int ⊕ Moment)) :=
  (a.name, a.value.map Content.core)

theorem Attribute.same_iff_core_eq (a b : Attribute) :
    a.same b = true ↔ a.core = b.core := by
  obtain ⟨name, value⟩ := a
  obtain ⟨name', value'⟩ := b
  cases value <;> cases value' <;>
    simp [same, core, Content.same_iff_core_eq]

namespace Key

/-- No two attributes of the key are equal. -/
def IsSet (k : Key) : Prop := (k.map Attribute.core).Nodup

/-- What equal keys have in common. -/
def core (k : Key) : Multiset (String × Option (Content ⊕ (Int ⊕ Moment))) :=
  (k.map Attribute.core : List _)

theorem any_same_iff (k : Key) (a : Attribute) :
    k.any a.same = true ↔ a.core ∈ k.map Attribute.core := by
  rw [List.any_eq_true, List.mem_map]
  constructor
  · rintro ⟨b, hb, h⟩
    exact ⟨b, hb, ((Attribute.same_iff_core_eq a b).1 h).symm⟩
  · rintro ⟨b, hb, h⟩
    exact ⟨b, hb, (Attribute.same_iff_core_eq a b).2 h.symm⟩

/-- A set is equal to the keys that have its core. -/
theorem same_iff_core_eq {k l : Key} (hk : k.IsSet) :
    k.same l = true ↔ k.core = l.core := by
  rw [core, core, Multiset.coe_eq_coe, same, Bool.and_eq_true, beq_iff_eq,
    List.all_eq_true]
  constructor
  · rintro ⟨hlength, hall⟩
    have hsub : k.map Attribute.core ⊆ l.map Attribute.core := by
      intro c hc
      obtain ⟨a, ha, rfl⟩ := List.mem_map.1 hc
      exact (any_same_iff l a).1 (hall a ha)
    refine (List.subperm_of_subset hk hsub).perm_of_length_le ?_
    rw [List.length_map, List.length_map, hlength]
  · intro hperm
    refine ⟨by simpa using hperm.length_eq, ?_⟩
    intro a ha
    exact (any_same_iff l a).2 (hperm.subset (List.mem_map_of_mem ha))

/-- Keys are made without equal attributes. -/
theorem isSet_ofList (as : List Attribute) : (ofList as).IsSet := by
  suffices hgo : ∀ (as : List Attribute) (k : Key), k.IsSet →
      (as.foldl (fun k a => if k.any a.same then k else k ++ [a]) k).IsSet from
    hgo as [] List.nodup_nil
  intro as
  induction as with
  | nil => exact fun k hk => hk
  | cons a as ih =>
    intro k hk
    refine ih _ ?_
    show Key.IsSet (if k.any a.same then k else k ++ [a])
    split
    · exact hk
    · next hnew =>
      rw [any_same_iff] at hnew
      rw [IsSet, List.map_append, List.nodup_append']
      refine ⟨hk, List.nodup_singleton _, ?_⟩
      intro c hc hc'
      rw [List.map_singleton, List.mem_singleton] at hc'
      exact hnew (hc' ▸ hc)

end Key

end LedgerSync.Matching
