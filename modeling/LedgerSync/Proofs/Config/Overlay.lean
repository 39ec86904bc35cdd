import LedgerSync.Config.Merge
import Mathlib.Data.List.Pairwise

/-!
# Values laid over values

What a map says is what it holds under its keys, and under theirs in turn: at
every path of keys (`Value.at?`). Under one key, an upper map that holds a value
there lays it over the value of the lower one, and an upper map that does not
leaves the lower one as it is (`Value.child?_laidOver`). All that the merging of
maps keeps and replaces follows from this along the path, whether the two sides
agree on where there are maps or not, and so does that laying a map over the
result again changes nothing (`Value.laidOver_laidOver`).

No key may occur twice in an upper map (`Value.WellKeyed`), which is what a map
is; nothing is asked of the lower one.
-/

namespace LedgerSync.Value

/-! ## Keys -/

/-- A value that can be a key: lists and maps cannot. -/
def IsKey : Value → Prop
  | .list _ | .map _ => False
  | _ => True

theorem isKey_asKey {a : Value} : a.asKey.IsKey ↔ a.IsKey := by
  cases a with
  | float d =>
    rw [asKey]
    cases d.integer? <;> exact Iff.rfl
  | _ => exact Iff.rfl

/-- A truth value is not its own form. -/
theorem asKey_ne_bool (a : Value) (b : Bool) : a.asKey ≠ .bool b := by
  cases a with
  | float d =>
    rw [asKey]
    cases d.integer? <;> exact nofun
  | _ => exact nofun

/-- Keys are one key when they have one form. -/
theorem sameKey_iff {a b : Value} :
    a.sameKey b = true ↔ a.IsKey ∧ a.asKey = b.asKey := by
  rw [← isKey_asKey, sameKey]
  have hbool := asKey_ne_bool a
  cases ha : a.asKey with
  | bool c => exact absurd ha (hbool c)
  | _ => cases b.asKey <;> simp [IsKey]

variable {a b c : Value}

theorem sameKey_self (h : a.IsKey) : a.sameKey a = true :=
  sameKey_iff.2 ⟨h, rfl⟩

theorem sameKey_symm (h : a.sameKey b = true) : b.sameKey a = true := by
  obtain ⟨ha, heq⟩ := sameKey_iff.1 h
  exact sameKey_iff.2 ⟨isKey_asKey.1 (heq ▸ isKey_asKey.2 ha), heq.symm⟩

theorem sameKey_trans (hab : a.sameKey b = true) (hbc : b.sameKey c = true) :
    a.sameKey c = true := by
  obtain ⟨ha, heq⟩ := sameKey_iff.1 hab
  exact sameKey_iff.2 ⟨ha, heq.trans (sameKey_iff.1 hbc).2⟩

theorem sameKey_congr_left (h : a.sameKey b = true) (c : Value) :
    a.sameKey c = b.sameKey c :=
  Bool.eq_iff_iff.2 ⟨sameKey_trans (sameKey_symm h), sameKey_trans h⟩

theorem sameKey_congr_right (h : a.sameKey b = true) (c : Value) :
    c.sameKey a = c.sameKey b :=
  Bool.eq_iff_iff.2 ⟨fun hc => sameKey_trans hc h, fun hc =>
    sameKey_trans hc (sameKey_symm h)⟩

/-! ## Entries -/

section Entries

variable {es : List (Value × Value)} {k q v : Value}

/-- No two entries have one key. -/
def DistinctKeys (es : List (Value × Value)) : Prop :=
  es.Pairwise fun e e' => e.1.sameKey e'.1 = false

theorem lookup_congr (h : k.sameKey q = true) (es : List (Value × Value)) :
    lookup k es = lookup q es := by
  induction es with
  | nil => rfl
  | cons e es ih => rw [lookup, lookup, sameKey_congr_right h, ih]

theorem lookup_eq_none (h : ∀ e ∈ es, e.1.sameKey k = false) :
    lookup k es = none := by
  induction es with
  | nil => rfl
  | cons e es ih =>
    rw [lookup, if_neg (Bool.eq_false_iff.1 (h e List.mem_cons_self))]
    exact ih fun e' he' => h e' (List.mem_cons_of_mem e he')

/-- Where keys are distinct, every entry is found under its key. -/
theorem lookup_of_mem (hkeys : ∀ e ∈ es, e.1.IsKey)
    (hdistinct : DistinctKeys es) {e : Value × Value} (he : e ∈ es) :
    lookup e.1 es = some e.2 := by
  induction es with
  | nil => cases he
  | cons e' es ih =>
    obtain ⟨hfirst, hrest⟩ := List.pairwise_cons.1 hdistinct
    rw [lookup]
    rcases List.mem_cons.1 he with rfl | he
    · rw [if_pos (sameKey_self (hkeys e List.mem_cons_self))]
    · rw [if_neg (Bool.eq_false_iff.1 (hfirst e he))]
      exact ih (fun e hmem => hkeys e (List.mem_cons_of_mem e' hmem)) hrest he

/-- A value that is put under a key is found there, and nothing else changes. -/
theorem lookup_put (es : List (Value × Value)) (k v q : Value) :
    lookup q (put es k v) = if k.sameKey q then some v else lookup q es := by
  induction es with
  | nil => rfl
  | cons e es ih =>
    rw [put]
    by_cases hek : e.1.sameKey k = true
    · rw [if_pos hek, lookup, lookup, sameKey_congr_left hek]
      split <;> rfl
    · rw [if_neg hek, lookup, lookup, ih]
      by_cases heq : e.1.sameKey q = true
      · have hkq : ¬k.sameKey q = true :=
          fun hkq => hek (sameKey_trans heq (sameKey_symm hkq))
        rw [if_pos heq, if_pos heq, if_neg hkq]
      · rw [if_neg heq, if_neg heq]

/-- Putting what is already there changes nothing. -/
theorem put_eq_self (h : lookup k es = some v) : put es k v = es := by
  induction es with
  | nil => cases h
  | cons e es ih =>
    rw [lookup] at h
    rw [put]
    by_cases hek : e.1.sameKey k = true
    · rw [if_pos hek] at h ⊢
      rw [← Option.some.inj h]
    · rw [if_neg hek] at h ⊢
      rw [ih h]

end Entries

/-! ## Paths -/

/-- Whether a value is a map. -/
def IsMap : Value → Prop
  | .map _ => True
  | _ => False

/-- The value that a map holds under a key. -/
def child? : Value → Value → Option Value
  | .map es, key => lookup key es
  | _, _ => none

/-- The value at a path of keys. -/
def at? : Value → List Value → Option Value
  | v, [] => some v
  | v, k :: path => (v.child? k).bind fun w => w.at? path

/-- In every map on the way the keys are distinct, as keys of a map are. -/
inductive WellKeyed : Value → Prop
  | map {es : List (Value × Value)} (keys : ∀ e ∈ es, e.1.IsKey)
    (distinct : DistinctKeys es)
      (values : ∀ e ∈ es, WellKeyed e.2) : WellKeyed (.map es)
  | other {v : Value} (h : ¬v.IsMap) : WellKeyed v

theorem wellKeyed_of_lookup {es : List (Value × Value)} {k v : Value}
    (h : ∀ e ∈ es, WellKeyed e.2) (hv : lookup k es = some v) :
    WellKeyed v := by
  induction es with
  | nil => cases hv
  | cons e es ih =>
    rw [lookup] at hv
    split at hv
    · exact Option.some.inj hv ▸ h e List.mem_cons_self
    · exact ih (fun e' he' => h e' (List.mem_cons_of_mem e he')) hv

/-! ## Laying over -/

section LaidOver

variable {lower : Option Value} {v w : Value} {base es : List (Value × Value)}

theorem laidOver_of_not_isMap (h : ¬v.IsMap) (lower : Option Value) :
    laidOver lower v = v := by
  cases v with
  | map es => exact absurd trivial h
  | _ => rw [laidOver]; exact nofun

theorem laidOver_map (base es : List (Value × Value)) :
    laidOver (some (.map base)) (.map es) = .map (merge base es) := by
  rw [laidOver]

/-- A map over something else stands as it is. -/
theorem laidOver_of_lower (h : ∀ base, lower ≠ some (.map base)) :
    laidOver lower (.map es) = .map es := by
  rw [laidOver]
  exact h

theorem laidOver_none (v : Value) : laidOver none v = v := by
  cases v with
  | map es => exact laidOver_of_lower fun _ => nofun
  | _ =>
    refine laidOver_of_not_isMap ?_ none
    exact fun h => h

/-- A map gives a map. -/
theorem exists_laidOver_map (lower : Option Value) (es : List (Value × Value)) :
    ∃ ms, laidOver lower (.map es) = .map ms := by
  by_cases h : ∃ base, lower = some (.map base)
  · obtain ⟨base, rfl⟩ := h
    exact ⟨_, laidOver_map base es⟩
  · exact ⟨es, laidOver_of_lower fun base hbase => h ⟨base, hbase⟩⟩

/-- Under a key of the upper map stands its value, laid over the lower one. -/
theorem lookup_merge (hdistinct : DistinctKeys es) (base : List (Value × Value))
    (k : Value) : lookup k (merge base es) = match lookup k es with
      | some v => some (laidOver (lookup k base) v)
      | none => lookup k base := by
  induction es generalizing base with
  | nil => rw [merge, lookup]
  | cons e es ih =>
    obtain ⟨hfirst, hrest⟩ := List.pairwise_cons.1 hdistinct
    rw [merge, ih hrest, lookup_put, lookup]
    by_cases hek : e.1.sameKey k = true
    · have hnone : lookup k es = none :=
        lookup_congr hek es ▸ lookup_eq_none fun e' he' =>
          Bool.eq_false_iff.2 fun h => Bool.eq_false_iff.1 (hfirst e' he')
            (sameKey_symm h)
      rw [if_pos hek, if_pos hek, hnone, lookup_congr hek base]
    · rw [if_neg hek, if_neg hek]

/-- Entries that are already laid over change nothing. -/
theorem merge_eq_self
    (h : ∀ e ∈ es, ∃ w, lookup e.1 base = some w ∧ laidOver (some w) e.2 = w) :
    merge base es = base := by
  induction es with
  | nil => rw [merge]
  | cons e es ih =>
    obtain ⟨w, hw, hlaid⟩ := h e List.mem_cons_self
    rw [merge, hw, hlaid, put_eq_self hw]
    exact ih fun e' he' => h e' (List.mem_cons_of_mem e he')

/-- What the upper map holds under a key is laid over what the lower value holds
there; without a value in the upper map the lower one stands. -/
theorem child?_laidOver (hdistinct : DistinctKeys es) (lower : Option Value)
    (k : Value) : (laidOver lower (.map es)).child? k = match lookup k es with
      | some v => some (laidOver (lower.bind (·.child? k)) v)
      | none => lower.bind (·.child? k) := by
  by_cases h : ∃ base, lower = some (.map base)
  · obtain ⟨base, rfl⟩ := h
    rw [laidOver_map]
    exact lookup_merge hdistinct base k
  · have hlower : lower.bind (·.child? k) = none := by
      rcases lower with _ | u
      · rfl
      · cases u with
        | map base => exact absurd ⟨base, rfl⟩ h
        | _ => rfl
    rw [laidOver_of_lower fun base hbase => h ⟨base, hbase⟩, hlower]
    show lookup k es = _
    cases lookup k es with
    | none => rfl
    | some v => exact congrArg some (laidOver_none v).symm

/-- Laying a value over the result once more changes nothing. -/
theorem laidOver_laidOver (h : WellKeyed v) (lower : Option Value) :
    laidOver (some (laidOver lower v)) v = laidOver lower v := by
  induction h generalizing lower with
  | other h => rw [laidOver_of_not_isMap h, laidOver_of_not_isMap h]
  | @map es keys distinct _ ih =>
    obtain ⟨ms, hms⟩ := exists_laidOver_map lower es
    have hself : merge ms es = ms := by
      refine merge_eq_self fun e he => ?_
      have hchild := child?_laidOver distinct lower e.1
      rw [hms, lookup_of_mem keys distinct he] at hchild
      exact ⟨_, hchild, ih e he _⟩
    rw [hms, laidOver_map, hself]

/-- At a path that the upper value binds to anything but a map stands what it
binds there. -/
theorem at?_laidOver_of_bound {path : List Value} (h : WellKeyed v)
    (hw : v.at? path = some w) (hleaf : ¬w.IsMap) (lower : Option Value) :
    (laidOver lower v).at? path = some w := by
  induction path generalizing v lower with
  | nil =>
    obtain rfl := Option.some.inj hw
    rw [laidOver_of_not_isMap hleaf, at?]
  | cons k path ih =>
    rw [at?] at hw ⊢
    obtain ⟨u, hu, hpath⟩ := Option.bind_eq_some_iff.1 hw
    cases h with
    | other h => rw [laidOver_of_not_isMap h, hu, Option.bind_some, hpath]
    | @map es keys distinct values =>
      have hmem : lookup k es = some u := hu
      rw [child?_laidOver distinct, hmem]
      exact ih (wellKeyed_of_lookup values hmem) hpath _

/-- At a path that the upper value does not bind, and that passes through
nothing but maps of it, stands what the lower value binds there. -/
theorem at?_laidOver_of_unbound {path : List Value} (h : WellKeyed v)
    (hnone : v.at? path = none)
    (hmaps : ∀ p, p <+: path → p ≠ path → ∀ u, v.at? p = some u → u.IsMap)
    (lower : Option Value) :
    (laidOver lower v).at? path = lower.bind fun u => u.at? path := by
  induction path generalizing v lower with
  | nil => cases hnone
  | cons k path ih =>
    cases h with
    | other h => exact absurd (hmaps [] (List.nil_prefix) nofun v rfl) h
    | @map es keys distinct values =>
      have hsplit : (lower.bind fun u => u.at? (k :: path)) =
          (lower.bind (·.child? k)).bind fun u => u.at? path := by
        rw [Option.bind_assoc]
        rfl
      rw [hsplit, at?, child?_laidOver distinct]
      cases hk : lookup k es with
      | none => rfl
      | some u =>
        have hstep : ∀ p, (Value.map es).at? (k :: p) = u.at? p := by
          intro p
          rw [at?, child?, hk, Option.bind_some]
        refine ih (wellKeyed_of_lookup values hk) (hstep path ▸ hnone)
          (fun p hp hne => ?_) _
        rw [← hstep]
        exact hmaps (k :: p) ((List.prefix_cons_inj k).2 hp) fun heq =>
          hne (List.cons.inj heq).2

end LaidOver

/-- What merging keeps and replaces, for every map that is laid over another. An
empty map changes nothing, and the same map a second time changes nothing more.
At a path that the upper map binds to anything but a map stands its value; at
one that it does not bind, and that it does not cut off either, stands what the
lower map has there, if anything. -/
theorem merge_resolves {upper : List (Value × Value)}
    (h : WellKeyed (.map upper)) (base : List (Value × Value)) :
    merge base [] = base ∧
    merge (merge base upper) upper = merge base upper ∧
    (∀ path v, (Value.map upper).at? path = some v → ¬v.IsMap →
      (Value.map (merge base upper)).at? path = some v) ∧
    ∀ path, (Value.map upper).at? path = none →
      (∀ p, p <+: path → p ≠ path → ∀ v, (Value.map upper).at? p = some v →
        v.IsMap) →
      (Value.map (merge base upper)).at? path = (Value.map base).at? path := by
  simp only [← laidOver_map]
  refine ⟨by rw [merge], ?_, fun path v hv hleaf => at?_laidOver_of_bound h hv hleaf _,
    fun path hnone hmaps => at?_laidOver_of_unbound h hnone hmaps _⟩
  have hidem := laidOver_laidOver h (some (.map base))
  simp only [laidOver_map] at hidem
  exact Value.map.inj hidem

/-- A configuration with a section for syncs and one for input. -/
def Sample.lower : List (Value × Value) := [
  (.text "sync", .map [(.text "days", .integer 1)]),
  (.text "input", .map [(.text "delimiter", .text ","),
    (.text "encoding", .text "ascii")])]

/-- A configuration that has a number for the first section, one setting of the
second, and a section of its own. -/
def Sample.upper : List (Value × Value) := [
  (.text "sync", .integer 5),
  (.text "input", .map [(.text "delimiter", .text ";")]),
  (.text "extra", .map [(.text "sync", .map [])])]

theorem Sample.wellKeyed_upper : WellKeyed (.map Sample.upper) := by
  have hleaf : ∀ s, WellKeyed (.text s) := fun s => .other fun h => h
  have hempty : WellKeyed (.map []) := .map nofun .nil nofun
  refine .map ?_ ?_ ?_
  · simp [Sample.upper, IsKey]
  · unfold DistinctKeys
    decide
  · simp only [Sample.upper, List.forall_mem_cons]
    refine ⟨.other fun h => h, .map ?_ ?_ ?_, .map ?_ ?_ ?_, nofun⟩
    all_goals simp [IsKey, DistinctKeys, hleaf, hempty]

theorem upper_resolves :
    WellKeyed (.map Sample.upper) ∧
    merge Sample.lower [] = Sample.lower ∧
    merge (merge Sample.lower Sample.upper) Sample.upper =
      merge Sample.lower Sample.upper ∧
    (Value.map Sample.upper).at? [.text "input", .text "delimiter"] =
      some (.text ";") ∧
    (Value.map (merge Sample.lower Sample.upper)).at?
    [.text "input", .text "delimiter"] = some (.text ";") ∧
    (Value.map Sample.upper).at? [.text "input", .text "encoding"] = none ∧
    (Value.map (merge Sample.lower Sample.upper)).at?
    [.text "input", .text "encoding"] = some (.text "ascii") := by
  obtain ⟨hnil, hidem, hbound, hunbound⟩ :=
    merge_resolves Sample.wellKeyed_upper Sample.lower
  refine ⟨Sample.wellKeyed_upper, hnil, hidem, rfl, hbound _ _ rfl fun h =>
    h, rfl, ?_⟩
  refine (hunbound [.text "input", .text "encoding"] rfl fun p hp hne v hv =>
    ?_).trans rfl
  rcases List.prefix_cons_iff.1 hp with rfl | ⟨rest, rfl, hrest⟩
  · cases hv
    trivial
  · rcases List.prefix_cons_iff.1 hrest with rfl | ⟨last, rfl, hlast⟩
    · cases hv
      trivial
    · rw [List.prefix_nil.1 hlast] at hne
      exact absurd rfl hne

end LedgerSync.Value
