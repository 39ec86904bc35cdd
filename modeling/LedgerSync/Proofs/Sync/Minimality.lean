import LedgerSync.Proofs.Sync.OwnSlots

/-!
# What happens to a row that is still reported unchanged

Records are matched one after the other, and each takes a member out of reach of
the later ones. A row that some member repeats is left alone if it gets that
member. There are two ways to lose it, and no others
(`reconcile_keeps_unchanged`): an earlier record may take the member, because it
may serve that record too (`Reported.MayServe`), or the row itself takes a
member that stands before its own in the batch and resembles the row
(`Reported.Resembles`).

As long as no record takes the own slot of the row it stays live
(`Progress.Decides.live_or_taken`), and a slot that is live when the row comes
up is its counterpart unless an earlier one resembles the row.
-/

namespace LedgerSync

open Run

/-- What a transaction and a record have in common when one is taken for the
other: a usable external id, or date and amount with a status that fits. -/
def Reported.MayServe (t : Reported) (s : Stored) : Prop :=
  (Index.isUsableId s.externalId = true ∧ t.externalId = s.externalId) ∨
    (t.date = s.date ∧ t.cents = s.cents ∧
      ¬(s.status = .booked ∧ t.status = .pending))

namespace Heuristic

variable {x : Index} {s : Stored} {m : Member Reported} {now : DateTime}
  {p p' : Progress}

theorem fits_of_attributeCandidates {sameCents : List (Member Reported)}
    (h : m ∈ attributeCandidates s sameCents) :
    m ∈ sameCents ∧ m.record.date = s.date ∧
      ¬(s.status = .booked ∧ m.record.status = .pending) := by
  have hsub : attributeCandidates s sameCents ⊆ sameCents.filter fun m =>
      m.record.date == s.date &&
        !(s.status == .booked && m.record.status == .pending) := by
    unfold attributeCandidates
    dsimp only
    split
    · exact List.nil_subset _
    · next heq => exact heq ▸ List.Subset.refl _
    · exact List.filter_subset_self _
  obtain ⟨hm, hfits⟩ := List.mem_filter.1 (hsub h)
  obtain ⟨hdate, hstatus⟩ : m.record.date = s.date ∧
      (¬s.status = .booked ∨ ¬m.record.status = .pending) := by
      simpa using hfits
  exact ⟨hm, hdate, not_and_or.2 hstatus⟩

/-- A counterpart is live and may serve the record. -/
theorem serves_of_counterpart {found : Found} (hx : x.WellFormed)
    (h : counterpart x s = .ok (some (found, m))) :
    m ∈ x.members ∧ m.record.MayServe s := by
  rw [x.members_eq]
  unfold counterpart at h
  split at h
  · obtain ⟨cents, hcents, h⟩ := bind_eq_ok_iff.1 h
    have hmem : m ∈ attributeCandidates s (x.withCents cents) := by
      split at h
      · cases h
      · next heq =>
        cases h
        exact heq ▸ List.mem_cons_self
      · next heq =>
        cases h
        exact heq ▸ List.mem_cons_self
    obtain ⟨hm, hdate, hstatus⟩ := fits_of_attributeCandidates hmem
    rw [hx.withCents_eq] at hm
    obtain ⟨e, he, rfl⟩ := List.mem_map.1 hm
    obtain ⟨he, hamount⟩ := List.mem_filter.1 he
    refine ⟨List.mem_map_of_mem he, Or.inr ⟨hdate, ?_, hstatus⟩⟩
    rw [hx.computed_of_live he, hcents, of_decide_eq_true hamount]
  · next hne =>
    obtain ⟨choice, hchoice, h⟩ := bind_eq_ok_iff.1 h
    obtain ⟨m', rfl, heq⟩ := Option.map_eq_some_iff.1 (pure_eq_ok_iff.1 h).symm
    cases heq
    have hm := mem_of_amongSameId hchoice
    by_cases hid : Index.isUsableId s.externalId = true
    · rw [hx.withExternalId_eq hid] at hm
      obtain ⟨e, he, rfl⟩ := List.mem_map.1 hm
      obtain ⟨he, hsame⟩ := List.mem_filter.1 he
      exact ⟨List.mem_map_of_mem he, Or.inl ⟨hid, of_decide_eq_true hsame⟩⟩
    · rw [Index.withExternalId, if_neg hid] at hm
      cases hm

/-! ## One step -/

/-- A step keeps the index well formed, over the same slots. -/
theorem Progress.Decides.wellFormed {e : Planned} (h : p.Decides e p')
    (hx : p.index.WellFormed) :
    p'.index.WellFormed ∧ p'.index.arena = p.index.arena := by
  obtain ⟨choice, hchoice, hmember⟩ := h.chosen
  cases choice with
  | none => 
    rw [h.untouched hmember]
    exact ⟨hx, rfl⟩
  | some c =>
    obtain ⟨found, m⟩ := c
    obtain ⟨hlive, -⟩ := serves_of_counterpart hx hchoice
    obtain ⟨x', _, _, _, hremove, hwell, harena, -⟩ := hx.remove_of_mem hlive
    obtain ⟨-, hremove'⟩ := h.taken m hmember
    obtain rfl := Except.ok.inj (hremove.symm.trans hremove')
    exact ⟨hwell, harena⟩

/-- A slot that is live stays live, unless the step takes its member for a
record that it may serve. -/
theorem Progress.Decides.live_or_taken {e : Planned} (h : p.Decides e p')
    (hx : p.index.WellFormed)
    (hcoherent : Member.Coherent (p.index.arena.map (·.member))) {own : Slot}
    (hown : own ∈ p.index.liveSlots) :
    own ∈ p'.index.liveSlots ∨
      e.fate.member? = some own.member ∧
      own.member.record.MayServe e.row.record := by
  obtain ⟨choice, hchoice, hmember⟩ := h.chosen
  cases choice with
  | none =>
    rw [h.untouched hmember]
    exact Or.inl hown
  | some c =>
    obtain ⟨found, m⟩ := c
    obtain ⟨hlive, hserves⟩ := serves_of_counterpart hx hchoice
    obtain ⟨x', before, gone, after, hremove, -, -, hslots, hkey, hleft⟩ :=
      hx.remove_of_mem hlive
    obtain ⟨hm, hremove'⟩ := h.taken m hmember
    obtain rfl := Except.ok.inj (hremove.symm.trans hremove')
    have hsub := p.index.liveSlots_sublist.subset
    rw [hslots, List.mem_append, List.mem_cons] at hown
    rcases hown with hown | rfl | hown
    · exact Or.inl (hleft ▸ List.mem_append_left _ hown)
    · -- the slot that is gone has the key of the counterpart, so it holds the
      -- counterpart
      have hgone : own ∈ p.index.arena := by
        refine hsub ?_
        rw [hslots]
        exact List.mem_append_right _ List.mem_cons_self
      obtain rfl : own.member = m :=
        hcoherent _ (List.mem_map_of_mem hgone) _ hm hkey
      exact Or.inr ⟨hmember, hserves⟩
    · exact Or.inl (hleft ▸ List.mem_append_right _ hown)

/-- A member that is taken and not ignored is written under the id of the
record. -/
theorem Progress.Decides.rewritten {e : Planned} (h : p.Decides e p')
    {m : Member Reported} (hm : e.fate.member? = some m)
    (hnot : ¬e.row.record.Repeats m.record) :
    (⟨m, e.row.record.id, .regular⟩ : Assigned) ∈ p'.toReinsert ++
      p'.toUpdate := by
  have hassigned : e.assigned? = some ⟨m, e.row.record.id, .regular⟩ := by
    rw [Planned.assigned?, hm]
    rfl
  rw [List.mem_append, h.toReinsert, h.toUpdate, List.mem_append,
    List.mem_append, Plan.mem_select, Plan.mem_select]
  have hsuits := h.suits
  rcases e with ⟨row, _ | m' | ⟨m', b⟩ | m'⟩
  · cases hm
  · cases hm
    exact (hnot hsuits).elim
  · exact Or.inr (Or.inr ⟨_, List.mem_singleton_self _, rfl, hassigned⟩)
  · exact Or.inl (Or.inr ⟨_, List.mem_singleton_self _, rfl, hassigned⟩)

/-! ## A pass -/

/-- What a pass writes stays written. -/
theorem rewritten_mono {stored : List (Member Stored)}
    (h : stored.foldlM (step now) p = .ok p') :
    (p.toReinsert ++ p.toUpdate) ⊆ (p'.toReinsert ++ p'.toUpdate) ∧
    p.toIgnore ⊆ p'.toIgnore ∧
      ∀ r ∈ p'.toDelete, r ∈ p.toDelete ∨ r ∈ stored := by
  refine foldlM_ok_induction h (fun seen q =>
    (p.toReinsert ++ p.toUpdate) ⊆ (q.toReinsert ++ q.toUpdate) ∧
      p.toIgnore ⊆ q.toIgnore ∧
      ∀ r ∈ q.toDelete, r ∈ p.toDelete ∨ r ∈ seen) ?_ ?_
  · exact ⟨List.Subset.refl _, List.Subset.refl _, fun r hr => Or.inl hr⟩
  · rintro seen s q q' ⟨hwritten, hignored, hdeleted⟩ hstep
    obtain ⟨f, hdecides⟩ := step_decides hstep
    refine ⟨?_, ?_, ?_⟩
    · intro a ha
      rw [hdecides.toReinsert, hdecides.toUpdate]
      rcases List.mem_append.1 (hwritten ha) with ha | ha
      · exact List.mem_append_left _ (List.mem_append_left _ ha)
      · exact List.mem_append_right _ (List.mem_append_left _ ha)
    · intro a ha
      rw [hdecides.toIgnore]
      exact List.mem_append_left _ (hignored ha)
    · intro r hr
      rw [hdecides.toDelete, List.mem_append, Plan.mem_deletes] at hr
      rcases hr with hr | ⟨e, he, -, rfl⟩
      · rcases hdeleted r hr with hr | hr
        · exact Or.inl hr
        · exact Or.inr (List.mem_append_left _ hr)
      · rw [List.mem_singleton.1 he]
        exact Or.inr (List.mem_append_right _ List.mem_cons_self)

/-- A pass keeps the index well formed, over the same slots. -/
theorem wellFormed_of_pass {stored : List (Member Stored)}
    (h : stored.foldlM (step now) p = .ok p') (hx : p.index.WellFormed) :
    p'.index.WellFormed ∧ p'.index.arena = p.index.arena := by
  refine foldlM_ok_induction h (fun _ q => q.index.WellFormed ∧
    q.index.arena = p.index.arena)
    ⟨hx, rfl⟩ ?_
  rintro _ s q q' ⟨hq, harena⟩ hstep
  obtain ⟨f, hdecides⟩ := step_decides hstep
  obtain ⟨hq', harena'⟩ := hdecides.wellFormed hq
  exact ⟨hq', harena'.trans harena⟩

/-- During a pass the own slot of a row stays live, or an earlier record is
written for its member. -/
theorem live_or_taken {front : List (Member Stored)}
    (h : front.foldlM (step now) p = .ok p') (hx : p.index.WellFormed)
    (hcoherent : Member.Coherent (p.index.arena.map (·.member))) {own : Slot}
    (hown : own ∈ p.index.liveSlots)
    (hother : ∀ r ∈ front, ¬r.record.Repeats own.member.record) :
    own ∈ p'.index.liveSlots ∨ ∃ r ∈ front,
    own.member.record.MayServe r.record ∧
      (⟨own.member, r.record.id, .regular⟩ : Assigned) ∈ p'.toReinsert ++
        p'.toUpdate := by
  induction front generalizing p with
  | nil =>
    obtain rfl := pure_eq_ok_iff.1 h
    exact Or.inl hown
  | cons r front ih =>
    rw [List.foldlM_cons, bind_eq_ok_iff] at h
    obtain ⟨q, hstep, hrest⟩ := h
    obtain ⟨f, hdecides⟩ := step_decides hstep
    obtain ⟨hq, harena⟩ := hdecides.wellFormed hx
    rcases hdecides.live_or_taken hx hcoherent hown
      with hlive | ⟨hmember, hserves⟩
    · rcases ih hrest hq (harena ▸ hcoherent) hlive
        fun r' hr' => hother r' (List.mem_cons_of_mem _ hr')
        with hlive | ⟨r', hr', htaken⟩
      · exact Or.inl hlive
      · exact Or.inr ⟨r', List.mem_cons_of_mem _ hr', htaken⟩
    · have hwritten := hdecides.rewritten hmember (hother r List.mem_cons_self)
      exact Or.inr ⟨r, List.mem_cons_self, hserves,
        (rewritten_mono hrest).1 hwritten⟩

/-- When its own slot is live, a row is ignored for it, or written for a member
that stands before the own one and resembles the row. -/
theorem ignored_or_distracted {s : Member Stored} (h : step now p s = .ok p')
    (hx : p.index.WellFormed)
    (hcoherent : Member.Coherent (p.index.arena.map (·.member)))
    {ahead behind : List Slot} {own : Slot}
    (hlive : p.index.liveSlots = ahead ++ own :: behind)
    (hown : s.record.Repeats own.member.record)
    (hother : ∀ e ∈ ahead, ¬s.record.Repeats e.member.record) :
    (p'.toIgnore = p.toIgnore ++ [⟨own.member, s.record.id, .regular⟩] ∧
      p'.toDelete = p.toDelete) ∨
    ∃ e ∈ ahead, e.member.record.Resembles s.record ∧
      (⟨e.member, s.record.id, .regular⟩ : Assigned) ∈ p'.toReinsert ++
        p'.toUpdate := by
  by_cases hclear : ∀ e ∈ ahead, ¬e.member.record.Resembles s.record
  · obtain ⟨q, hstep, -, -, -, hdelete, -, -, hignore⟩ :=
      step_of_repeats now hx hcoherent hlive hown hclear
    obtain rfl := Except.ok.inj (hstep.symm.trans h)
    exact Or.inl ⟨hignore, hdelete⟩
  · push Not at hclear
    classical
    -- the first slot that resembles the row stands before the own one
    have hfirst : (ahead.find? fun e =>
        Decidable.decide (e.member.record.Resembles s.record)).isSome =
          true := by
      obtain ⟨e, he, hresembles⟩ := hclear
      exact List.find?_isSome.2 ⟨e, he, decide_eq_true hresembles⟩
    obtain ⟨e, he⟩ := Option.isSome_iff_exists.1 hfirst
    obtain ⟨hresembles, before, after, rfl, hbefore⟩ :=
      List.find?_eq_some_iff_append.1 he
    rw [decide_eq_true_iff] at hresembles
    rw [List.append_assoc, List.cons_append] at hlive
    obtain ⟨found, hchoice⟩ := counterpart_of_resembles hx hlive hresembles
      fun f hf => by simpa using hbefore f hf
    have hmem : e ∈ before ++ e :: after :=
      List.mem_append_right _ List.mem_cons_self
    obtain ⟨f, hdecides⟩ := step_decides h
    obtain ⟨choice, hchoice', hmember⟩ := hdecides.chosen
    obtain rfl := Except.ok.inj (hchoice.symm.trans hchoice')
    exact Or.inr ⟨e, hmem, hresembles,
      hdecides.rewritten hmember (hother e hmem)⟩

end Heuristic

/-- A part of a list that holds an element which the list has once. -/
theorem sublist_around {α : Type} {l ahead behind : List α} {a : α}
    (h : l.Sublist (ahead ++ a :: behind)) (ha : a ∈ l) (hahead : a ∉ ahead)
    (hbehind : a ∉ behind) :
    ∃ before after, l = before ++ a :: after ∧ before.Sublist ahead := by
  obtain ⟨before, rest, rfl, hbefore, hrest⟩ := List.sublist_append_iff.1 h
  cases hrest with
  | cons _ hrest =>
    rcases List.mem_append.1 ha with ha | ha
    · exact (hahead (hbefore.subset ha)).elim
    · exact (hbehind (hrest.subset ha)).elim
  | cons_cons _ hrest => exact ⟨before, _, rfl, hbefore⟩

section Reconcile

variable {newId : Nat → String} {now : DateTime} {provider : String}
  {i : Instruction} {j j' : Journal} {front back : List (Member Stored)}
  {s : Member Stored} {ahead behind : List (Member Reported)}
  {u : Member Reported}

/-- A row that one member of the batch repeats, and no other, is ignored under
its id if that member repeats no other row; unless an earlier row that the
member may serve is written for it, or the row itself is written for an earlier
member that resembles it. -/
theorem reconcile_keeps_unchanged
    (hids : ((front ++ s :: back).map (·.record.id)).Nodup)
    (hcoherent : Member.Coherent (ahead ++ u :: behind))
    (hown : s.record.Repeats u.record)
    (hmembers : ∀ m ∈ ahead ++ behind, ¬s.record.Repeats m.record)
    (hrows : ∀ r ∈ front ++ back, ¬r.record.Repeats u.record)
    (h : Returns (reconcileByIdAndAmount newId now provider (front ++ s :: back)
      (ahead ++ u :: behind)) j i j') :
    ((⟨u, s.record.id, .regular⟩ : Assigned) ∈ i.toIgnore ∧ s ∉ i.toDelete) ∨
    (∃ r ∈ front, u.record.MayServe r.record ∧
      (⟨u, r.record.id, .regular⟩ : Assigned) ∈ i.toUpsert) ∨
    ∃ m ∈ ahead, m.record.Resembles s.record ∧
      (⟨m, s.record.id, .regular⟩ : Assigned) ∈ i.toUpsert := by
  simp only [reconcileByIdAndAmount, returns_bind, returns_ofExcept,
    returns_pure, returns_log] at h
  obtain ⟨p, _, ⟨hdecide, rfl⟩, fresh, _, -, _, _, -, rfl, -⟩ := h
  obtain ⟨x, hx, hpass⟩ := bind_eq_ok_iff.1 hdecide
  obtain ⟨hwell, hlive, hbatch⟩ := Index.ofBatch_slots hx
  rw [List.foldlM_append, bind_eq_ok_iff] at hpass
  obtain ⟨p₁, hfront, hrest⟩ := hpass
  obtain ⟨hwell₁, harena₁⟩ := Heuristic.wellFormed_of_pass hfront hwell
  have hupsert : ∀ a : Assigned, a ∈ p.toReinsert ++ p.toUpdate →
      a ∈ (p.instruction fresh).toUpsert := by
    intro a ha
    rcases List.mem_append.1 ha with ha | ha
    · exact List.mem_append_left _ (List.mem_append_left _ ha)
    · exact List.mem_append_right _ ha
  -- the slots of the batch, with the own one among them once
  obtain ⟨slotsAhead, slots, harena, hahead, hslots⟩ :=
    List.map_eq_append_iff.1 hbatch
  obtain ⟨own, slotsBehind, rfl, rfl, hbehind⟩ := List.map_eq_cons_iff.1 hslots
  have hownLive : own ∈ x.liveSlots := by
    rw [hlive, harena]
    exact List.mem_append_right _ List.mem_cons_self
  have hnotAhead : own ∉ slotsAhead := fun hmem => hmembers own.member
    (List.mem_append_left _ (hahead ▸ List.mem_map_of_mem hmem)) hown
  have hnotBehind : own ∉ slotsBehind := fun hmem => hmembers own.member
    (List.mem_append_right _ (hbehind ▸ List.mem_map_of_mem hmem)) hown
  rcases Heuristic.live_or_taken hfront hwell (hbatch ▸ hcoherent) hownLive
    fun r hr => hrows r (List.mem_append_left _ hr) with hlive₁ | ⟨r, hr,
      hserves, hwritten⟩
  · have hsub : p₁.index.liveSlots.Sublist (slotsAhead ++ own ::
        slotsBehind) := by
      rw [← harena]
      exact harena₁ ▸ p₁.index.liveSlots_sublist
    obtain ⟨before, after, hsplit, hbefore⟩ :=
      sublist_around hsub hlive₁ hnotAhead hnotBehind
    have hmemAhead : ∀ e ∈ before, e.member ∈ ahead := fun e he =>
      hahead ▸ List.mem_map_of_mem (hbefore.subset he)
    rw [List.foldlM_cons, bind_eq_ok_iff] at hrest
    obtain ⟨p₂, hstep, hback⟩ := hrest
    obtain ⟨hwritten₂, hignored₂, hdeleted₂⟩ := Heuristic.rewritten_mono hback
    have hcoherent₁ : Member.Coherent (p₁.index.arena.map (·.member)) := by
      rw [harena₁]
      exact hbatch ▸ hcoherent
    rcases Heuristic.ignored_or_distracted hstep hwell₁ hcoherent₁ hsplit hown
      fun e he => hmembers _ (List.mem_append_left _ (hmemAhead e he)) with
      ⟨hignored, hdeleted⟩ | ⟨e, he, hresembles, hwritten⟩
    · refine Or.inl ⟨hignored₂ ?_, ?_⟩
      · rw [hignored]
        exact List.mem_append_right _ (List.mem_singleton_self _)
      · have hnew := (List.nodup_cons.1
            (List.nodup_middle.1 (List.Nodup.of_map _ hids))).1
        intro hgone
        rcases hdeleted₂ s hgone with hgone | hgone
        · rw [hdeleted] at hgone
          rcases (Heuristic.rewritten_mono hfront).2.2 s hgone
            with hgone | hgone
          · cases hgone
          · exact hnew (List.mem_append_left _ hgone)
        · exact hnew (List.mem_append_right _ hgone)
    · exact Or.inr (Or.inr ⟨e.member, hmemAhead e he, hresembles,
      hupsert _ (hwritten₂ hwritten)⟩)
  · exact Or.inr (Or.inl
      ⟨r, hr, hserves, hupsert _ ((Heuristic.rewritten_mono hrest).1 hwritten)⟩)

/-- A record shows the description of the transaction that it repeats. -/
theorem not_repeats_of_description {r : Stored} {t : Reported}
    (h : r.description ≠ t.description) :
    ¬r.Repeats t := fun hr => h hr.mirrors.description

/-- A payment that is reported unchanged. -/
def Sample.steady : Member Reported :=
  ⟨1, Sample.reported "x" "tea" (Sample.day 3)⟩

/-- The row of the payment. -/
def Sample.steadyRow : Member Stored :=
  ⟨1, Sample.stored "r2" "x" "tea" (Sample.day 3)⟩

theorem steadyRow_repeats :
    Sample.steadyRow.record.Repeats Sample.steady.record :=
  ⟨.regular, none, Sample.now,
    Sample.record "r2" Sample.steady.record, by decide +kernel,
    by decide +kernel⟩

/-- Another payment, which is listed first. -/
def Sample.otherPayment : Member Reported :=
  ⟨0, Sample.reported "y" "milk" (Sample.day 3)⟩

/-- A row of the other payment before its description changed. -/
def Sample.otherRow : Member Stored :=
  ⟨0, Sample.stored "r1" "y" "rye" (Sample.day 3)⟩

/-- The reconciliation of both rows with both payments. -/
def Sample.steadied : Run Instruction :=
  reconcileByIdAndAmount Sample.newId Sample.now "BANK" ([Sample.otherRow] ++
    Sample.steadyRow :: [])
    ([Sample.otherPayment] ++ Sample.steady :: [])

theorem steadied_keeps_unchanged :
    ∃ i j', Returns Sample.steadied .empty i j' ∧
      (((⟨Sample.steady, "r2", .regular⟩ : Assigned) ∈ i.toIgnore ∧
        Sample.steadyRow ∉ i.toDelete) ∨
      (∃ r ∈ [Sample.otherRow], Sample.steady.record.MayServe r.record ∧
        (⟨Sample.steady, r.record.id, .regular⟩ : Assigned) ∈ i.toUpsert) ∨
      ∃ m ∈ [Sample.otherPayment], m.record.Resembles Sample.steadyRow.record ∧
        (⟨m, "r2", .regular⟩ : Assigned) ∈ i.toUpsert) := by
  have hrun : (Sample.steadied.run.run .empty).1 =
      .ok ((Sample.steadied.run.run .empty).1.toOption.getD .empty) := by
      decide +kernel
  have hcoherent : Member.Coherent ([Sample.otherPayment] ++
      Sample.steady :: []) := by
    unfold Member.Coherent
    decide +kernel
  have hmembers : ∀ m ∈ [Sample.otherPayment] ++ [],
      ¬Sample.steadyRow.record.Repeats m.record := by
    intro m hm
    rw [List.append_nil, List.mem_singleton] at hm
    exact hm ▸ not_repeats_of_description (by decide)
  have hrows : ∀ r ∈ [Sample.otherRow] ++ [],
      ¬r.record.Repeats Sample.steady.record := by
    intro r hr
    rw [List.append_nil, List.mem_singleton] at hr
    exact hr ▸ not_repeats_of_description (by decide)
  exact ⟨_, _, returns_of_run hrun,
    reconcile_keeps_unchanged (by decide) hcoherent steadyRow_repeats
    hmembers hrows (returns_of_run hrun)⟩

/-- A row of the external id of the payment, and with another description. -/
def Sample.rivalRow : Member Stored :=
  ⟨0, Sample.stored "r1" "x" "rye" (Sample.day 3)⟩

/-- The reconciliation of this row and the row of the payment with the payment
alone. -/
def Sample.robbed : Run Instruction :=
  reconcileByIdAndAmount Sample.newId Sample.now "BANK" ([Sample.rivalRow] ++
    Sample.steadyRow :: [])
    ([] ++ Sample.steady :: [])

/-- A row that is reported unchanged is not always kept: an earlier row of its
external id takes the only transaction with that id, and the row is deleted. -/
theorem unchanged_not_always_kept :
    ¬ ∀ (newId : Nat → String) (now : DateTime) (provider : String)
      (front back : List (Member Stored)) (s : Member Stored)
        (ahead behind : List (Member Reported))
      (u : Member Reported) (i : Instruction) (j j' : Journal),
      ((front ++ s :: back).map (·.record.id)).Nodup →
      Member.Coherent (ahead ++ u :: behind) →
      s.record.Repeats u.record →
      (∀ m ∈ ahead ++ behind, ¬s.record.Repeats m.record) →
      (∀ r ∈ front ++ back, ¬r.record.Repeats u.record) →
      Returns (reconcileByIdAndAmount newId now provider (front ++ s :: back)
        (ahead ++ u :: behind)) j i j' →
      (⟨u, s.record.id, .regular⟩ : Assigned) ∈ i.toIgnore ∧
      s ∉ i.toDelete := by
  intro h
  have hrun : (Sample.robbed.run.run .empty).1 =
      .ok ((Sample.robbed.run.run .empty).1.toOption.getD .empty) := by
      decide +kernel
  have hcoherent : Member.Coherent ([] ++ Sample.steady :: []) := by
    unfold Member.Coherent
    decide +kernel
  have hrows : ∀ r ∈ [Sample.rivalRow] ++ [],
      ¬r.record.Repeats Sample.steady.record := by
    intro r hr
    rw [List.append_nil, List.mem_singleton] at hr
    exact hr ▸ not_repeats_of_description (by decide)
  have hkept := h _ _ _ _ _ _ _ _ _ _ _ _ (by decide) hcoherent
      steadyRow_repeats
    (fun _ hm => absurd hm List.not_mem_nil) hrows (returns_of_run hrun)
  have hdeleted : Sample.steadyRow ∈
      ((Sample.robbed.run.run .empty).1.toOption.getD .empty).toDelete := by
      decide +kernel
  exact hkept.2 hdeleted

end Reconcile

end LedgerSync
