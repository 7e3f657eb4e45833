import QueryCriteria.Proofs.Group.Run

/-!
# Value slots follow the operator in effect

* `Edit.choosesOperator`, `Edit.changesValues` — the edits that choose an operator, and those that
  put values into a slot or empty it.
* `Group.InStep` — exactly the slots that the operator in effect reads are shown and required, and
  the others are blank.
* `Group.WellBuilt.sync_inStep` — `Group.sync` brings the slots in step, since there are as many as
  the operator in effect reads.
* `Group.perform_eq_sync` — an edit that chooses an operator ends by `Group.sync`, on every path
  that is not refused.
* `Group.slots_follow_operator` — the slots are in step after building and after every edit that
  chooses an operator, whatever came before; other edits leave the flags alone.
-/

namespace QueryCriteria

/-! ## Kinds of edits -/

/-- Whether an edit of a slot is about its values. -/
def SlotEdit.changesValues : SlotEdit → Bool
  | .values _ | .value _ | .clear => true
  | .visible _ | .required _ => false

namespace Edit

/-- Whether an edit chooses an operator, or shows or hides the choice. -/
def choosesOperator : Edit → Bool
  | .reset | .operator _ | .operatorVisible _ | .apply _ => true
  | .first _ | .second _ => false

/-- Whether an edit is about the values of a slot. -/
def changesValues : Edit → Bool
  | .first e | .second e => e.changesValues
  | _ => false

end Edit

/-! ## One slot -/

namespace Slot

@[simp] theorem sync_visible (s : Slot) (shown : Bool) : (s.sync shown).visible = shown := rfl
@[simp] theorem sync_required (s : Slot) (shown : Bool) : (s.sync shown).required = shown := rfl
@[simp] theorem sync_true_values (s : Slot) : (s.sync true).values = s.values := rfl

/-- A hidden slot is emptied unless it holds nulls only. -/
theorem isBlank_sync_false (s : Slot) : (s.sync false).isBlank = true := by
  unfold sync
  cases h : s.isBlank with
  | false => simp [isBlank, setVisible, setRequired, clear, setValues, Value.allNull]
  | true => simpa [h, isBlank, setVisible, setRequired] using h

theorem isBlank_of_sync_hidden {s : Slot} {shown : Bool} (h : (s.sync shown).visible = false) :
    (s.sync shown).isBlank = true := by
  cases shown with
  | false => exact s.isBlank_sync_false
  | true => cases h

theorem edit_flags {e : SlotEdit} (h : e.changesValues = true) (s : Slot) :
    (s.edit e).visible = s.visible ∧ (s.edit e).required = s.required := by
  cases e with
  | values | value | clear => exact ⟨rfl, rfl⟩
  | visible | required => cases h

end Slot

namespace Group

/-! ## The invariant of the slots -/

/-- The slots that the operator in effect reads are shown and required; the others are hidden and
blank, all of them where the selector is hidden. -/
structure InStep (g : Group) : Prop where
  first : ∀ s ∈ g.first,
    s.visible = decide (1 ≤ g.slotCount) ∧ s.required = decide (1 ≤ g.slotCount)
  second : ∀ s ∈ g.second,
    s.visible = decide (g.slotCount = 2) ∧ s.required = decide (g.slotCount = 2)
  shown : g.slots.countP (·.visible) = g.slotCount
  hidden : ∀ s ∈ g.slots, s.visible = false → s.isBlank = true
  hiddenSelector : ∀ s ∈ g.selector, s.visible = false →
    ∀ t ∈ g.slots, t.visible = false ∧ t.isBlank = true

/-- The flags of the slots. -/
def flags (g : Group) : List (Bool × Bool) :=
  g.slots.map fun s => (s.visible, s.required)

theorem sync_first (g : Group) : g.sync.first = g.first.map (·.sync (0 < g.slotCount)) := rfl

theorem sync_second (g : Group) : g.sync.second = g.second.map (·.sync (1 < g.slotCount)) := rfl

theorem mem_slots {g : Group} {s : Slot} :
    s ∈ g.slots ↔ g.first = some s ∨ g.second = some s := by
  simp [slots]

theorem mem_slots_sync {g : Group} {s : Slot} (h : s ∈ g.sync.slots) :
    ∃ t shown, s = Slot.sync t shown := by
  rcases mem_slots.1 h with h | h
  · obtain ⟨t, -, rfl⟩ := Option.map_eq_some_iff.1 h
    exact ⟨t, _, rfl⟩
  · obtain ⟨t, -, rfl⟩ := Option.map_eq_some_iff.1 h
    exact ⟨t, _, rfl⟩

theorem slotCount_of_hidden {g : Group} {s : Selector} (hs : g.selector = some s)
    (hv : s.visible = false) : g.slotCount = 0 := by
  simp [slotCount, current, hs, Selector.effective, hv]

section Sync

variable {f : Field} {o : GroupOptions} {catalog : Catalog} {g : Group}

theorem WellBuilt.slots_cases (h : WellBuilt f o catalog g) :
    (g.first = none ∧ g.second = none) ∨ (∃ a, g.first = some a ∧ g.second = none) ∨
      ∃ a b, g.first = some a ∧ g.second = some b := by
  have hfirst := h.first_of_second
  cases hs : g.second with
  | none =>
    cases hf : g.first with
    | none => exact Or.inl ⟨rfl, rfl⟩
    | some a => exact Or.inr (Or.inl ⟨a, rfl, rfl⟩)
  | some b =>
    obtain ⟨a, ha⟩ := Option.isSome_iff_exists.1 (hfirst (by rw [hs]; rfl))
    exact Or.inr (Or.inr ⟨a, b, ha, rfl⟩)

/-- The count of shown slots is what the operator reads, because that many slots exist. -/
theorem WellBuilt.countP_visible_sync (h : WellBuilt f o catalog g) :
    g.sync.slots.countP (·.visible) = g.slotCount := by
  have hle := h.slotCount_le
  unfold slots at hle ⊢
  rw [sync_first, sync_second]
  rcases h.slots_cases with ⟨hf, hs⟩ | ⟨a, hf, hs⟩ | ⟨a, b, hf, hs⟩
  · simp [hf, hs] at hle ⊢
    omega
  · simp [hf, hs, List.countP_cons] at hle ⊢
    split <;> omega
  · simp [hf, hs, List.countP_cons] at hle ⊢
    split <;> split <;> omega

/-- **Synchronising brings the slots in step.** -/
theorem WellBuilt.sync_inStep (h : WellBuilt f o catalog g) : g.sync.InStep := by
  have hblank : ∀ s ∈ g.sync.slots, s.visible = false → s.isBlank = true := by
    intro s hs hv
    obtain ⟨t, shown, rfl⟩ := mem_slots_sync hs
    exact Slot.isBlank_of_sync_hidden hv
  refine ⟨?_, ?_, h.countP_visible_sync, hblank, ?_⟩
  · intro s hs
    obtain ⟨t, -, rfl⟩ := Option.map_eq_some_iff.1 hs
    exact ⟨rfl, rfl⟩
  · intro s hs
    obtain ⟨t, -, rfl⟩ := Option.map_eq_some_iff.1 hs
    have hlen : g.slots.length ≤ 2 := by
      simp only [slots, List.length_append]
      cases g.first <;> cases g.second <;> simp
    have hle := h.slotCount_le
    have hiff : decide (1 < g.slotCount) = decide (g.slotCount = 2) := by
      rw [decide_eq_decide]
      omega
    rw [sync_slotCount, ← hiff]
    exact ⟨rfl, rfl⟩
  · intro s hs hv t ht
    have hzero : g.slotCount = 0 := slotCount_of_hidden hs hv
    have hhidden : t.visible = false := by
      rcases mem_slots.1 ht with ht | ht
      · obtain ⟨u, -, rfl⟩ := Option.map_eq_some_iff.1 ht
        simp [hzero]
      · obtain ⟨u, -, rfl⟩ := Option.map_eq_some_iff.1 ht
        simp [hzero]
    exact ⟨hhidden, hblank t ht hhidden⟩

end Sync

/-! ## Edits -/

/-- **A refused edit leaves the group as it was.** -/
theorem perform_of_refusal {g : Group} {e : Edit} (h : (g.perform e).refusal ≠ none) :
    (g.perform e).group = g := by
  cases e with
  | operator name =>
    simp only [perform] at h ⊢
    rcases g.setOperator_cases name with ⟨e, he⟩ | ⟨s, s', -, -, he⟩
    · rw [he]
    · exact absurd (by rw [he]) h
  | apply c =>
    simp only [perform] at h ⊢
    rcases g.apply_cases c with ⟨e, he⟩ | ⟨x, -, -, he⟩
    · rw [he]
    · exact absurd (by rw [he]) h
  | reset | operatorVisible | first | second => exact absurd rfl h

/-- An accepted edit that chooses an operator ends by synchronising the slots. -/
theorem perform_eq_sync {g : Group} {e : Edit} (hc : e.choosesOperator = true)
    (hr : (g.perform e).refusal = none) : ∃ g' : Group, (g.perform e).group = g'.sync := by
  cases e with
  | reset => exact ⟨_, rfl⟩
  | operatorVisible b => exact ⟨_, rfl⟩
  | operator name =>
    simp only [perform] at hr ⊢
    rcases g.setOperator_cases name with ⟨e, he⟩ | ⟨s, s', -, -, he⟩
    · rw [he] at hr; cases hr
    · exact ⟨_, congrArg Edited.group he⟩
  | apply c =>
    simp only [perform] at hr ⊢
    rcases g.apply_cases c with ⟨e, he⟩ | ⟨x, -, -, he⟩
    · rw [he] at hr; cases hr
    · exact ⟨_, congrArg Edited.group he⟩
  | first | second => cases hc

theorem perform_flags {g : Group} {e : Edit} (h : e.changesValues = true) :
    (g.perform e).group.flags = g.flags := by
  cases e with
  | first e =>
    unfold flags slots perform
    cases hf : g.first with
    | none => simp
    | some s => simp [Slot.edit_flags h]
  | second e =>
    unfold flags slots perform
    cases hs : g.second with
    | none => simp
    | some s => simp [Slot.edit_flags h]
  | reset | operator | operatorVisible | apply => cases h

theorem WellBuilt.inStep_perform {f : Field} {o : GroupOptions} {catalog : Catalog} {g : Group}
    {e : Edit} (h : WellBuilt f o catalog g) (hc : e.choosesOperator = true)
    (hr : (g.perform e).refusal = none) : (g.perform e).group.InStep := by
  obtain ⟨g', hg'⟩ := perform_eq_sync hc hr
  have hwell : WellBuilt f o catalog g'.sync := hg' ▸ h.perform e
  rw [hg']
  exact (hwell.of_pristine g'.pristine_sync.symm rfl).sync_inStep

/-- **The slots follow the operator in effect**: they are in step after building, and after any
edits, of values or flags or refused ones among them, every accepted edit that chooses an operator
brings them in step again.  An edit of values keeps the flags, and a refused edit keeps the whole
group. -/
theorem slots_follow_operator (f : Field) (o : GroupOptions) (catalog : Catalog)
    (edits : List Edit) (e : Edit) :
    let g := (build f o catalog).run edits
    (build f o catalog).InStep ∧
      (e.choosesOperator = true → (g.perform e).refusal = none → (g.perform e).group.InStep) ∧
      (e.changesValues = true → (g.perform e).group.flags = g.flags) ∧
      ((g.perform e).refusal ≠ none → (g.perform e).group = g) := by
  intro g
  have hg : WellBuilt f o catalog g := wellBuilt_run f o catalog edits
  have hbuild : (build f o catalog).InStep :=
    WellBuilt.inStep_perform (e := .reset) WellBuilt.initial rfl rfl
  exact ⟨hbuild, hg.inStep_perform, perform_flags, perform_of_refusal⟩

/-- A whole number between two others: a smaller choice hides the second slot, clearing the first
keeps it shown, and an operator for texts is refused. -/
theorem slots_follow_operator_between :
    let f : Field := ⟨"age", "Age", .int, false⟩
    let g := (build f {} .standard).run
      [.operator (some "Between"), .first (.value (.int 18)), .second (.value (.int 65))]
    (g.perform (.operator (some "LT"))).group.InStep ∧
      (g.perform (.first .clear)).group.flags = [(true, true), (true, true)] ∧
      (g.perform (.operator (some "Contains"))).group = g := by
  intro f g
  have follow := slots_follow_operator f {} .standard
    [.operator (some "Between"), .first (.value (.int 18)), .second (.value (.int 65))]
  refine ⟨(follow _).2.1 rfl (by decide +kernel), ?_, (follow _).2.2.2 (by decide +kernel)⟩
  exact ((follow (.first .clear)).2.2.1 rfl).trans (by decide +kernel)

end Group

end QueryCriteria
