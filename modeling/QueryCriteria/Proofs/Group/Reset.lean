import QueryCriteria.Proofs.Group.Record

/-!
# Resetting a group

A reset writes over the selection, the values and the flags.  What it puts there comes from the part
of the group that no edit changes, and from whether the selector is shown, which it leaves alone.

* `Slot.sync_of_empty` — what showing or hiding an empty slot leaves of it.
* `Group.sync_eq_sync` — groups without values that differ in the flags of their slots only are the
  same once they are brought in step.
* `Group.resetSelector_pristine`, `Group.defaultOperator_pristine` — the operator that a reset
  selects does not depend on the edits before it.
* `Group.WellBuilt.reset_eq` — a group that edits lead to is reset to the group as it was built,
  with its selector shown or hidden as it is.
* `Group.reset_returns_to_built` — so it is after every run, and a second reset changes nothing.
-/

namespace QueryCriteria

theorem Slot.sync_of_empty {s : Slot} (h : s.values = []) (shown : Bool) :
    s.sync shown = { s.pristine with visible := shown, required := shown } := by
  have hblank : s.isBlank = true := by simp [isBlank, h, Value.allNull]
  simp [sync, hblank, setVisible, setRequired, pristine, new, h]

namespace Group

/-! ## Groups without values -/

/-- Every slot of the group is empty. -/
def Emptied (g : Group) : Prop :=
  ∀ s ∈ g.slots, s.values = []

theorem emptied_clear (g : Group) : g.clear.Emptied := by
  intro s hs
  rcases mem_slots.1 hs with hs | hs
  · obtain ⟨t, -, rfl⟩ := Option.map_eq_some_iff.1 hs
    rfl
  · obtain ⟨t, -, rfl⟩ := Option.map_eq_some_iff.1 hs
    rfl

theorem Emptied.sync {g : Group} (h : g.Emptied) : g.sync.Emptied := by
  intro s hs
  rcases mem_slots.1 hs with hs | hs
  · obtain ⟨t, ht, rfl⟩ := Option.map_eq_some_iff.1 hs
    rw [Slot.sync_of_empty (h t (mem_slots.2 (Or.inl ht)))]
    rfl
  · obtain ⟨t, ht, rfl⟩ := Option.map_eq_some_iff.1 hs
    rw [Slot.sync_of_empty (h t (mem_slots.2 (Or.inr ht)))]
    rfl

theorem emptied_reset (g : Group) : g.reset.Emptied :=
  Emptied.sync (g := { g.clear with selector := g.selector.map (resetSelector g.defaultOperator) })
    g.emptied_clear

theorem map_sync_of_empty {a b : Option Slot} (ha : ∀ s ∈ a, s.values = [])
    (hb : ∀ s ∈ b, s.values = []) (h : a.map (·.pristine) = b.map (·.pristine)) (shown : Bool) :
    a.map (·.sync shown) = b.map (·.sync shown) := by
  have hpristine : ∀ c : Option Slot, (∀ s ∈ c, s.values = []) →
      c.map (·.sync shown) =
        (c.map (·.pristine)).map fun s => { s with visible := shown, required := shown } := by
    intro c hc
    cases c with
    | none => rfl
    | some s => exact congrArg some (Slot.sync_of_empty (hc s rfl) shown)
  rw [hpristine a ha, hpristine b hb, h]

/-- **Groups without values are brought in step alike**, if they differ only in the flags of their
slots. -/
theorem sync_eq_sync {g h : Group} (hg : g.Emptied) (hh : h.Emptied)
    (hp : g.sync.pristine = h.sync.pristine) (hs : g.selector = h.selector) :
    g.sync = h.sync := by
  rw [pristine_sync, pristine_sync] at hp
  have himplied : g.pristine.implied = h.pristine.implied := congrArg Group.implied hp
  have hcount : g.slotCount = h.slotCount := by
    unfold slotCount current
    rw [hs, show g.implied = h.implied from himplied]
  have hfirst : g.sync.first = h.sync.first := by
    rw [sync_first, sync_first, hcount]
    exact map_sync_of_empty (fun s hmem => hg s (mem_slots.2 (Or.inl hmem)))
      (fun s hmem => hh s (mem_slots.2 (Or.inl hmem))) (congrArg Group.first hp) _
  have hsecond : g.sync.second = h.sync.second := by
    rw [sync_second, sync_second, hcount]
    exact map_sync_of_empty (fun s hmem => hg s (mem_slots.2 (Or.inr hmem)))
      (fun s hmem => hh s (mem_slots.2 (Or.inr hmem))) (congrArg Group.second hp) _
  calc g.sync
      = { g.pristine with
          selector := g.selector, first := g.sync.first, second := g.sync.second } := rfl
    _ = { h.pristine with
          selector := h.selector, first := h.sync.first, second := h.sync.second } := by
        rw [hp, hs, hfirst, hsecond]
    _ = h.sync := rfl

/-! ## The operator selected -/

theorem resetSelector_pristine (name : Option String) (s : Selector) :
    resetSelector name s = (resetSelector name s.pristine).setVisible s.visible := by
  cases name with
  | none => rfl
  | some name =>
    have hposition : s.pristine.position? name = s.position? name := rfl
    simp only [resetSelector, Selector.select?, hposition]
    cases s.position? name <;> rfl

theorem visible_resetSelector (name : Option String) (s : Selector) :
    (resetSelector name s).visible = s.visible := by
  rw [resetSelector_pristine]
  rfl

theorem defaultOperator_pristine (g : Group) : g.pristine.defaultOperator = g.defaultOperator := by
  obtain ⟨field, selector, implied, first, second, preferred, nullCheck⟩ := g
  cases first <;> rfl

/-! ## The group as it was built -/

section Built

variable {f : Field} {o : GroupOptions} {catalog : Catalog} {g : Group}

theorem WellBuilt.selector_reset (h : WellBuilt f o catalog g) {v : Bool}
    (hv : ∀ s ∈ g.selector, s.visible = v) :
    g.reset.selector = ((build f o catalog).setOperatorVisible v).selector := by
  have hselector : (Group.initial f o catalog).selector = g.selector.map (·.pristine) := by
    rw [← h.pristine]
    rfl
  have hdefault : (Group.initial f o catalog).defaultOperator = g.defaultOperator := by
    rw [← h.pristine, defaultOperator_pristine]
  show g.selector.map (resetSelector g.defaultOperator) =
    ((Group.initial f o catalog).selector.map
      (resetSelector (Group.initial f o catalog).defaultOperator)).map (Selector.setVisible · v)
  rw [hselector, hdefault]
  cases hs : g.selector with
  | none => rfl
  | some s =>
    obtain rfl : s.visible = v := hv s hs
    exact congrArg some (resetSelector_pristine _ s)

/-- **A reset leads back to the group as it was built**, its selector shown or hidden as it is. -/
theorem WellBuilt.reset_eq (h : WellBuilt f o catalog g) {v : Bool}
    (hv : ∀ s ∈ g.selector, s.visible = v) :
    g.reset = (build f o catalog).setOperatorVisible v := by
  have hbuilt : WellBuilt f o catalog (build f o catalog) := WellBuilt.initial.reset
  -- Both sides bring a group without values in step.
  refine sync_eq_sync g.emptied_clear (emptied_reset (Group.initial f o catalog)) ?_
    (h.selector_reset hv)
  exact h.reset.pristine.trans (hbuilt.setOperatorVisible v).pristine.symm

/-- **A reset returns to the group as it was built.**  After any edits, of values and flags among
them, a reset gives the very group that was built from the field, the options and the catalog, with
the selector shown or hidden as it was before the reset; so a second reset changes nothing. -/
theorem reset_returns_to_built (f : Field) (o : GroupOptions) (catalog : Catalog)
    (edits : List Edit) :
    let g := (build f o catalog).run edits
    (∀ v, (∀ s ∈ g.selector, s.visible = v) →
        g.reset = (build f o catalog).setOperatorVisible v) ∧
      g.reset.reset = g.reset := by
  intro g
  have hg : WellBuilt f o catalog g := wellBuilt_run f o catalog edits
  refine ⟨fun v hv => hg.reset_eq hv, ?_⟩
  obtain ⟨v, hv⟩ : ∃ v, ∀ s ∈ g.selector, s.visible = v := by
    cases g.selector with
    | none => exact ⟨true, fun s hs => nomatch hs⟩
    | some s => exact ⟨s.visible, fun t ht => by cases ht; rfl⟩
  have hv' : ∀ s ∈ g.reset.selector, s.visible = v := by
    intro s hs
    obtain ⟨t, ht, rfl⟩ := Option.map_eq_some_iff.1 hs
    rw [visible_resetSelector, hv t ht]
  rw [hg.reset.reset_eq hv', hg.reset_eq hv]

/-- A bound under `LT`, the selector then hidden, and a slot filled and shown behind it: a reset
gives the group as it was built, with its selector hidden and the preferred operator selected. -/
theorem hidden_bound_is_reset :
    let f : Field := ⟨"age", "Age", .int, false⟩
    let o : GroupOptions := { preferred := some "bw" }
    let g := (build f o .standard).run
      [.operator (some "LT"), .first (.values [.int 18, .null]), .operatorVisible false,
        .second (.value (.int 65)), .second (.visible true), .first (.required true)]
    g.reset = (build f o .standard).setOperatorVisible false ∧ g.reset.reset = g.reset ∧
      g.reset.chosen.map (·.name) = some "Between" := by
  intro f o g
  obtain ⟨hbuilt, htwice⟩ := reset_returns_to_built f o .standard
    [.operator (some "LT"), .first (.values [.int 18, .null]), .operatorVisible false,
      .second (.value (.int 65)), .second (.visible true), .first (.required true)]
  have hhidden : ∀ s ∈ g.selector, s.visible = false := by decide +kernel
  exact ⟨hbuilt false hhidden, htwice, by decide +kernel⟩

end Built

end Group

end QueryCriteria
