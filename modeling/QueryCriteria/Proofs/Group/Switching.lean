import QueryCriteria.Proofs.Group.Dependents

/-!
# Switching operators

A switch moves the selection and then shows the slots that the operator in effect reads.  It writes
to nothing else, so it can lose values only where it hides them.

* `Slot.Switched`, `Group.Switched` — all that a switch may do to a slot and to a group.
* `Slot.switched_sync`, `Slot.sync_sync` — showing or hiding a slot is no more than that, and has
  nothing left to do the second time.
* `Group.switched_setOperator` — an accepted name is a switch to the operator that it means.
* `Group.switching_loses_only_hidden_values` — so it is for every group and name, and switching
  again in the same way changes nothing.
-/

namespace QueryCriteria

/-! ## One slot -/

namespace Slot

/-- What a switch may do to a slot: it is shown and required, or neither.  A slot that is shown
keeps its values, and so does a blank one; a hidden slot is blank. -/
structure Switched (shown : Bool) (s s' : Slot) : Prop where
  name : s'.name = s.name
  visible : s'.visible = shown
  required : s'.required = shown
  values : shown = true ∨ s.isBlank = true → s'.values = s.values
  hidden : shown = false → s'.isBlank = true

theorem sync_values (s : Slot) (shown : Bool) :
    (s.sync shown).values = if shown || s.isBlank then s.values else [] := by
  unfold sync
  cases shown <;> cases s.isBlank <;> rfl

theorem switched_sync (s : Slot) (shown : Bool) : Switched shown s (s.sync shown) := by
  have hname := congrArg Slot.name (s.pristine_sync shown)
  refine ⟨hname, rfl, rfl, ?_, ?_⟩
  · intro hkept
    rw [sync_values]
    rcases hkept with h | h <;> simp [h]
  · rintro rfl
    exact s.isBlank_sync_false

theorem sync_sync (s : Slot) (shown : Bool) : (s.sync shown).sync shown = s.sync shown := by
  have hkept : (!shown && !(s.sync shown).isBlank) = false := by
    cases shown with
    | true => rfl
    | false => simp [s.isBlank_sync_false]
  have hagain : (s.sync shown).sync shown =
      ((if !shown && !(s.sync shown).isBlank then (s.sync shown).clear
        else s.sync shown).setVisible shown).setRequired shown := rfl
  rw [hagain, hkept]
  rfl

end Slot

/-! ## The selection -/

theorem Selector.select?_select? {s s' : Selector} {name : Option String}
    (h : s.select? name = some s') : s'.select? name = some s' := by
  cases name with
  | none =>
    cases h
    rfl
  | some name =>
    obtain ⟨i, hi, rfl⟩ := select?_eq_some_iff.1 h
    exact select?_eq_some_iff.2 ⟨i, hi, rfl⟩

/-- A selection moves the selector to where the name leads, and changes nothing else of it. -/
theorem Selector.eq_of_select? {s s' : Selector} {name : Option String}
    (h : s.select? name = some s') : s' = { s with selected := name.bind s.position? } := by
  cases name with
  | none =>
    cases h
    rfl
  | some name =>
    obtain ⟨i, hi, rfl⟩ := select?_eq_some_iff.1 h
    rw [Option.bind_some, hi]

namespace Group

/-! ## The whole group -/

/-- What a switch to a name may do to a group: the selection moves to where the name leads, and the
slots are switched by what the operator then in effect reads.  All else stays. -/
structure Switched (name : Option String) (g g' : Group) : Prop where
  frame : ∃ s, g.selector = some s ∧ g' =
    { g with
      selector := some { s with selected := name.bind s.position? }
      first := g'.first
      second := g'.second }
  first : Option.Rel (Slot.Switched (0 < g'.slotCount)) g.first g'.first
  second : Option.Rel (Slot.Switched (1 < g'.slotCount)) g.second g'.second

theorem rel_map_sync (slot : Option Slot) (shown : Bool) :
    Option.Rel (Slot.Switched shown) slot (slot.map (·.sync shown)) := by
  cases slot with
  | none => exact .none
  | some s => exact .some (s.switched_sync shown)

theorem map_sync_sync (slot : Option Slot) (shown : Bool) :
    (slot.map (·.sync shown)).map (·.sync shown) = slot.map (·.sync shown) := by
  cases slot with
  | none => rfl
  | some s => exact congrArg some (s.sync_sync shown)

theorem sync_sync (g : Group) : g.sync.sync = g.sync := by
  have hfirst : g.sync.sync.first = g.sync.first := by
    rw [sync_first, sync_slotCount, sync_first, map_sync_sync]
  have hsecond : g.sync.sync.second = g.sync.second := by
    rw [sync_second, sync_slotCount, sync_second, map_sync_sync]
  calc g.sync.sync
      = { g.sync with first := g.sync.sync.first, second := g.sync.sync.second } := rfl
    _ = g.sync := by rw [hfirst, hsecond]

/-- **An accepted name is a switch** to the operator that it means. -/
theorem switched_setOperator {g : Group} {name : Option String}
    (h : (g.setOperator name).refusal = none) : Switched name g (g.setOperator name).group := by
  rcases g.setOperator_cases name with ⟨e, he⟩ | ⟨s, s', hs, hs', he⟩
  · rw [he] at h
    cases h
  · rw [he]
    refine ⟨⟨s, hs, ?_⟩, rel_map_sync _ _, rel_map_sync _ _⟩
    rw [← Selector.eq_of_select? hs']
    rfl

theorem setOperator_setOperator (g : Group) (name : Option String) :
    (g.setOperator name).group.setOperator name = g.setOperator name := by
  rcases g.setOperator_cases name with ⟨e, he⟩ | ⟨s, s', -, hs', he⟩
  · rw [he]
    exact he
  · rw [he]
    unfold setOperator
    simp only [sync_selector, Selector.select?_select? hs']
    exact congrArg (Edited.mk · none) (sync_sync { g with selector := some s' })

theorem setOperatorVisible_setOperatorVisible (g : Group) (b : Bool) :
    (g.setOperatorVisible b).setOperatorVisible b = g.setOperatorVisible b := by
  have hselector : (g.selector.map (Selector.setVisible · b)).map (Selector.setVisible · b) =
      g.selector.map (Selector.setVisible · b) := by
    cases g.selector <;> rfl
  unfold setOperatorVisible
  rw [sync_selector, hselector]
  exact sync_sync { g with selector := g.selector.map (Selector.setVisible · b) }

/-- **Switching loses only what it hides**, in any group, whatever edits led to it.  A name that is
accepted moves the selection to where the name leads.  The slots within the number that the operator
then in effect reads are shown and required, with the values they had; the others are hidden, and
there alone values are given up; nothing else changes.  Choosing the same name once more, or showing
or hiding the selector as it is already, changes nothing at all. -/
theorem switching_loses_only_hidden_values (g : Group) (name : Option String) (b : Bool) :
    ((g.setOperator name).refusal = none → Switched name g (g.setOperator name).group) ∧
      (g.setOperator name).group.setOperator name = g.setOperator name ∧
      (g.setOperatorVisible b).setOperatorVisible b = g.setOperatorVisible b := by
  refine ⟨switched_setOperator, ?_, ?_⟩
  · exact g.setOperator_setOperator name
  · exact g.setOperatorVisible_setOperatorVisible b

/-- From an interval to its lower end: several values in the first slot are kept, those in the
second given up.  Behind a hidden selector both are. -/
theorem lower_end_keeps_its_values :
    let f : Field := ⟨"age", "Age", .int, false⟩
    let g := (build f {} .standard).run [.operator (some "Between"),
      .first (.values [.null, .int 18]), .second (.value (.int 65))]
    let lower := (g.setOperator (some "ge")).group
    Switched (some "ge") g lower ∧
      lower.slots.map (·.values) = [[.null, .int 18], []] ∧
      lower.setOperator (some "ge") = ⟨lower, none⟩ ∧
      (g.setOperatorVisible false).slots.map (·.values) = [[], []] ∧
      (g.setOperatorVisible false).setOperatorVisible false = g.setOperatorVisible false := by
  intro f g lower
  have haccepted : g.setOperator (some "ge") = ⟨lower, none⟩ := by decide +kernel
  obtain ⟨hswitch, hagain, hhidden⟩ := switching_loses_only_hidden_values g (some "ge") false
  refine ⟨hswitch (congrArg Edited.refusal haccepted), by decide +kernel, ?_, by decide +kernel,
    hhidden⟩
  exact hagain.trans haccepted

end Group

end QueryCriteria
