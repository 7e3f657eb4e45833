import QueryCriteria.Group.Edit
import QueryCriteria.Proofs.Group.Selection

/-!
# Runs of edits

* `Group.run` — a group after a list of edits, refused ones included: the groups that
  `(Group.build f o catalog).run edits` gives are all that the field, the options and the catalog
  can lead to.
* `Group.pristine` — a group without its choice, its values and its flags: the part that no edit
  changes.
* `Group.setOperator_cases`, `Group.acceptOperator_cases`, `Group.apply_cases` — all that choosing
  an operator and loading a record can do.
* `Group.WellBuilt` — what holds of every group that edits lead to: it is the initial group but
  for the choice, the values and the flags, and its selector is settled.
* `Group.wellBuilt_run` — the invariant holds along every run.
* `Group.offered`, `Group.WellBuilt.offered_eq` — the operators that a group can be set to, those of
  its selector or the implied one: the ones of the catalog that apply to the field.
* `Group.WellBuilt.current_applies`, `Group.WellBuilt.slotCount_le` — the operator in effect
  applies to the field, and there are as many slots as it reads.
-/

namespace QueryCriteria

/-! ## The part that no edit changes -/

/-- The slot as it was made. -/
def Slot.pristine (s : Slot) : Slot := .new s.name

/-- The selector as it was made. -/
def Selector.pristine (s : Selector) : Selector := .new s.applicable

theorem Slot.pristine_sync (s : Slot) (shown : Bool) : (s.sync shown).pristine = s.pristine := by
  unfold Slot.sync
  split <;> rfl

theorem Slot.pristine_edit (s : Slot) (e : SlotEdit) : (s.edit e).pristine = s.pristine := by
  cases e <;> rfl

theorem Selector.pristine_select? {s s' : Selector} {name : Option String}
    (h : s.select? name = some s') : s'.pristine = s.pristine := by
  cases name with
  | none => cases h; rfl
  | some name =>
    obtain ⟨i, -, rfl⟩ := select?_eq_some_iff.1 h
    rfl

namespace Group

/-- The group without its choice, its values and its flags. -/
def pristine (g : Group) : Group :=
  { g with
    selector := g.selector.map (·.pristine)
    first := g.first.map (·.pristine)
    second := g.second.map (·.pristine) }

/-! ## Effect of the edits on the selector -/

@[simp] theorem sync_field (g : Group) : g.sync.field = g.field := rfl
@[simp] theorem sync_selector (g : Group) : g.sync.selector = g.selector := rfl
@[simp] theorem sync_current (g : Group) : g.sync.current = g.current := rfl
@[simp] theorem sync_slotCount (g : Group) : g.sync.slotCount = g.slotCount := rfl

@[simp] theorem load_field (g : Group) (values : List Value) :
    (g.load values).field = g.field := by
  unfold load
  split
  · rfl
  · split <;> rfl

@[simp] theorem load_selector (g : Group) (values : List Value) :
    (g.load values).selector = g.selector := by
  unfold load
  split
  · rfl
  · split <;> rfl

@[simp] theorem load_current (g : Group) (values : List Value) :
    (g.load values).current = g.current := by
  unfold load
  split
  · rfl
  · split <;> rfl

@[simp] theorem load_slotCount (g : Group) (values : List Value) :
    (g.load values).slotCount = g.slotCount := by
  unfold slotCount
  rw [load_current]

theorem pristine_sync (g : Group) : g.sync.pristine = g.pristine := by
  simp [pristine, sync, syncSlots, Function.comp_def, Slot.pristine_sync]

theorem pristine_clear (g : Group) : g.clear.pristine = g.pristine := by
  simp [pristine, clear, Function.comp_def, Slot.pristine, Slot.clear, Slot.setValues]

theorem pristine_load (g : Group) (values : List Value) :
    (g.load values).pristine = g.pristine := by
  have hset : ∀ vs : Slot → List Value, (fun s : Slot => (s.setValues (vs s)).pristine) =
      fun s => s.pristine := fun _ => rfl
  unfold load
  split
  · rfl
  · split
    · simp [pristine, Function.comp_def, hset]
    · simp [pristine, Function.comp_def, loadSlot, hset]

/-- Replacing the choice of a selector is no change of the group as it was made. -/
theorem pristine_choose {g : Group} {s s' : Selector} (hs : g.selector = some s)
    (h : s'.pristine = s.pristine) :
    { g with selector := some s' }.pristine = g.pristine := by
  simp [pristine, hs, h]

theorem pristine_resetSelector (name : Option String) (s : Selector) :
    (resetSelector name s).pristine = s.pristine := by
  cases name with
  | none => rfl
  | some name =>
    unfold resetSelector
    simp only
    cases h : s.select? (some name) with
    | none => rfl
    | some s' => exact Selector.pristine_select? h

theorem settled_resetSelector (name : Option String) (s : Selector) :
    (resetSelector name s).Settled := by
  cases name with
  | none => exact s.settled_selectFirst
  | some name =>
    unfold resetSelector
    simp only
    cases h : s.select? (some name) with
    | none => exact s.settled_selectFirst
    | some s' => exact Selector.Settled.select? h

/-! ## What an edit can do -/

/-- Selecting an operator is refused, or the selector is replaced and the slots follow. -/
theorem setOperator_cases (g : Group) (name : Option String) :
    (∃ e, g.setOperator name = ⟨g, some e⟩) ∨
      ∃ s s', g.selector = some s ∧ s.select? name = some s' ∧
        g.setOperator name = ⟨{ g with selector := some s' }.sync, none⟩ := by
  unfold setOperator
  cases hs : g.selector with
  | none => exact Or.inl ⟨_, rfl⟩
  | some s =>
    dsimp only
    cases hs' : s.select? name with
    | none => exact Or.inl ⟨_, rfl⟩
    | some s' => exact Or.inr ⟨s, s', rfl, hs', rfl⟩

/-- The operator of a record is refused, or is the implied one, or is selected. -/
theorem acceptOperator_cases (g : Group) (name : String) :
    (∃ e, g.acceptOperator name = ⟨g, some e⟩) ∨
      (g.selector = none ∧ g.current.any (·.answersTo name) = true ∧
        g.acceptOperator name = ⟨g, none⟩) ∨
      ∃ s s', g.selector = some s ∧ s.select? (some name) = some s' ∧
        g.acceptOperator name = ⟨{ g with selector := some s' }.sync, none⟩ := by
  unfold acceptOperator
  cases hs : g.selector with
  | none =>
    dsimp only
    split
    · rename_i hany
      exact Or.inr (Or.inl ⟨rfl, hany, rfl⟩)
    · exact Or.inl ⟨_, rfl⟩
  | some s =>
    rcases g.setOperator_cases (some name) with h | ⟨t, s', ht, hs', h⟩
    · exact Or.inl h
    · rw [hs] at ht
      cases ht
      exact Or.inr (Or.inr ⟨s, s', rfl, hs', h⟩)

/-- A record is refused, or its operator is accepted, its values loaded, and the slots follow. -/
theorem apply_cases (g : Group) (c : Criterion) :
    (∃ e, g.apply c = ⟨g, some e⟩) ∨
      ∃ x, c.field = g.field.name ∧ g.acceptOperator c.operator = ⟨x, none⟩ ∧
        g.apply c = ⟨(x.load c.values).sync, none⟩ := by
  unfold apply
  by_cases hfield : c.field = g.field.name
  · rw [if_neg (fun h => h hfield)]
    rcases g.acceptOperator_cases c.operator with ⟨e, h⟩ | ⟨-, -, h⟩ | ⟨s, s', -, -, h⟩
    · exact Or.inl ⟨e, by rw [h]⟩
    · exact Or.inr ⟨_, hfield, h, by rw [h]⟩
    · exact Or.inr ⟨_, hfield, h, by rw [h]⟩
  · rw [if_pos hfield]
    exact Or.inl ⟨_, rfl⟩

/-! ## The invariant -/

/-- What holds of every group that edits lead to. -/
structure WellBuilt (f : Field) (o : GroupOptions) (catalog : Catalog) (g : Group) : Prop where
  pristine : g.pristine = initial f o catalog
  settled : ∀ s ∈ g.selector, s.Settled

section Edits

variable {f : Field} {o : GroupOptions} {catalog : Catalog} {g : Group}

theorem WellBuilt.initial : WellBuilt f o catalog (initial f o catalog) := by
  refine ⟨?_, ?_⟩
  · unfold Group.pristine Group.initial
    simp only
    congr 1 <;> split <;> rfl
  · intro s hs
    unfold Group.initial at hs
    simp only at hs
    split at hs
    · cases hs
      exact Selector.settled_new _
    · cases hs

/-- The invariant says nothing about the values and the flags of the slots. -/
theorem WellBuilt.of_pristine {g' : Group} (h : WellBuilt f o catalog g)
    (hp : g'.pristine = g.pristine) (hs : g'.selector = g.selector) : WellBuilt f o catalog g' :=
  ⟨hp.trans h.pristine, by rw [hs]; exact h.settled⟩

theorem WellBuilt.sync (h : WellBuilt f o catalog g) : WellBuilt f o catalog g.sync :=
  h.of_pristine g.pristine_sync rfl

theorem WellBuilt.load (h : WellBuilt f o catalog g) (values : List Value) :
    WellBuilt f o catalog (g.load values) :=
  h.of_pristine (g.pristine_load values) (g.load_selector values)

theorem WellBuilt.choose (h : WellBuilt f o catalog g) {s s' : Selector}
    (hs : g.selector = some s) (hp : s'.pristine = s.pristine) (hs' : s'.Settled) :
    WellBuilt f o catalog { g with selector := some s' } := by
  refine ⟨(pristine_choose hs hp).trans h.pristine, ?_⟩
  intro t ht
  cases ht
  exact hs'

theorem WellBuilt.reset (h : WellBuilt f o catalog g) : WellBuilt f o catalog g.reset := by
  have hclear : WellBuilt f o catalog g.clear := h.of_pristine g.pristine_clear rfl
  unfold Group.reset
  apply WellBuilt.sync
  cases hs : g.selector with
  | none => exact hclear.of_pristine (by simp [Group.pristine, clear, hs]) hs.symm
  | some s =>
    exact hclear.choose hs (pristine_resetSelector _ s) (settled_resetSelector _ s)

theorem WellBuilt.setOperator (h : WellBuilt f o catalog g) (name : Option String) :
    WellBuilt f o catalog (g.setOperator name).group := by
  rcases g.setOperator_cases name with ⟨e, he⟩ | ⟨s, s', hs, hs', he⟩
  · rw [he]; exact h
  · rw [he]
    exact (h.choose hs (Selector.pristine_select? hs') (Selector.Settled.select? hs')).sync

theorem WellBuilt.setOperatorVisible (h : WellBuilt f o catalog g) (visible : Bool) :
    WellBuilt f o catalog (g.setOperatorVisible visible) := by
  unfold Group.setOperatorVisible
  apply WellBuilt.sync
  cases hs : g.selector with
  | none => exact h.of_pristine (by simp [Group.pristine, hs]) hs.symm
  | some s => exact h.choose hs rfl ((h.settled s hs).setVisible visible)

theorem WellBuilt.acceptOperator (h : WellBuilt f o catalog g) (name : String) :
    WellBuilt f o catalog (g.acceptOperator name).group := by
  rcases g.acceptOperator_cases name with ⟨e, he⟩ | ⟨-, -, he⟩ | ⟨s, s', hs, hs', he⟩
  · rw [he]; exact h
  · rw [he]; exact h
  · rw [he]
    exact (h.choose hs (Selector.pristine_select? hs') (Selector.Settled.select? hs')).sync

theorem WellBuilt.apply (h : WellBuilt f o catalog g) (c : Criterion) :
    WellBuilt f o catalog (g.apply c).group := by
  rcases g.apply_cases c with ⟨e, he⟩ | ⟨x, -, hx, he⟩
  · rw [he]; exact h
  · rw [he]
    have hacc := h.acceptOperator c.operator
    rw [hx] at hacc
    exact (hacc.load c.values).sync

/-- **Step**: every edit, refused or not, keeps the invariant. -/
theorem WellBuilt.perform (h : WellBuilt f o catalog g) (e : Edit) :
    WellBuilt f o catalog (g.perform e).group := by
  cases e with
  | reset => exact h.reset
  | operator name => exact h.setOperator name
  | operatorVisible b => exact h.setOperatorVisible b
  | apply c => exact h.apply c
  | first e =>
    exact h.of_pristine (by simp [Group.perform, Group.pristine, Function.comp_def,
      Slot.pristine_edit]) rfl
  | second e =>
    exact h.of_pristine (by simp [Group.perform, Group.pristine, Function.comp_def,
      Slot.pristine_edit]) rfl

/-! ## Runs -/

/-- The group after some edits, refused ones included. -/
def run (g : Group) (edits : List Edit) : Group :=
  edits.foldl (fun g e => (g.perform e).group) g

theorem WellBuilt.run : ∀ (edits : List Edit) {g : Group}, WellBuilt f o catalog g →
    WellBuilt f o catalog (g.run edits)
  | [], _, h => h
  | e :: es, _, h => WellBuilt.run es (h.perform e)

/-- **Run**: the invariant holds of every group that edits lead to. -/
theorem wellBuilt_run (f : Field) (o : GroupOptions) (catalog : Catalog) (edits : List Edit) :
    WellBuilt f o catalog ((build f o catalog).run edits) :=
  WellBuilt.run edits WellBuilt.initial.reset

/-! ## What the invariant gives -/

/-- The operators that a group can be set to. -/
def offered (g : Group) : List Header :=
  match g.selector with
  | some s => s.applicable
  | none => g.implied.toList

namespace WellBuilt

theorem field_eq (h : WellBuilt f o catalog g) : g.field = f :=
  congrArg Group.field h.pristine

theorem first_isSome (h : WellBuilt f o catalog g) : g.first.isSome = o.withValue := by
  have := congrArg (fun g => g.first.isSome) h.pristine
  simp only [Group.pristine, Group.initial, Option.isSome_map] at this
  rw [this]
  cases o.withValue <;> rfl

theorem second_isSome (h : WellBuilt f o catalog g) : g.second.isSome = o.hasSecond f := by
  have := congrArg (fun g => g.second.isSome) h.pristine
  simp only [Group.pristine, Group.initial, Option.isSome_map] at this
  rw [this]
  cases o.hasSecond f <;> rfl

theorem first_of_second (h : WellBuilt f o catalog g) (hs : g.second.isSome = true) :
    g.first.isSome = true := by
  rw [h.second_isSome] at hs
  rw [h.first_isSome]
  simp only [GroupOptions.hasSecond, Bool.and_eq_true] at hs
  exact hs.1

/-- There are as many slots as the group offers an operator. -/
theorem slots_length (h : WellBuilt f o catalog g) :
    g.slots.length = (o.target f).slots.toNat := by
  have htoList : ∀ s : Option Slot, s.toList.length = if s.isSome then 1 else 0 := by
    intro s
    cases s <;> rfl
  unfold slots GroupOptions.target
  rw [List.length_append, htoList, htoList, h.first_isSome, h.second_isSome]
  cases o.withValue <;> cases o.hasSecond f <;> rfl

theorem selector_applicable (h : WellBuilt f o catalog g) {s : Selector}
    (hs : g.selector = some s) : s.applicable = catalog.applicable (o.target f) := by
  have := congrArg Group.selector h.pristine
  simp only [Group.pristine, Group.initial, hs, Option.map_some] at this
  split at this
  · exact congrArg Selector.applicable (Option.some.inj this)
  · cases this

theorem implied_eq (h : WellBuilt f o catalog g) (hs : g.selector = none) :
    g.implied = (catalog.applicable (o.target f)).getLast? := by
  have hsel := congrArg Group.selector h.pristine
  have himp := congrArg Group.implied h.pristine
  simp only [Group.pristine, Group.initial, hs, Option.map_none] at hsel himp
  split at hsel
  · cases hsel
  · rename_i hseveral
    rw [himp, if_neg hseveral]

/-- **A group offers the operators that apply to its field**, whatever edits led to it. -/
theorem offered_eq (h : WellBuilt f o catalog g) :
    g.offered = catalog.applicable (o.target f) := by
  unfold offered
  cases hs : g.selector with
  | some s => exact h.selector_applicable hs
  | none =>
    have hfew : ¬ 1 < (catalog.applicable (o.target f)).length := by
      intro hseveral
      have hsel := congrArg Group.selector h.pristine
      simp [Group.pristine, Group.initial, hs, hseveral] at hsel
    simp only [h.implied_eq hs]
    rcases happ : catalog.applicable (o.target f) with _ | ⟨hd, _ | ⟨hd', rest⟩⟩
    · rfl
    · rfl
    · simp [happ] at hfew

/-- **The operator in effect applies to the field.** -/
theorem current_applies (h : WellBuilt f o catalog g) {hd : Header} (hc : g.current = some hd) :
    hd ∈ catalog.applicable (o.target f) := by
  unfold current at hc
  split at hc
  · rename_i s hs
    obtain ⟨i, -, hget⟩ := (h.settled s hs).position?_effective hc
    rw [← h.selector_applicable hs]
    exact List.mem_of_getElem? hget
  · rename_i hs
    rw [h.implied_eq hs] at hc
    exact List.mem_of_getLast? hc

theorem slots_le_of_current (h : WellBuilt f o catalog g) {hd : Header}
    (hc : g.current = some hd) : hd.slots.toNat ≤ g.slots.length := by
  have happ := (List.mem_filter.1 (h.current_applies hc)).2
  simp only [Header.appliesTo, Bool.and_eq_true, decide_eq_true_eq] at happ
  rw [h.slots_length]
  exact UInt8.le_iff_toNat_le.1 happ.1.1.1.1

/-- **There are as many slots as the operator in effect reads.** -/
theorem slotCount_le (h : WellBuilt f o catalog g) : g.slotCount ≤ g.slots.length := by
  unfold slotCount
  cases hc : g.current with
  | none => exact Nat.zero_le _
  | some hd => exact h.slots_le_of_current hc

end WellBuilt

end Edits

end Group

end QueryCriteria
