import QueryCriteria.Proofs.Group.Dependents

/-!
# Records of groups

* `Header.arrange` — the values an operator keeps of a list it is given: none, all of them, or the
  first two, filled up with nulls.
* `Group.criterion?_of_none_read`, `Group.criterion?_of_one`, `Group.criterion?_of_two` — the record
  of a group whose operator reads no, one or two slots.
* `Group.WellBuilt.criterion_cases` — what the record of a group that edits lead to holds.
* `Group.WellBuilt.criterion?_load_sync` — the record after values were loaded: it depends on the operator
  and the values only, and there is none where an operator that reads values has none.
* `Group.named?`, `Group.chosen` — the operator that a record's operator name means to a group, and
  the one chosen there, the selector shown or hidden.
* `Group.named?_eq_findHeader?` — the name means it among the operators that the group offers.
* `Group.WellBuilt.named?_congr` — what a name means to a group does not depend on its history.
* `Group.WellBuilt.apply_of_named` — the operator and the record of a group that a record was loaded
  into.
* `Group.apply_restores_criterion` — loading the record of another group of the same field, options
  and catalog gives that record again, unless it is the record of two nulls.
* `Group.blank_pair_is_lost` — such a record exists, and is lost on loading.
-/

namespace QueryCriteria

/-! ## Arranging values -/

/-- The values an operator keeps of a list. -/
def Header.arrange (hd : Header) (values : List Value) : List Value :=
  if hd.slots = 0 then []
  else if hd.slots = 1 then values
  else [criterion values 0, criterion values 1]

/-- Whether the operator reads values and a list holds none for it. -/
def Header.lacksValue (hd : Header) (values : List Value) : Bool :=
  hd.slots != 0 && Value.allNull (hd.arrange values)

theorem Value.allNull_toList (v : Option Value) :
    allNull v.toList = (v.getD .null).isNull := by
  cases v <;> simp [allNull, isNull]

theorem Value.allNull_pair (a b : Value) : allNull [a, b] = (a.isNull && b.isNull) := by
  simp [allNull]

namespace Group

/-! ## The record by the number of slots read -/

theorem slotCount_of_current {g : Group} {hd : Header} (hc : g.current = some hd) :
    g.slotCount = hd.slots.toNat := by
  simp [slotCount, hc]

theorem criterion?_eq_some_iff {g : Group} {c : Criterion} :
    g.criterion? = some c ↔ g.hasValue = true ∧
      ∃ hd, g.current = some hd ∧ c = ⟨g.field.name, hd.name, g.valuesFor hd⟩ := by
  unfold criterion?
  cases g.hasValue with
  | false => simp
  | true => simp [Option.map_eq_some_iff, eq_comm (a := c)]

theorem criterion?_of_no_operator {g : Group} (h : g.current = none) : g.criterion? = none := by
  simp [criterion?, hasValue, h]

section Reading

variable {g : Group} {hd : Header} {a b : Slot}

theorem criterion?_of_none_read (hc : g.current = some hd) (hn : hd.slots = 0) :
    g.criterion? = some ⟨g.field.name, hd.name, []⟩ := by
  have hval : g.hasValue = true := by simp [hasValue, slotCount_of_current hc, hc, hn]
  exact criterion?_eq_some_iff.2 ⟨hval, hd, hc, by simp [valuesFor, hn]⟩

theorem criterion?_of_one (hc : g.current = some hd) (hn : hd.slots = 1)
    (hf : g.first = some a) :
    g.criterion? = if a.isBlank then none else some ⟨g.field.name, hd.name, a.values⟩ := by
  have hval : g.hasValue = !a.isBlank := by
    simp [hasValue, slotCount_of_current hc, hc, hn, slots, hf]
  have hvalues : g.valuesFor hd = a.values := by simp [valuesFor, hn, hf]
  unfold criterion?
  rw [hval, hc, Option.map_some, hvalues]
  cases a.isBlank <;> rfl

theorem criterion?_of_two (hc : g.current = some hd) (hn : hd.slots = 2)
    (hf : g.first = some a) (hs : g.second = some b) :
    g.criterion? = if a.isBlank && b.isBlank then none
      else some ⟨g.field.name, hd.name, [a.first, b.first]⟩ := by
  have hval : g.hasValue = !(a.isBlank && b.isBlank) := by
    simp [hasValue, slotCount_of_current hc, hc, hn, slots, hf, hs]
  have hvalues : g.valuesFor hd = [a.first, b.first] := by simp [valuesFor, hn, slots, hf, hs]
  unfold criterion?
  rw [hval, hc, Option.map_some, hvalues]
  cases a.isBlank <;> cases b.isBlank <;> rfl

end Reading

section Built

variable {f : Field} {o : GroupOptions} {catalog : Catalog} {g h : Group} {hd : Header}

theorem slots_of_applicable (happ : hd ∈ catalog.applicable (o.target f)) :
    hd.slots = 0 ∨ hd.slots = 1 ∨ hd.slots = 2 := by
  have hcount : (o.target f).slots.toNat ≤ 2 := by
    simp only [GroupOptions.target]
    cases o.withValue <;> cases o.hasSecond f <;> decide
  have happlies := (List.mem_filter.1 happ).2
  simp only [Header.appliesTo, Bool.and_eq_true, decide_eq_true_eq] at happlies
  have hle := UInt8.le_iff_toNat_le.1 happlies.1.1.1.1
  have hread : ∀ n : UInt8, hd.slots.toNat = n.toNat → hd.slots = n := fun n hn =>
    UInt8.toNat_inj.1 hn
  rcases (by omega : hd.slots.toNat = 0 ∨ hd.slots.toNat = 1 ∨ hd.slots.toNat = 2)
    with hn | hn | hn
  · exact Or.inl (hread 0 hn)
  · exact Or.inr (Or.inl (hread 1 hn))
  · exact Or.inr (Or.inr (hread 2 hn))

theorem WellBuilt.reads_cases (hg : WellBuilt f o catalog g) (hc : g.current = some hd) :
    hd.slots = 0 ∨ (hd.slots = 1 ∧ ∃ a, g.first = some a) ∨
      (hd.slots = 2 ∧ ∃ a b, g.first = some a ∧ g.second = some b) := by
  have hle := hg.slots_le_of_current hc
  unfold slots at hle
  rcases slots_of_applicable (hg.current_applies hc) with hn | hn | hn
  · exact Or.inl hn
  · rcases hg.slots_cases with ⟨hf, hs⟩ | ⟨a, hf, -⟩ | ⟨a, b, hf, -⟩
    · simp [hf, hs, hn] at hle
    · exact Or.inr (Or.inl ⟨hn, a, hf⟩)
    · exact Or.inr (Or.inl ⟨hn, a, hf⟩)
  · rcases hg.slots_cases with ⟨hf, hs⟩ | ⟨a, hf, hs⟩ | ⟨a, b, hf, hs⟩
    · simp [hf, hs, hn] at hle
    · simp [hf, hs, hn] at hle
    · exact Or.inr (Or.inr ⟨hn, a, b, hf, hs⟩)

/-- **What a record holds**: the field, the operator in effect, and no value, some value that is
not null, or two values, by the number of slots the operator reads. -/
theorem WellBuilt.criterion_cases (hg : WellBuilt f o catalog g) {c : Criterion}
    (hcrit : g.criterion? = some c) :
    ∃ hd, g.current = some hd ∧ c.field = f.name ∧ c.operator = hd.name ∧
      ((hd.slots = 0 ∧ c.values = []) ∨ (hd.slots = 1 ∧ Value.allNull c.values = false) ∨
        (hd.slots = 2 ∧ ∃ v w, c.values = [v, w])) := by
  obtain ⟨-, hd, hc, -⟩ := criterion?_eq_some_iff.1 hcrit
  rw [← hg.field_eq]
  rcases hg.reads_cases hc with hn | ⟨hn, a, hf⟩ | ⟨hn, a, b, hf, hs⟩
  · rw [criterion?_of_none_read hc hn] at hcrit
    cases hcrit
    exact ⟨hd, hc, rfl, rfl, Or.inl ⟨hn, rfl⟩⟩
  · rw [criterion?_of_one hc hn hf] at hcrit
    split at hcrit
    · cases hcrit
    · rename_i hblank
      cases hcrit
      have hnull : Value.allNull a.values = false := by simpa [Slot.isBlank] using hblank
      exact ⟨hd, hc, rfl, rfl, Or.inr (Or.inl ⟨hn, hnull⟩)⟩
  · rw [criterion?_of_two hc hn hf hs] at hcrit
    split at hcrit
    · cases hcrit
    · cases hcrit
      exact ⟨hd, hc, rfl, rfl, Or.inr (Or.inr ⟨hn, _, _, rfl⟩)⟩

/-! ## Loading values -/

/-- **The record after loading** depends on the operator in effect and the values only. -/
theorem WellBuilt.criterion?_load_sync (hg : WellBuilt f o catalog g) (hc : g.current = some hd)
    (values : List Value) :
    (g.load values).sync.criterion? =
      if hd.lacksValue values then none
      else some ⟨f.name, hd.name, hd.arrange values⟩ := by
  have hc' : (g.load values).sync.current = some hd := by rw [sync_current, load_current, hc]
  have hname : (g.load values).sync.field.name = f.name := by
    rw [sync_field, load_field, hg.field_eq]
  have hcount := slotCount_of_current hc
  -- Synchronising empties slots that are not read, but those are no part of the record.
  rcases hg.reads_cases hc with hn | ⟨hn, a, hf⟩ | ⟨hn, a, b, hf, hs⟩
  · rw [criterion?_of_none_read hc' hn, hname]
    simp [Header.lacksValue, Header.arrange, hn]
  · have hload : g.load values = { g with first := g.first.map (·.setValues values) } := by
      simp [Group.load, hcount, hn]
    have hf' : (g.load values).sync.first = some ((a.setValues values).sync true) := by
      rw [sync_first, load_slotCount, hcount, hn, hload]
      simp [hf]
    have hblank : ((a.setValues values).sync true).isBlank = Value.allNull values := rfl
    rw [criterion?_of_one hc' hn hf', hname, hblank]
    simp [Header.lacksValue, Header.arrange, hn, Slot.setValues]
  · have hload : g.load values = { g with
        first := g.first.map (loadSlot values 0), second := g.second.map (loadSlot values 1) } := by
      simp [Group.load, hcount, hn, hf]
    have hf' : (g.load values).sync.first = some ((loadSlot values 0 a).sync true) := by
      rw [sync_first, load_slotCount, hcount, hn, hload]
      simp [hf]
    have hs' : (g.load values).sync.second = some ((loadSlot values 1 b).sync true) := by
      rw [sync_second, load_slotCount, hcount, hn, hload]
      simp [hs]
    have hblank : ∀ i (s : Slot), ((loadSlot values i s).sync true).isBlank =
        (criterion values i).isNull := by
      intro i s
      rw [criterion, List.getD_eq_getElem?_getD, ← Value.allNull_toList]
      rfl
    have hfirst : ∀ i (s : Slot), ((loadSlot values i s).sync true).first = criterion values i := by
      intro i s
      rw [criterion, List.getD_eq_getElem?_getD]
      show values[i]?.toList.headD .null = _
      cases values[i]? <;> rfl
    rw [criterion?_of_two hc' hn hf' hs', hname, hblank, hblank, hfirst, hfirst]
    simp [Header.lacksValue, Header.arrange, hn, Value.allNull_pair]

/-! ## Accepting the operator of a record -/

/-- The operator that a record's operator name means to a group. -/
def named? (g : Group) (name : String) : Option Header :=
  match g.selector with
  | some s => (s.position? name).bind fun i => s.applicable[i]?
  | none => g.current.filter (·.answersTo name)

theorem named?_eq_findHeader? (g : Group) (name : String) :
    g.named? name = findHeader? g.offered name := by
  unfold named? offered
  cases hs : g.selector with
  | some s => exact getElem?_headerPosition? s.applicable name
  | none =>
    have hcurrent : g.current = g.implied := by simp [current, hs]
    simp only [hcurrent]
    cases g.implied with
    | none => rfl
    | some hd =>
      cases hown : Text.sameCaseless hd.name name <;>
        simp [findHeader?, Option.filter, Header.answersTo, hown, List.find?_singleton]

/-- Whether the choice of an operator is in sight; an implied operator cannot be hidden. -/
def choiceShown (g : Group) : Bool :=
  g.selector.all (·.visible)

/-- The operator chosen in a group, whether its selector is shown or hidden. -/
def chosen (g : Group) : Option Header :=
  match g.selector with
  | some s => s.current
  | none => g.implied

theorem load_sync_chosen (g : Group) (values : List Value) :
    (g.load values).sync.chosen = g.chosen := by
  have himplied : (g.load values).implied = g.implied := by
    unfold load
    split
    · rfl
    · split <;> rfl
  unfold chosen
  rw [sync_selector, load_selector]
  cases g.selector with
  | none => exact himplied
  | some s => rfl

theorem acceptOperator_of_named {name : String} (hn : g.named? name = some hd) :
    ∃ x, g.acceptOperator name = ⟨x, none⟩ ∧ x.chosen = some hd ∧
      x.current = if g.choiceShown then some hd else none := by
  unfold named? at hn
  unfold choiceShown
  rcases g.acceptOperator_cases name with ⟨e, he⟩ | ⟨hsel, -, he⟩ | ⟨s, s', hsel, hs', he⟩
  · exfalso
    unfold acceptOperator setOperator at he
    cases hsel : g.selector with
    | none =>
      simp only [hsel] at hn he
      obtain ⟨hcur, hans⟩ := Option.filter_eq_some_iff.1 hn
      simp [hcur, hans] at he
    | some s =>
      simp only [hsel] at hn he
      obtain ⟨i, hi, -⟩ := Option.bind_eq_some_iff.1 hn
      simp [Selector.select?, hi] at he
  · simp only [hsel] at hn ⊢
    have hcur := (Option.filter_eq_some_iff.1 hn).1
    refine ⟨g, he, ?_, hcur⟩
    simpa [current, chosen, hsel] using hcur
  · simp only [hsel] at hn ⊢
    obtain ⟨i, hi, hget⟩ := Option.bind_eq_some_iff.1 hn
    obtain ⟨j, hj, rfl⟩ := Selector.select?_eq_some_iff.1 hs'
    rw [hi] at hj
    cases hj
    refine ⟨_, he, ?_, ?_⟩
    · simp [chosen, Selector.current, hget]
    · simp [current, Selector.effective, Selector.current, hget]

theorem WellBuilt.named?_congr (hg : WellBuilt f o catalog g) (hh : WellBuilt f o catalog h)
    (name : String) : h.named? name = g.named? name := by
  rw [named?_eq_findHeader?, named?_eq_findHeader?, hh.offered_eq, hg.offered_eq]

theorem WellBuilt.named?_own_name (hg : WellBuilt f o catalog g) (hh : WellBuilt f o catalog h)
    (hc : g.current = some hd) : h.named? hd.name = some hd := by
  rw [hg.named?_congr hh]
  unfold named?
  cases hgs : g.selector with
  | none => simp [hc, Header.answersTo_own_name]
  | some s =>
    have heff : s.effective = some hd := by simpa [current, hgs] using hc
    obtain ⟨i, hpos, hget⟩ := (hg.settled s hgs).position?_effective heff
    simp only [hpos, Option.bind_some, hget]

/-- **Loading a record whose operator means one to the group**: this operator is chosen, and if the
selector is in sight the values are arranged for it; otherwise there is no record. -/
theorem WellBuilt.apply_of_named (hg : WellBuilt f o catalog g) {c : Criterion}
    (hfield : c.field = f.name) (hn : g.named? c.operator = some hd) :
    (g.apply c).refusal = none ∧ (g.apply c).group.chosen = some hd ∧
      (g.apply c).group.criterion? =
        if g.choiceShown = false ∨ hd.lacksValue c.values = true then none
        else some ⟨f.name, hd.name, hd.arrange c.values⟩ := by
  obtain ⟨x, hx, hchosen, hcur⟩ := acceptOperator_of_named hn
  have hxw : WellBuilt f o catalog x := by
    have := hg.acceptOperator c.operator
    rwa [hx] at this
  have happly : g.apply c = ⟨(x.load c.values).sync, none⟩ := by
    unfold Group.apply
    rw [if_neg (by rw [hg.field_eq, hfield]; simp), hx]
  rw [happly]
  refine ⟨rfl, (load_sync_chosen x c.values).trans hchosen, ?_⟩
  cases hshown : g.choiceShown with
  | false =>
    rw [hshown, if_neg Bool.false_ne_true] at hcur
    rw [if_pos (Or.inl rfl)]
    exact criterion?_of_no_operator (by rw [sync_current, load_current, hcur])
  | true =>
    rw [hshown, if_pos rfl] at hcur
    rw [hxw.criterion?_load_sync hcur]
    simp

/-- **The record of a group that a record was loaded into**, the selector being in sight. -/
theorem WellBuilt.criterion?_apply (hg : WellBuilt f o catalog g) {c : Criterion}
    (hfield : c.field = f.name) (hn : g.named? c.operator = some hd)
    (hshown : g.choiceShown = true) :
    (g.apply c).refusal = none ∧ (g.apply c).group.criterion? =
      if hd.lacksValue c.values then none
      else some ⟨f.name, hd.name, hd.arrange c.values⟩ := by
  obtain ⟨hacc, -, hcrit⟩ := hg.apply_of_named hfield hn
  refine ⟨hacc, ?_⟩
  simpa [hshown] using hcrit

/-! ## Saving and loading -/

/-- A record keeps its values as its operator arranges them; all null they are only for an operator
of two slots, whose record holds the first values. -/
theorem WellBuilt.arrange_criterion (hg : WellBuilt f o catalog g) {c : Criterion}
    (hcrit : g.criterion? = some c) :
    ∃ hd, g.current = some hd ∧ c.field = f.name ∧ c.operator = hd.name ∧
      hd.arrange c.values = c.values ∧
      hd.lacksValue c.values = (g.slotCount == 2 && Value.allNull c.values) := by
  obtain ⟨hd, hc, hfield, hop, hvalues⟩ := hg.criterion_cases hcrit
  refine ⟨hd, hc, hfield, hop, ?_⟩
  rw [slotCount_of_current hc]
  rcases hvalues with ⟨hn, hv⟩ | ⟨hn, hv⟩ | ⟨hn, v, w, hv⟩
  · simp [Header.arrange, Header.lacksValue, hn, hv]
  · simp [Header.arrange, Header.lacksValue, hn, hv]
  · simp [Header.arrange, Header.lacksValue, hn, hv, criterion]

end Built

/-- **A record is restored by loading it.**  Let `g` and `h` be groups that edits lead to, for the
same field, options and catalog, and let the selector of `h` be shown.  Then `h` accepts the record
of `g` and has it for its own afterwards, with one exception: an operator of two slots may have a
record of two nulls, when a slot begins with a null, and after loading this one there is none. -/
theorem apply_restores_criterion (f : Field) (o : GroupOptions) (catalog : Catalog)
    (edits edits' : List Edit) (c : Criterion) :
    let g := (build f o catalog).run edits
    let h := (build f o catalog).run edits'
    g.criterion? = some c → (∀ s ∈ h.selector, s.visible = true) →
      (h.apply c).refusal = none ∧ (h.apply c).group.criterion? =
        if g.slotCount == 2 && Value.allNull c.values then none else some c := by
  intro g h hcrit hvisible
  have hg : WellBuilt f o catalog g := wellBuilt_run f o catalog edits
  have hh : WellBuilt f o catalog h := wellBuilt_run f o catalog edits'
  obtain ⟨hd, hc, hfield, hop, harr, hnull⟩ := hg.arrange_criterion hcrit
  have hshown : h.choiceShown = true := by
    unfold choiceShown
    exact (Option.all_eq_true _ _).2 hvisible
  obtain ⟨hacc, happly⟩ :=
    hh.criterion?_apply hfield (hop ▸ hg.named?_own_name hh hc) hshown
  refine ⟨hacc, happly.trans ?_⟩
  rw [harr, hnull, ← hfield, ← hop]

/-- The record of an interval is restored in a group that was set to something else. -/
theorem interval_is_restored :
    let f : Field := ⟨"age", "Age", .int, false⟩
    let g := (build f {} .standard).run
      [.operator (some "Between"), .first (.value (.int 18)), .second (.value (.int 65))]
    let h := (build f {} .standard).run [.operator (some "LT"), .first (.value (.int 7))]
    let c : Criterion := ⟨"age", "Between", [.int 18, .int 65]⟩
    g.criterion? = some c ∧ (h.apply c).refusal = none ∧
      (h.apply c).group.criterion? = some c := by
  intro f g h c
  have hcrit : g.criterion? = some c := by decide +kernel
  have hvisible : ∀ s ∈ h.selector, s.visible = true := by decide +kernel
  obtain ⟨hacc, hrestored⟩ := apply_restores_criterion f {} .standard _ _ c hcrit hvisible
  refine ⟨hcrit, hacc, hrestored.trans ?_⟩
  decide +kernel

/-- **A record of two nulls is lost on loading**: the first slot of an interval holds a null before
a number, so there is a record, but the slot keeps only the null of it. -/
theorem blank_pair_is_lost :
    ¬ ∀ (f : Field) (o : GroupOptions) (catalog : Catalog) (edits edits' : List Edit)
        (c : Criterion),
      let g := (build f o catalog).run edits
      let h := (build f o catalog).run edits'
      g.criterion? = some c → (∀ s ∈ h.selector, s.visible = true) →
        (h.apply c).refusal = none ∧ (h.apply c).group.criterion? = some c := by
  intro restored
  have hlost := (restored ⟨"age", "Age", .int, false⟩ {} .standard
    [.operator (some "Between"), .first (.values [.null, .int 5])] []
    ⟨"age", "Between", [.null, .null]⟩ (by decide +kernel) (by decide +kernel)).2
  exact absurd hlost (by decide +kernel)

end Group

end QueryCriteria
