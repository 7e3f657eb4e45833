import QueryCriteria.Proofs.Operator.Agreement
import QueryCriteria.Proofs.Predicate.Form

/-!
# What predicates capture of criteria

Criterion values go into a predicate as parameters, each under the position it was supplied at.
Which positions those are, and the rest of the predicate with its text, depends on the number of the
values and on which of them are null.

* `Rule.captured`, `Builtin.captured` — the positions that an operator captures.
* `Builtin.params_build` — the parameters of a predicate are the criteria at these positions.
* `Builtin.captured_pairwise`, `Builtin.lt_length_of_mem_captured` — the positions increase, and are
  positions of the list.
* `Builtin.form_build_congr` — lists with the same nulls make predicates of the same form.
* `Operator.values_stay_out_of_text` — the same about operators, and about their texts.
-/

namespace QueryCriteria

/-! ## Nulls among criteria -/

section Nulls

variable {criteria : List Value} {slot : Nat}

/-- Whether a criterion is null is read off the nulls of the list; a missing one is. -/
theorem isNull_criterion_eq (criteria : List Value) (slot : Nat) :
    (criterion criteria slot).isNull = (criteria.map (·.isNull)).getD slot true := by
  rw [criterion, List.getD_eq_getElem?_getD, List.getD_eq_getElem?_getD, List.getElem?_map]
  cases criteria[slot]? <;> rfl

theorem isNull_criterion_of_le (h : criteria.length ≤ slot) :
    (criterion criteria slot).isNull = true := by
  rw [criterion, List.getD_eq_getElem?_getD, List.getElem?_eq_none h]
  rfl

theorem isNull_criterion_of_allNull (h : Value.allNull criteria = true) (slot : Nat) :
    (criterion criteria slot).isNull = true := by
  rw [criterion, List.getD_eq_getElem?_getD]
  cases hget : criteria[slot]? with
  | none => rfl
  | some v => exact List.all_eq_true.1 h v (List.mem_of_getElem? hget)

theorem getElem?_eq_criterion (h : slot < criteria.length) :
    criteria[slot]? = some (criterion criteria slot) := by
  simp [criterion, h]

theorem allNull_eq (criteria : List Value) :
    Value.allNull criteria = (criteria.map (·.isNull)).all id := by
  rw [List.all_map]
  rfl

end Nulls

/-! ## Positions -/

/-- The positions of the ends of an interval that are not blank. -/
def Builtin.ends (criteria : List Value) : List Nat :=
  [0, 1].filter fun slot => !(criterion criteria slot).isNull

/-- The positions that a rule captures. -/
def Rule.captured (rule : Rule) (criteria : List Value) : List Nat :=
  match rule with
  | .isNull => []
  | .oneOf => List.range criteria.length
  | .between => Builtin.ends criteria
  | _ => [0]

/-- The positions that a built-in operator captures: none where every row passes. -/
def Builtin.captured (b : Builtin) (criteria : List Value) : List Nat :=
  if b.passesThrough criteria then [] else b.rule.captured criteria

section Parameters

variable (accessor : Accessor) (criteria : List Value)

theorem Builtin.params_memberConditions :
    (memberConditions accessor criteria).flatMap (·.params) =
      (List.range criteria.length).map (param criteria) := by
  have hparams : (memberConditions accessor criteria).flatMap (·.params) =
      criteria.zipIdx.map fun x => ⟨x.2, x.1⟩ := by
    rw [memberConditions, List.flatMap_map, List.map_eq_flatMap]
    rfl
  rw [hparams]
  refine List.ext_getElem (by simp) fun slot hslot _ => ?_
  simp [param, criterion, (by simpa using hslot : slot < criteria.length)]

theorem Builtin.params_betweenConditions :
    (betweenConditions accessor criteria).flatMap (·.params) =
      (ends criteria).map (param criteria) := by
  unfold betweenConditions ends
  cases hlower : (criterion criteria 0).isNull <;> cases hupper : (criterion criteria 1).isNull <;>
    simp [hlower, hupper, Predicate.params]

theorem Rule.params_build (rule : Rule) :
    (rule.build accessor criteria).params =
      (rule.captured criteria).map (Builtin.param criteria) := by
  cases rule with
  | oneOf =>
    rw [Rule.build, Predicate.params_disjunction, Builtin.params_memberConditions]
    rfl
  | between =>
    rw [Rule.build, Predicate.params_conjunction, Builtin.params_betweenConditions]
    rfl
  | _ => rfl

/-- **A predicate captures the criteria at the positions of its operator.** -/
theorem Builtin.params_build (b : Builtin) :
    (b.build accessor criteria).params = (b.captured criteria).map (param criteria) := by
  unfold Builtin.build captured
  split
  · rfl
  · split
    · exact b.rule.params_build accessor criteria
    · exact b.rule.params_build accessor criteria

theorem Builtin.slots_build (b : Builtin) :
    (b.build accessor criteria).params.map (·.slot) = b.captured criteria := by
  rw [params_build, List.map_map]
  exact List.map_id _

end Parameters

namespace Builtin

variable {b : Builtin} {criteria : List Value}

theorem captured_pairwise (b : Builtin) (criteria : List Value) :
    (b.captured criteria).Pairwise (· < ·) := by
  unfold captured
  split
  · exact List.Pairwise.nil
  · cases b.rule with
    | oneOf => exact List.pairwise_lt_range
    | between => exact List.Pairwise.filter _ (by decide)
    | isNull => exact List.Pairwise.nil
    | _ => exact List.pairwise_singleton _ _

theorem lt_length_of_mem_captured (h : b.arity.required ≤ criteria.length) {slot : Nat}
    (hslot : slot ∈ b.captured criteria) : slot < criteria.length := by
  unfold captured at hslot
  split at hslot
  · cases hslot
  · unfold arity at h
    cases hrule : b.rule with
    | oneOf =>
      rw [hrule] at hslot
      exact List.mem_range.1 hslot
    | between =>
      rw [hrule] at hslot
      refine Nat.not_le.1 fun hge => ?_
      have hnull := isNull_criterion_of_le hge
      have hend := (List.mem_filter.1 hslot).2
      rw [hnull] at hend
      cases hend
    | isNull =>
      rw [hrule] at hslot
      cases hslot
    | _ =>
      rw [hrule] at hslot h
      rw [List.mem_singleton.1 hslot]
      exact h

/-- Membership captures everything, unless every row passes. -/
theorem captured_of_oneOf (hb : b.rule = .oneOf) (h : Value.allNull criteria = false) :
    b.captured criteria = List.range criteria.length := by
  rw [captured, passesThrough, h, Bool.and_false, hb]
  rfl

theorem captured_of_between (hb : b.rule = .between) : b.captured criteria = ends criteria := by
  unfold captured
  split
  · rename_i hpass
    have hnull := isNull_criterion_of_allNull (Bool.and_eq_true_iff.1 hpass).2
    simp [ends, hnull]
  · rw [hb]
    rfl

end Builtin

/-! ## Forms -/

section Forms

variable {criteria others : List Value}

theorem Builtin.map_form_memberConditions (accessor : Accessor) (criteria : List Value) :
    (memberConditions accessor criteria).map (·.form) =
      (List.range criteria.length).map fun slot => .compare accessor .eq ⟨slot, .null⟩ := by
  refine List.ext_getElem (by simp [memberConditions]) fun slot hslot _ => ?_
  simp [memberConditions, Predicate.form]

theorem Builtin.map_form_betweenConditions (accessor : Accessor) (criteria : List Value) :
    (betweenConditions accessor criteria).map (·.form) =
      (ends criteria).map fun slot =>
        .compare accessor (if slot = 0 then .gte else .lte) ⟨slot, .null⟩ := by
  unfold betweenConditions ends
  cases hlower : (criterion criteria 0).isNull <;> cases hupper : (criterion criteria 1).isNull <;>
    simp [hlower, hupper, Predicate.form, param]

theorem Rule.form_build_congr (h : others.map (·.isNull) = criteria.map (·.isNull)) (rule : Rule)
    (accessor : Accessor) :
    (rule.build accessor others).form = (rule.build accessor criteria).form := by
  have hlength : others.length = criteria.length := by
    simpa using congrArg List.length h
  have hends : Builtin.ends others = Builtin.ends criteria := by
    simp only [Builtin.ends, isNull_criterion_eq, h]
  cases rule with
  | oneOf =>
    simp only [Rule.build, Predicate.form_disjunction, Builtin.map_form_memberConditions, hlength]
  | between =>
    simp only [Rule.build, Predicate.form_conjunction, Builtin.map_form_betweenConditions, hends]
  | _ => rfl

/-- **Lists with the same nulls make predicates of the same form.** -/
theorem Builtin.form_build_congr (h : others.map (·.isNull) = criteria.map (·.isNull))
    (b : Builtin) (accessor : Accessor) :
    (b.build accessor others).form = (b.build accessor criteria).form := by
  have hpass : b.passesThrough others = b.passesThrough criteria := by
    simp only [passesThrough, allNull_eq, h]
  have hrule := Rule.form_build_congr h b.rule accessor
  unfold Builtin.build
  rw [hpass]
  split
  · rfl
  · split
    · simp only [Predicate.form, hrule]
    · exact hrule

end Forms

/-! ## Operators -/

namespace Operator

/-- **Criterion values stay out of the text of a predicate.**  Let an operator accept some criteria,
and let other criteria have the same number and nulls at the same positions.  It accepts those too,
and makes a predicate of the same text and form.  What a built-in operator captures are the criteria
at their own positions, which increase along the tree: all of them for membership, unless every one
is null, and the ends that are not blank for an interval. -/
theorem values_stay_out_of_text (op : Operator) (accessor : Accessor)
    (criteria others : List Value) (p : Predicate) (hp : op.build accessor criteria = .ok p)
    (hnulls : others.map (·.isNull) = criteria.map (·.isNull)) :
    (∃ q, op.build accessor others = .ok q ∧ q.text = p.text ∧ q.form = p.form) ∧
      ∀ b, op = .builtin b →
        (∀ x ∈ p.params, criteria[x.slot]? = some x.value) ∧
        (p.params.map (·.slot)).Pairwise (· < ·) ∧
        (b = .oneOf ∨ b = .notOneOf → Value.allNull criteria = false →
          p.params.map (·.slot) = List.range criteria.length) ∧
        (b = .between ∨ b = .notBetween → p.params.map (·.slot) =
          [0, 1].filter fun slot => !(criterion criteria slot).isNull) := by
  have harity := op.required_le_of_build accessor criteria hp
  cases op with
  | range r =>
    rw [build_range, Except.ok.injEq] at hp
    exact ⟨⟨p, by rw [build_range, hp], rfl, rfl⟩, fun b hb => by cases hb⟩
  | builtin b =>
    have hlength : others.length = criteria.length := by
      simpa using congrArg List.length hnulls
    rw [build_builtin accessor criteria harity, Except.ok.injEq] at hp
    subst hp
    have hform := Builtin.form_build_congr hnulls b accessor
    refine ⟨⟨_, build_builtin accessor others (hlength ▸ harity),
      Predicate.text_eq_of_form_eq hform, hform⟩, ?_⟩
    intro b' hb'
    cases hb'
    rw [Builtin.slots_build]
    refine ⟨?_, b.captured_pairwise criteria, ?_, ?_⟩
    · intro x hx
      rw [Builtin.params_build] at hx
      obtain ⟨slot, hslot, rfl⟩ := List.mem_map.1 hx
      exact getElem?_eq_criterion (Builtin.lt_length_of_mem_captured harity hslot)
    · intro hb
      exact Builtin.captured_of_oneOf (by rcases hb with rfl | rfl <;> rfl)
    · intro hb
      exact Builtin.captured_of_between (by rcases hb with rfl | rfl <;> rfl)

/-- A text that looks like the rest of a condition leaves the condition as it is. -/
theorem text_of_condition_stays_out :
    let op : Operator := .builtin .notOneOf
    let criteria : List Value := [.text "Ada", .null]
    let others : List Value := [.text "Ada) OR (TRUE", .null]
    others.map (·.isNull) = criteria.map (·.isNull) ∧
      ∃ p q, op.build (.field "name") criteria = .ok p ∧ op.build (.field "name") others = .ok q ∧
        q.text = "NOT (name = $0 OR name = $1)" ∧ q.form = p.form ∧
        p.params.map (·.slot) = [0, 1] := by
  intro op criteria others
  have hnulls : others.map (·.isNull) = criteria.map (·.isNull) := rfl
  obtain ⟨⟨q, hq, htext, hform⟩, hcaptured⟩ :=
    values_stay_out_of_text op (.field "name") criteria others _ rfl hnulls
  obtain ⟨-, -, hall, -⟩ := hcaptured .notOneOf rfl
  exact ⟨hnulls, _, q, rfl, hq, htext.trans (by decide), hform, hall (Or.inr rfl) (by decide)⟩

end Operator

end QueryCriteria
