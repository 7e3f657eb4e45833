import QueryCriteria.Operator.Basic

/-!
# Predicates and direct matching agree

An operator is applied in two ways: `Operator.build` makes a predicate, whose value on a row is
found by `Predicate.holds`, and `Operator.admits` decides about a value at once.

* `Predicate.holds_conjunction`, `Predicate.holds_disjunction` — the connectives without their
  trivial forms hold as the plain ones do.
* `Rule.holds_build`, `Builtin.holds_build`, `Range.holds_build` — the predicate of a rule, of a
  built-in operator and of a range holds of exactly the rows whose value they admit.
* `Operator.build_builtin`, `Operator.admits_builtin` — a built-in operator that has enough values
  is not refused.
* `Operator.build_range` — nor is a range ever.
* `Operator.build_eq_error_iff` — an operator is refused exactly when values are missing.
* `Operator.build_agrees_with_admits` — both ways give the same error, or the same answer on every
  row.
-/

namespace QueryCriteria

/-! ## Connectives -/

namespace Predicate

theorem holds_conjunction (row : Row) :
    ∀ ps : List Predicate, (conjunction ps).holds row = ps.all (·.holds row)
  | [] => rfl
  | [p] => by simp [conjunction]
  | p :: q :: ps => by simp only [conjunction, holds, allHold_eq_all]

theorem holds_disjunction (row : Row) :
    ∀ ps : List Predicate, (disjunction ps).holds row = ps.any (·.holds row)
  | [] => rfl
  | [p] => by simp [disjunction]
  | p :: q :: ps => by simp only [disjunction, holds, anyHolds_eq_any]

end Predicate

/-! ## Comparisons

A predicate tests an order by `isLT` and its kin, direct matching by the one ordering it wants or
does not want. -/

section Orderings

variable (o : Option Ordering)

theorem any_isLT : o.any (·.isLT) = (o == some .lt) := by
  rcases o with _ | _ | _ | _ <;> rfl

theorem any_isGT : o.any (·.isGT) = (o == some .gt) := by
  rcases o with _ | _ | _ | _ <;> rfl

theorem any_isLE : o.any (·.isLE) = o.any (· != .gt) := by
  rcases o with _ | _ | _ | _ <;> rfl

theorem any_isGE : o.any (·.isGE) = o.any (· != .lt) := by
  rcases o with _ | _ | _ | _ <;> rfl

end Orderings

/-! ## Built-in operators -/

section Builtins

variable (accessor : Accessor) (criteria : List Value) (row : Row)

/-- The position a criterion was supplied at does not count. -/
theorem Builtin.any_memberConditions :
    (memberConditions accessor criteria).any (·.holds row) =
      criteria.any ((row.read accessor).equal ·) := by
  have hfst : criteria.zipIdx.map Prod.fst = criteria := List.zipIdx_map_fst 0 criteria
  calc (memberConditions accessor criteria).any (·.holds row)
      = (criteria.zipIdx.map Prod.fst).any ((row.read accessor).equal ·) := by
        rw [memberConditions, List.any_map, List.any_map]
        rfl
    _ = criteria.any ((row.read accessor).equal ·) := by rw [hfst]

/-- A blank end puts no condition, and is passed over in direct matching. -/
theorem Builtin.all_betweenConditions :
    (betweenConditions accessor criteria).all (·.holds row) =
      Rule.between.admits (row.read accessor) criteria := by
  unfold betweenConditions Rule.admits
  rw [List.all_append]
  congr 1
  · by_cases h : (criterion criteria 0).isNull = true
    · simp [h]
    · simp [h, Predicate.holds, Comparison.holds, param, any_isGE]
  · by_cases h : (criterion criteria 1).isNull = true
    · simp [h]
    · simp [h, Predicate.holds, Comparison.holds, param, any_isLE]

theorem Rule.holds_build (rule : Rule) :
    (rule.build accessor criteria).holds row = rule.admits (row.read accessor) criteria := by
  cases rule with
  | equal | contains | startsWith | isNull => rfl
  | oneOf => rw [Rule.build, Predicate.holds_disjunction, Builtin.any_memberConditions]; rfl
  | lessThan => exact any_isLT _
  | lessOrEqual => exact any_isLE _
  | greaterThan => exact any_isGT _
  | greaterOrEqual => exact any_isGE _
  | between => rw [Rule.build, Predicate.holds_conjunction, Builtin.all_betweenConditions]

theorem Builtin.holds_build (b : Builtin) :
    (b.build accessor criteria).holds row = b.admits (row.read accessor) criteria := by
  unfold Builtin.build Builtin.admits
  split
  · rename_i hpass
    simp [hpass, Predicate.holds]
  · rename_i hpass
    split
    · rename_i hneg
      simp [hpass, hneg, Predicate.holds, Rule.holds_build]
    · rename_i hneg
      simp [hpass, hneg, Rule.holds_build]

end Builtins

/-! ## Ranges -/

theorem Bound.holds_lowerComparison (b : Bound) (v : Value) :
    b.lowerComparison.holds v b.value = b.admitsAbove v := by
  unfold lowerComparison admitsAbove
  split
  · rfl
  · exact congrArg (v.order b.value).any (funext fun o => by cases o <;> rfl)

theorem Bound.holds_upperComparison (b : Bound) (v : Value) :
    b.upperComparison.holds v b.value = b.admitsBelow v := by
  unfold upperComparison admitsBelow
  split
  · rfl
  · exact congrArg (v.order b.value).any (funext fun o => by cases o <;> rfl)

theorem Range.holds_build (r : Range) (accessor : Accessor) (row : Row) :
    (r.build accessor).holds row = r.contains (row.read accessor) := by
  unfold Range.build Range.conditions Range.contains
  rw [Predicate.holds_conjunction, List.all_append]
  congr 1
  · cases r.lower with
    | none => rfl
    | some b => simp [Predicate.holds, Bound.holds_lowerComparison]
  · cases r.upper with
    | none => rfl
    | some b => simp [Predicate.holds, Bound.holds_upperComparison]

/-! ## Operators -/

namespace Operator

variable (op : Operator) (accessor : Accessor) (criteria : List Value)

theorem checkArity_eq_error_iff (supplied : Nat) (e : OperatorError) :
    op.checkArity supplied = .error e ↔
      supplied < op.arity.required ∧ e = .arity op.canonicalName op.arity.required supplied := by
  unfold checkArity
  split
  · rename_i h
    simp [h, eq_comm]
  · rename_i h
    simp [h]

theorem checkArity_of_le {supplied : Nat} (h : op.arity.required ≤ supplied) :
    op.checkArity supplied = .ok () :=
  if_neg (Nat.not_lt.2 h)

theorem build_builtin {b : Builtin} (h : b.arity.required ≤ criteria.length) :
    (builtin b).build accessor criteria = .ok (b.build accessor criteria) := by
  unfold build
  rw [checkArity_of_le (.builtin b) h]
  rfl

theorem admits_builtin {b : Builtin} (v : Value) (h : b.arity.required ≤ criteria.length) :
    (builtin b).admits v criteria = .ok (b.admits v criteria) := by
  unfold admits
  rw [checkArity_of_le (.builtin b) h]
  rfl

/-- A range needs no values, and ignores any. -/
theorem build_range (r : Range) : (range r).build accessor criteria = .ok (r.build accessor) := rfl

/-- An operator is refused exactly when values are missing, and the error says how many. -/
theorem build_eq_error_iff (e : OperatorError) :
    op.build accessor criteria = .error e ↔
      criteria.length < op.arity.required ∧
        e = .arity op.canonicalName op.arity.required criteria.length := by
  rw [← checkArity_eq_error_iff]
  unfold build
  cases op.checkArity criteria.length <;> simp [Except.map]

theorem required_le_of_build {p : Predicate} (h : op.build accessor criteria = .ok p) :
    op.arity.required ≤ criteria.length := by
  refine Nat.not_lt.1 fun hlt => ?_
  rw [(build_eq_error_iff op accessor criteria _).2 ⟨hlt, rfl⟩] at h
  cases h

/-- **The two ways to apply an operator agree**: with too few values both give the same error, and
otherwise the predicate holds of exactly the rows whose value, `null` if there is none, the
operator admits. -/
theorem build_agrees_with_admits (row : Row) :
    (op.build accessor criteria).map (·.holds row) = op.admits (row.read accessor) criteria ∧
      ∀ e, op.build accessor criteria = .error e ↔
        criteria.length < op.arity.required ∧
          e = .arity op.canonicalName op.arity.required criteria.length := by
  refine ⟨?_, build_eq_error_iff op accessor criteria⟩
  unfold build admits
  cases op.checkArity criteria.length with
  | error e => rfl
  | ok _ =>
    cases op with
    | builtin b => exact congrArg Except.ok (b.holds_build accessor criteria row)
    | range r => exact congrArg Except.ok (r.holds_build accessor row)

end Operator

end QueryCriteria
