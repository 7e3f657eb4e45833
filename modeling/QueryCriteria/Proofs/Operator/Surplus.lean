import QueryCriteria.Proofs.Operator.Capture

/-!
# Values behind those that an operator reads

The rule of an operator of `n` values reads the first `n` of a longer list.  Whether the operator
passes every row is asked of the whole list, though, so a value behind the first `n` counts if those
are all null.

* `criterion_take`, `Rule.build_take` — a rule does not read the surplus.
* `Builtin.passesThrough_take` — the whole list passes every row only if the values read do.
* `Builtin.build_take` — the surplus is ignored where it does not decide about that.
* `Builtin.build_between_of_blank`, `Builtin.isAlways_build` — the operators whose predicate is the
  trivial one.
* `Builtin.build_take_iff`, `Builtin.admits_congr` — the lists of which the surplus is ignored in
  predicates, and so in direct matching.
* `Operator.surplus_ignored_iff` — both for operators that are given enough values.
* `Operator.surplus_behind_null_counts` — a list of which the surplus is not ignored.
-/

namespace QueryCriteria

section Rules

variable {n : Nat} {criteria : List Value}

theorem criterion_take (criteria : List Value) {slot : Nat} (h : slot < n) :
    criterion (criteria.take n) slot = criterion criteria slot := by
  simp [criterion, List.getD_eq_getElem?_getD, h]

theorem Rule.build_take {rule : Rule} (h : rule.arity = .fixed n) (accessor : Accessor) :
    rule.build accessor (criteria.take n) = rule.build accessor criteria := by
  cases rule with
  | oneOf => cases h
  | isNull => rfl
  | between =>
    cases h
    simp only [Rule.build, Builtin.betweenConditions, Builtin.param,
      criterion_take criteria Nat.zero_lt_two, criterion_take criteria Nat.one_lt_two]
  | _ =>
    cases h
    simp only [Rule.build, Builtin.param, criterion_take criteria Nat.zero_lt_one]

end Rules

section Builtins

variable {b : Builtin} {n : Nat} {criteria : List Value}

namespace Builtin

theorem passesThrough_take (h : b.passesThrough criteria = true) :
    b.passesThrough (criteria.take n) = true := by
  simp only [passesThrough, Value.allNull, Bool.and_eq_true, List.all_eq_true] at h ⊢
  exact ⟨h.1, fun v hv => h.2 v (List.mem_of_mem_take hv)⟩

theorem build_take (h : b.arity = .fixed n)
    (hpass : b.passesThrough (criteria.take n) = true → b.passesThrough criteria = true)
    (accessor : Accessor) :
    b.build accessor (criteria.take n) = b.build accessor criteria := by
  have hsame : b.passesThrough (criteria.take n) = b.passesThrough criteria :=
    Bool.eq_iff_iff.2 ⟨hpass, passesThrough_take⟩
  unfold build
  rw [hsame, Rule.build_take h]

/-- `between` puts no condition where both ends are blank, whatever comes behind them. -/
theorem build_between_of_blank (hlower : (criterion criteria 0).isNull = true)
    (hupper : (criterion criteria 1).isNull = true) (accessor : Accessor) :
    between.build accessor criteria = .always := by
  unfold build
  split
  · rfl
  · simp [negated, rule, Rule.build, betweenConditions, hlower, hupper, Predicate.conjunction]

theorem isAlways_build (h : b.arity = .fixed n) (hb : b ≠ .between) (accessor : Accessor) :
    (b.build accessor criteria).isAlways = b.passesThrough criteria := by
  unfold build
  cases hpass : b.passesThrough criteria with
  | true => rfl
  | false =>
    cases b with
    | between => exact absurd rfl hb
    | oneOf | notOneOf => cases h
    | _ => rfl

theorem admits_congr {others : List Value}
    (h : b.build .identity criteria = b.build .identity others) (v : Value) :
    b.admits v criteria = b.admits v others := by
  have hread : (Row.ofValue v).read .identity = v := rfl
  rw [← hread, ← holds_build, ← holds_build, h]

theorem passesThrough_eq (h : b.arity = .fixed n) :
    b.passesThrough criteria = (n != 0 && Value.allNull criteria) := by
  have hnullary : (Arity.fixed n).isNullary = (n == 0) := by
    unfold Arity.isNullary
    cases n <;> rfl
  rw [passesThrough, h, hnullary]
  rfl

theorem build_take_iff (h : b.arity = .fixed n) :
    (∀ accessor, b.build accessor criteria = b.build accessor (criteria.take n)) ↔
      n = 0 ∨ b = .between ∨ Value.allNull criteria = true ∨
        Value.allNull (criteria.take n) = false := by
  constructor
  · intro hbuild
    -- The predicate of `between` may be trivial although not every row passes.
    by_cases hb : b = .between
    · exact Or.inr (Or.inl hb)
    · have hpass : b.passesThrough criteria = b.passesThrough (criteria.take n) := by
        rw [← isAlways_build h hb .identity, hbuild .identity, isAlways_build h hb]
      rw [passesThrough_eq h, passesThrough_eq h] at hpass
      by_cases hn : n = 0
      · exact Or.inl hn
      · have hall : Value.allNull criteria = Value.allNull (criteria.take n) := by
          rwa [bne_iff_ne.2 hn, Bool.true_and, Bool.true_and] at hpass
        cases htake : Value.allNull (criteria.take n) with
        | false => exact Or.inr (Or.inr (Or.inr rfl))
        | true => exact Or.inr (Or.inr (Or.inl (hall.trans htake)))
  · intro hcond accessor
    by_cases hpass : b.passesThrough (criteria.take n) = true → b.passesThrough criteria = true
    · exact (build_take h hpass accessor).symm
    · -- The values read are all null and the others are not; so this is `between`.
      obtain ⟨htake, hall⟩ := Classical.not_imp.1 hpass
      rw [passesThrough_eq h, Bool.and_eq_true, bne_iff_ne] at htake hall
      have hb : b = .between := by
        rcases hcond with hn | hb | hnull | hnot
        · exact absurd hn htake.1
        · exact hb
        · exact absurd ⟨htake.1, hnull⟩ hall
        · rw [htake.2] at hnot
          cases hnot
      subst hb
      cases h
      have hblank := isNull_criterion_of_allNull htake.2
      have hread : ∀ slot < 2, (criterion criteria slot).isNull = true := fun slot hslot =>
        criterion_take criteria hslot ▸ hblank slot
      rw [build_between_of_blank (hread 0 Nat.zero_lt_two) (hread 1 Nat.one_lt_two),
        build_between_of_blank (hblank 0) (hblank 1)]

end Builtin

end Builtins

namespace Operator

/-- **Surplus values are ignored unless the values read are all null.**  Let an operator of `n`
values be given at least so many.  It admits the same values, and makes the same predicates, with
the first `n` of them alone, exactly if it reads none, or is `between`, or all values are null, or
not all of the first `n` are. -/
theorem surplus_ignored_iff (b : Builtin) (n : Nat) (criteria : List Value)
    (hb : b.arity = .fixed n) (hn : n ≤ criteria.length) :
    ((∀ v, (builtin b).admits v criteria = (builtin b).admits v (criteria.take n)) ∧
        ∀ accessor, (builtin b).build accessor criteria =
          (builtin b).build accessor (criteria.take n)) ↔
      n = 0 ∨ b = .between ∨ Value.allNull criteria = true ∨
        Value.allNull (criteria.take n) = false := by
  have hall : b.arity.required ≤ criteria.length := by
    rw [hb]
    exact hn
  have hread : b.arity.required ≤ (criteria.take n).length := by
    rw [hb, List.length_take_of_le hn]
    exact Nat.le_refl n
  rw [← Builtin.build_take_iff hb]
  simp only [build_builtin _ _ hall, build_builtin _ _ hread, admits_builtin _ _ hall,
    admits_builtin _ _ hread, Except.ok.injEq]
  exact ⟨And.right, fun h => ⟨Builtin.admits_congr (h .identity), h⟩⟩

/-- A text and a null: the null behind the text that is read does not count. -/
theorem null_behind_text_is_ignored :
    let b : Builtin := .notStartsWith
    let criteria : List Value := [.text "A", .null, .int 3]
    b.arity = .fixed 1 ∧ 1 ≤ criteria.length ∧
      (∀ v, (builtin b).admits v criteria = (builtin b).admits v [.text "A"]) ∧
      ∀ accessor, (builtin b).build accessor criteria = (builtin b).build accessor [.text "A"] := by
  intro b criteria
  have hb : b.arity = .fixed 1 := rfl
  have hn : 1 ≤ criteria.length := by decide
  have hread : Value.allNull (criteria.take 1) = false := by decide
  exact ⟨hb, hn, (surplus_ignored_iff b 1 criteria hb hn).2 (Or.inr (Or.inr (Or.inr hread)))⟩

/-- **A value behind a null counts**: to equal null, which would pass every row, tests whether there
is no value if a number follows, although equality reads one value only. -/
theorem surplus_behind_null_counts :
    ¬ ∀ (b : Builtin) (n : Nat) (criteria : List Value), b.arity = .fixed n →
      n ≤ criteria.length →
        (∀ v, (builtin b).admits v criteria = (builtin b).admits v (criteria.take n)) ∧
        ∀ accessor, (builtin b).build accessor criteria =
          (builtin b).build accessor (criteria.take n) := by
  intro ignored
  have hseven := (ignored .equal 1 [.null, .int 5] rfl (by decide)).1 (.int 7)
  have hall : (builtin .equal).admits (.int 7) [.null, .int 5] = .ok false := rfl
  have hread : (builtin .equal).admits (.int 7) [.null] = .ok true := rfl
  rw [hall, List.take_succ_cons, List.take_zero, hread] at hseven
  cases hseven

end Operator

end QueryCriteria
