import QueryCriteria.Proofs.Operator.Agreement
import QueryCriteria.Proofs.Value.Order

/-!
# Negated operators are complements

A negated operator shares its rule with a positive one and makes the negation of the same predicate.
A comparison that is not defined does not hold, so its negation does; no row falls between the two.
The one exception comes before the negation: criteria without any value exclude nothing, so that both
operators hold of every row.

* `Builtin.Negates` — an operator is the negated variant of another.
* `Builtin.passesThrough_iff` — the criteria that exclude nothing.
* `Builtin.Opposed` — two answers that are opposite, or both positive where nothing is excluded.
* `Builtin.build_negation` — the predicate of a negated operator is the negation of the predicate.
* `Builtin.opposed_holds`, `Builtin.opposed_admits` — rows and values, for any criteria.
* `Operator.negation_complements` — both ways to apply the operators.
-/

namespace QueryCriteria

namespace Builtin

/-- Whether `n` is the negated variant of the positive operator `p`. -/
structure Negates (n p : Builtin) : Prop where
  rule : n.rule = p.rule
  negated : n.negated = true
  positive : p.negated = false

instance (n p : Builtin) : Decidable (n.Negates p) :=
  decidable_of_iff (n.rule = p.rule ∧ n.negated = true ∧ p.negated = false)
    ⟨fun ⟨hrule, hneg, hpos⟩ => ⟨hrule, hneg, hpos⟩, fun h => ⟨h.rule, h.negated, h.positive⟩⟩

/-- The positive operators that have a negated variant, each with the only one it has. -/
example : (all.flatMap fun p => (all.filter fun n => n.Negates p).map fun n => (p, n)) =
    [(.equal, .notEqual), (.oneOf, .notOneOf), (.contains, .notContains),
      (.startsWith, .notStartsWith), (.between, .notBetween), (.isNull, .isNotNull)] := by
  decide

theorem passesThrough_iff {b : Builtin} {criteria : List Value} :
    b.passesThrough criteria = true ↔ b.arity ≠ .fixed 0 ∧ ∀ c ∈ criteria, c = .null := by
  simp [passesThrough, Arity.isNullary, Value.allNull, Value.isNull_iff]

/-- The answers of an operator and of its negated variant: opposite ones, but two positive ones
where the criteria exclude nothing. -/
structure Opposed (p : Builtin) (criteria : List Value) (yes no : Bool) : Prop where
  pass : p.arity ≠ .fixed 0 → (∀ c ∈ criteria, c = .null) → yes = true ∧ no = true
  opposite : ¬ (p.arity ≠ .fixed 0 ∧ ∀ c ∈ criteria, c = .null) → no = !yes

section

variable {n p : Builtin} (h : n.Negates p)
include h

theorem Negates.arity_eq : n.arity = p.arity := by
  unfold arity
  rw [h.rule]

theorem Negates.passesThrough_eq (criteria : List Value) :
    n.passesThrough criteria = p.passesThrough criteria := by
  unfold passesThrough
  rw [h.arity_eq]

/-- **The predicate of a negated operator is the negation of the predicate** that its positive
variant makes, unless the criteria exclude nothing. -/
theorem build_negation (accessor : Accessor) (criteria : List Value) :
    n.build accessor criteria =
      if p.passesThrough criteria then .always else .not (p.build accessor criteria) := by
  unfold build
  rw [h.passesThrough_eq, h.rule, h.negated, h.positive]
  split <;> rfl

theorem opposed_holds (accessor : Accessor) (criteria : List Value) (row : Row) :
    p.Opposed criteria ((p.build accessor criteria).holds row)
      ((n.build accessor criteria).holds row) := by
  rw [build_negation h]
  constructor
  · intro harity hnull
    have hpass : p.passesThrough criteria = true := passesThrough_iff.2 ⟨harity, hnull⟩
    simp [build, hpass, Predicate.holds]
  · intro hvalue
    have hpass : p.passesThrough criteria = false :=
      Bool.eq_false_iff.2 fun hpass => hvalue (passesThrough_iff.1 hpass)
    rw [hpass, if_neg Bool.false_ne_true]
    rfl

/-- About every value the two operators have opposed answers: a value is a row of its own. -/
theorem opposed_admits (criteria : List Value) (v : Value) :
    p.Opposed criteria (p.admits v criteria) (n.admits v criteria) := by
  have hrow := opposed_holds h .identity criteria (Row.ofValue v)
  have hread : (Row.ofValue v).read .identity = v := rfl
  rwa [holds_build, holds_build, hread] at hrow

end

end Builtin

namespace Operator

/-- **A negated operator is the complement of its positive variant.**  Criteria that one of them
accepts both accept.  Then their predicates have opposite values on every row, also where the field
is missing or a comparison is not defined, and direct matching gives opposite answers; except that an
operator that reads values, given none but nulls, holds of everything together with its negation. -/
theorem negation_complements {n p : Builtin} (h : n.Negates p) {criteria : List Value}
    (hcriteria : p.arity.required ≤ criteria.length) :
    (∀ accessor, ∃ yes no, (builtin p).build accessor criteria = .ok yes ∧
        (builtin n).build accessor criteria = .ok no ∧
        ∀ row, p.Opposed criteria (yes.holds row) (no.holds row)) ∧
      ∀ v, ∃ yes no, (builtin p).admits v criteria = .ok yes ∧
        (builtin n).admits v criteria = .ok no ∧ p.Opposed criteria yes no := by
  have hnegated : n.arity.required ≤ criteria.length := by
    rw [h.arity_eq]
    exact hcriteria
  constructor
  · intro accessor
    exact ⟨_, _, build_builtin accessor criteria hcriteria, build_builtin accessor criteria hnegated,
      Builtin.opposed_holds h accessor criteria⟩
  · intro v
    exact ⟨_, _, admits_builtin criteria v hcriteria, admits_builtin criteria v hnegated,
      Builtin.opposed_admits h criteria v⟩

/-- A row without an age lies in no interval from 18 on; so it lies outside of it. -/
theorem missing_age_is_not_between :
    let criteria : List Value := [.int 18, .null]
    let row : Row := Row.ofFields []
    Builtin.notBetween.Negates .between ∧ Builtin.between.arity.required ≤ criteria.length ∧
      ∃ yes no, (builtin .between).build (.field "age") criteria = .ok yes ∧
        (builtin .notBetween).build (.field "age") criteria = .ok no ∧
        yes.holds row = false ∧ no.holds row = true := by
  intro criteria row
  have h : Builtin.notBetween.Negates .between := by decide
  have hcriteria : Builtin.between.arity.required ≤ criteria.length := by decide
  obtain ⟨hbuild, -⟩ := negation_complements h hcriteria
  obtain ⟨yes, no, hyes, hno, hopposed⟩ := hbuild (.field "age")
  have hrow : yes.holds row = false := by
    cases hyes
    rfl
  refine ⟨h, hcriteria, yes, no, hyes, hno, hrow, ?_⟩
  rw [(hopposed row).opposite (by decide), hrow]
  rfl

end Operator

end QueryCriteria
