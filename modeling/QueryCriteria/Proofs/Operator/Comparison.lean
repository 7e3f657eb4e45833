import QueryCriteria.Proofs.Operator.Agreement
import QueryCriteria.Proofs.Value.Order

/-!
# Comparisons and closed intervals

The comparisons with a criterion split the values that are ordered beside it, and leave out the
others.  A closed interval is written in three ways: as `between` its ends, as two comparisons, and
as a range.  A blank end is passed over by the first, passes every value in the second, and is no
bound of the third.

* `Builtin.places`, `Builtin.admits_of_mem_comparisons` — the comparisons, and the places beside a
  criterion that each of them admits.
* `Builtin.admits_greaterOrEqual`, `Builtin.admits_lessOrEqual` — the comparisons with an end that
  may be blank.
* `Builtin.admits_between` — an interval is two comparisons.
* `Bound.closed?` — the bound that an end puts.
* `Range.contains_closed`, `Range.build_closed` — a range of such bounds is the interval, as a test
  and as a predicate.
* `Operator.comparisons_split_values` — the same about operators.
-/

namespace QueryCriteria

/-! ## Places -/

section Places

variable (o : Option Ordering)

theorem beq_some_eq_any (place : Ordering) : (o == some place) = o.any ([place].contains ·) := by
  rcases o with _ | _ | _ | _ <;> cases place <;> rfl

theorem any_ne_gt : o.any (· != .gt) = o.any ([Ordering.lt, .eq].contains ·) := by
  rcases o with _ | _ | _ | _ <;> rfl

theorem any_ne_lt : o.any (· != .lt) = o.any ([Ordering.eq, .gt].contains ·) := by
  rcases o with _ | _ | _ | _ <;> rfl

end Places

/-! ## Comparisons -/

namespace Builtin

variable {b : Builtin} {c : Value}

/-- The operators that compare a value with one criterion. -/
def comparisons : List Builtin :=
  [.lessThan, .equal, .greaterThan, .lessOrEqual, .greaterOrEqual]

/-- The places beside its criterion that a comparison admits. -/
def places : Builtin → List Ordering
  | .lessThan => [.lt]
  | .equal => [.eq]
  | .greaterThan => [.gt]
  | .lessOrEqual => [.lt, .eq]
  | .greaterOrEqual => [.eq, .gt]
  | _ => []

theorem required_of_mem_comparisons (hb : b ∈ comparisons) : b.arity.required ≤ 1 := by
  have hall : ∀ b ∈ comparisons, b.arity.required ≤ 1 := by decide
  exact hall b hb

theorem admits_single (hneg : b.negated = false) (hc : c ≠ .null) (v : Value) :
    b.admits v [c] = b.rule.admits v [c] := by
  have hpass : b.passesThrough [c] = false := by
    simp [passesThrough, Value.allNull, Value.isNull_eq_false_iff.2 hc]
  rw [admits, hpass, hneg, Bool.false_or, Bool.bne_false]

/-- **A comparison admits the values that stand at its places beside the criterion**, and none
without an order beside it. -/
theorem admits_of_mem_comparisons (hb : b ∈ comparisons) (hc : c ≠ .null) (v : Value) :
    b.admits v [c] = (v.order c).any (b.places.contains ·) := by
  simp only [comparisons, List.mem_cons, List.not_mem_nil, or_false] at hb
  rcases hb with rfl | rfl | rfl | rfl | rfl
  · exact (admits_single rfl hc v).trans (beq_some_eq_any _ .lt)
  · exact (admits_single rfl hc v).trans
      ((Value.equal_eq_order hc).trans (beq_some_eq_any _ .eq))
  · exact (admits_single rfl hc v).trans (beq_some_eq_any _ .gt)
  · exact (admits_single rfl hc v).trans (any_ne_gt _)
  · exact (admits_single rfl hc v).trans (any_ne_lt _)

/-! ## Ends that may be blank -/

/-- A blank lower end passes every value. -/
theorem admits_greaterOrEqual (v lo : Value) :
    greaterOrEqual.admits v [lo] = (lo.isNull || (v.order lo).any (· != .lt)) := by
  by_cases hlo : lo = .null
  · rw [hlo]
    rfl
  · rw [Value.isNull_eq_false_iff.2 hlo, Bool.false_or]
    exact admits_single rfl hlo v

/-- A blank upper end passes every value. -/
theorem admits_lessOrEqual (v hi : Value) :
    lessOrEqual.admits v [hi] = (hi.isNull || (v.order hi).any (· != .gt)) := by
  by_cases hhi : hi = .null
  · rw [hhi]
    rfl
  · rw [Value.isNull_eq_false_iff.2 hhi, Bool.false_or]
    exact admits_single rfl hhi v

theorem passesThrough_between (lo hi : Value) :
    between.passesThrough [lo, hi] = (lo.isNull && hi.isNull) := by
  simp [passesThrough, Value.allNull, arity, rule, Rule.arity, Arity.isNullary]

/-- **Between two ends** lie the values that are at least the one and at most the other. -/
theorem admits_between (v lo hi : Value) :
    between.admits v [lo, hi] = (greaterOrEqual.admits v [lo] && lessOrEqual.admits v [hi]) := by
  have hrule : between.rule.admits v [lo, hi] =
      (greaterOrEqual.admits v [lo] && lessOrEqual.admits v [hi]) := by
    rw [admits_greaterOrEqual, admits_lessOrEqual]
    rfl
  have hneg : between.negated = false := rfl
  rw [admits, hrule, hneg, Bool.bne_false]
  cases hpass : between.passesThrough [lo, hi] with
  | false => rfl
  | true =>
    -- Nothing is excluded where both ends are blank.
    rw [passesThrough_between, Bool.and_eq_true] at hpass
    rw [admits_greaterOrEqual, admits_lessOrEqual, hpass.1, hpass.2]
    rfl

end Builtin

/-! ## Ranges -/

/-- The bound that an end puts, which belongs to the range; a blank end puts none. -/
def Bound.closed? (v : Value) : Option Bound :=
  if v.isNull then none else some ⟨v, true⟩

namespace Range

variable {r : Range} {lo hi : Value}

theorem contains_closed (hlower : r.lower = Bound.closed? lo) (hupper : r.upper = Bound.closed? hi)
    (v : Value) :
    r.contains v = (Builtin.greaterOrEqual.admits v [lo] && Builtin.lessOrEqual.admits v [hi]) := by
  rw [contains, hlower, hupper, Builtin.admits_greaterOrEqual, Builtin.admits_lessOrEqual]
  unfold Bound.closed?
  congr 1
  · cases lo.isNull with
    | true => rfl
    | false => exact any_isGE _
  · cases hi.isNull with
    | true => rfl
    | false => exact any_isLE _

theorem build_closed (hlower : r.lower = Bound.closed? lo) (hupper : r.upper = Bound.closed? hi)
    (accessor : Accessor) : r.build accessor = Builtin.between.build accessor [lo, hi] := by
  have hconditions : r.conditions accessor = Builtin.betweenConditions accessor [lo, hi] := by
    rw [conditions, hlower, hupper]
    unfold Bound.closed? Builtin.betweenConditions
    show _ = (if lo.isNull then [] else _) ++ (if hi.isNull then [] else _)
    cases lo.isNull <;> cases hi.isNull <;> rfl
  unfold Builtin.build
  split
  · rename_i hpass
    rw [Builtin.passesThrough_between, Bool.and_eq_true] at hpass
    rw [build, conditions, hlower, hupper, Bound.closed?, Bound.closed?, hpass.1, hpass.2]
    rfl
  · exact congrArg Predicate.conjunction hconditions

end Range

/-! ## Operators -/

namespace Operator

/-- **Comparisons split the values, and make up intervals.**  Of less, equal and greater than a
criterion that is not null exactly one admits a value that is ordered beside it, and none admits
another value; at most is less or equal, and at least is greater or equal.  Of any two ends, blank
or not, `between` admits what is at least the one and at most the other; and so does every range of
the closed bounds that they put, which makes the same predicate. -/
theorem comparisons_split_values (v : Value) :
    (∀ c, c ≠ .null → ∃ less same more : Bool, (builtin .lessThan).admits v [c] = .ok less ∧
      (builtin .equal).admits v [c] = .ok same ∧ (builtin .greaterThan).admits v [c] = .ok more ∧
      (builtin .lessOrEqual).admits v [c] = .ok (less || same) ∧
      (builtin .greaterOrEqual).admits v [c] = .ok (more || same) ∧
      [less, same, more].count true = if (v.order c).isSome then 1 else 0) ∧
    ∀ lo hi, ∃ above below : Bool, (builtin .greaterOrEqual).admits v [lo] = .ok above ∧
      (builtin .lessOrEqual).admits v [hi] = .ok below ∧
      (builtin .between).admits v [lo, hi] = .ok (above && below) ∧
      ∀ r : Range, r.lower = Bound.closed? lo → r.upper = Bound.closed? hi → ∀ criteria,
        (range r).admits v criteria = .ok (above && below) ∧
        ∀ accessor, ∃ p, (builtin .between).build accessor [lo, hi] = .ok p ∧
          (range r).build accessor criteria = .ok p := by
  constructor
  · intro c hc
    -- All five answers are read off the place that `v` has beside `c`, if it has one.
    have hplaces : ∀ b ∈ Builtin.comparisons,
        (builtin b).admits v [c] = .ok ((v.order c).any (b.places.contains ·)) := by
      intro b hb
      rw [admits_builtin [c] v (Builtin.required_of_mem_comparisons hb),
        Builtin.admits_of_mem_comparisons hb hc]
    refine ⟨_, _, _, hplaces .lessThan (by decide), hplaces .equal (by decide),
      hplaces .greaterThan (by decide), ?_, ?_, ?_⟩
    · rw [hplaces .lessOrEqual (by decide)]
      rcases v.order c with _ | _ | _ | _ <;> rfl
    · rw [hplaces .greaterOrEqual (by decide)]
      rcases v.order c with _ | _ | _ | _ <;> rfl
    · rcases v.order c with _ | _ | _ | _ <;> rfl
  · intro lo hi
    have hbetween := admits_builtin (b := .between) [lo, hi] v (Nat.le_refl 2)
    rw [Builtin.admits_between] at hbetween
    refine ⟨_, _, admits_builtin [lo] v (Nat.le_refl 1), admits_builtin [hi] v (Nat.le_refl 1),
      hbetween, ?_⟩
    intro r hlower hupper criteria
    refine ⟨congrArg Except.ok (Range.contains_closed hlower hupper v), fun accessor => ?_⟩
    exact ⟨_, build_builtin accessor _ (Nat.le_refl 2),
      congrArg Except.ok (Range.build_closed hlower hupper accessor)⟩

/-- Beside not-a-number nothing is less, equal or greater; and an interval without lower end is a
range without lower bound. -/
theorem nothing_compares_with_nan :
    let nan : Value := .float .nan
    let five : Value := .int 5
    let upToFive : Range := .make "[,5]" none (some ⟨five, true⟩)
    nan ≠ .null ∧ (builtin .lessThan).admits five [nan] = .ok false ∧
      (builtin .equal).admits five [nan] = .ok false ∧
      (builtin .greaterThan).admits five [nan] = .ok false ∧
      upToFive.lower = Bound.closed? .null ∧ upToFive.upper = Bound.closed? five ∧
      (builtin .between).admits five [.null, five] = (range upToFive).admits five [] := by
  intro nan five upToFive
  have hnan : nan ≠ .null := by decide
  have hlower : upToFive.lower = Bound.closed? .null := rfl
  have hupper : upToFive.upper = Bound.closed? five := rfl
  have hnone : (five.order nan).isSome = false := rfl
  obtain ⟨hsplit, hends⟩ := comparisons_split_values five
  obtain ⟨less, same, more, hless, hsame, hmore, -, -, hcount⟩ := hsplit nan hnan
  obtain ⟨above, below, -, -, hbetween, hrange⟩ := hends .null five
  have hfalse : less = false ∧ same = false ∧ more = false := by
    rw [hnone] at hcount
    revert hcount
    cases less <;> cases same <;> cases more <;> decide
  obtain ⟨rfl, rfl, rfl⟩ := hfalse
  exact ⟨hnan, hless, hsame, hmore, hlower, hupper,
    hbetween.trans (hrange upToFive hlower hupper []).1.symm⟩

end Operator

end QueryCriteria
