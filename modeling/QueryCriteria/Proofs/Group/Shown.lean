import Mathlib.Data.List.Basic
import QueryCriteria.Group.Sentence
import QueryCriteria.Proofs.Group.Catalog
import QueryCriteria.Proofs.Group.Condition
import QueryCriteria.Proofs.Operator.Capture

/-!
# What a sentence shows of a condition

The sentence of a group is made from its record, and its condition from the values that the
operator reads of this record.

* `Value.shown`, `Predicate.shown` — the texts of the values, and of the parameters of a condition,
  that are not null.
* `Arity.read` — the values that an operator reads of a list.
* `Builtin.shown_build` — a condition shows the values that its operator reads.
* `Group.WellBuilt.takes_criterion` — a record has as many values as its operator takes, unless this
  takes one.
* `Group.sentence_shows_condition` — a sentence shows the parameters of the condition, except where
  an operator of one value has others behind it that are not null.
* `Group.unread_value_is_shown` — such a sentence.
-/

namespace QueryCriteria

/-! ## Texts of values -/

namespace Value

/-- The texts of the values that are not null. -/
def shown (values : List Value) : List String :=
  (values.filter (!·.isNull)).map (·.display)

theorem shown_append (vs ws : List Value) : shown (vs ++ ws) = shown vs ++ shown ws := by
  simp [shown]

theorem shown_eq_nil_iff {values : List Value} : shown values = [] ↔ allNull values = true := by
  simp [shown, allNull]

theorem shown_criterion (values : List Value) (slot : Nat) :
    shown [criterion values slot] = shown values[slot]?.toList := by
  rw [criterion, List.getD_eq_getElem?_getD]
  cases values[slot]? <;> rfl

theorem shown_take_iff {values : List Value} {count : Nat} :
    shown values = shown (values.take count) ↔ allNull (values.drop count) = true := by
  have hparts : shown values = shown (values.take count) ++ shown (values.drop count) := by
    rw [← shown_append, List.take_append_drop]
  rw [hparts, List.append_right_eq_self, shown_eq_nil_iff]

end Value

/-- The values that an operator reads of a list. -/
def Arity.read : Arity → List Value → List Value
  | .fixed count, values => values.take count
  | .unbounded, values => values

theorem Arity.read_of_takes {a : Arity} {values : List Value}
    (h : a.takes values.length = true) : a.read values = values := by
  cases a with
  | fixed count => exact List.take_of_length_le (Nat.le_of_eq (beq_iff_eq.1 h))
  | unbounded => rfl

theorem Arity.shown_read_of_allNull (a : Arity) {values : List Value}
    (h : Value.allNull values = true) : Value.shown (a.read values) = [] := by
  rw [Value.shown_eq_nil_iff]
  unfold Value.allNull at h ⊢
  rw [List.all_eq_true] at h ⊢
  intro v hv
  cases a with
  | fixed count => exact h v (List.mem_of_mem_take hv)
  | unbounded => exact h v hv

/-! ## Parameters of conditions -/

namespace Predicate

/-- The texts of the parameters of a condition that are not null, in tree order. -/
def shown (p : Predicate) : List String :=
  Value.shown (p.params.map (·.value))

end Predicate

section Conditions

variable (accessor : Accessor) (criteria : List Value)

theorem map_criterion_range : (List.range criteria.length).map (criterion criteria) = criteria := by
  refine List.ext_getElem (by simp) fun slot hslot _ => ?_
  simp [criterion, (by simpa using hslot : slot < criteria.length)]

theorem Builtin.shown_ends :
    Value.shown ((ends criteria).map (criterion criteria)) =
      Value.shown [criterion criteria 0] ++ Value.shown [criterion criteria 1] := by
  unfold ends
  cases hlower : (criterion criteria 0).isNull <;> cases hupper : (criterion criteria 1).isNull <;>
    simp [Value.shown, hlower, hupper]

theorem Rule.shown_build (rule : Rule) :
    (rule.build accessor criteria).shown = Value.shown (rule.arity.read criteria) := by
  have hone : Value.shown [criterion criteria 0] = Value.shown (criteria.take 1) := by
    rw [Value.shown_criterion]
    cases criteria <;> rfl
  rw [Predicate.shown, Rule.params_build, List.map_map]
  cases rule with
  | equal | contains | startsWith | lessThan | lessOrEqual | greaterThan | greaterOrEqual =>
    exact hone
  | isNull => rfl
  | oneOf => exact congrArg Value.shown (map_criterion_range criteria)
  | between =>
    have htwo : criteria.take 2 = criteria[0]?.toList ++ criteria[1]?.toList := by
      cases criteria with
      | nil => rfl
      | cons lower rest => cases rest <;> rfl
    refine (Builtin.shown_ends criteria).trans ?_
    rw [Value.shown_criterion, Value.shown_criterion, ← Value.shown_append, ← htwo]
    rfl

/-- **A condition shows the values that its operator reads.** -/
theorem Builtin.shown_build (b : Builtin) :
    (b.build accessor criteria).shown = Value.shown (b.arity.read criteria) := by
  unfold Builtin.build
  split
  · rename_i hpass
    rw [passesThrough, Bool.and_eq_true] at hpass
    rw [b.arity.shown_read_of_allNull hpass.2]
    rfl
  · split
    · exact b.rule.shown_build accessor criteria
    · exact b.rule.shown_build accessor criteria

end Conditions

/-! ## Sentences -/

namespace Group

section Built

variable {f : Field} {o : GroupOptions} {catalog : Catalog} {g : Group}

/-- The record of a group of a canonical catalog has the values that its operator takes, unless this
takes one: its slot may hold several. -/
theorem WellBuilt.takes_criterion (hg : WellBuilt f o catalog g) (hcat : catalog.Canonical)
    {c : Criterion} (hcrit : g.criterion? = some c) :
    ∃ b, Builtin.find? c.operator = some b ∧ b.arity.required ≤ c.values.length ∧
      (b.arity ≠ .fixed 1 → b.arity.takes c.values.length = true) := by
  obtain ⟨hd, hmem, hop, hlength⟩ := hg.length_criterion hcrit
  obtain ⟨b, -, hname, hslots⟩ := hcat hd hmem
  refine ⟨b, by rw [hop, hname, b.find?_canonicalName], ?_⟩
  rw [hslots] at hlength
  cases ha : b.arity with
  | fixed count =>
    rw [ha] at hlength
    refine ⟨hlength.1, fun hcount => beq_iff_eq.2 (hlength.2 fun h => hcount ?_)⟩
    exact congrArg Arity.fixed h
  | unbounded => exact ⟨Nat.zero_le _, fun _ => rfl⟩

end Built

theorem sentence?_of_current {g : Group} {c : Criterion} {hd : Header}
    (hcrit : g.criterion? = some c) (hc : g.current = some hd) :
    ∃ s, g.sentence? = some s ∧ s.operator = g.operatorText hd c.values ∧
      s.values = Value.shown c.values := by
  unfold sentence?
  rw [hcrit, hc]
  exact ⟨_, rfl, rfl, rfl⟩

theorem sentence?_of_criterion {g : Group} {c : Criterion} (hcrit : g.criterion? = some c) :
    ∃ s, g.sentence? = some s ∧ s.values = Value.shown c.values := by
  obtain ⟨-, hd, hc, -⟩ := criterion?_eq_some_iff.1 hcrit
  obtain ⟨s, hs, -, hvalues⟩ := sentence?_of_current hcrit hc
  exact ⟨s, hs, hvalues⟩

/-- **A sentence shows what the condition captures**, with one exception.  Let a group of the
standard catalog contribute a criterion.  It has a condition and a sentence, and the values of the
sentence are the texts of the parameters that are not null; but an operator of one value reads the
first one of its slot only, so there no other may be but nulls. -/
theorem sentence_shows_condition (f : Field) (o : GroupOptions) (edits : List Edit)
    (settings : Settings) (now : DateTime) :
    let g := (build f o .standard).run edits
    g.hasValue = true → ∃ c b p s, g.criterion? = some c ∧ Builtin.find? c.operator = some b ∧
      g.predicate (.standard settings now) = .ok (some p) ∧ g.sentence? = some s ∧
      (s.values = p.shown ↔ (b.arity = .fixed 1 → Value.allNull (c.values.drop 1) = true)) := by
  intro g hvalue
  have hg : WellBuilt f o .standard g := wellBuilt_run f o .standard edits
  obtain ⟨c, hcrit⟩ := Option.isSome_iff_exists.1 (g.criterion?_isSome.trans hvalue)
  obtain ⟨b, hfind, hle, htakes⟩ := hg.takes_criterion Catalog.canonical_standard hcrit
  obtain ⟨s, hs, hshown⟩ := sentence?_of_criterion hcrit
  have hget := Registry.get?_standard_of_find? settings now hfind
  refine ⟨c, b, _, s, hcrit, hfind, predicate_of_criterion hcrit hget hle, hs, ?_⟩
  rw [hshown, Builtin.shown_build]
  by_cases ha : b.arity = .fixed 1
  · rw [ha]
    rw [forall_prop_of_true rfl]
    exact Value.shown_take_iff
  · rw [Arity.read_of_takes (htakes ha)]
    exact iff_of_true rfl fun h => absurd h ha

/-- A set with nulls among its members shows the others. -/
theorem members_are_shown :
    let f : Field := ⟨"status", "Status", .text, true⟩
    let g := (build f {} .standard).run [.first (.values [.null, .text "open", .null, .text "new"])]
    g.hasValue = true ∧ ∃ c b p s, g.criterion? = some c ∧ Builtin.find? c.operator = some b ∧
      g.predicate (.standard {} (.midnight ⟨0, by decide, by decide⟩)) = .ok (some p) ∧
      g.sentence? = some s ∧
      (s.values = p.shown ↔ (b.arity = .fixed 1 → Value.allNull (c.values.drop 1) = true)) := by
  intro f g
  have hvalue : g.hasValue = true := by decide
  exact ⟨hvalue, sentence_shows_condition f {} _ {} _ hvalue⟩

/-- **A value that is not read is shown**: equality with a null before a number is shown as equality
with the number, but tests whether there is none. -/
theorem unread_value_is_shown :
    ¬ ∀ (f : Field) (o : GroupOptions) (edits : List Edit) (settings : Settings) (now : DateTime),
      let g := (build f o .standard).run edits
      g.hasValue = true → ∃ p s, g.predicate (.standard settings now) = .ok (some p) ∧
        g.sentence? = some s ∧ s.values = p.shown := by
  intro shown
  let g := (build ⟨"age", "Age", .int, false⟩ {} .standard).run
    [.first (.values [.null, .int 5])]
  let now : DateTime := .midnight ⟨0, by decide, by decide⟩
  have hcrit : g.criterion? = some ⟨"age", "EQ", [.null, .int 5]⟩ := by decide
  have hget := Registry.get?_standard_of_find? {} now Builtin.equal.find?_canonicalName
  have hpredicate := predicate_of_criterion hcrit hget (by decide)
  obtain ⟨t, ht, htexts⟩ := sentence?_of_criterion hcrit
  obtain ⟨p, s, hp, hs, hsame⟩ := shown _ _ _ {} now (show g.hasValue = true by decide)
  rw [hpredicate] at hp
  rw [ht] at hs
  cases hp
  cases hs
  rw [htexts, Builtin.shown_build] at hsame
  exact absurd hsame (by decide)

end Group

end QueryCriteria
