import Mathlib.Data.List.Basic
import QueryCriteria.Proofs.Group.Catalog
import QueryCriteria.Proofs.Group.Condition
import QueryCriteria.Proofs.Group.Refusal

/-!
# Loaded records filter as they do on their own

A record becomes a condition in two ways: its operator is looked up in the registry and built with
its values, or it is loaded into a group, which distributes the values over its slots, writes a
record of its own and has that one built.

* `Header.arrange_of_takes`, `Header.lacksValue_of_takes` — given as many values as its operator
  takes, a header of a canonical catalog keeps them as they are, and misses a value exactly where
  the operator passes every row.
* `Group.WellBuilt.named?_of_accepted` — an accepted record names a header of the catalog.
* `Group.WellBuilt.predicate_apply` — the condition of a group after loading.
* `Group.loaded_record_filters_alike` — both ways give conditions that hold of the same rows.
-/

namespace QueryCriteria

/-! ## Values of the right number -/

namespace Header

variable {hd : Header} {b : Builtin} {values : List Value}

theorem arrange_of_takes (hslots : hd.slots.toNat = b.arity.slots)
    (htakes : b.arity.takes values.length = true) : hd.arrange values = values := by
  have hread : ∀ n : UInt8, b.arity.slots = n.toNat → hd.slots = n := fun n hn =>
    UInt8.toNat_inj.1 (hslots.trans hn)
  unfold arrange
  rcases b.arity_cases with ha | ha | ha | ha <;> rw [ha] at hread htakes
  · rw [hread 0 rfl, List.length_eq_zero_iff.1 (beq_iff_eq.1 htakes)]
    rfl
  · rw [hread 1 rfl]
    rfl
  · obtain ⟨v, w, rfl⟩ := List.length_eq_two.1 (beq_iff_eq.1 htakes)
    rw [hread 2 rfl]
    rfl
  · rw [hread 1 rfl]
    rfl

theorem lacksValue_of_takes (hslots : hd.slots.toNat = b.arity.slots)
    (htakes : b.arity.takes values.length = true) :
    hd.lacksValue values = b.passesThrough values := by
  have hnullary : (hd.slots != 0) = !b.arity.isNullary := by
    rw [bne, Bool.not_inj_iff, Bool.eq_iff_iff, beq_iff_eq, ← UInt8.toNat_inj, hslots]
    rcases b.arity_cases with ha | ha | ha | ha <;> rw [ha] <;> decide
  rw [lacksValue, arrange_of_takes hslots htakes, hnullary, Builtin.passesThrough]

end Header

namespace Group

section Built

variable {f : Field} {o : GroupOptions} {catalog : Catalog} {g : Group} {hd : Header}

/-! ## Accepted records -/

theorem WellBuilt.named?_applies (hg : WellBuilt f o catalog g) {name : String}
    (hn : g.named? name = some hd) :
    hd ∈ catalog.applicable (o.target f) ∧ hd.answersTo name = true := by
  rw [named?_eq_findHeader?, hg.offered_eq] at hn
  exact findHeader?_eq_some hn

theorem WellBuilt.named?_of_accepted (hg : WellBuilt f o catalog g) {c : Criterion}
    (hacc : (g.apply c).refusal = none) :
    c.field = f.name ∧ ∃ hd ∈ catalog.headers,
      g.named? c.operator = some hd ∧ hd.answersTo c.operator = true := by
  obtain ⟨hfield, hanswers⟩ := refusal_apply_eq_none_iff.1 hacc
  rw [hg.offered_eq] at hanswers
  obtain ⟨hd, happ, hfound, hans⟩ := exists_findHeader? hanswers
  refine ⟨hfield.trans (congrArg Field.name hg.field_eq), hd, (List.mem_filter.1 happ).1, ?_, hans⟩
  rw [named?_eq_findHeader?, hg.offered_eq, hfound]

/-! ## The condition after loading -/

/-- **The condition of a group after loading a record** is the one that the operator of the record
builds with the values of the record, and none where the operator passes every row. -/
theorem WellBuilt.predicate_apply (hg : WellBuilt f o catalog g) (hcat : catalog.Canonical)
    (settings : Settings) (now : DateTime) {c : Criterion} (hshown : g.choiceShown = true)
    (hacc : (g.apply c).refusal = none)
    (htakes : ∀ b ∈ Builtin.find? c.operator, b.arity.takes c.values.length = true) :
    ∃ b, Builtin.find? c.operator = some b ∧ b.arity.takes c.values.length = true ∧
      (g.apply c).group.predicate (.standard settings now) =
        .ok (if b.passesThrough c.values then none
          else some (b.build (.field f.name) c.values)) := by
  obtain ⟨hfield, hd, hmem, hn, hans⟩ := hg.named?_of_accepted hacc
  obtain ⟨b, -, hname, hslots⟩ := hcat hd hmem
  have hfind : Builtin.find? c.operator = some b := (hd.answersTo_iff_find? hname _).1 hans
  have hvalues := htakes b hfind
  refine ⟨b, hfind, hvalues, ?_⟩
  have hcrit := (hg.criterion?_apply hfield hn hshown).2
  rw [Header.lacksValue_of_takes hslots hvalues, Header.arrange_of_takes hslots hvalues] at hcrit
  cases hpass : b.passesThrough c.values with
  | true =>
    rw [hpass, if_pos rfl] at hcrit
    unfold predicate
    rw [hcrit]
    rfl
  | false =>
    rw [hpass, if_neg Bool.false_ne_true] at hcrit
    have hget : (Registry.standard settings now).get? hd.name = some (.builtin b) :=
      Registry.get?_standard_of_find? settings now (hname ▸ b.find?_canonicalName)
    rw [predicate_of_criterion hcrit hget (Arity.required_le_of_takes hvalues),
      (hg.apply c).field_eq]
    rfl

end Built

/-- **A record filters alike in a group and on its own.**  Let a group of the standard catalog, its
selector in sight, accept a record that has as many values as its operator takes.  Afterwards the
group has a condition, or none, which is then read as the one that always holds; and the registry
has an operator for the record, which builds a condition with its values.  Both hold of the same
rows, whatever the group held before. -/
theorem loaded_record_filters_alike (f : Field) (o : GroupOptions) (edits : List Edit)
    (c : Criterion) (settings : Settings) (now : DateTime) :
    let g := (build f o .standard).run edits
    let r := Registry.standard settings now
    (∀ s ∈ g.selector, s.visible = true) → (g.apply c).refusal = none →
      (∀ b ∈ Builtin.find? c.operator, b.arity.takes c.values.length = true) →
      ∃ loaded op own, (g.apply c).group.predicate r = .ok loaded ∧
        r.lookup c.operator f.fieldType = .ok (some op) ∧
        op.build (.field f.name) c.values = .ok own ∧
        ∀ row : Row, (loaded.getD .always).holds row = own.holds row := by
  intro g r hvisible hacc htakes
  have hg : WellBuilt f o .standard g := wellBuilt_run f o .standard edits
  have hshown : g.choiceShown = true := (Option.all_eq_true _ _).2 hvisible
  obtain ⟨b, hfind, hvalues, hloaded⟩ :=
    hg.predicate_apply Catalog.canonical_standard settings now hshown hacc htakes
  have hlookup := Registry.lookup_of_builtin
    (Registry.get?_standard_of_find? settings now hfind) f.fieldType
  have hown : (Operator.builtin b).build (.field f.name) c.values =
      .ok (b.build (.field f.name) c.values) := by
    unfold Operator.build
    rw [Operator.checkArity_of_le (.builtin b) (Arity.required_le_of_takes hvalues)]
    rfl
  refine ⟨_, _, _, hloaded, hlookup, hown, fun row => ?_⟩
  -- Where the group has no condition, the operator builds the one that always holds.
  unfold Builtin.build
  cases b.passesThrough c.values <;> rfl

/-- An interval without lower end, under another name of its operator, in a group that was set to
something else. -/
theorem half_interval_filters_alike :
    let f : Field := ⟨"age", "Age", .int, false⟩
    let g := (build f {} .standard).run [.operator (some "LT"), .first (.value (.int 7))]
    let r := Registry.standard {} (.midnight ⟨0, by decide, by decide⟩)
    let c : Criterion := ⟨"age", "bw", [.null, .int 65]⟩
    (g.apply c).refusal = none ∧ ∃ loaded op own, (g.apply c).group.predicate r = .ok loaded ∧
      r.lookup c.operator f.fieldType = .ok (some op) ∧
      op.build (.field f.name) c.values = .ok own ∧
      ∀ row : Row, (loaded.getD .always).holds row = own.holds row := by
  intro f g r c
  have hvisible : ∀ s ∈ g.selector, s.visible = true := by decide
  have hacc : (g.apply c).refusal = none := by decide
  have htakes : ∀ b ∈ Builtin.find? c.operator, b.arity.takes c.values.length = true := by
    decide
  exact ⟨hacc, loaded_record_filters_alike f {} _ c {} _ hvisible hacc htakes⟩

end Group

end QueryCriteria
