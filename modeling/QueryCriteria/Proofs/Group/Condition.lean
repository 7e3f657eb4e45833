import QueryCriteria.Proofs.Group.Catalog
import QueryCriteria.Proofs.Group.Record
import QueryCriteria.Proofs.Operator.Agreement

/-!
# Conditions of groups

* `Catalog.Backed` — the tables of headers and of operators agree: every header is named for a
  built-in operator and reads enough slots for it.
* `Catalog.backed_standard` — the standard catalog is backed.
* `Group.criterion?_isSome` — a group has a record exactly when it contributes a criterion.
* `Group.WellBuilt.operator_of_backed` — under a backed catalog a record names a built-in operator
  and holds enough values for it.
* `Group.predicate_of_standard` — under the standard catalog and registry no group has an error for
  its condition; there is one exactly for a record, and it holds of the rows that the operator of
  the record admits.
-/

namespace QueryCriteria

/-! ## Agreement of the tables -/

/-- Every header is named for a built-in operator and reads enough slots for it. -/
def Catalog.Backed (catalog : Catalog) : Prop :=
  ∀ hd ∈ catalog.headers,
    (Builtin.find? hd.name).any (·.arity.required ≤ hd.slots.toNat) = true

instance (catalog : Catalog) : Decidable catalog.Backed := by
  unfold Catalog.Backed
  exact inferInstance

theorem Catalog.Canonical.backed {catalog : Catalog} (h : catalog.Canonical) : catalog.Backed := by
  intro hd hmem
  obtain ⟨b, -, hname, hslots⟩ := h hd hmem
  have hle := b.arity.required_le_slots
  simp [hname, b.find?_canonicalName, hslots, hle]

theorem Catalog.backed_standard : standard.Backed :=
  canonical_standard.backed

namespace Group

section Built

variable {f : Field} {o : GroupOptions} {catalog : Catalog} {g : Group}

theorem criterion?_isSome (g : Group) : g.criterion?.isSome = g.hasValue := by
  unfold criterion?
  cases hv : g.hasValue with
  | false => rfl
  | true =>
    simp only [hasValue, Bool.and_eq_true] at hv
    rw [if_pos rfl, Option.isSome_map, hv.1]

/-- A record holds a value for every slot that its operator reads, and no others, unless the slot is
the only one. -/
theorem WellBuilt.length_criterion (hg : WellBuilt f o catalog g) {c : Criterion}
    (hcrit : g.criterion? = some c) :
    ∃ hd ∈ catalog.headers, c.operator = hd.name ∧ hd.slots.toNat ≤ c.values.length ∧
      (hd.slots.toNat ≠ 1 → c.values.length = hd.slots.toNat) := by
  obtain ⟨hd, hc, -, hop, hvalues⟩ := hg.criterion_cases hcrit
  refine ⟨hd, (List.mem_filter.1 (hg.current_applies hc)).1, hop, ?_⟩
  rcases hvalues with ⟨hn, hv⟩ | ⟨hn, hv⟩ | ⟨hn, v, w, hv⟩
  · rw [hn, hv]
    exact ⟨Nat.le_refl _, fun _ => rfl⟩
  · rw [hn]
    refine ⟨?_, fun h => absurd rfl h⟩
    -- an empty list would be all null
    cases hlist : c.values with
    | nil =>
      rw [hlist] at hv
      cases hv
    | cons v vs => exact Nat.le_add_left 1 _
  · rw [hn, hv]
    exact ⟨Nat.le_refl _, fun _ => rfl⟩

theorem WellBuilt.operator_of_backed (hg : WellBuilt f o catalog g) (hcat : catalog.Backed)
    {c : Criterion} (hcrit : g.criterion? = some c) :
    ∃ b, Builtin.find? c.operator = some b ∧ b.arity.required ≤ c.values.length := by
  obtain ⟨hd, hmem, hop, hslots, -⟩ := hg.length_criterion hcrit
  obtain ⟨b, hfind, harity⟩ := (Option.any_eq_true _ _).1 (hcat hd hmem)
  rw [← hop] at hfind
  exact ⟨b, hfind, Nat.le_trans (of_decide_eq_true harity) hslots⟩

end Built

/-! ## The condition -/

theorem predicate_of_criterion {g : Group} {r : Registry} {c : Criterion} {b : Builtin}
    (hcrit : g.criterion? = some c) (hget : r.get? c.operator = some (.builtin b))
    (harity : b.arity.required ≤ c.values.length) :
    g.predicate r = .ok (some (b.build (.field g.field.name) c.values)) := by
  have hlookup := Registry.lookup_of_builtin hget g.field.fieldType
  unfold predicate
  simp only [hcrit, hlookup, Operator.build_builtin _ _ harity]

/-- **The condition of a group is never an error.**  Let `g` be a group of the standard catalog
that edits lead to.  Without a criterion it has no condition.  Otherwise its record names a built-in
operator, and its condition holds of exactly the rows whose value in the field, `null` if there is
none, this operator admits with the values of the record. -/
theorem predicate_of_standard (f : Field) (o : GroupOptions) (edits : List Edit)
    (settings : Settings) (now : DateTime) :
    let g := (build f o .standard).run edits
    match g.criterion? with
    | none => g.hasValue = false ∧ g.predicate (.standard settings now) = .ok none
    | some c => g.hasValue = true ∧ ∃ b p,
        Builtin.find? c.operator = some b ∧
          g.predicate (.standard settings now) = .ok (some p) ∧
          ∀ row : Row, (Operator.builtin b).admits (row.read (.field f.name)) c.values =
            .ok (p.holds row) := by
  intro g
  have hg : WellBuilt f o .standard g := wellBuilt_run f o .standard edits
  have hsome := g.criterion?_isSome
  cases hcrit : g.criterion? with
  | none =>
    rw [hcrit] at hsome
    refine ⟨hsome.symm, ?_⟩
    unfold predicate
    rw [hcrit]
  | some c =>
    rw [hcrit] at hsome
    obtain ⟨b, hfind, harity⟩ := hg.operator_of_backed Catalog.backed_standard hcrit
    have hget := Registry.get?_standard_of_find? settings now hfind
    refine ⟨hsome.symm, b, _, hfind, predicate_of_criterion hcrit hget harity, ?_⟩
    intro row
    unfold Operator.admits
    rw [Operator.checkArity_of_le (.builtin b) harity, hg.field_eq, Builtin.holds_build]
    rfl

end Group

end QueryCriteria
