import QueryCriteria.Proofs.Group.Dependents

/-!
# Refused edits

An operator is selected, or accepted for a record, before any value is written.  So an edit that is
refused has changed nothing, and whether it is refused can be told from what the group offers.

* `Group.refusal_setOperator`, `Group.refusal_apply` — when selecting an operator and loading a
  record are refused, and for what reason.
* `Group.refused_edits_leave_no_trace` — a refused edit leaves the group as it was; selecting a name
  succeeds exactly in a group with a selector, loading a record exactly for its own field, and both
  only if an operator that is offered answers to the name.
-/

namespace QueryCriteria

theorem Selector.select?_isNone (s : Selector) (name : String) :
    (s.select? (some name)).isNone = !s.applicable.any (·.answersTo name) := by
  have hposition : (s.position? name).isSome = s.applicable.any (·.answersTo name) := by
    rw [Bool.eq_iff_iff, List.any_eq_true]
    exact headerPosition?_isSome
  rw [← hposition, select?, Option.isNone_map]
  cases s.position? name <;> rfl

namespace Group

/-! ## Reasons of refusals -/

theorem eq_or_eq_of_refusal {p q : Prop} [Decidable p] [Decidable q] {a b e : CriteriaError}
    (h : (if p then some a else if q then none else some b) = some e) : e = a ∨ e = b := by
  split at h
  · exact Or.inl (Option.some.inj h).symm
  · split at h
    · cases h
    · exact Or.inr (Option.some.inj h).symm

theorem refusal_setOperator (g : Group) (name : Option String) :
    (g.setOperator name).refusal =
      if g.selector.isNone then some (.noSelector g.field.name)
      else if name.all fun n => g.offered.any (·.answersTo n) then none
      else some (.notApplicable g.field.name (name.getD "")) := by
  unfold setOperator offered
  cases hs : g.selector with
  | none => rfl
  | some s =>
    cases name with
    | none => rfl
    | some n =>
      have hnone := s.select?_isNone n
      simp only [Option.isNone_some, Bool.false_eq_true, if_false, Option.all_some]
      cases hsel : s.select? (some n) with
      | none =>
        have hany : s.applicable.any (·.answersTo n) = false := by simpa [hsel] using hnone
        simp [hany]
      | some s' =>
        have hany : s.applicable.any (·.answersTo n) = true := by simpa [hsel] using hnone
        simp [hany]

theorem refusal_apply (g : Group) (c : Criterion) :
    (g.apply c).refusal =
      if c.field ≠ g.field.name then some (.fieldMismatch g.field.name c.field)
      else if g.offered.any (·.answersTo c.operator) then none
      else some (.notApplicable g.field.name c.operator) := by
  have haccept : (g.acceptOperator c.operator).refusal =
      if g.offered.any (·.answersTo c.operator) then none
      else some (.notApplicable g.field.name c.operator) := by
    unfold acceptOperator
    cases hs : g.selector with
    | none =>
      have hcurrent : g.current.any (·.answersTo c.operator) =
          g.offered.any (·.answersTo c.operator) := by
        cases himp : g.implied <;> simp [current, offered, hs, himp]
      rw [hcurrent]
      dsimp only
      split <;> rfl
    | some s =>
      dsimp only
      rw [refusal_setOperator]
      simp [hs]
  unfold apply
  by_cases hfield : c.field = g.field.name
  · rw [if_neg (fun h => h hfield), if_neg (fun h => h hfield), ← haccept]
    dsimp only
    cases hr : (g.acceptOperator c.operator).refusal with
    | none => rfl
    | some e => exact hr
  · rw [if_pos hfield, if_pos hfield]

theorem refusal_setOperator_eq_none_iff {g : Group} {name : String} :
    (g.setOperator (some name)).refusal = none ↔
      g.selector.isSome = true ∧ ∃ hd ∈ g.offered, hd.answersTo name = true := by
  rw [refusal_setOperator, Option.all_some, ← List.any_eq_true]
  cases g.selector <;> simp

theorem refusal_apply_eq_none_iff {g : Group} {c : Criterion} :
    (g.apply c).refusal = none ↔
      c.field = g.field.name ∧ ∃ hd ∈ g.offered, hd.answersTo c.operator = true := by
  rw [refusal_apply, ← List.any_eq_true]
  by_cases hfield : c.field = g.field.name <;> simp [hfield]

/-! ## The group after a refusal -/

/-- **A refused edit leaves no trace.**  After any edits, a name that is refused and a record that
is refused leave the whole group as it was, for one of the reasons given.  A name is accepted
exactly if the group has a selector and an operator on offer answers to it; a record exactly if it
is one of the field and an operator on offer answers to the name of its operator.  On offer are the
operators of the catalog that apply to the field: those of the selector, or the one implied. -/
theorem refused_edits_leave_no_trace (f : Field) (o : GroupOptions) (catalog : Catalog)
    (edits : List Edit) :
    let g := (build f o catalog).run edits
    g.offered = catalog.applicable (o.target f) ∧
      (∀ name e, (g.setOperator name).refusal = some e →
        (g.setOperator name).group = g ∧
          (e = .noSelector f.name ∨ e = .notApplicable f.name (name.getD ""))) ∧
      (∀ c e, (g.apply c).refusal = some e →
        (g.apply c).group = g ∧
          (e = .fieldMismatch f.name c.field ∨ e = .notApplicable f.name c.operator)) ∧
      (∀ name, (g.setOperator (some name)).refusal = none ↔
        g.selector.isSome = true ∧ ∃ hd ∈ g.offered, hd.answersTo name = true) ∧
      ∀ c, (g.apply c).refusal = none ↔
        c.field = f.name ∧ ∃ hd ∈ g.offered, hd.answersTo c.operator = true := by
  intro g
  have hg : WellBuilt f o catalog g := wellBuilt_run f o catalog edits
  have hfield : g.field.name = f.name := congrArg Field.name hg.field_eq
  refine ⟨hg.offered_eq, ?_, ?_, ?_, ?_⟩
  · intro name e he
    have hkept : (g.setOperator name).group = g :=
      perform_of_refusal (e := .operator name) (by simp [perform, he])
    refine ⟨hkept, ?_⟩
    rw [refusal_setOperator, hfield] at he
    exact eq_or_eq_of_refusal he
  · intro c e he
    have hkept : (g.apply c).group = g :=
      perform_of_refusal (e := .apply c) (by simp [perform, he])
    refine ⟨hkept, ?_⟩
    rw [refusal_apply, hfield] at he
    exact eq_or_eq_of_refusal he
  · exact fun name => refusal_setOperator_eq_none_iff
  · intro c
    rw [refusal_apply_eq_none_iff, hfield]

/-- An age set to `LT 7` keeps it when an operator for texts and a record of another field are
refused, and accepts the same choice and a record under other names of their operators.  Where one
operator applies there is nothing to select, but its record is accepted. -/
theorem age_keeps_its_bound :
    let f : Field := ⟨"age", "Age", .int, false⟩
    let g := (build f {} .standard).run [.operator (some "LT"), .first (.value (.int 7))]
    let flag := (build ⟨"flag", "Flag", .bool, false⟩ {}
      ⟨[{ name := "EQ", text := "Equals", slots := 1 }]⟩).run []
    ((g.setOperator (some "Contains")).group = g ∧
        (g.apply ⟨"height", "LT", [.int 1]⟩).group = g) ∧
      ((g.setOperator (some "lessthan")).refusal = none ∧
        (g.apply ⟨"age", "bw", [.int 1]⟩).refusal = none) ∧
      (flag.setOperator (some "EQ")).group = flag ∧
        (flag.apply ⟨"flag", "==", [.bool true]⟩).refusal = none := by
  intro f g flag
  obtain ⟨-, hset, happly, hchoice, hrecord⟩ := refused_edits_leave_no_trace f {} .standard
    [.operator (some "LT"), .first (.value (.int 7))]
  obtain ⟨-, hsetFlag, -, -, hrecordFlag⟩ :=
    refused_edits_leave_no_trace ⟨"flag", "Flag", .bool, false⟩ {}
      ⟨[{ name := "EQ", text := "Equals", slots := 1 }]⟩ []
  refine ⟨⟨?_, ?_⟩, ⟨?_, ?_⟩, ?_, ?_⟩
  · exact (hset (some "Contains") (.notApplicable "age" "Contains") (by decide +kernel)).1
  · exact (happly _ (.fieldMismatch "age" "height") (by decide +kernel)).1
  · exact (hchoice "lessthan").2 (by decide +kernel)
  · exact (hrecord _).2 (by decide +kernel)
  · exact (hsetFlag (some "EQ") (.noSelector "flag") (by decide +kernel)).1
  · exact (hrecordFlag _).2 (by decide +kernel)

end Group

end QueryCriteria
