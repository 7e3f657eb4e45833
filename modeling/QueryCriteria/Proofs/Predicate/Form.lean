import QueryCriteria.Predicate.Text

/-!
# The form of a predicate

A predicate holds criterion values as parameters only.  Its form is what is left when these values
are taken out: the tree with the positions of its parameters.

* `Predicate.form` — the predicate with nulls for its parameter values.
* `Predicate.text_form`, `Predicate.text_eq_of_form_eq` — the text depends on the form only.
* `Predicate.form_conjunction`, `Predicate.form_disjunction` — the connectives without their trivial
  forms collapse by the number of their children, so they keep the form.
* `Predicate.params_conjunction`, `Predicate.params_disjunction` — and capture what their children
  capture.
-/

namespace QueryCriteria.Predicate

/-! ## Form -/

mutual

/-- The predicate with nulls for its parameter values. -/
def form : Predicate → Predicate
  | .always => .always
  | .all children => .all (forms children)
  | .any children => .any (forms children)
  | .not child => .not child.form
  | .compare accessor op param => .compare accessor op ⟨param.slot, .null⟩
  | .isNull accessor => .isNull accessor

/-- The forms of some predicates. -/
def forms : List Predicate → List Predicate
  | [] => []
  | p :: ps => p.form :: forms ps

end

theorem forms_eq_map (ps : List Predicate) : forms ps = ps.map form := by
  induction ps with
  | nil => rfl
  | cons p ps ih => rw [forms, ih, List.map_cons]

theorem form_conjunction : ∀ ps : List Predicate, (conjunction ps).form = conjunction (ps.map form)
  | [] => rfl
  | [_] => rfl
  | p :: q :: ps => by simp only [conjunction, form, forms_eq_map, List.map_cons]

theorem form_disjunction : ∀ ps : List Predicate, (disjunction ps).form = disjunction (ps.map form)
  | [] => rfl
  | [_] => rfl
  | p :: q :: ps => by simp only [disjunction, form, forms_eq_map, List.map_cons]

/-! ## Text -/

mutual

theorem render_form : ∀ p : Predicate, p.form.render = p.render
  | .always => rfl
  | .all children => by rw [form, render, render, renderAll_forms children]
  | .any children => by rw [form, render, render, renderAll_forms children]
  | .not child => by rw [form, render, render, render_form child]
  | .compare _ _ _ => rfl
  | .isNull _ => rfl

theorem renderAll_forms : ∀ ps : List Predicate, renderAll (forms ps) = renderAll ps
  | [] => rfl
  | p :: ps => by rw [forms, renderAll, renderAll, render_form p, renderAll_forms ps]

end

/-- **The text of a predicate is that of its form.** -/
theorem text_form (p : Predicate) : p.form.text = p.text :=
  congrArg String.ofList (render_form p)

theorem text_eq_of_form_eq {p q : Predicate} (h : p.form = q.form) : p.text = q.text := by
  rw [← text_form p, h, text_form q]

/-! ## Parameters -/

theorem paramsOfAll_eq_flatMap (ps : List Predicate) : paramsOfAll ps = ps.flatMap params := by
  induction ps with
  | nil => rfl
  | cons p ps ih => rw [paramsOfAll, ih, List.flatMap_cons]

theorem params_conjunction :
    ∀ ps : List Predicate, (conjunction ps).params = ps.flatMap params
  | [] => rfl
  | [p] => by simp [conjunction]
  | p :: q :: ps => by simp only [conjunction, params, paramsOfAll_eq_flatMap]

theorem params_disjunction :
    ∀ ps : List Predicate, (disjunction ps).params = ps.flatMap params
  | [] => rfl
  | [p] => by simp [disjunction]
  | p :: q :: ps => by simp only [disjunction, params, paramsOfAll_eq_flatMap]

end QueryCriteria.Predicate
