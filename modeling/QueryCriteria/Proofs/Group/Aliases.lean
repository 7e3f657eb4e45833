import QueryCriteria.Proofs.Group.Catalog
import QueryCriteria.Proofs.Group.Record
import QueryCriteria.Proofs.Group.Refusal

/-!
# Operators selected by their other names

A header means a built-in operator by any name of it, its own or another.  A name given for this
operator finds the header only if the header carries that very name or the canonical one.

* `Header.namedFor` — whether a header carries a name given for an operator, or its canonical one.
* `Header.find?_name_of_answersTo` — a header that answers to a name means the same operator.
* `Selector.current_resetSelector` — what a reset selects: the default operator if its name means
  one on offer, and otherwise the first.
* `Group.alias_selects_iff` — when a name selects a header of its operator, and when a reset does;
  `Group.equals_is_not_selected_by_sign` — neither needs to, though the catalog offers the operator
  under another of its names.
-/

namespace QueryCriteria

/-! ## Headers by name -/

namespace Header

/-- Whether a header carries a name given for a built-in operator, or the canonical one. -/
def namedFor (hd : Header) (name : String) (b : Builtin) : Bool :=
  Text.sameCaseless hd.name name || Text.sameCaseless hd.name b.canonicalName

variable {hd : Header} {name : String} {b : Builtin}

theorem answersTo_eq_namedFor (hfind : Builtin.find? name = some b) :
    hd.answersTo name = hd.namedFor name b := by
  rw [answersTo, hfind, Option.any_some, namedFor]

/-- **A header that answers to a name means the same operator** by its own. -/
theorem find?_name_of_answersTo (hfind : Builtin.find? name = some b)
    (hans : hd.answersTo name = true) : Builtin.find? hd.name = some b := by
  rw [answersTo_eq_namedFor hfind, namedFor, Bool.or_eq_true] at hans
  rcases hans with hown | hcanonical
  · rw [Builtin.find?_congr hown, hfind]
  · rw [Builtin.find?_congr hcanonical, b.find?_canonicalName]

end Header

/-! ## What is selected -/

namespace Selector

theorem current_select? {s s' : Selector} {name : String} (h : s.select? (some name) = some s') :
    s'.current = findHeader? s.applicable name := by
  obtain ⟨i, hi, rfl⟩ := select?_eq_some_iff.1 h
  rw [← getElem?_headerPosition?]
  exact congrArg (Option.bind · (s.applicable[·]?)) hi.symm

theorem current_selectFirst (s : Selector) : s.selectFirst.current = s.applicable.head? := by
  unfold selectFirst current
  cases s.applicable <;> rfl

/-- **What a reset selects**: the operator that the name means, and otherwise the first. -/
theorem current_resetSelector (name : Option String) (s : Selector) :
    (Group.resetSelector name s).current =
      (name.bind (findHeader? s.applicable)).or s.applicable.head? := by
  unfold Group.resetSelector
  cases name with
  | none => exact s.current_selectFirst
  | some name =>
    rw [Option.bind_some, ← getElem?_headerPosition?]
    simp only [select?, position?]
    cases hposition : headerPosition? s.applicable name with
    | none => exact s.current_selectFirst
    | some i =>
      obtain ⟨hd, hget, -⟩ := headerPosition?_eq_some hposition
      simp [current, hget]

end Selector

namespace Group

theorem chosen_setOperator {g : Group} {name : String}
    (h : (g.setOperator (some name)).refusal = none) :
    (g.setOperator (some name)).group.chosen = findHeader? g.offered name := by
  rcases g.setOperator_cases (some name) with ⟨e, he⟩ | ⟨s, s', hs, hs', he⟩
  · rw [he] at h
    cases h
  · rw [he]
    simp only [chosen, offered, sync_selector, hs]
    exact Selector.current_select? hs'

theorem chosen_reset {g : Group} (h : g.selector.isSome = true) :
    g.reset.chosen = (g.defaultOperator.bind (findHeader? g.offered)).or g.offered.head? := by
  obtain ⟨s, hs⟩ := Option.isSome_iff_exists.1 h
  have hselector : g.reset.selector = some (resetSelector g.defaultOperator s) :=
    congrArg (Option.map (resetSelector g.defaultOperator)) hs
  simp only [chosen, offered, hselector, hs]
  exact Selector.current_resetSelector _ s

/-! ## Names of one operator -/

/-- **When a name selects a header of its operator.**  Take a group with a selector and a name of a
built-in operator.  The name is accepted exactly if a header on offer carries it or the canonical
name of the operator; a header of the operator is then selected.  If the default operator goes by
the name, a reset selects a header of the operator in these cases, and also where one comes
first. -/
theorem alias_selects_iff (f : Field) (o : GroupOptions) (catalog : Catalog) (edits : List Edit)
    (name : String) (b : Builtin) :
    let g := (build f o catalog).run edits
    let offered := catalog.applicable (o.target f)
    g.selector.isSome = true → Builtin.find? name = some b →
      ((g.setOperator (some name)).refusal = none ↔
        ∃ hd ∈ offered, hd.namedFor name b = true) ∧
      ((g.setOperator (some name)).refusal = none →
        ∃ hd ∈ offered, (g.setOperator (some name)).group.chosen = some hd ∧
          Builtin.find? hd.name = some b) ∧
      (g.defaultOperator = some name →
        ((∃ hd ∈ offered, g.reset.chosen = some hd ∧ Builtin.find? hd.name = some b) ↔
          (∃ hd ∈ offered, hd.namedFor name b = true) ∨
            ∃ hd, offered.head? = some hd ∧ Builtin.find? hd.name = some b)) := by
  intro g offered hselector hfind
  have hoffered : g.offered = offered := (wellBuilt_run f o catalog edits).offered_eq
  have hnamed : (∃ hd ∈ offered, hd.answersTo name = true) ↔
      ∃ hd ∈ offered, hd.namedFor name b = true := by
    simp only [Header.answersTo_eq_namedFor hfind]
  refine ⟨?_, ?_, ?_⟩
  · rw [refusal_setOperator_eq_none_iff, hoffered, hnamed, and_iff_right hselector]
  · intro haccepted
    rw [chosen_setOperator haccepted, hoffered]
    rw [refusal_setOperator_eq_none_iff, hoffered] at haccepted
    obtain ⟨hd, hmem, hfound, hans⟩ := exists_findHeader? haccepted.2
    exact ⟨hd, hmem, hfound, Header.find?_name_of_answersTo hfind hans⟩
  · intro hdefault
    rw [chosen_reset hselector, hdefault, Option.bind_some, hoffered, ← hnamed]
    by_cases hanswers : ∃ hd ∈ offered, hd.answersTo name = true
    · -- The default operator is on offer by this name.
      obtain ⟨hd, hmem, hfound, hans⟩ := exists_findHeader? hanswers
      rw [hfound, Option.some_or]
      exact iff_of_true ⟨hd, hmem, rfl, Header.find?_name_of_answersTo hfind hans⟩
        (Or.inl hanswers)
    · -- The first operator is selected, whatever it is.
      have hnone : findHeader? offered name = none := by
        rw [findHeader?_eq_none_iff]
        intro hd hmem
        exact Bool.eq_false_iff.2 fun hans => hanswers ⟨hd, hmem, hans⟩
      rw [hnone, Option.none_or, or_iff_right hanswers]
      constructor
      · rintro ⟨hd, -, hfirst⟩
        exact ⟨hd, hfirst⟩
      · rintro ⟨hd, hfirst⟩
        exact ⟨hd, List.mem_of_head? hfirst.1, hfirst⟩

/-- Headers named `lt` and `==`, the latter preferred by this name: a canonical name, a name that is
carried and a reset select a header of the operator, and a third name of equality is refused. -/
theorem sign_is_selected_by_itself :
    let f : Field := ⟨"age", "Age", .int, false⟩
    let o : GroupOptions := { preferred := some "==" }
    let catalog : Catalog := ⟨[{ name := "lt", text := "below", slots := 1 },
      { name := "==", text := "is", slots := 1 }]⟩
    let g := (build f o catalog).run [.operatorVisible false]
    let offered := catalog.applicable (o.target f)
    (∃ hd ∈ offered, (g.setOperator (some "LessThan")).group.chosen = some hd ∧
        Builtin.find? hd.name = some .lessThan) ∧
      (∃ hd ∈ offered, (g.setOperator (some "==")).group.chosen = some hd ∧
        Builtin.find? hd.name = some .equal) ∧
      (g.setOperator (some "=")).refusal ≠ none ∧
      ∃ hd ∈ offered, g.reset.chosen = some hd ∧ Builtin.find? hd.name = some .equal := by
  intro f o catalog g offered
  have hselector : g.selector.isSome = true := by decide +kernel
  have select := alias_selects_iff f o catalog [.operatorVisible false]
  obtain ⟨hless, hlessMeans, -⟩ := select "LessThan" .lessThan hselector (by decide)
  obtain ⟨hsign, hsignMeans, hreset⟩ := select "==" .equal hselector (by decide)
  obtain ⟨hother, -, -⟩ := select "=" .equal hselector (by decide)
  refine ⟨hlessMeans (hless.2 (by decide)), hsignMeans (hsign.2 (by decide)), ?_, ?_⟩
  · rw [ne_eq, hother]
    decide
  · exact (hreset (by decide +kernel)).2 (Or.inl (by decide))

/-- **Equality under another name is not found**: the catalog offers `LT` and `Equals`.  The name
`=`, which means equality as `Equals` does, is refused, and a reset, which aims at `EQ`, selects
`LT`. -/
theorem equals_is_not_selected_by_sign :
    (¬ ∀ (f : Field) (o : GroupOptions) (catalog : Catalog) (edits : List Edit) (name : String)
        (b : Builtin),
      let g := (build f o catalog).run edits
      let offered := catalog.applicable (o.target f)
      g.selector.isSome = true → Builtin.find? name = some b →
        (∃ hd ∈ offered, Builtin.find? hd.name = some b) →
        (g.setOperator (some name)).refusal = none ∧
          ∃ hd, (g.setOperator (some name)).group.chosen = some hd ∧
            Builtin.find? hd.name = some b) ∧
    ¬ ∀ (f : Field) (o : GroupOptions) (catalog : Catalog) (edits : List Edit) (name : String)
        (b : Builtin),
      let g := (build f o catalog).run edits
      let offered := catalog.applicable (o.target f)
      g.selector.isSome = true → g.defaultOperator = some name → Builtin.find? name = some b →
        (∃ hd ∈ offered, Builtin.find? hd.name = some b) →
        ∃ hd ∈ offered, g.reset.chosen = some hd ∧ Builtin.find? hd.name = some b := by
  let f : Field := ⟨"age", "Age", .int, false⟩
  let catalog : Catalog := ⟨[{ name := "LT", text := "Less Than", slots := 1 },
    { name := "Equals", text := "Equals", slots := 1 }]⟩
  have hoffered : ∃ hd ∈ catalog.applicable (GroupOptions.target {} f),
      Builtin.find? hd.name = some .equal := by decide
  constructor
  · intro selected
    obtain ⟨haccepted, -⟩ :=
      selected f {} catalog [] "=" .equal (by decide +kernel) (by decide) hoffered
    exact absurd haccepted (by decide +kernel)
  · intro selected
    obtain ⟨hd, -, hchosen, hmeans⟩ := selected f {} catalog [] "EQ" .equal (by decide +kernel)
      (by decide +kernel) (by decide) hoffered
    have hfirst : ((build f {} catalog).run []).reset.chosen.map (·.name) = some "LT" := by
      decide +kernel
    rw [hchosen, Option.map_some, Option.some.injEq] at hfirst
    rw [hfirst] at hmeans
    exact absurd hmeans (by decide)

end Group

end QueryCriteria
