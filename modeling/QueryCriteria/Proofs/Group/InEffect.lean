import QueryCriteria.Proofs.Group.Loading

/-!
# The operator in effect and the record of a group

What a group holds after any edits fits the operator in effect, and what it holds after loading a
record comes from that record and not from what it held before.

* `Selector.Settled.select?_current` — selecting the selected operator by its own name changes
  nothing, even where other headers carry that name too.
* `Group.record_fits_operator` — the operator in effect is one of the catalog that applies to the
  field, and the record names it and has as many values as it reads.
* `Group.arrange_eq_take` — the values that an operator of two slots keeps.
* `Group.record_after_loading` — the record after loading, given by the values loaded, the operator
  chosen and whether the selector is in sight.
-/

namespace QueryCriteria

/-! ## The operator in effect -/

namespace Selector

theorem effective_eq_some_iff {s : Selector} {hd : Header} :
    s.effective = some hd ↔ s.visible = true ∧ s.current = some hd := by
  unfold effective
  cases s.visible <;> simp

theorem Settled.select?_current {s : Selector} (h : s.Settled) {hd : Header}
    (hcur : s.current = some hd) : s.select? (some hd.name) = some s := by
  obtain ⟨i, hsel, hget⟩ := Option.bind_eq_some_iff.1 hcur
  obtain ⟨hd', hget', hpos⟩ := h i hsel
  rw [hget] at hget'
  cases hget'
  exact select?_eq_some_iff.2 ⟨i, hpos, by rw [← hsel]⟩

end Selector

theorem Value.allNull_eq_false_iff {values : List Value} :
    allNull values = false ↔ ∃ v ∈ values, v.isNull = false := by
  simp [allNull]

namespace Group

theorem WellBuilt.select?_of_current {f : Field} {o : GroupOptions} {catalog : Catalog} {g : Group}
    {hd : Header} (hg : WellBuilt f o catalog g) (hc : g.current = some hd) {s : Selector}
    (hs : g.selector = some s) : s.select? (some hd.name) = some s := by
  have heff : s.effective = some hd := by simpa [current, hs] using hc
  exact (hg.settled s hs).select?_current (Selector.effective_eq_some_iff.1 heff).2

/-- **The record of a group fits its operator.**  After any edits the operator in effect is one of
the catalog that applies to the field.  A record names the field and this operator; selecting by
that name finds the operator again at its very place, whatever other headers are called; and the
values are none, some that are not all null, or two, by the number of slots the operator reads. -/
theorem record_fits_operator (f : Field) (o : GroupOptions) (catalog : Catalog)
    (edits : List Edit) :
    let g := (build f o catalog).run edits
    (∀ hd, g.current = some hd → hd ∈ catalog.headers ∧ hd.appliesTo (o.target f) = true) ∧
      ∀ c, g.criterion? = some c → ∃ hd, g.current = some hd ∧ c.field = f.name ∧
        c.operator = hd.name ∧
        (∀ s, g.selector = some s → s.select? (some c.operator) = some s) ∧
        ((hd.slots = 0 ∧ c.values = []) ∨
          (hd.slots = 1 ∧ ∃ v ∈ c.values, v.isNull = false) ∨
          (hd.slots = 2 ∧ c.values.length = 2)) := by
  intro g
  have hg : WellBuilt f o catalog g := wellBuilt_run f o catalog edits
  refine ⟨fun hd hc => List.mem_filter.1 (hg.current_applies hc), ?_⟩
  intro c hcrit
  obtain ⟨hd, hc, hfield, hop, hvalues⟩ := hg.criterion_cases hcrit
  refine ⟨hd, hc, hfield, hop, ?_, ?_⟩
  · intro s hs
    rw [hop]
    exact hg.select?_of_current hc hs
  · rcases hvalues with ⟨hn, hv⟩ | ⟨hn, hv⟩ | ⟨hn, v, w, hv⟩
    · exact Or.inl ⟨hn, hv⟩
    · exact Or.inr (Or.inl ⟨hn, Value.allNull_eq_false_iff.1 hv⟩)
    · exact Or.inr (Or.inr ⟨hn, by rw [hv]; rfl⟩)

/-- Two headers of one name, and one that reads more slots than there are: the operator of an
interval, asked for by another name, is the first that applies, and is found again. -/
theorem namesake_is_found_again :
    let f : Field := ⟨"age", "Age", .int, false⟩
    let catalog : Catalog := ⟨[{ name := "Between", text := "among", slots := 3 },
      { name := "between", text := "from, to", slots := 2 },
      { name := "BETWEEN", text := "is", slots := 1 }]⟩
    let g := (build f {} catalog).run [.apply ⟨"age", "bw", [.null, .int 65]⟩]
    g.criterion? = some ⟨"age", "between", [.null, .int 65]⟩ ∧
      ∃ hd ∈ catalog.headers, g.current = some hd ∧ hd.name = "between" ∧ hd.slots = 2 ∧
        ∀ s, g.selector = some s → s.select? (some "between") = some s := by
  intro f catalog g
  have hcrit : g.criterion? = some ⟨"age", "between", [.null, .int 65]⟩ := by decide +kernel
  obtain ⟨happ, hrecord⟩ :=
    record_fits_operator f {} catalog [.apply ⟨"age", "bw", [.null, .int 65]⟩]
  obtain ⟨hd, hc, -, hop, hselect, hvalues⟩ := hrecord _ hcrit
  have hslots : hd.slots = 2 := by
    have hread : g.current.map (·.slots) = some 2 := by decide +kernel
    rw [hc] at hread
    exact Option.some.inj hread
  exact ⟨hcrit, hd, (happ hd hc).1, hc, hop.symm, hslots, hselect⟩

/-! ## Loading a record -/

theorem arrange_eq_take {hd : Header} (hn : hd.slots = 2) (values : List Value) :
    hd.arrange values = (values ++ [Value.null, Value.null]).take 2 := by
  have hzero : (2 : UInt8) ≠ 0 := by decide
  have hone : (2 : UInt8) ≠ 1 := by decide
  rw [Header.arrange, hn, if_neg hzero, if_neg hone]
  rcases values with _ | ⟨v, _ | ⟨w, rest⟩⟩ <;> rfl

/-- **The record of a group after loading one comes from what was loaded.**  There is none while the
selector is hidden.  Otherwise the record is one of the operator chosen, with no values, those
loaded, or two of them, filled up with nulls, by the number of slots the operator reads; and again
there is none where the operator reads values and all of these are null.  Any other history of the
group leads to the same record, unless it leaves the selector hidden where it is shown, or shown
where it is hidden. -/
theorem record_after_loading (f : Field) (o : GroupOptions) (catalog : Catalog)
    (edits : List Edit) (c : Criterion) :
    let g := (build f o catalog).run edits
    let loaded := (g.apply c).group
    (g.apply c).refusal = none →
      (∃ hd, loaded.chosen = some hd ∧ hd.answersTo c.operator = true ∧ hd.slots ≤ 2 ∧
        loaded.criterion? =
          if g.choiceShown = false then none
          else if hd.slots = 0 then some ⟨f.name, hd.name, []⟩
          else
            let values :=
              if hd.slots = 1 then c.values else (c.values ++ [Value.null, Value.null]).take 2
            if Value.allNull values then none else some ⟨f.name, hd.name, values⟩) ∧
      ∀ edits', let g' := (build f o catalog).run edits'
        g'.choiceShown = g.choiceShown →
          (g'.apply c).refusal = none ∧ (g'.apply c).group.criterion? = loaded.criterion? := by
  intro g loaded hacc
  have hg : WellBuilt f o catalog g := wellBuilt_run f o catalog edits
  obtain ⟨hfield, hd, -, hn, hans⟩ := hg.named?_of_accepted hacc
  obtain ⟨-, hchosen, hcrit⟩ := hg.apply_of_named hfield hn
  have hslots := slots_of_applicable (hg.named?_applies hn).1
  refine ⟨⟨hd, hchosen, hans, ?_, hcrit.trans ?_⟩, ?_⟩
  · rcases hslots with hs | hs | hs <;> rw [hs] <;> decide
  · cases g.choiceShown with
    | false => rfl
    | true =>
      rcases hslots with hs | hs | hs
      · simp [hs, Header.lacksValue, Header.arrange]
      · simp [hs, Header.lacksValue, Header.arrange]
      · simp [hs, Header.lacksValue, arrange_eq_take hs]
  · -- By another history the name means the same operator, which arranges the values alike.
    intro edits' g' hshown
    have hg' : WellBuilt f o catalog g' := wellBuilt_run f o catalog edits'
    obtain ⟨hacc', -, hcrit'⟩ := hg'.apply_of_named hfield ((hg.named?_congr hg' _).trans hn)
    refine ⟨hacc', ?_⟩
    rw [hcrit', hshown]
    exact hcrit.symm

/-- A record of one end, loaded where an interval was, where nothing was, and behind a hidden
selector. -/
theorem single_end_after_loading :
    let f : Field := ⟨"age", "Age", .int, false⟩
    let c : Criterion := ⟨"age", "bw", [.int 18]⟩
    let edits := [Edit.operator (some "NotBetween"), .first (.value (.int 7)),
      .second (.values [.int 8, .int 9])]
    let further := edits ++ [.operatorVisible false]
    let shown := (build f {} .standard).run edits
    let fresh := (build f {} .standard).run []
    let hidden := (build f {} .standard).run further
    (shown.apply c).refusal = none ∧ (hidden.apply c).refusal = none ∧
      (shown.apply c).group.criterion? = some ⟨"age", "Between", [.int 18, .null]⟩ ∧
      (fresh.apply c).group.criterion? = (shown.apply c).group.criterion? ∧
      (hidden.apply c).group.criterion? = none := by
  intro f c edits further shown fresh hidden
  have hshown : (shown.apply c).refusal = none := by decide +kernel
  have hhidden : (hidden.apply c).refusal = none := by decide +kernel
  have hbetween : (shown.apply c).group.chosen.map (fun hd => (hd.name, hd.slots)) =
      some ("Between", 2) := by decide +kernel
  have hsight : shown.choiceShown = true := by decide +kernel
  have hnoSight : hidden.choiceShown = false := by decide +kernel
  have hfresh : fresh.choiceShown = shown.choiceShown := by decide +kernel
  obtain ⟨⟨hd, hchosen, -, -, hcrit⟩, hsame⟩ :=
    record_after_loading f {} .standard edits c hshown
  obtain ⟨_, -, -, -, hnone⟩ := (record_after_loading f {} .standard further c hhidden).1
  refine ⟨hshown, hhidden, ?_, (hsame [] hfresh).2, ?_⟩
  · rw [hchosen] at hbetween
    simp only [Option.map_some, Option.some.injEq, Prod.mk.injEq] at hbetween
    rw [hcrit, hsight, hbetween.1, hbetween.2]
    rfl
  · rw [hnone, hnoSight]
    rfl

end Group

end QueryCriteria
