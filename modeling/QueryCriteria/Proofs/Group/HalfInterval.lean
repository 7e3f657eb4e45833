import QueryCriteria.Proofs.Group.Shown
import QueryCriteria.Proofs.Operator.Comparison

/-!
# Intervals with one blank end, for readers

The sentence of a group shows an interval with one blank end as a comparison with the other end, and
the complement of the interval as the opposite comparison.  No comparison admits a value without an
order beside the end, and the interval does not either; but its complement does.

* `Builtin.half`, `Builtin.interval` — the ends and the operator of such an interval.
* `Builtin.admits_half_iff` — the interval and the comparison admit a value alike, unless the
  interval is a complement and the value has no order beside the end.
* `Catalog.text_eq_text_iff` — the texts of the standard catalog tell its operators apart.
* `Group.WellBuilt.builtinText?_eq_some` — whether a group finds the text of an operator in its
  selector or not, it is the one of the standard catalog.
* `Group.operatorText_half` — the text of an interval with one blank end.
* `Group.WellBuilt.header_of_interval`, `Group.WellBuilt.sentence?_half` — the record of an
  interval has two values, and its sentence the text of the comparison.
* `Group.half_interval_reads_alike_iff` — the sentence shows the comparison, and the values for
  which this is what the record says.
* `Group.half_complement_admits_null` — a value for which it is not.
-/

namespace QueryCriteria

/-! ## Half an interval -/

namespace Builtin

/-- The ends of an interval of which one is blank. -/
def half (lowerOnly : Bool) (bound : Value) : List Value :=
  if lowerOnly then [bound, .null] else [.null, bound]

/-- The operator of an interval, or of its complement. -/
def interval (negated : Bool) : Builtin :=
  if negated then .notBetween else .between

variable {bound : Value}

theorem exists_interval {b : Builtin} (hb : b = between ∨ b = notBetween) :
    ∃ negated, b = interval negated ∧ (b = notBetween ↔ negated = true) := by
  rcases hb with rfl | rfl
  · exact ⟨false, rfl, by decide⟩
  · exact ⟨true, rfl, by decide⟩

theorem exists_half {values : List Value} (hlength : values.length = 2)
    (hnull : values.countP (·.isNull) = 1) :
    ∃ lowerOnly, ∃ bound, bound ≠ .null ∧ values = half lowerOnly bound := by
  obtain ⟨lower, upper, rfl⟩ := List.length_eq_two.1 hlength
  cases hlower : lower.isNull <;> cases hupper : upper.isNull <;>
    simp [hlower, hupper] at hnull
  · rw [Value.isNull_iff.1 hupper]
    exact ⟨true, lower, Value.isNull_eq_false_iff.1 hlower, rfl⟩
  · rw [Value.isNull_iff.1 hlower]
    exact ⟨false, upper, Value.isNull_eq_false_iff.1 hupper, rfl⟩

theorem admits_half (lowerOnly : Bool) (bound v : Value) :
    between.admits v (half lowerOnly bound) =
      (Group.oneSided lowerOnly false).admits v [bound] := by
  have habove : greaterOrEqual.admits v [.null] = true := rfl
  have hbelow : lessOrEqual.admits v [.null] = true := rfl
  cases lowerOnly with
  | true => exact (admits_between v bound .null).trans (by rw [hbelow, Bool.and_true]; rfl)
  | false => exact (admits_between v .null bound).trans (by rw [habove, Bool.true_and]; rfl)

/-- The complement admits what half an interval does not. -/
theorem admits_half_complement (hbound : bound ≠ .null) (lowerOnly : Bool) (v : Value) :
    notBetween.admits v (half lowerOnly bound) = !between.admits v (half lowerOnly bound) := by
  have hnull := Value.isNull_eq_false_iff.2 hbound
  have hpass : Value.allNull (half lowerOnly bound) = false := by
    cases lowerOnly <;> simp [half, Value.allNull, hnull]
  simp [admits, passesThrough, hpass, negated, rule]

theorem mem_half (lowerOnly : Bool) (bound : Value) : bound ∈ half lowerOnly bound := by
  cases lowerOnly <;> simp [half]

theorem oneSided_mem_comparisons (lowerOnly negated : Bool) :
    Group.oneSided lowerOnly negated ∈ comparisons := by
  cases lowerOnly <;> cases negated <;> decide

/-- **Half an interval admits what the comparison shown for it does**, unless it is a complement and
the value has no order beside the end. -/
theorem admits_half_iff (hbound : bound ≠ .null) (lowerOnly negated : Bool) (v : Value) :
    (Group.oneSided lowerOnly negated).admits v [bound] =
        (interval negated).admits v (half lowerOnly bound) ↔
      (negated = true → (v.order bound).isSome = true) := by
  cases negated with
  | false => exact iff_of_true (admits_half lowerOnly bound v).symm fun h => by cases h
  | true =>
    show _ = notBetween.admits v (half lowerOnly bound) ↔ _
    rw [admits_half_complement hbound, admits_half,
      admits_of_mem_comparisons (oneSided_mem_comparisons lowerOnly true) hbound,
      admits_of_mem_comparisons (oneSided_mem_comparisons lowerOnly false) hbound]
    -- The places of the two comparisons complement each other.
    cases lowerOnly <;> rcases v.order bound with _ | _ | _ | _ <;> decide

end Builtin

/-! ## Texts of operators -/

namespace Catalog

theorem name_of_answersTo {hd : Header} {b : Builtin} (hmem : hd ∈ standard.headers)
    (hans : hd.answersTo b.canonicalName = true) : hd.name = b.canonicalName := by
  obtain ⟨b', -, hname, -⟩ := canonical_standard hd hmem
  have hfind := (Header.answersTo_iff_find? hname _).1 hans
  rw [b.find?_canonicalName] at hfind
  cases hfind
  exact hname

theorem get?_canonicalName (b : Builtin) :
    ∃ hd, standard.get? b.canonicalName = some hd ∧ hd.name = b.canonicalName := by
  refine Option.map_eq_some_iff.1 ?_
  rw [get?_standard, b.find?_canonicalName]
  rfl

/-- The texts of the standard catalog tell its operators apart. -/
theorem text_eq_text_iff : ∀ hd ∈ standard.headers, ∀ hd' ∈ standard.headers,
    hd.text = hd'.text ↔ hd.name = hd'.name := by
  decide

end Catalog

namespace Group

variable {f : Field} {o : GroupOptions} {g : Group}

theorem WellBuilt.builtinText?_eq_some (hg : WellBuilt f o .standard g) (b : Builtin) :
    ∃ hd ∈ Catalog.standard.headers, hd.name = b.canonicalName ∧
      g.builtinText? b = some hd.text := by
  unfold builtinText?
  cases hoffered : g.selector.bind fun s =>
      (s.position? b.canonicalName).bind fun i => s.applicable[i]? with
  | some hd =>
    obtain ⟨s, hs, hpos⟩ := Option.bind_eq_some_iff.1 hoffered
    have hfound := (getElem?_headerPosition? s.applicable b.canonicalName).symm.trans hpos
    obtain ⟨happ, hans⟩ := findHeader?_eq_some hfound
    rw [hg.selector_applicable hs] at happ
    have hmem := (List.mem_filter.1 happ).1
    exact ⟨hd, hmem, Catalog.name_of_answersTo hmem hans, rfl⟩
  | none =>
    obtain ⟨hd, hget, hname⟩ := Catalog.get?_canonicalName b
    refine ⟨hd, (findHeader?_eq_some hget).1, hname, ?_⟩
    rw [hget]
    rfl

theorem operatorText_half {hd : Header} {negated : Bool} (hslots : hd.slots = 2)
    (hop : Builtin.find? hd.name = some (Builtin.interval negated)) {bound : Value}
    (hbound : bound ≠ .null) (lowerOnly : Bool) :
    g.operatorText hd (Builtin.half lowerOnly bound) =
      (g.builtinText? (oneSided lowerOnly negated)).getD hd.text := by
  have hnull := Value.isNull_eq_false_iff.2 hbound
  have hneg : (Builtin.interval negated).negated = negated := by cases negated <;> rfl
  have hblank : Value.isNull .null = true := rfl
  cases lowerOnly <;>
    simp [operatorText, Builtin.half, hslots, hop, hneg, hnull, hblank]

theorem WellBuilt.header_of_interval (hg : WellBuilt f o .standard g) {c : Criterion}
    (hcrit : g.criterion? = some c) {negated : Bool}
    (hop : Builtin.find? c.operator = some (Builtin.interval negated)) :
    ∃ hd, g.current = some hd ∧ c.operator = hd.name ∧ hd.slots = 2 ∧ c.values.length = 2 := by
  obtain ⟨hd, hc, -, hname, hvalues⟩ := hg.criterion_cases hcrit
  obtain ⟨b, -, hcanonical, hslots⟩ :=
    Catalog.canonical_standard hd (List.mem_filter.1 (hg.current_applies hc)).1
  rw [hname, hcanonical, b.find?_canonicalName] at hop
  cases hop
  have htwo : hd.slots = 2 := by
    refine UInt8.toNat_inj.1 (hslots.trans ?_)
    cases negated <;> rfl
  rw [htwo] at hvalues
  rcases hvalues with ⟨hn, -⟩ | ⟨hn, -⟩ | ⟨-, v, w, hv⟩
  · exact absurd hn (by decide)
  · exact absurd hn (by decide)
  · exact ⟨hd, hc, hname, htwo, by rw [hv]; rfl⟩

theorem WellBuilt.sentence?_half (hg : WellBuilt f o .standard g) {c : Criterion}
    (hcrit : g.criterion? = some c) {negated : Bool}
    (hop : Builtin.find? c.operator = some (Builtin.interval negated)) {bound : Value}
    (hbound : bound ≠ .null) {lowerOnly : Bool}
    (hvalues : c.values = Builtin.half lowerOnly bound) :
    ∃ s, g.sentence? = some s ∧ ∀ hd ∈ Catalog.standard.headers,
      hd.text = s.operator ↔ hd.name = (oneSided lowerOnly negated).canonicalName := by
  obtain ⟨hd, hc, hname, hslots, -⟩ := hg.header_of_interval hcrit hop
  obtain ⟨shown, hmem, hshown, htext⟩ := hg.builtinText?_eq_some (oneSided lowerOnly negated)
  obtain ⟨s, hs, hreads, -⟩ := sentence?_of_current hcrit hc
  have hsentence : s.operator = shown.text := by
    rw [hreads, hvalues, operatorText_half hslots (hname ▸ hop) hbound, htext]
    rfl
  refine ⟨s, hs, fun other hother => ?_⟩
  rw [hsentence, ← hshown]
  exact Catalog.text_eq_text_iff other hother shown hmem

/-! ## The sentence and the condition -/

/-- **An interval with one blank end reads as what it does**, with one exception.  Let the record of
a group of the standard catalog be an interval or a complement of which exactly one end is blank.
The sentence shows the text of one comparison.  With the other end it admits the values that the
record does, except for a complement those without an order beside this end. -/
theorem half_interval_reads_alike_iff (f : Field) (o : GroupOptions) (edits : List Edit)
    (c : Criterion) (b : Builtin) :
    let g := (build f o .standard).run edits
    g.criterion? = some c → Builtin.find? c.operator = some b → b = .between ∨ b = .notBetween →
      c.values.countP (·.isNull) = 1 →
      ∃ s shown bound, g.sentence? = some s ∧
        shown ∈ [Builtin.lessThan, .lessOrEqual, .greaterThan, .greaterOrEqual] ∧
        (∀ hd ∈ Catalog.standard.headers,
          hd.text = s.operator ↔ hd.name = shown.canonicalName) ∧
        bound ∈ c.values ∧ bound ≠ .null ∧
        ∀ v, ∃ single pair : Bool, (Operator.builtin shown).admits v [bound] = .ok single ∧
          (Operator.builtin b).admits v c.values = .ok pair ∧
          (single = pair ↔ (b = .notBetween → (v.order bound).isSome = true)) := by
  intro g hcrit hfind hop hcount
  have hg : WellBuilt f o .standard g := wellBuilt_run f o .standard edits
  obtain ⟨negated, rfl, hcomplement⟩ := Builtin.exists_interval hop
  obtain ⟨-, -, -, -, hlength⟩ := hg.header_of_interval hcrit hfind
  obtain ⟨lowerOnly, bound, hbound, hvalues⟩ := Builtin.exists_half hlength hcount
  obtain ⟨s, hs, htext⟩ := hg.sentence?_half hcrit hfind hbound hvalues
  have hcomparison : oneSided lowerOnly negated ∈
      [Builtin.lessThan, .lessOrEqual, .greaterThan, .greaterOrEqual] := by
    cases lowerOnly <;> cases negated <;> decide
  refine ⟨s, _, bound, hs, hcomparison, htext, hvalues ▸ Builtin.mem_half lowerOnly bound, hbound,
    fun v => ?_⟩
  have hone : (oneSided lowerOnly negated).arity.required ≤ [bound].length :=
    Builtin.required_of_mem_comparisons (Builtin.oneSided_mem_comparisons lowerOnly negated)
  have htwo : (Builtin.interval negated).arity.required ≤ c.values.length := by
    rw [hlength]
    cases negated <;> decide
  refine ⟨_, _, Operator.admits_builtin [bound] v hone, Operator.admits_builtin c.values v htwo, ?_⟩
  rw [hvalues, hcomplement]
  exact Builtin.admits_half_iff hbound lowerOnly negated v

/-- Not at least 18 reads as less than 18, and does so beside every value that has an order. -/
theorem minors_read_as_less_than :
    let f : Field := ⟨"age", "Age", .int, false⟩
    let g := (build f {} .standard).run [.operator (some "NotBetween"), .first (.value (.int 18))]
    let c : Criterion := ⟨"age", "NotBetween", [.int 18, .null]⟩
    g.criterion? = some c ∧ Builtin.find? c.operator = some .notBetween ∧
      c.values.countP (·.isNull) = 1 ∧
      ∃ s shown bound, g.sentence? = some s ∧
        shown ∈ [Builtin.lessThan, .lessOrEqual, .greaterThan, .greaterOrEqual] ∧
        (∀ hd ∈ Catalog.standard.headers,
          hd.text = s.operator ↔ hd.name = shown.canonicalName) ∧
        bound ∈ c.values ∧ bound ≠ .null ∧
        ∀ v, ∃ single pair : Bool, (Operator.builtin shown).admits v [bound] = .ok single ∧
          (Operator.builtin .notBetween).admits v c.values = .ok pair ∧
          (single = pair ↔ (v.order bound).isSome = true) := by
  intro f g c
  have hcrit : g.criterion? = some c := by decide
  have hfind : Builtin.find? c.operator = some .notBetween := by decide
  have hcount : c.values.countP (·.isNull) = 1 := by decide
  obtain ⟨s, shown, bound, hs, hshown, htext, hend, hbound, halike⟩ :=
    half_interval_reads_alike_iff f {} _ c .notBetween hcrit hfind (.inr rfl) hcount
  refine ⟨hcrit, hfind, hcount, s, shown, bound, hs, hshown, htext, hend, hbound, fun v => ?_⟩
  obtain ⟨single, pair, hsingle, hpair, hsame⟩ := halike v
  exact ⟨single, pair, hsingle, hpair, hsame.trans (forall_prop_of_true rfl)⟩

/-- **A missing age is not below 18**: not at least 18 admits the rows without an age, but is shown
as less than 18, which does not. -/
theorem half_complement_admits_null :
    ¬ ∀ (f : Field) (o : GroupOptions) (edits : List Edit) (c : Criterion) (b : Builtin),
      let g := (build f o .standard).run edits
      g.criterion? = some c → Builtin.find? c.operator = some b → b = .between ∨ b = .notBetween →
        c.values.countP (·.isNull) = 1 →
        ∃ s shown bound, g.sentence? = some s ∧
          (∀ hd ∈ Catalog.standard.headers,
            hd.text = s.operator ↔ hd.name = shown.canonicalName) ∧
          bound ∈ c.values ∧ bound ≠ .null ∧
          ∀ v, (Operator.builtin shown).admits v [bound] =
            (Operator.builtin b).admits v c.values := by
  intro alike
  let g := (build ⟨"age", "Age", .int, false⟩ {} .standard).run
    [.operator (some "NotBetween"), .first (.value (.int 18))]
  obtain ⟨s, shown, bound, hs, htext, hmem, hbound, hsame⟩ :=
    alike _ _ _ ⟨"age", "NotBetween", [.int 18, .null]⟩ .notBetween
      (show g.criterion? = _ by decide) (by decide) (.inr rfl) (by decide)
  -- The sentence leaves the comparison and its end no choice.
  have hreads : g.sentence?.map (·.operator) = some "Less Than" := by decide
  rw [hs] at hreads
  have hentry : ∃ hd ∈ Catalog.standard.headers,
      hd.text = "Less Than" ∧ hd.name = Builtin.lessThan.canonicalName := by decide
  obtain ⟨hd, hheader, hless, hname⟩ := hentry
  have hshown := (htext hd hheader).1 (hless.trans (Option.some.inj hreads).symm)
  have hfind := shown.find?_canonicalName
  rw [← hshown, hname, Builtin.find?_canonicalName] at hfind
  cases hfind
  have hend : bound = .int 18 := by simpa [hbound] using hmem
  subst hend
  exact absurd (hsame .null) (by decide)

end Group

end QueryCriteria
