import QueryCriteria.Proofs.Range.Grammar
import QueryCriteria.Proofs.Time.Period

/-!
# The current period

Range text such as `[boM,eoM)` stands for the period of a kind that now lies in, from its beginning
up to the beginning of the next one.

* `RelativeDate.Token.ofEdge`, `Range.periodText` — the tokens of its ends, and the text.
* `Range.exists_edges_of_parse`, `Range.upTo`, `Range.parse_periodText` — the text is a range exactly
  when both ends lie in the calendar, and then it is the range from one up to the other.
* `Range.contains_between` — an interval between whole seconds is one on the line of seconds.
* `Range.contains_iff_index` — the range holds the instants of the period that now lies in.
* `Range.current_periods_partition_time` — so the ranges of a kind partition the line of time.
-/

namespace QueryCriteria

/-! ## The ends -/

namespace RelativeDate.Token

/-- The token for the beginning of the current period of a kind, or of the next one. -/
def ofEdge (edge : Edge) (p : Period) : Token where
  base := some (edge, p)
  offset := none

variable (p : Period) (ctx : Context)

theorem instant?_ofEdge_start :
    (ofEdge .start p).instant? ctx = p.truncate? ctx.weekStart ctx.now := by
  simp [instant?, relativeDate?, ofEdge, resolve?, baseInstant?, shifted?]

theorem instant?_ofEdge_finish :
    (ofEdge .finish p).instant? ctx =
      (p.truncate? ctx.weekStart ctx.now).bind fun t => p.add? t 1 := by
  simp [instant?, relativeDate?, ofEdge, resolve?, baseInstant?, shifted?]

end RelativeDate.Token

namespace Range

open RelativeDate (Token)

/-- The text for the period of a kind that now lies in, such as `[boM,eoM)`. -/
def periodText (p : Period) : String :=
  String.ofList ['[', 'b', 'o', p.code, ',', 'e', 'o', p.code, ')']

/-- The same text as its parts. -/
def currentPeriod (p : Period) : Written where
  lowerClosed := true
  lower := some (.token (.ofEdge .start p))
  upper := some (.token (.ofEdge .finish p))
  upperClosed := false

/-- The range from an instant up to another one, read from a text. -/
def between (text : String) (b e : DateTime) : Range where
  text := text
  givenName := none
  parsedFor := some .dateTime
  lower := some ⟨.dateTime b, true⟩
  upper := some ⟨.dateTime e, false⟩

/-- The range of a field from the value of an instant up to that of another one, read from a text. -/
def upTo (text : String) (ty : FieldType) (b e : DateTime) : Range where
  text := text
  givenName := none
  parsedFor := some ty
  lower := some ⟨moment ty b, true⟩
  upper := some ⟨moment ty e, false⟩

theorem writes_periodText (p : Period) : (currentPeriod p).Writes (periodText p).toList := by
  rw [periodText, String.toList_ofList]
  exact ⟨_, _, Text.Padded.refl _, Text.Padded.refl _, Text.Padded.refl _⟩

theorem trim_periodText (p : Period) :
    String.ofList (Text.trim (periodText p).toList) = periodText p := by
  cases p <;> decide +kernel

section Reading

variable {p : Period} {ctx : Context}

theorem parse_periodText_of_isTemporal {ty : FieldType} (hty : ty.isTemporal = true) {b e : DateTime}
    (hstart : (Token.ofEdge .start p).instant? ctx = some b)
    (hfinish : (Token.ofEdge .finish p).instant? ctx = some e) :
    parse (periodText p) ty ctx = .ok (some (upTo (periodText p) ty b e)) := by
  rw [parse_of_writes hty (writes_periodText p)]
  simp [Written.outcome, Written.ends, currentPeriod, Moment.instant?, hstart, hfinish,
    trim_periodText, endBound, upTo]

theorem parse_periodText {b e : DateTime} (hstart : (Token.ofEdge .start p).instant? ctx = some b)
    (hfinish : (Token.ofEdge .finish p).instant? ctx = some e) :
    parse (periodText p) .dateTime ctx = .ok (some (between (periodText p) b e)) :=
  parse_periodText_of_isTemporal rfl hstart hfinish

theorem exists_edges_of_parse {r : Range} (h : parse (periodText p) .dateTime ctx = .ok (some r)) :
    ∃ b e, (Token.ofEdge .start p).instant? ctx = some b ∧
      (Token.ofEdge .finish p).instant? ctx = some e ∧ r = between (periodText p) b e := by
  cases hstart : (Token.ofEdge .start p).instant? ctx with
  | none =>
    rw [parse_of_writes rfl (writes_periodText p)] at h
    simp [Written.outcome, Written.ends, currentPeriod, Moment.instant?, hstart, Moment.failure] at h
  | some b =>
    cases hfinish : (Token.ofEdge .finish p).instant? ctx with
    | none =>
      rw [parse_of_writes rfl (writes_periodText p)] at h
      simp [Written.outcome, Written.ends, currentPeriod, Moment.instant?, hstart, hfinish,
        Moment.failure] at h
    | some e =>
      rw [parse_periodText hstart hfinish, Except.ok.injEq, Option.some.injEq] at h
      exact ⟨b, e, rfl, rfl, h.symm⟩

end Reading

/-! ## The instants between the ends -/

/-- From one whole second up to another, a range is an interval on the line of seconds. -/
theorem contains_between {b e : DateTime} (hb : b.nano = 0) (he : e.nano = 0) (text : String)
    (t : DateTime) :
    (between text b e).contains (.dateTime t) = true ↔
      b.seconds ≤ t.seconds ∧ t.seconds < e.seconds := by
  rw [← DateTime.isGE_order_whole hb, ← DateTime.order_whole_eq_lt he]
  simp [contains, between, Bound.admitsAbove, Bound.admitsBelow, Value.order]

/-- **The range of the current period holds the instants of the period that now lies in.** -/
theorem contains_iff_index {p : Period} {ctx : Context} {r : Range}
    (h : parse (periodText p) .dateTime ctx = .ok (some r)) (t : DateTime) :
    r.contains (.dateTime t) = true ↔
      p.index ctx.weekStart t = p.index ctx.weekStart ctx.now := by
  obtain ⟨b, e, hstart, hfinish, rfl⟩ := exists_edges_of_parse h
  rw [Token.instant?_ofEdge_start] at hstart
  rw [Token.instant?_ofEdge_finish, hstart, Option.bind_some] at hfinish
  obtain ⟨hfrom, hb⟩ := (Period.truncate?_eq_some_iff _).1 hstart
  obtain ⟨hto, he⟩ := (Period.add?_one _ hb hfrom).1 hfinish
  rw [contains_between hb he, Period.index_eq_iff, hfrom, hto]

/-- **The current periods of a kind partition the line of time.**  Where both ends lie in the
calendar, the text for the current period is a range.  It holds exactly the instants that are cut to
the same instant as now, and now is one of them; and two such ranges, whatever their nows, that have
an instant in common hold the same instants. -/
theorem current_periods_partition_time (p : Period) (ctx : Context)
    (hstart : ((Token.ofEdge .start p).instant? ctx).isSome = true)
    (hfinish : ((Token.ofEdge .finish p).instant? ctx).isSome = true) :
    ∃ r, parse (periodText p) .dateTime ctx = .ok (some r) ∧
      (∀ t, r.contains (.dateTime t) = true ↔
        p.truncate? ctx.weekStart t = p.truncate? ctx.weekStart ctx.now) ∧
      r.contains (.dateTime ctx.now) = true ∧
      ∀ now s, parse (periodText p) .dateTime ⟨now, ctx.weekStart⟩ = .ok (some s) →
        ∀ t, r.contains (.dateTime t) = true → s.contains (.dateTime t) = true →
          ∀ u, r.contains (.dateTime u) = s.contains (.dateTime u) := by
  obtain ⟨b, hb⟩ := Option.isSome_iff_exists.1 hstart
  obtain ⟨e, he⟩ := Option.isSome_iff_exists.1 hfinish
  have hparse := parse_periodText hb he
  refine ⟨_, hparse, ?_, ?_, ?_⟩
  · intro t
    rw [Token.instant?_ofEdge_start] at hb
    rw [contains_iff_index hparse, Period.truncate?_eq_iff_index _ hb]
  · rw [contains_iff_index hparse]
  · intro now s hs t hrt hst u
    rw [contains_iff_index hparse] at hrt
    rw [contains_iff_index hs] at hst
    rw [Bool.eq_iff_iff, contains_iff_index hparse, contains_iff_index hs, ← hrt, ← hst]

/-- February of the year -4, which is a leap year: from any of its days, it ends with its 29th. -/
theorem february_has_its_29th :
    let now : DateTime := .midnight ⟨-1430, by decide, by decide⟩
    let lastSecond : DateTime := ⟨⟨-1402, by decide, by decide⟩, 86399, 0, by decide, by decide⟩
    let march : DateTime := .midnight ⟨-1401, by decide, by decide⟩
    ((Token.ofEdge .start .month).instant? ⟨now, .mon⟩).isSome = true ∧
      ((Token.ofEdge .finish .month).instant? ⟨now, .mon⟩).isSome = true ∧
      ∃ r, parse "[boM,eoM)" .dateTime ⟨now, .mon⟩ = .ok (some r) ∧
        r.contains (.dateTime now) = true ∧ r.contains (.dateTime lastSecond) = true ∧
        ¬ r.contains (.dateTime march) = true := by
  intro now lastSecond march
  have hstart : ((Token.ofEdge .start .month).instant? ⟨now, .mon⟩).isSome = true := by
    decide +kernel
  have hfinish : ((Token.ofEdge .finish .month).instant? ⟨now, .mon⟩).isSome = true := by
    decide +kernel
  obtain ⟨r, hparse, hcontains, hnow, -⟩ :=
    current_periods_partition_time .month ⟨now, .mon⟩ hstart hfinish
  refine ⟨hstart, hfinish, r, hparse, hnow, ?_, ?_⟩
  · rw [hcontains]
    decide +kernel
  · rw [hcontains]
    decide +kernel

end Range

end QueryCriteria
