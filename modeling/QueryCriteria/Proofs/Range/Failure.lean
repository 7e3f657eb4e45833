import QueryCriteria.Proofs.Number.Literal
import QueryCriteria.Proofs.Operator.Registration
import QueryCriteria.Proofs.Range.Grammar
import QueryCriteria.Proofs.Range.Resolution
import QueryCriteria.Proofs.Time.Limit

/-!
# When looking up an operator fails

Only a relative date can make range text fail.  Its steps are to cut the current instant to a period,
to advance by one period, and to shift; each fails where it leads off the calendar, however long the
shift.  Besides, a relative date fails whose amount is written in digits of another script: its shape
admits them, but no number is read from them.

* `RelativeDate.Amount.Foreign`, `RelativeDate.Amount.integer?_eq_none_iff` — amounts that are no
  numbers.
* `RelativeDate.Token.Foreign`, `RelativeDate.Token.Leaves` — the amount of a token is no number, or
  one of its steps leads off the calendar.
* `RelativeDate.Token.instant?_eq_none_iff` — these are the relative dates without an instant.
* `Range.FailsAt`, `Range.parse_eq_error_iff` — the first end without an instant is such a relative
  date.
* `Registry.get?_standard_of_bracket`, `Registry.lookup_fails_iff` — range text is no name of a
  built-in operator, so looking it up fails where reading it does.
-/

namespace QueryCriteria

namespace RelativeDate

/-! ## Amounts -/

namespace Amount

/-- Whether an amount has a digit of a script other than ASCII. -/
def Foreign (a : Amount) : Prop :=
  ∃ c ∈ a.text, Text.isDigit c = true ∧ c.isDigit = false

/-- An amount is no number exactly if it has a digit of another script. -/
theorem integer?_eq_none_iff (a : Amount) : Literal.integer? a.text = none ↔ a.Foreign := by
  obtain ⟨text, sign, ds, hsign, hne, hdigits, rfl⟩ := a
  have hsplit : (Literal.splitSign (sign :: ds)).2 = ds := by
    rcases hsign with rfl | rfl <;> rfl
  constructor
  · intro hnone
    by_contra hforeign
    have hall : Text.AllDigits ds := by
      intro c hc
      by_contra hascii
      exact hforeign ⟨c, List.mem_cons_of_mem _ hc, hdigits c hc, Bool.eq_false_iff.2 hascii⟩
    have hread := Literal.integer?_eq_some_iff.2
      ⟨by rw [hsplit]; exact Text.isNatural_of_allDigits hall hne, rfl⟩
    rw [hnone] at hread
    cases hread
  · rintro ⟨c, hc, hdigit, hforeign⟩
    rw [Option.eq_none_iff_forall_ne_some]
    intro n hn
    rw [Literal.isAsciiDigit_of_integer? hn hc hdigit] at hforeign
    cases hforeign

end Amount

/-! ## Relative dates without an instant -/

/-- Whether a token has its amount in digits of another script. -/
def Token.Foreign (t : Token) : Prop :=
  ∃ amount p, t.offset = some (amount, p) ∧ amount.Foreign

theorem Token.foreign_iff (t : Token) :
    t.Foreign ↔ ∃ c ∈ t.text, Text.isDigit c = true ∧ c.isDigit = false := by
  have hcode : ∀ p : Period, Text.isDigit p.code = false := by
    intro p
    cases p <;> decide
  have hbase : ∀ c ∈ baseText t.shape.base, Text.isDigit c = false := by
    obtain ⟨_ | ⟨_ | _, p⟩, offset⟩ := t <;>
      simp [Token.shape, baseText, hcode] <;> decide
  constructor
  · rintro ⟨amount, p, hoffset, c, hc, hdigit⟩
    exact ⟨c, by simp [text, Shape.text, Token.shape, offsetText, hoffset, hc], hdigit⟩
  · rintro ⟨c, hc, hdigit, hforeign⟩
    rcases List.mem_append.1 hc with hc | hc
    · rw [hbase c hc] at hdigit
      cases hdigit
    · cases hoffset : t.offset with
      | none => simp [Token.shape, offsetText, hoffset] at hc
      | some o =>
        obtain ⟨amount, p⟩ := o
        simp only [Token.shape, offsetText, hoffset, Option.map_some, List.mem_append,
          List.mem_singleton] at hc
        rcases hc with hc | rfl
        · exact ⟨amount, p, hoffset, c, hc, hdigit, hforeign⟩
        · rw [hcode p] at hdigit
          cases hdigit

/-- Whether the instant of a base would lie off the calendar. -/
inductive BaseLeaves (ctx : Context) : Option (Edge × Period) → Prop
  /-- The current period begins off the calendar. -/
  | cut {edge : Edge} {p : Period}
      (h : OffCalendar (p.mark ctx.weekStart (p.index ctx.weekStart ctx.now) / 86400)) :
      BaseLeaves ctx (some (edge, p))
  /-- The next period does. -/
  | advance {p : Period}
      (h : OffCalendar (p.mark ctx.weekStart (p.index ctx.weekStart ctx.now + 1) / 86400)) :
      BaseLeaves ctx (some (.finish, p))

/-- Whether a step of a token leads off the calendar: to its base, or from there by the exact number
of periods that its amount says. -/
inductive Token.Leaves (ctx : Context) (t : Token) : Prop
  | base (h : BaseLeaves ctx t.base)
  | shift {amount : Amount} {p : Period} {n : Int} {b : DateTime}
      (hoffset : t.offset = some (amount, p)) (hamount : Literal.integer? amount.text = some n)
      (hbase : baseInstant? ctx t.base = some b) (h : OffCalendar (p.stride.landing n b))

variable {ctx : Context}

theorem baseInstant?_eq_none_iff {base : Option (Edge × Period)} :
    baseInstant? ctx base = none ↔ BaseLeaves ctx base := by
  rcases base with _ | ⟨edge, p⟩
  · exact iff_of_false (Option.some_ne_none _) nofun
  · simp only [baseInstant?]
    cases hcut : p.truncate? ctx.weekStart ctx.now with
    | none => exact iff_of_true rfl (.cut ((Period.truncate?_eq_none_iff _).1 hcut))
    | some b =>
      have hin := mt (Period.truncate?_eq_none_iff ctx.weekStart).2 (hcut ▸ Option.some_ne_none b)
      obtain ⟨hseconds, hnano⟩ := (Period.truncate?_eq_some_iff _).1 hcut
      have hnext := Period.add?_one_eq_none_iff _ hseconds hnano
      rw [Option.bind_some]
      constructor
      · intro h
        cases edge with
        | start => cases h
        | finish => exact .advance (hnext.1 h)
      · intro h
        cases h with
        | cut h => exact absurd h hin
        | advance h => exact hnext.2 h

theorem Token.instant?_of_no_offset {t : Token} (h : t.offset = none) :
    t.instant? ctx = baseInstant? ctx t.base := by
  simp [instant?, relativeDate?, h, resolve?, shifted?]

theorem Token.instant?_of_offset {t : Token} {amount : Amount} {p : Period}
    (h : t.offset = some (amount, p)) :
    t.instant? ctx =
      amount.value?.bind fun n => (baseInstant? ctx t.base).bind fun b => p.add? b n.toInt := by
  cases hn : amount.value? <;> simp [instant?, relativeDate?, h, hn, resolve?, shifted?]

/-- The steps of a token with an amount: unless its base is off the calendar, the shift leads off
it. -/
theorem Token.leaves_iff {t : Token} {amount : Amount} {p : Period} {n : Int}
    (hoffset : t.offset = some (amount, p)) (hamount : Literal.integer? amount.text = some n) :
    t.Leaves ctx ↔
      ∀ b, baseInstant? ctx t.base = some b → OffCalendar (p.stride.landing n b) := by
  constructor
  · rintro (h | ⟨hoffset', hamount', hbase, h⟩) b hb
    · rw [baseInstant?_eq_none_iff.2 h] at hb
      cases hb
    · rw [hoffset] at hoffset'
      cases hoffset'
      rw [hamount, Option.some.injEq] at hamount'
      rw [hbase, Option.some.injEq] at hb
      rwa [hamount', ← hb]
  · intro h
    cases hbase : baseInstant? ctx t.base with
    | none => exact .base (baseInstant?_eq_none_iff.1 hbase)
    | some b => exact .shift hoffset hamount hbase (h b hbase)

/-- An amount that is no number leads nowhere, so that only the base of its token may leave. -/
theorem Token.Foreign.baseLeaves {t : Token} (hforeign : t.Foreign) (h : t.Leaves ctx) :
    BaseLeaves ctx t.base := by
  obtain ⟨amount, p, hoffset, hdigits⟩ := hforeign
  rcases h with h | ⟨hoffset', hamount, -, -⟩
  · exact h
  · cases hoffset.symm.trans hoffset'
    rw [amount.integer?_eq_none_iff.2 hdigits] at hamount
    cases hamount

/-- **A token has no instant exactly if its amount is no number or a step leads off the calendar.** -/
theorem Token.instant?_eq_none_iff (t : Token) :
    t.instant? ctx = none ↔ t.Foreign ∨ t.Leaves ctx := by
  cases hoffset : t.offset with
  | none =>
    rw [instant?_of_no_offset hoffset, baseInstant?_eq_none_iff]
    constructor
    · exact fun h => .inr (.base h)
    · rintro (⟨_, _, hsome, -⟩ | h | ⟨hsome, -, -, -⟩)
      · exact absurd (hoffset.symm.trans hsome) nofun
      · exact h
      · exact absurd (hoffset.symm.trans hsome) nofun
  | some o =>
    obtain ⟨amount, p⟩ := o
    have hforeign : t.Foreign ↔ Literal.integer? amount.text = none := by
      rw [amount.integer?_eq_none_iff]
      constructor
      · rintro ⟨_, _, hsome, h⟩
        cases hoffset.symm.trans hsome
        exact h
      · exact fun h => ⟨amount, p, hoffset, h⟩
    rw [instant?_of_offset hoffset, hforeign]
    cases hn : Literal.integer? amount.text with
    | none =>
      have hnone : amount.value? = none := Literal.int64?_eq_none_iff.2 (by simp [hn])
      simp [hnone]
    | some n =>
      rw [Token.leaves_iff hoffset hn, or_iff_right (Option.some_ne_none n)]
      cases hi : amount.value? with
      | none =>
        -- A number past 64 bits is none to the reader, but leads off the calendar all the same.
        have hout := Literal.int64?_eq_none_iff.1 hi n hn
        exact iff_of_true rfl fun b _ => p.offCalendar_landing b hout
      | some i =>
        have hvalue : i.toInt = n := by
          have hread := Literal.int64?_eq_some_iff.1 hi
          rw [hn, Option.some.injEq] at hread
          exact hread.symm
        simp only [Option.bind_some, Option.bind_eq_none_iff, hvalue, Period.add?_eq_none_iff]

end RelativeDate

/-! ## Range text that fails -/

namespace Range

open RelativeDate (Token)

/-- In a text that shows range text, the first end without an instant is this token. -/
def FailsAt (ctx : Context) (text : String) (t : Token) : Prop :=
  ∃ (w : Written) (before after : List Moment), w.Writes text.toList ∧
    w.ends = before ++ .token t :: after ∧ (∀ m ∈ before, (m.instant? ctx).isSome = true) ∧
    (t.Foreign ∨ t.Leaves ctx)

variable {text : String} {ty : FieldType} {ctx : Context} {e : OperatorError}

theorem Written.outcome_eq_error_iff {w : Written} :
    w.outcome text ty ctx = .error e ↔
      ∃ t, (w.ends.find? fun m => (m.instant? ctx).isNone) = some (.token t) ∧
        e = .offsetOutOfRange (String.ofList t.text) := by
  unfold outcome
  cases w.ends.find? fun m => (m.instant? ctx).isNone with
  | none => simp
  | some m =>
    cases m with
    | date d => simp [Moment.failure]
    | token t => simp [Moment.failure, eq_comm]

theorem failsAt_iff {t : Token} :
    FailsAt ctx text t ↔ ∃ w : Written, w.Writes text.toList ∧
      (w.ends.find? fun m => (m.instant? ctx).isNone) = some (.token t) := by
  simp only [FailsAt, List.find?_eq_some_iff_append, Option.isNone_iff_eq_none, Option.not_isNone,
    Moment.instant?, t.instant?_eq_none_iff]
  constructor
  · rintro ⟨w, before, after, hw, hends, hbefore, hfails⟩
    exact ⟨w, hw, hfails, before, after, hends, hbefore⟩
  · rintro ⟨w, hw, hfails, before, after, hends, hbefore⟩
    exact ⟨w, before, after, hw, hends, hbefore, hfails⟩

/-- **Reading range text fails exactly at such a token**, and reports it. -/
theorem parse_eq_error_iff :
    parse text ty ctx = .error e ↔ ty.isTemporal = true ∧
      ∃ t, FailsAt ctx text t ∧ e = .offsetOutOfRange (String.ofList t.text) := by
  constructor
  · intro h
    cases hty : ty.isTemporal with
    | false =>
      obtain ⟨r?, hr⟩ := exists_parse_of_not_isTemporal hty text ctx
      rw [hr] at h
      cases h
    | true =>
      by_cases hwritten : ∃ w : Written, w.Writes text.toList
      · obtain ⟨w, hw⟩ := hwritten
        rw [parse_of_writes hty hw, Written.outcome_eq_error_iff] at h
        obtain ⟨t, ht, he⟩ := h
        exact ⟨rfl, t, failsAt_iff.2 ⟨w, hw, ht⟩, he⟩
      · rw [parse_of_not_writes hty hwritten] at h
        cases h
  · rintro ⟨hty, t, hfails, he⟩
    obtain ⟨w, hw, ht⟩ := failsAt_iff.1 hfails
    rw [parse_of_writes hty hw]
    exact Written.outcome_eq_error_iff.2 ⟨t, ht, he⟩

theorem exists_bracket_of_writes {w : Written} {s : List Char} (h : w.Writes s) :
    '[' ∈ s ∨ '(' ∈ s := by
  obtain ⟨left, right, -, -, before, after, -, -, rfl⟩ := h
  cases w.lowerClosed with
  | true => exact .inl (by simp)
  | false => exact .inr (by simp)

end Range

/-! ## Looking up -/

namespace Registry

variable {settings : Settings} {now : DateTime} {name : String} {ty : FieldType}
  {e : OperatorError}

theorem bracket_notin_names_all : ∀ b ∈ Builtin.all, ∀ own ∈ b.names,
    '[' ∉ own.toList.map Text.upperAscii ∧ '(' ∉ own.toList.map Text.upperAscii := by
  decide

theorem get?_standard_of_bracket (h : '[' ∈ name.toList ∨ '(' ∈ name.toList) :
    (standard settings now).get? name = none := by
  have hupper : ∀ {c : Char}, c ∈ Text.upperChar c → c ∈ name.toList →
      c ∈ (Text.upper name).toList := by
    intro c hself hc
    rw [Text.upper, String.toList_ofList, List.mem_flatMap]
    exact ⟨c, hc, hself⟩
  rw [Option.eq_none_iff_forall_ne_some]
  intro op hop
  obtain ⟨b, -, own, hown, hcapitals⟩ := (get?_standard_eq_some_iff settings now).1 hop
  obtain ⟨hsquare, hround⟩ := bracket_notin_names_all b b.mem_all own hown
  rw [← hcapitals, Text.upper_of_isAscii (Builtin.isAscii_of_mem_names hown),
    String.toList_ofList] at hupper
  rcases h with hc | hc
  · exact hsquare (hupper (by decide +kernel) hc)
  · exact hround (hupper (by decide +kernel) hc)

theorem lookup_eq_error_iff {r : Registry}
    (hbuiltin : ∀ op, r.get? name = some op → ∃ b, op = .builtin b) :
    r.lookup name ty = .error e ↔ r.get? name = none ∧ ty.takesRanges = true ∧
      Range.parse name ty r.context = .error e := by
  unfold lookup
  cases hget : r.get? name with
  | some op =>
    obtain ⟨b, rfl⟩ := hbuiltin op hget
    simp
  | none =>
    cases htakes : ty.takesRanges with
    | true => simp [map_eq_error_iff]
    | false => simp

theorem lookup_standard_eq_error_iff :
    (standard settings now).lookup name ty = .error e ↔
      Range.parse name ty ⟨now, settings.weekStart⟩ = .error e := by
  have hcontext : (standard settings now).context = ⟨now, settings.weekStart⟩ :=
    context_register _ _
  have hbuiltin : ∀ op, (standard settings now).get? name = some op → ∃ b, op = .builtin b := by
    intro op hop
    obtain ⟨b, hb, -⟩ := (get?_standard_eq_some_iff settings now).1 hop
    exact ⟨b, hb⟩
  rw [lookup_eq_error_iff hbuiltin, hcontext]
  constructor
  · rintro ⟨-, -, h⟩
    exact h
  · intro h
    obtain ⟨htemporal, t, ⟨w, -, -, hw, -⟩, -⟩ := Range.parse_eq_error_iff.1 h
    have htakes : ty.takesRanges = true := by rw [FieldType.takesRanges, htemporal, Bool.or_true]
    exact ⟨get?_standard_of_bracket (Range.exists_bracket_of_writes hw), htakes, h⟩

/-- **Reading and looking up fail only at relative dates**: at the first end without an instant, if it
is a token that leads off the calendar, however long its shift, or one with an amount in digits of
another script.  Every other text is answered. -/
theorem lookup_fails_iff (name : String) (ty : FieldType) (e : OperatorError) :
    (∀ ctx, Range.parse name ty ctx = .error e ↔ ty.isTemporal = true ∧
        ∃ t, Range.FailsAt ctx name t ∧ e = .offsetOutOfRange (String.ofList t.text)) ∧
      ∀ (settings : Settings) (now : DateTime), (standard settings now).lookup name ty = .error e ↔
        ty.isTemporal = true ∧ ∃ t, Range.FailsAt ⟨now, settings.weekStart⟩ name t ∧
          e = .offsetOutOfRange (String.ofList t.text) := by
  refine ⟨fun ctx => Range.parse_eq_error_iff, fun settings now => ?_⟩
  rw [lookup_standard_eq_error_iff, Range.parse_eq_error_iff]

/-- A shift by years past 64 bits leads off the calendar. -/
theorem years_past_64_bits_fail :
    let now : DateTime := ⟨⟨739323, by decide, by decide⟩, 56527, 0, by decide, by decide⟩
    (standard {} now).lookup "(,ct+9223372036854775808y]" .dateTime =
      .error (.offsetOutOfRange "ct+9223372036854775808y") := by
  intro now
  let amount : RelativeDate.Amount := ⟨['+', '9', '2', '2', '3', '3', '7', '2', '0', '3', '6', '8',
    '5', '4', '7', '7', '5', '8', '0', '8'], '+', _, .inl rfl, List.cons_ne_nil _ _,
    List.all_eq_true.1 (by decide), rfl⟩
  let t : RelativeDate.Token := ⟨none, some (amount, .year)⟩
  have hleaves : t.Leaves ⟨now, .mon⟩ := by
    have hamount : Literal.integer? amount.text = some 9223372036854775808 := by decide
    exact .shift rfl hamount rfl (Period.offCalendar_landing .year now (.inr (by decide)))
  let w : Range.Written := ⟨false, none, some (.token t), true⟩
  have hwrites : w.Writes "(,ct+9223372036854775808y]".toList :=
    ⟨_, _, .refl _, .refl _, ⟨[], [], by decide, by decide, by decide⟩⟩
  have hfails : Range.FailsAt ⟨now, .mon⟩ "(,ct+9223372036854775808y]" t :=
    ⟨w, [], [], hwrites, by simp [Range.Written.ends, w], by simp, .inr hleaves⟩
  obtain ⟨-, hlookup⟩ := lookup_fails_iff "(,ct+9223372036854775808y]" .dateTime
    (.offsetOutOfRange "ct+9223372036854775808y")
  exact (hlookup {} now).2 ⟨rfl, t, hfails, by decide⟩

/-- Three days written in Arabic digits lead nowhere off the calendar, but reading them fails. -/
theorem arabic_digits_fail :
    let now : DateTime := ⟨⟨739323, by decide, by decide⟩, 56527, 0, by decide, by decide⟩
    (standard {} now).lookup "[ct+٣d,]" .date = .error (.offsetOutOfRange "ct+٣d") ∧
      ∀ w : Range.Written, w.Writes "[ct+٣d,]".toList → ∀ t, .token t ∈ w.ends →
        t.Foreign ∧ ¬ t.Leaves ⟨now, .mon⟩ := by
  intro now
  constructor
  · exact lookup_standard_eq_error_iff.2 (by decide +kernel)
  · intro w hw t ht
    obtain ⟨hlower, hupper⟩ : Range.endText w.lower = ['c', 't', '+', '٣', 'd'] ∧
        Range.endText w.upper = [] := by
      have hsplit := Range.Written.writes_iff_split?.1 hw
      have hparts : Range.split? "[ct+٣d,]".toList =
          some ⟨true, ['c', 't', '+', '٣', 'd'], [], true⟩ := by decide +kernel
      rw [hparts, Option.some.injEq, Range.Written.split, Range.Split.mk.injEq] at hsplit
      exact ⟨hsplit.2.1.symm, hsplit.2.2.1.symm⟩
    have htext : t.text = ['c', 't', '+', '٣', 'd'] := by
      rcases List.mem_append.1 ht with ht | ht
      · rw [Option.mem_toList.1 ht] at hlower
        exact hlower
      · rw [Option.mem_toList.1 ht] at hupper
        exact absurd hupper (Range.Moment.text_ne_nil (.token t))
    have hforeign : t.Foreign :=
      t.foreign_iff.2 ⟨'٣', by rw [htext]; simp, by decide, by decide⟩
    have hbase : t.base = none := by
      have hshape := t.shape?_text
      have hparts : RelativeDate.shape? ['c', 't', '+', '٣', 'd'] =
          some ⟨none, some (['+', '٣'], 'd')⟩ := by decide +kernel
      rw [htext, hparts, Option.some.injEq] at hshape
      exact Option.map_eq_none_iff.1 (congrArg RelativeDate.Shape.base hshape).symm
    refine ⟨hforeign, fun hleaves => ?_⟩
    have hbaseLeaves := hforeign.baseLeaves hleaves
    rw [hbase] at hbaseLeaves
    cases hbaseLeaves

end Registry

end QueryCriteria
