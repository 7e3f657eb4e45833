import QueryCriteria.Proofs.Range.Numeral
import QueryCriteria.Proofs.Range.Resolution
import QueryCriteria.Proofs.Range.Split

/-!
# Range text for numeric fields

Range text of a numeric field writes an interval of rational numbers.  The field decides how its ends
are represented, and nothing else: a number compares by what it is, so the same text admits the same
values whatever the field.

* `Range.Interval`, `Range.Interval.Writes` — brackets and numerals, and the texts that show them.
* `Range.Interval.Reads` — the range that an interval is read as, end by end.
* `Range.parse_eq_some_iff` — the texts that are ranges are those that show an interval, and they
  are read as it.
* `Range.numeric_text_reads_as_written` — the grammar as a whole.
* `Range.Interval.admits`, `Range.Interval.Reads.contains` — a range contains what its ends admit as
  decimals.
* `Range.Interval.Holds`, `Range.Interval.admits_iff` — the interval of rational numbers, which is
  what the ends admit if all their digits fit.
* `Range.numeric_text_means_interval` — the meaning of range text for numeric fields.
-/

namespace QueryCriteria.Range

/-- Range text for a numeric field: whether each bracket is square, and the ends. -/
structure Interval where
  lowerClosed : Bool
  lower : Option Numeral
  upper : Option Numeral
  upperClosed : Bool

/-- An end as it is written; nothing is written for a missing one. -/
def numeralText (n : Option Numeral) : List Char :=
  (n.map Numeral.text).getD []

/-- A numeral puts a bound: the value it stands for, which belongs to the range if the bracket beside
it is square. -/
structure Numeral.Puts (n : Numeral) (ty : FieldType) (closed : Bool) (b : Bound) : Prop where
  inclusive : b.inclusive = closed
  value : n.Stands ty b.value

namespace Interval

/-- The parts that range text is taken apart into. -/
def split (w : Interval) : Split :=
  ⟨w.lowerClosed, numeralText w.lower, numeralText w.upper, w.upperClosed⟩

/-- The text shows these brackets and ends, with a comma between the ends and blanks anywhere around
the parts. -/
def Writes (w : Interval) (s : List Char) : Prop :=
  w.split.Shows s

/-- The ends that are there, the lower one first. -/
def ends (w : Interval) : List Numeral :=
  w.lower.toList ++ w.upper.toList

/-- The range that the interval is read as from a text for a field. -/
structure Reads (w : Interval) (text : String) (ty : FieldType) (r : Range) : Prop where
  text : r.text = String.ofList (Text.trim text.toList)
  givenName : r.givenName = none
  parsedFor : r.parsedFor = some ty
  lower : Option.Rel (Numeral.Puts · ty w.lowerClosed ·) w.lower r.lower
  upper : Option.Rel (Numeral.Puts · ty w.upperClosed ·) w.upper r.upper

end Interval

/-! ## Taking apart -/

theorem numeralText_chars (n : Option Numeral) :
    ∀ c ∈ numeralText n, Text.isBlank c = false ∧ c ≠ ',' := by
  intro c hc
  cases n with
  | none => cases hc
  | some n =>
    rcases n.text_chars c hc with hdigit | rfl | rfl
    · exact ⟨Text.isBlank_of_isAsciiDigit hdigit, Text.ne_of_isDigit hdigit rfl⟩
    · decide
    · decide

theorem numeralText_injective : Function.Injective numeralText := by
  intro n m h
  cases n with
  | none => cases m with
    | none => rfl
    | some m => exact absurd h.symm m.text_ne_nil
  | some n => cases m with
    | none => exact absurd h n.text_ne_nil
    | some m => exact congrArg some (Numeral.text_injective h)

theorem Interval.writes_iff_split? {w : Interval} {s : List Char} :
    w.Writes s ↔ split? s = some w.split := by
  have hdistinct : w.split.Distinct :=
    .of_chars (numeralText_chars w.lower) (numeralText_chars w.upper)
  rw [split?_eq_some_iff_shows, and_iff_left hdistinct]
  rfl

/-- **A text writes one interval at most.** -/
theorem Interval.Writes.unique {w w' : Interval} {s : List Char} (h : w.Writes s)
    (h' : w'.Writes s) : w = w' := by
  rw [Interval.writes_iff_split?] at h h'
  rw [h, Option.some.injEq] at h'
  obtain ⟨lowerClosed, lower, upper, upperClosed⟩ := w
  obtain ⟨lowerClosed', lower', upper', upperClosed'⟩ := w'
  simp only [Interval.split, Split.mk.injEq] at h'
  obtain ⟨rfl, hlower, hupper, rfl⟩ := h'
  rw [numeralText_injective hlower, numeralText_injective hupper]

/-! ## Reading -/

theorem isNumber_numeralText (n : Option Numeral) :
    ((numeralText n).isEmpty || isNumber (numeralText n)) = true := by
  cases n with
  | none => rfl
  | some n =>
    have hnumber : isNumber n.text = true := (Numeral.exists_text_iff.1 ⟨n, rfl⟩).1
    exact Bool.or_eq_true_iff.2 (.inr hnumber)

theorem exists_puts_iff (n? : Option Numeral) (ty : FieldType) (closed : Bool) :
    (∃ b?, Option.Rel (Numeral.Puts · ty closed ·) n? b?) ↔
      ∀ n ∈ n?, (Decimal.plain? n.text).isSome = true := by
  cases n? with
  | none => exact ⟨fun _ => by simp, fun _ => ⟨none, .none⟩⟩
  | some n =>
    simp only [Option.mem_some_iff, forall_eq', ← n.exists_stands_iff ty]
    constructor
    · rintro ⟨_, hrel⟩
      cases hrel with
      | some hputs => exact ⟨_, hputs.value⟩
    · rintro ⟨v, hv⟩
      exact ⟨some ⟨v, closed⟩, .some ⟨rfl, hv⟩⟩

theorem Interval.exists_reads_iff (w : Interval) (text : String) (ty : FieldType) :
    (∃ r, w.Reads text ty r) ↔ ∀ n ∈ w.ends, (Decimal.plain? n.text).isSome = true := by
  have hends : (∀ n ∈ w.ends, (Decimal.plain? n.text).isSome = true) ↔
      (∀ n ∈ w.lower, (Decimal.plain? n.text).isSome = true) ∧
        ∀ n ∈ w.upper, (Decimal.plain? n.text).isSome = true := by
    simp only [ends, List.mem_append, Option.mem_toList, Option.mem_def, or_imp, forall_and]
  rw [hends, ← exists_puts_iff w.lower ty w.lowerClosed, ← exists_puts_iff w.upper ty w.upperClosed]
  constructor
  · rintro ⟨r, hr⟩
    exact ⟨⟨r.lower, hr.lower⟩, ⟨r.upper, hr.upper⟩⟩
  · rintro ⟨⟨lower, hlower⟩, ⟨upper, hupper⟩⟩
    exact ⟨⟨_, none, some ty, lower, upper⟩, rfl, rfl, rfl, hlower, hupper⟩

section Exact

variable {ty : FieldType} (hty : HoldsExact ty) {ctx : Context}
include hty

theorem readSide_eq_some_iff {closed : Bool} {s : List Char} {b? : Option Bound}
    (hshape : (s.isEmpty || isNumber s) = true) :
    readSide ty ctx closed s = .ok (some b?) ↔
      ∃ n?, numeralText n? = s ∧ Option.Rel (Numeral.Puts · ty closed ·) n? b? := by
  have hread : readEnd ty ctx s = .ok (readNumber? ty s) := by
    rw [readEnd, if_pos hty.isNumeric]
  unfold readSide
  by_cases hs : s = []
  · subst hs
    constructor
    · intro h
      cases h
      exact ⟨none, rfl, .none⟩
    · rintro ⟨n?, hn, hrel⟩
      have hnone : n? = none := numeralText_injective hn
      subst hnone
      cases hrel
      rfl
  · have hempty : s.isEmpty = false := List.isEmpty_eq_false_iff.2 hs
    rw [hempty, Bool.false_or] at hshape
    rw [hempty, if_neg Bool.false_ne_true, hread]
    simp only [Except.map, Except.ok.injEq, Option.map_eq_some_iff,
      readNumber?_eq_some_iff hty hshape]
    constructor
    · rintro ⟨v, ⟨n, rfl, hv⟩, rfl⟩
      exact ⟨some n, rfl, .some ⟨rfl, hv⟩⟩
    · rintro ⟨n?, rfl, hrel⟩
      cases hrel with
      | none => exact absurd rfl hs
      | some hputs =>
        obtain ⟨rfl, hv⟩ := hputs
        exact ⟨_, ⟨_, rfl, hv⟩, rfl⟩

theorem shape?_eq_some_iff_split? {s : List Char} {p : Split} :
    shape? ty s = some p ↔ split? s = some p ∧ (p.lower.isEmpty || isNumber p.lower) = true ∧
      (p.upper.isEmpty || isNumber p.upper) = true := by
  have htakes : ty.takesRanges = true := by rw [FieldType.takesRanges, hty.isNumeric, Bool.true_or]
  have hend : ∀ part, isEnd ty part = isNumber part := fun part => by
    rw [isEnd, if_pos hty.isNumeric]
  rw [shape?, if_pos htakes, Option.filter_eq_some_iff, hend, hend, Bool.and_eq_true]

/-- **The texts that are ranges are those that write an interval, and they are read as it.** -/
theorem parse_eq_some_iff {text : String} {r : Range} :
    parse text ty ctx = .ok (some r) ↔
      ∃ w : Interval, w.Writes text.toList ∧ w.Reads text ty r := by
  constructor
  · intro h
    obtain ⟨p, lower, upper, hshape, hlower, hupper, rfl⟩ := parse_cases h
    obtain ⟨hsplit, hlowerShape, hupperShape⟩ := (shape?_eq_some_iff_split? hty).1 hshape
    obtain ⟨n, hn, hlower⟩ := (readSide_eq_some_iff hty hlowerShape).1 hlower
    obtain ⟨m, hm, hupper⟩ := (readSide_eq_some_iff hty hupperShape).1 hupper
    have hparts : (⟨p.lowerClosed, n, m, p.upperClosed⟩ : Interval).split = p := by
      rw [Interval.split, hn, hm]
    refine ⟨⟨p.lowerClosed, n, m, p.upperClosed⟩, Interval.writes_iff_split?.2 ?_, rfl, rfl, rfl,
      hlower, hupper⟩
    rw [hparts]
    exact hsplit
  · rintro ⟨w, hw, hr⟩
    obtain ⟨text', givenName, parsedFor, lower, upper⟩ := r
    obtain ⟨htext, hname, hfor, hlower, hupper⟩ := hr
    cases htext
    cases hname
    cases hfor
    have hlowerShape := isNumber_numeralText w.lower
    have hupperShape := isNumber_numeralText w.upper
    refine parse_of_readSide (p := w.split) ?_ ?_ ?_
    · exact (shape?_eq_some_iff_split? hty).2
        ⟨Interval.writes_iff_split?.1 hw, hlowerShape, hupperShape⟩
    · exact (readSide_eq_some_iff hty hlowerShape).2 ⟨w.lower, rfl, hlower⟩
    · exact (readSide_eq_some_iff hty hupperShape).2 ⟨w.upper, rfl, hupper⟩

/-- **Range text for a field of exact numbers reads as it is written.**  Reading never fails.  A text
writes one interval at most, and is a range exactly if it writes one whose numbers are all read as
decimals; the range is then the one that the interval is read as. -/
theorem numeric_text_reads_as_written (text : String) (ctx : Context) :
    (∀ e, parse text ty ctx ≠ .error e) ∧
      (∀ w w' : Interval, w.Writes text.toList → w'.Writes text.toList → w = w') ∧
      ((∃ r, parse text ty ctx = .ok (some r)) ↔
        ∃ w : Interval, w.Writes text.toList ∧
          ∀ n ∈ w.ends, (Decimal.plain? n.text).isSome = true) ∧
      ∀ (w : Interval) (r : Range), w.Writes text.toList → parse text ty ctx = .ok (some r) →
        w.Reads text ty r := by
  refine ⟨?_, fun w w' => Interval.Writes.unique, ?_, ?_⟩
  · intro e he
    obtain ⟨r?, hr⟩ := exists_parse_of_not_isTemporal hty.isTemporal_eq_false text ctx
    rw [hr] at he
    cases he
  · simp only [parse_eq_some_iff hty, ← Interval.exists_reads_iff _ text ty]
    constructor
    · rintro ⟨r, w, hw, hr⟩
      exact ⟨w, hw, r, hr⟩
    · rintro ⟨w, hw, r, hr⟩
      exact ⟨r, w, hw, hr⟩
  · intro w r hw hr
    obtain ⟨w', hw', hreads⟩ := (parse_eq_some_iff hty).1 hr
    rw [hw.unique hw']
    exact hreads

end Exact

/-- A field of unsigned numbers holds the upper end itself, and the lower one as a decimal. -/
theorem unsigned_field_reads_negative_end :
    let lower : Numeral := ⟨true, ⟨['1'], List.cons_ne_nil _ _, by simp [Text.AllDigits]⟩,
      some ⟨['5', '0'], List.cons_ne_nil _ _, by simp [Text.AllDigits]⟩⟩
    let upper : Numeral := ⟨false, ⟨['0', '0', '7'], List.cons_ne_nil _ _,
      by simp [Text.AllDigits]⟩, none⟩
    let w : Interval := ⟨true, some lower, some upper, false⟩
    let ctx : Context := ⟨.midnight ⟨739323, by decide, by decide⟩, .mon⟩
    let r : Range := ⟨"[ -1.50,007)", none, some .uint,
      some ⟨.decimal ⟨true, 150, 2, by decide, by decide⟩, true⟩, some ⟨.uint 7, false⟩⟩
    HoldsExact .uint ∧ w.Writes " [ -1.50,007)".toList ∧
      parse " [ -1.50,007)" .uint ctx = .ok (some r) ∧ w.Reads " [ -1.50,007)" .uint r := by
  intro lower upper w ctx r
  have huint : HoldsExact .uint := .inr (.inl rfl)
  have hw : w.Writes " [ -1.50,007)".toList :=
    ⟨' ' :: lower.text, upper.text, ⟨[' '], [], by decide, by decide, rfl⟩, .refl _,
      ⟨[' '], [], by decide, by decide, by decide⟩⟩
  have hr : parse " [ -1.50,007)" .uint ctx = .ok (some r) := by decide +kernel
  obtain ⟨-, -, -, hreads⟩ := numeric_text_reads_as_written huint " [ -1.50,007)" ctx
  exact ⟨huint, hw, hr, hreads w r hw hr⟩

/-! ## The values of a range -/

/-- The bound that a numeral puts for a field of decimals, if it is read as one. -/
def Numeral.bound? (n : Numeral) (closed : Bool) : Option Bound :=
  (Decimal.plain? n.text).map fun d => ⟨.decimal d, closed⟩

/-- Whether the ends of an interval admit a value, read as decimals. -/
def Interval.admits (w : Interval) (v : Value) : Bool :=
  w.lower.all (fun n => (n.bound? w.lowerClosed).any (·.admitsAbove v)) &&
    w.upper.all fun n => (n.bound? w.upperClosed).any (·.admitsBelow v)

/-- A bound admits the same values in every representation of its number. -/
theorem Numeral.Puts.exists_bound? {n : Numeral} {ty : FieldType} {closed : Bool} {b : Bound}
    (h : n.Puts ty closed b) :
    ∃ b', n.bound? closed = some b' ∧ b.admitsAbove = b'.admitsAbove ∧
      b.admitsBelow = b'.admitsBelow := by
  obtain ⟨rfl, hvalue⟩ := h
  obtain ⟨d, hd, hnumeric⟩ := hvalue.numeric
  have horder : ∀ v : Value, v.order b.value = v.order (.decimal d) := fun v => by
    rw [Value.order_of_numeric hnumeric, Value.order_of_numeric rfl]
  refine ⟨⟨.decimal d, b.inclusive⟩, by rw [bound?, hd, Option.map_some], ?_, ?_⟩
  · funext v
    rw [Bound.admitsAbove, Bound.admitsAbove, horder]
  · funext v
    rw [Bound.admitsBelow, Bound.admitsBelow, horder]

/-- **A range contains what its ends admit as decimals**, whatever field it was read for. -/
theorem Interval.Reads.contains {w : Interval} {text : String} {ty : FieldType} {r : Range}
    (h : w.Reads text ty r) : r.contains = w.admits := by
  funext v
  unfold Range.contains admits
  congr 1
  · have hlower := h.lower
    generalize w.lower = n?, r.lower = b? at hlower
    cases hlower with
    | none => rfl
    | some hputs =>
      obtain ⟨b', hb', habove, -⟩ := hputs.exists_bound?
      simp [hb', habove]
  · have hupper := h.upper
    generalize w.upper = n?, r.upper = b? at hupper
    cases hupper with
    | none => rfl
    | some hputs =>
      obtain ⟨b', hb', -, hbelow⟩ := hputs.exists_bound?
      simp [hb', hbelow]

/-- Whether a rational number lies in the interval. -/
def Interval.Holds (w : Interval) (x : ℚ) : Prop :=
  (∀ n ∈ w.lower, if w.lowerClosed then n.value ≤ x else n.value < x) ∧
    ∀ n ∈ w.upper, if w.upperClosed then x ≤ n.value else x < n.value

section Rank

variable {v : Value} {x : ℚ} (hv : v.rank = some (.number x))
include hv

theorem Numeral.Fits.exists_bound? {n : Numeral} (h : n.Fits) (closed : Bool) :
    ∃ b, n.bound? closed = some b ∧ b.inclusive = closed ∧
      v.order b.value = some (compare x n.value) := by
  obtain ⟨d, hd, hvalue⟩ := Numeral.exists_plain?_text h
  have hrank : (Value.decimal d).rank = some (.number d.toRat) := rfl
  refine ⟨⟨.decimal d, closed⟩, by rw [bound?, hd, Option.map_some], rfl, ?_⟩
  rw [Value.order_eq_rank (Value.exact_of_rank hv) (Value.exact_of_rank hrank), hv, hrank, hvalue]
  rfl

/-- **The values that the ends admit are those of the interval**, if all digits fit. -/
theorem Interval.admits_iff {w : Interval} (hfits : ∀ n ∈ w.ends, n.Fits) :
    w.admits v = true ↔ w.Holds x := by
  have hlower : ∀ n ∈ w.lower, ((n.bound? w.lowerClosed).any (·.admitsAbove v) = true ↔
      if w.lowerClosed then n.value ≤ x else n.value < x) := by
    intro n hn
    have hn : n.Fits := hfits n (List.mem_append_left _ (Option.mem_toList.2 hn))
    obtain ⟨b, hb, hclosed, horder⟩ := hn.exists_bound? hv w.lowerClosed
    rw [hb, Option.any_some, Bound.admitsAbove, horder, hclosed, Option.any_some]
    cases w.lowerClosed with
    | true => simp [Ordering.isGE_iff_ne_lt, compare_ge_iff_ge]
    | false => simp [compare_gt_iff_gt]
  have hupper : ∀ n ∈ w.upper, ((n.bound? w.upperClosed).any (·.admitsBelow v) = true ↔
      if w.upperClosed then x ≤ n.value else x < n.value) := by
    intro n hn
    have hn : n.Fits := hfits n (List.mem_append_right _ (Option.mem_toList.2 hn))
    obtain ⟨b, hb, hclosed, horder⟩ := hn.exists_bound? hv w.upperClosed
    rw [hb, Option.any_some, Bound.admitsBelow, horder, hclosed, Option.any_some]
    cases w.upperClosed with
    | true => simp [Ordering.isLE_iff_ne_gt, compare_le_iff_le]
    | false => simp [compare_lt_iff_lt]
  rw [admits, Bool.and_eq_true, Option.all_eq_true, Option.all_eq_true]
  exact and_congr (forall₂_congr hlower) (forall₂_congr hupper)

end Rank

/-- **A numeric range means the interval it writes.**  Whatever field of exact numbers a text is read
for, it is no range in every case, or a range that contains the same values.  If all its digits fit,
the exact numbers that it contains are those of the interval. -/
theorem numeric_text_means_interval (text : String) :
    ∃ held : Option (Value → Bool),
      (∀ ty, HoldsExact ty → ∀ ctx, (parse text ty ctx).map (·.map contains) = .ok held) ∧
        ∀ w : Interval, w.Writes text.toList → (∀ n ∈ w.ends, n.Fits) →
          ∃ holds, held = some holds ∧
            ∀ v x, v.rank = some (.number x) → (holds v = true ↔ w.Holds x) := by
  by_cases h : ∃ w : Interval, w.Writes text.toList ∧
      ∀ n ∈ w.ends, (Decimal.plain? n.text).isSome = true
  · obtain ⟨w, hw, hends⟩ := h
    refine ⟨some w.admits, fun ty hty ctx => ?_, fun w' hw' hfits => ⟨w.admits, rfl, ?_⟩⟩
    · obtain ⟨r, hr⟩ := (w.exists_reads_iff text ty).2 hends
      rw [(parse_eq_some_iff hty).2 ⟨w, hw, hr⟩, Except.map, Option.map_some, hr.contains]
    · obtain rfl := hw.unique hw'
      exact fun v x hv => Interval.admits_iff hv hfits
  · refine ⟨none, fun ty hty ctx => ?_, fun w hw hfits => absurd ⟨w, hw, ?_⟩ h⟩
    · obtain ⟨r?, hr⟩ := exists_parse_of_not_isTemporal hty.isTemporal_eq_false text ctx
      cases r? with
      | none => rw [hr]; rfl
      | some r =>
        obtain ⟨w, hw, hreads⟩ := (parse_eq_some_iff hty).1 hr
        exact absurd ⟨w, hw, (w.exists_reads_iff text ty).1 ⟨r, hreads⟩⟩ h
    · intro n hn
      obtain ⟨d, hd, -⟩ := Numeral.exists_plain?_text (hfits n hn)
      rw [hd]
      rfl

/-- From a half below zero up to where 64 bits end: no field of exact numbers has both ends itself. -/
theorem half_to_past_greatest :
    ∃ holds, (∀ ty, HoldsExact ty → ∀ ctx,
        (parse "(-0.5,18446744073709551616)" ty ctx).map (·.map contains) = .ok (some holds)) ∧
      holds (.uint 18446744073709551615) = true ∧ holds (.int (-1)) = false := by
  let lower : Numeral := ⟨true, ⟨['0'], List.cons_ne_nil _ _, by simp [Text.AllDigits]⟩,
    some ⟨['5'], List.cons_ne_nil _ _, by simp [Text.AllDigits]⟩⟩
  let upper : Numeral := ⟨false, ⟨"18446744073709551616".toList, by decide,
    List.all_eq_true.1 (by decide)⟩, none⟩
  let w : Interval := ⟨false, some lower, some upper, false⟩
  have hw : w.Writes "(-0.5,18446744073709551616)".toList :=
    ⟨lower.text, upper.text, .refl _, .refl _, ⟨[], [], by decide, by decide, by decide⟩⟩
  have hholds : ∀ x : ℚ, w.Holds x ↔ -1 / 2 < x ∧ x < 18446744073709551616 := by
    intro x
    have hlower : lower.value = -1 / 2 := by
      rw [Numeral.value, show lower.signed = -5 by decide, show lower.places.length = 1 from rfl]
      norm_num [tenTo]
    have hupper : upper.value = 18446744073709551616 := by
      rw [Numeral.value, show upper.signed = 18446744073709551616 by decide,
        show upper.places.length = 0 from rfl]
      norm_num [tenTo]
    simp [Interval.Holds, w, hlower, hupper]
  obtain ⟨held, hread, hmeans⟩ := numeric_text_means_interval "(-0.5,18446744073709551616)"
  obtain ⟨holds, rfl, hiff⟩ := hmeans w hw (by simp [Interval.ends, w]; decide)
  refine ⟨holds, hread, ?_, ?_⟩
  · refine (hiff _ 18446744073709551615 rfl).2 ((hholds _).2 ?_)
    norm_num
  · rw [← Bool.not_eq_true, hiff _ (-1) rfl, hholds]
    norm_num

end QueryCriteria.Range
