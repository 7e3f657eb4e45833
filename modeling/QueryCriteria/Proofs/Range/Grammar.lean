import QueryCriteria.Proofs.Range.RelativeDate
import QueryCriteria.Proofs.Range.Split

/-!
# The grammar of range text for temporal fields

Range text is stated by what writes it: a bracket, two ends that may be missing, a comma between
them and a bracket, with blanks around every part.  The reader takes exactly such text apart, and
its answer is read off the ends.

* `Range.DateText`, `Range.Moment` — a date and a point in time as they are written;
  `Moment.instant?` is the instant meant, `Moment.failure` the answer when there is none.
* `Range.Written`, `Range.Written.Writes` — range text and the texts that show it.
* `Range.Written.outcome` — the answer for range text: the first end without an instant decides.
* `Range.shape?_eq_some_iff` — the reader takes apart exactly what is written so.
* `Range.parse_of_writes` — and answers with the outcome.
* `Range.temporal_text_reads_as_written` — the grammar as a whole.
-/

namespace QueryCriteria.Range

/-! ## Points in time -/

/-- `width` digits, of whatever script. -/
structure Digits (width : Nat) where
  chars : List Char
  length_eq : chars.length = width
  isDigit : ∀ d ∈ chars, Text.isDigit d = true

/-- Year, month and day as they are written. -/
structure DateText where
  year : Digits 4
  month : Digits 2
  day : Digits 2

namespace DateText

/-- A date as it is written. -/
def text (d : DateText) : List Char :=
  d.year.chars ++ '-' :: d.month.chars ++ '-' :: d.day.chars

/-- The date that is meant: all digits are ASCII digits, and there is such a day. -/
def date? (d : DateText) : Option Date :=
  if (d.year.chars ++ d.month.chars ++ d.day.chars).all Char.isDigit then
    Date.ofCivil?
      ⟨Text.natural d.year.chars, Text.natural d.month.chars, Text.natural d.day.chars⟩
  else none

/-- A written date is ten characters, all digits but the two hyphens. -/
theorem exists_chars (x : DateText) :
    ∃ a b c d e f g h, x.year.chars = [a, b, c, d] ∧ x.month.chars = [e, f] ∧
      x.day.chars = [g, h] ∧ x.text = [a, b, c, d, '-', e, f, '-', g, h] ∧
      ∀ digit ∈ [a, b, c, d, e, f, g, h], Text.isDigit digit = true := by
  obtain ⟨⟨year, hyear, hyears⟩, ⟨month, hmonth, hmonths⟩, ⟨day, hday, hdays⟩⟩ := x
  match year, month, day, hyear, hmonth, hday with
  | [a, b, c, d], [e, f], [g, h], _, _, _ =>
    refine ⟨a, b, c, d, e, f, g, h, rfl, rfl, rfl, rfl, ?_⟩
    intro digit hdigit
    have hparts : digit ∈ [a, b, c, d] ++ [e, f] ++ [g, h] := hdigit
    rcases List.mem_append.1 hparts with hparts | hpart
    · rcases List.mem_append.1 hparts with hpart | hpart
      · exact hyears digit hpart
      · exact hmonths digit hpart
    · exact hdays digit hpart

theorem exists_text_iff {s : List Char} : (∃ d : DateText, d.text = s) ↔ isDateShape s = true := by
  constructor
  · rintro ⟨x, rfl⟩
    obtain ⟨a, b, c, d, e, f, g, h, -, -, -, htext, hdigits⟩ := x.exists_chars
    rw [htext, isDateShape, List.all_eq_true]
    exact hdigits
  · intro hshape
    unfold isDateShape at hshape
    split at hshape
    · rename_i a b c d e f g h
      simp only [List.all_cons, List.all_nil, Bool.and_true, Bool.and_eq_true] at hshape
      obtain ⟨ha, hb, hc, hd, he, hf, hg, hh⟩ := hshape
      exact ⟨⟨⟨[a, b, c, d], rfl, by simp [ha, hb, hc, hd]⟩, ⟨[e, f], rfl, by simp [he, hf]⟩,
        ⟨[g, h], rfl, by simp [hg, hh]⟩⟩, rfl⟩
    · cases hshape

theorem ofDigits?_text (x : DateText) : Date.ofDigits? x.text = x.date? := by
  obtain ⟨a, b, c, d, e, f, g, h, hyear, hmonth, hday, htext, -⟩ := x.exists_chars
  rw [date?, htext, hyear, hmonth, hday]
  rfl

end DateText

/-- A point in time as range text writes it. -/
inductive Moment where
  | date (d : DateText)
  | token (t : RelativeDate.Token)

namespace Moment

/-- A point in time as it is written. -/
def text : Moment → List Char
  | .date d => d.text
  | .token t => t.text

/-- The instant that is meant: midnight of a date, and whatever a token resolves to. -/
def instant? (ctx : Context) : Moment → Option DateTime
  | .date d => d.date?.map .midnight
  | .token t => t.instant? ctx

/-- The answer when a point in time has no instant: a date that is none makes the text no range, and
a token that resolves to nothing is out of range. -/
def failure {α : Type} : Moment → Except OperatorError (Option α)
  | .date _ => .ok none
  | .token t => .error (.offsetOutOfRange (String.ofList t.text))

theorem isDateShape_token (t : RelativeDate.Token) : isDateShape t.text = false := by
  rw [Bool.eq_false_iff]
  intro hshape
  obtain ⟨x, hx⟩ := DateText.exists_text_iff.2 hshape
  obtain ⟨a, b, c, d, e, f, g, h, -, -, -, htext, hdigits⟩ := x.exists_chars
  have hfirst : ∃ rest, t.text = 'c' :: rest ∨ t.text = 'b' :: rest ∨ t.text = 'e' :: rest := by
    obtain ⟨base, offset⟩ := t
    rcases base with _ | ⟨_ | _, p⟩
    · exact ⟨_, .inl rfl⟩
    · exact ⟨_, .inr (.inl rfl)⟩
    · exact ⟨_, .inr (.inr rfl)⟩
  have ha := hdigits a List.mem_cons_self
  rw [← hx, htext] at hfirst
  rcases hfirst with ⟨rest, hrest | hrest | hrest⟩ <;> cases hrest <;> exact absurd ha (by decide)

theorem isTokenShape_iff {s : List Char} :
    isTokenShape s = true ↔ ∃ t : RelativeDate.Token, t.text = s := by
  rw [RelativeDate.Token.exists_text_iff]
  unfold isTokenShape
  cases RelativeDate.shape? s with
  | none => simp
  | some shape => simp [Option.all_eq_true]

theorem isMoment_iff {s : List Char} : isMoment s = true ↔ ∃ m : Moment, m.text = s := by
  rw [isMoment, Bool.or_eq_true, ← DateText.exists_text_iff, isTokenShape_iff]
  constructor
  · rintro (⟨d, rfl⟩ | ⟨t, rfl⟩)
    · exact ⟨.date d, rfl⟩
    · exact ⟨.token t, rfl⟩
  · rintro ⟨d | t, rfl⟩
    · exact .inl ⟨d, rfl⟩
    · exact .inr ⟨t, rfl⟩

/-- A point in time is read as its instant, and fails in its own way when it has none. -/
theorem readMoment_text (m : Moment) (ty : FieldType) (ctx : Context) :
    readMoment ty ctx m.text =
      match m.instant? ctx with
      | some t => .ok (some (moment ty t))
      | none => m.failure := by
  cases m with
  | date d =>
    have hshape : isDateShape d.text = true := DateText.exists_text_iff.1 ⟨d, rfl⟩
    simp only [readMoment, text, hshape, if_true, d.ofDigits?_text, instant?, failure]
    cases d.date? <;> rfl
  | token t =>
    simp only [readMoment, text, isDateShape_token, Bool.false_eq_true, if_false,
      RelativeDate.parse_token, instant?, RelativeDate.Token.instant?, failure]
    cases hr : t.relativeDate? with
    | none => rfl
    | some r =>
      have htext := RelativeDate.text_of_relativeDate? hr
      cases hi : r.resolve? ctx <;>
        simp [RelativeDate.resolve, hi, htext, bind, Except.bind, pure, Except.pure]

theorem text_chars (m : Moment) : ∀ c ∈ m.text, Text.isBlank c = false ∧ c ≠ ',' := by
  have hdigit : ∀ {c : Char}, Text.isDigit c = true → Text.isBlank c = false ∧ c ≠ ',' := by
    intro c hc
    refine ⟨Text.isBlank_of_isDigit hc, ?_⟩
    rintro rfl
    exact absurd hc (by decide)
  have hcode : ∀ p : Period, Text.isBlank p.code = false ∧ p.code ≠ ',' := by
    intro p
    cases p <;> decide
  intro c hc
  cases m with
  | date x =>
    change c ∈ x.text at hc
    simp only [DateText.text, List.mem_append, List.mem_cons] at hc
    rcases hc with (hyear | rfl | hmonth) | rfl | hday
    · exact hdigit (x.year.isDigit c hyear)
    · decide
    · exact hdigit (x.month.isDigit c hmonth)
    · decide
    · exact hdigit (x.day.isDigit c hday)
  | token t =>
    obtain ⟨base, offset⟩ := t
    rcases List.mem_append.1 hc with hbase | hoffset
    · rcases base with _ | ⟨_ | _, p⟩ <;>
        simp only [RelativeDate.Token.shape, Option.map_none, Option.map_some,
          RelativeDate.baseText, List.mem_cons, List.not_mem_nil, or_false] at hbase
      · rcases hbase with rfl | rfl <;> decide
      · rcases hbase with rfl | rfl | rfl
        · decide
        · decide
        · exact hcode p
      · rcases hbase with rfl | rfl | rfl
        · decide
        · decide
        · exact hcode p
    · rcases offset with _ | ⟨⟨_, sign, ds, hsign, hds, hdigits, rfl⟩, p⟩
      · cases hoffset
      · simp only [RelativeDate.Token.shape, Option.map_some, RelativeDate.offsetText,
          List.cons_append, List.mem_cons, List.mem_append, List.not_mem_nil, or_false] at hoffset
        rcases hoffset with rfl | hmem | rfl
        · rcases hsign with rfl | rfl <;> decide
        · exact hdigit (hdigits c hmem)
        · exact hcode p

theorem text_ne_nil (m : Moment) : m.text ≠ [] := by
  cases m with
  | date d =>
    obtain ⟨a, b, c, d', e, f, g, h, -, -, -, htext, -⟩ := d.exists_chars
    change d.text ≠ []
    rw [htext]
    exact List.cons_ne_nil _ _
  | token t =>
    obtain ⟨base, offset⟩ := t
    rcases base with _ | ⟨_ | _, p⟩ <;> exact List.cons_ne_nil _ _

end Moment

/-! ## Range text -/

/-- Range text for a temporal field: whether each bracket is square, and the ends. -/
structure Written where
  lowerClosed : Bool
  lower : Option Moment
  upper : Option Moment
  upperClosed : Bool

/-- An end as it is written; nothing is written for a missing one. -/
def endText (m : Option Moment) : List Char :=
  (m.map Moment.text).getD []

/-- The bound that an end with an instant puts: it belongs to the range if its bracket is square. -/
def endBound (ty : FieldType) (ctx : Context) (closed : Bool) (m : Option Moment) : Option Bound :=
  (m.bind (·.instant? ctx)).map fun t => ⟨moment ty t, closed⟩

namespace Written

/-- The text shows these brackets and ends, with a comma between the ends and blanks anywhere around
the parts. -/
def Writes (w : Written) (s : List Char) : Prop :=
  ∃ left right, Text.Padded (endText w.lower) left ∧ Text.Padded (endText w.upper) right ∧
    Text.Padded
      ((if w.lowerClosed then '[' else '(') :: (left ++ ',' :: right) ++
        [if w.upperClosed then ']' else ')']) s

/-- The ends that are there, the lower one first. -/
def ends (w : Written) : List Moment :=
  w.lower.toList ++ w.upper.toList

/-- The answer for range text: the first end without an instant decides, and if all have one the
text is the range between them. -/
def outcome (w : Written) (text : String) (ty : FieldType) (ctx : Context) :
    Except OperatorError (Option Range) :=
  match w.ends.find? fun m => (m.instant? ctx).isNone with
  | some m => m.failure
  | none =>
    .ok (some
      { text := String.ofList (Text.trim text.toList)
        givenName := none
        parsedFor := some ty
        lower := endBound ty ctx w.lowerClosed w.lower
        upper := endBound ty ctx w.upperClosed w.upper })

/-- The parts that range text is taken apart into. -/
def split (w : Written) : Split :=
  ⟨w.lowerClosed, endText w.lower, endText w.upper, w.upperClosed⟩

end Written

theorem endText_chars (m : Option Moment) :
    ∀ c ∈ endText m, Text.isBlank c = false ∧ c ≠ ',' := by
  intro c hc
  cases m with
  | none => cases hc
  | some m => exact m.text_chars c hc

theorem exists_endText_iff {s : List Char} :
    (∃ m, endText m = s) ↔ (s.isEmpty || isMoment s) = true := by
  rw [Bool.or_eq_true, List.isEmpty_iff, Moment.isMoment_iff]
  constructor
  · rintro ⟨_ | m, rfl⟩
    · exact .inl rfl
    · exact .inr ⟨m, rfl⟩
  · rintro (rfl | ⟨m, rfl⟩)
    · exact ⟨none, rfl⟩
    · exact ⟨some m, rfl⟩

theorem Written.distinct_split (w : Written) : w.split.Distinct :=
  .of_chars (endText_chars w.lower) (endText_chars w.upper)

theorem Written.writes_iff_split? {w : Written} {s : List Char} :
    w.Writes s ↔ split? s = some w.split := by
  rw [split?_eq_some_iff_shows, and_iff_left w.distinct_split]
  rfl

section Temporal

variable {ty : FieldType} (hty : ty.isTemporal = true)
include hty

theorem isNumeric_of_isTemporal : ty.isNumeric = false := by
  revert hty
  cases ty <;> decide

/-- **The reader takes apart exactly the texts that show range text**, into its brackets and
ends. -/
theorem shape?_eq_some_iff {s : List Char} {p : Split} :
    shape? ty s = some p ↔ ∃ w : Written, w.Writes s ∧ w.split = p := by
  have htakes : ty.takesRanges = true := by rw [FieldType.takesRanges, hty, Bool.or_true]
  have hends : ∀ part, isEnd ty part = isMoment part := by
    intro part
    rw [isEnd, isNumeric_of_isTemporal hty, if_neg Bool.false_ne_true]
  rw [shape?, if_pos htakes, Option.filter_eq_some_iff]
  simp only [hends, Bool.and_eq_true, ← exists_endText_iff]
  constructor
  · rintro ⟨hsplit, ⟨lower, hlower⟩, ⟨upper, hupper⟩⟩
    have hparts : (⟨p.lowerClosed, lower, upper, p.upperClosed⟩ : Written).split = p := by
      rw [Written.split, hlower, hupper]
    refine ⟨_, Written.writes_iff_split?.2 ?_, hparts⟩
    rw [hparts]
    exact hsplit
  · rintro ⟨w, hw, rfl⟩
    exact ⟨Written.writes_iff_split?.1 hw, ⟨w.lower, rfl⟩, ⟨w.upper, rfl⟩⟩

/-- A side is read as the bound that its end puts, unless the end has no instant. -/
theorem readSide_endText (ctx : Context) (closed : Bool) (side : Option Moment) :
    readSide ty ctx closed (endText side) =
      match side.filter fun m => (m.instant? ctx).isNone with
      | some m => m.failure
      | none => .ok (some (endBound ty ctx closed side)) := by
  cases side with
  | none => rfl
  | some m =>
    have hne : (endText (some m)).isEmpty = false := List.isEmpty_eq_false_iff.2 m.text_ne_nil
    have hread : readEnd ty ctx (endText (some m)) = readMoment ty ctx m.text := by
      rw [readEnd, isNumeric_of_isTemporal hty, if_neg Bool.false_ne_true]
      rfl
    rw [readSide, hne, if_neg Bool.false_ne_true, hread, m.readMoment_text]
    cases ht : m.instant? ctx with
    | some t => simp [ht, endBound, Except.map, Option.filter_some]
    | none => cases m <;> simp [ht, Moment.failure, Except.map, Option.filter_some]

/-- **Text that shows range text is answered with its outcome.** -/
theorem parse_of_writes {w : Written} {text : String} (h : w.Writes text.toList) (ctx : Context) :
    parse text ty ctx = w.outcome text ty ctx := by
  have hshape : shape? ty text.toList = some w.split := (shape?_eq_some_iff hty).2 ⟨w, h, rfl⟩
  have hend : ∀ side : Option Moment, (side.toList.find? fun m => (m.instant? ctx).isNone) =
      side.filter fun m => (m.instant? ctx).isNone := by
    intro side
    cases side with
    | none => rfl
    | some m => rw [Option.toList_some, List.find?_singleton, Option.filter_some]
  rw [parse, hshape, Written.outcome, Written.ends, List.find?_append, hend, hend]
  simp only [Written.split, readSide_endText hty]
  cases w.lower.filter fun m => (m.instant? ctx).isNone with
  | some m => cases m <;> rfl
  | none =>
    cases w.upper.filter fun m => (m.instant? ctx).isNone with
    | some m => cases m <;> rfl
    | none => rfl

theorem parse_of_not_writes {text : String} (h : ¬ ∃ w : Written, w.Writes text.toList)
    (ctx : Context) : parse text ty ctx = .ok none := by
  have hshape : shape? ty text.toList = none := by
    rw [Option.eq_none_iff_forall_not_mem]
    intro p hp
    obtain ⟨w, hw, -⟩ := (shape?_eq_some_iff hty).1 hp
    exact h ⟨w, hw⟩
  simp only [parse, hshape]

end Temporal

end QueryCriteria.Range
