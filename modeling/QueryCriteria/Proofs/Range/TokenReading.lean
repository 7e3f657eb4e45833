import QueryCriteria.Proofs.Number.Literal
import QueryCriteria.Proofs.Range.Numeral
import QueryCriteria.Proofs.Range.RelativeDate
import QueryCriteria.Proofs.Range.Resolution

/-!
# Which texts are relative dates

A text without the shape of a token is no relative date, whatever characters stand where its codes and
digits would.  One that has the shape is taken apart in one way only, and its parts decide: it is a
relative date if they stand for one, and otherwise an error that names the first part at fault.

* `Period.codes`, `Period.mem_codes_iff` — the codes that periods have.
* `RelativeDate.Counts`, `RelativeDate.counts_iff` — the signed amounts that are integers of 64 bits.
* `RelativeDate.Shape.Denotes`, `RelativeDate.Shape.Fault` — what a token taken apart stands for, or
  what is the matter with it.
* `RelativeDate.Means`, `RelativeDate.resolve_eq_ok_iff` — the instant that a relative date means.
* `RelativeDate.parse_eq_some_iff`, `RelativeDate.parse_eq_none_iff`, `RelativeDate.parse_eq_error_iff`
  — the three answers to a text.
* `RelativeDate.token_text_reads_as_written` — reading as a whole.
-/

namespace QueryCriteria

namespace Period

/-- The codes of the periods. -/
def codes : List Char :=
  ['s', 'm', 'h', 'd', 'w', 'M', 'y']

theorem mem_codes_iff {c : Char} : c ∈ codes ↔ ∃ p : Period, c = p.code := by
  constructor
  · intro h
    obtain ⟨p, -, rfl⟩ : ∃ p ∈ all, p.code = c := List.mem_map.1 h
    exact ⟨p, rfl⟩
  · rintro ⟨p, rfl⟩
    cases p <;> decide

theorem ofCode?_eq_none_iff {c : Char} : ofCode? c = none ↔ c ∉ codes := by
  simp only [mem_codes_iff, ← ofCode?_eq_some_iff, ← Option.isSome_iff_exists,
    Option.not_isSome_iff_eq_none]

end Period

namespace RelativeDate

/-! ## Parts of a token -/

/-- The integers of 64 bits as offsets write them: a sign and ASCII digits. -/
inductive Counts : List Char → Int → Prop
  | plus (ds : Range.DigitRun) (h : (Text.natural ds.chars : Int) ≤ greatestInt64) :
    Counts ('+' :: ds.chars) (Text.natural ds.chars)
  | minus (ds : Range.DigitRun) (h : leastInt64 ≤ -(Text.natural ds.chars : Int)) :
    Counts ('-' :: ds.chars) (-(Text.natural ds.chars : Int))

/-- What an offset taken apart stands for. -/
inductive OffsetDenotes : Option (List Char × Char) → Option (Int × Period) → Prop
  | absent : OffsetDenotes none none
  | present {amount : List Char} {n : Int} (h : Counts amount n) (p : Period) :
    OffsetDenotes (some (amount, p.code)) (some (n, p))

/-- What is the matter with an offset of the token `input`: its amount first, and then its code. -/
inductive OffsetFault (input : String) : Option (List Char × Char) → OperatorError → Prop
  | amount {amount : List Char} {code : Char} (h : ∀ n, ¬ Counts amount n) :
    OffsetFault input (some (amount, code)) (.offsetOutOfRange input)
  | code {amount : List Char} {n : Int} {code : Char} (hamount : Counts amount n)
    (h : code ∉ Period.codes) :
    OffsetFault input (some (amount, code)) (.invalidPeriod (String.singleton code) input)

/-- What is the matter with a base of the token `input`. -/
inductive BaseFault (input : String) : Option (Edge × Char) → OperatorError → Prop
  | code {edge : Edge} {code : Char} (h : code ∉ Period.codes) :
    BaseFault input (some (edge, code)) (.invalidPeriod (String.singleton code) input)

namespace Shape

/-- A token taken apart stands for a relative date. -/
structure Denotes (shape : Shape) (r : RelativeDate) : Prop where
  base : shape.base = r.base.map fun b => (b.1, b.2.code)
  offset : OffsetDenotes shape.offset r.offset

/-- The first thing that is the matter with a token taken apart: its base comes before its offset. -/
def Fault (shape : Shape) (input : String) (e : OperatorError) : Prop :=
  BaseFault input shape.base e ∨
    (∀ e', ¬ BaseFault input shape.base e') ∧ OffsetFault input shape.offset e

end Shape

/-- An amount is read as the integer that it counts. -/
theorem counts_iff {amount : List Char} {n : Int} (h : IsAmount amount) :
    Counts amount n ↔ ∃ i, Literal.int64? amount = some i ∧ i.toInt = n := by
  obtain ⟨sign, ds, hsign, hne, -, rfl⟩ := h
  rw [Literal.exists_int64?_iff]
  constructor
  · intro hcounts
    have hleast : leastInt64 ≤ 0 := by decide
    have hgreatest : 0 ≤ greatestInt64 := by decide
    cases hcounts with
    | plus ds h =>
      have hnatural := Text.isNatural_of_allDigits ds.allDigits ds.ne_nil
      exact ⟨Literal.integer?_eq_some_iff.2 ⟨hnatural, rfl⟩, by omega, h⟩
    | minus ds h =>
      have hnatural := Text.isNatural_of_allDigits ds.allDigits ds.ne_nil
      exact ⟨Literal.integer?_eq_some_iff.2 ⟨hnatural, rfl⟩, h, by omega⟩
  · rintro ⟨hread, hleast, hgreatest⟩
    obtain ⟨hnatural, rfl⟩ := Literal.integer?_eq_some_iff.1 hread
    rcases hsign with rfl | rfl
    · exact .plus ⟨ds, hne, Text.allDigits_of_isNatural hnatural⟩ hgreatest
    · exact .minus ⟨ds, hne, Text.allDigits_of_isNatural hnatural⟩ hleast

theorem Counts.isAmount {amount : List Char} {n : Int} (h : Counts amount n) : IsAmount amount := by
  have hdigits : ∀ ds : Range.DigitRun, ∀ c ∈ ds.chars, Text.isDigit c = true := fun ds c hc =>
    Text.isDigit_of_isAsciiDigit (ds.allDigits c hc)
  cases h with
  | plus ds => exact ⟨'+', _, .inl rfl, ds.ne_nil, hdigits ds, rfl⟩
  | minus ds => exact ⟨'-', _, .inr rfl, ds.ne_nil, hdigits ds, rfl⟩

theorem int64?_eq_none_iff {amount : List Char} (h : IsAmount amount) :
    Literal.int64? amount = none ↔ ∀ n, ¬ Counts amount n := by
  simp only [counts_iff h]
  cases Literal.int64? amount <;> simp

theorem OffsetDenotes.isOffset {written : Option (List Char × Char)}
    {offset : Option (Int × Period)} (h : OffsetDenotes written offset) : IsOffset written := by
  rintro o rfl
  obtain _ | ⟨hamount, p⟩ := h
  exact ⟨hamount.isAmount, p.isWord_code⟩

/-- What stands for a relative date has the shape of a token. -/
theorem Shape.Denotes.wellFormed {shape : Shape} {r : RelativeDate} (h : shape.Denotes r) :
    shape.WellFormed where
  base b hb := by
    rw [h.base] at hb
    obtain ⟨base, -, rfl⟩ := Option.map_eq_some_iff.1 hb
    exact base.2.isWord_code
  offset := h.offset.isOffset

/-! ## Reading the parts -/

section Parts

variable {input : String} {e : OperatorError}

theorem periodOf_eq_ok_iff {code : Char} {p : Period} :
    periodOf (String.singleton code) input = .ok p ↔ code = p.code := by
  rw [← Period.ofCode?_eq_some_iff]
  cases hcode : Period.ofCode? code <;> simp [periodOf, hcode]

theorem periodOf_eq_error_iff {code : Char} :
    periodOf (String.singleton code) input = .error e ↔
      code ∉ Period.codes ∧ e = .invalidPeriod (String.singleton code) input := by
  rw [← Period.ofCode?_eq_none_iff]
  cases hcode : Period.ofCode? code <;> simp [periodOf, hcode, eq_comm]

theorem readBase_eq_ok_iff {written : Option (Edge × Char)} {base : Option (Edge × Period)} :
    readBase input written = .ok base ↔ written = base.map fun b => (b.1, b.2.code) := by
  cases written with
  | none => cases base <;> simp [readBase]
  | some b =>
    obtain ⟨edge, code⟩ := b
    simp only [readBase, map_eq_ok_iff, periodOf_eq_ok_iff]
    constructor
    · rintro ⟨p, rfl, rfl⟩
      rfl
    · intro h
      obtain ⟨⟨_, p⟩, rfl, hb⟩ := Option.map_eq_some_iff.1 h.symm
      cases hb
      exact ⟨p, rfl, rfl⟩

theorem readBase_eq_error_iff {written : Option (Edge × Char)} :
    readBase input written = .error e ↔ BaseFault input written e := by
  cases written with
  | none => exact iff_of_false nofun nofun
  | some b =>
    obtain ⟨edge, code⟩ := b
    rw [readBase, map_eq_error_iff, periodOf_eq_error_iff]
    constructor
    · rintro ⟨h, rfl⟩
      exact .code h
    · rintro ⟨h⟩
      exact ⟨h, rfl⟩

/-- The two steps in which an offset with an amount is read. -/
theorem readOffset_present (input : String) {amount : List Char} (code : Char)
    (h : IsAmount amount) :
    (∀ n, Counts amount n → readOffset input (some (amount, code)) =
      (periodOf (String.singleton code) input).map fun p => some (n, p)) ∧
    ((∀ n, ¬ Counts amount n) →
      readOffset input (some (amount, code)) = .error (.offsetOutOfRange input)) := by
  constructor
  · intro n hn
    obtain ⟨i, hi, rfl⟩ := (counts_iff h).1 hn
    simp only [readOffset, hi]
  · intro hnone
    simp only [readOffset, (int64?_eq_none_iff h).2 hnone]

theorem readOffset_eq_ok_iff {written : Option (List Char × Char)} {offset : Option (Int × Period)}
    (h : IsOffset written) : readOffset input written = .ok offset ↔ OffsetDenotes written offset := by
  cases written with
  | none =>
    constructor
    · rintro ⟨⟩
      exact .absent
    · rintro ⟨⟩
      rfl
  | some o =>
    obtain ⟨amount, code⟩ := o
    obtain ⟨hcounts, hnone⟩ := readOffset_present input code (h _ rfl).1
    constructor
    · intro hread
      by_cases hn : ∃ n, Counts amount n
      · obtain ⟨n, hn⟩ := hn
        rw [hcounts n hn, map_eq_ok_iff] at hread
        obtain ⟨p, hp, rfl⟩ := hread
        rw [periodOf_eq_ok_iff.1 hp]
        exact .present hn p
      · rw [hnone (not_exists.1 hn)] at hread
        cases hread
    · rintro (_ | ⟨hn, p⟩)
      rw [hcounts _ hn, map_eq_ok_iff]
      exact ⟨p, periodOf_eq_ok_iff.2 rfl, rfl⟩

theorem readOffset_eq_error_iff {written : Option (List Char × Char)} (h : IsOffset written) :
    readOffset input written = .error e ↔ OffsetFault input written e := by
  cases written with
  | none => exact iff_of_false nofun nofun
  | some o =>
    obtain ⟨amount, code⟩ := o
    obtain ⟨hcounts, hnone⟩ := readOffset_present input code (h _ rfl).1
    constructor
    · intro hread
      by_cases hn : ∃ n, Counts amount n
      · obtain ⟨n, hn⟩ := hn
        rw [hcounts n hn, map_eq_error_iff, periodOf_eq_error_iff] at hread
        obtain ⟨hcode, rfl⟩ := hread
        exact .code hn hcode
      · rw [hnone (not_exists.1 hn)] at hread
        cases hread
        exact .amount (not_exists.1 hn)
    · rintro (hn | ⟨hn, hcode⟩)
      · exact hnone hn
      · rw [hcounts _ hn, map_eq_error_iff, periodOf_eq_error_iff]
        exact ⟨hcode, rfl⟩

end Parts

/-! ## Reading a text -/

section Answers

variable {text : String} {shape : Shape} {r : RelativeDate} {e : OperatorError}

/-- A text that is taken apart is read part by part. -/
theorem parse_of_shape? (h : shape? text.toList = some shape) :
    parse text = readBase text shape.base >>= fun base =>
      (readOffset text shape.offset).map fun offset => some ⟨text, base, offset⟩ := by
  simp only [parse, h]
  cases readBase text shape.base with
  | error => rfl
  | ok base => cases readOffset text shape.offset <;> rfl

theorem parse_ne_none_of_shape? (h : shape? text.toList = some shape) : parse text ≠ .ok none := by
  rw [parse_of_shape? h]
  intro hnone
  obtain ⟨base, -, hoffset⟩ := bind_eq_ok_iff.1 hnone
  obtain ⟨offset, -, hsome⟩ := map_eq_ok_iff.1 hoffset
  cases hsome

theorem parse_eq_some_iff_denotes (h : shape? text.toList = some shape) :
    parse text = .ok (some r) ↔ r.text = text ∧ shape.Denotes r := by
  obtain ⟨-, hparts⟩ := shape?_eq_some_iff.1 h
  rw [parse_of_shape? h]
  simp only [bind_eq_ok_iff, map_eq_ok_iff, readBase_eq_ok_iff, readOffset_eq_ok_iff hparts.offset]
  constructor
  · rintro ⟨base, hbase, offset, hoffset, hr⟩
    cases hr
    exact ⟨rfl, hbase, hoffset⟩
  · rintro ⟨rfl, hbase, hoffset⟩
    exact ⟨r.base, hbase, r.offset, hoffset, rfl⟩

theorem parse_eq_error_iff_fault (h : shape? text.toList = some shape) :
    parse text = .error e ↔ shape.Fault text e := by
  obtain ⟨-, hparts⟩ := shape?_eq_some_iff.1 h
  rw [parse_of_shape? h]
  simp only [bind_eq_error_iff, map_eq_error_iff, readOffset_eq_error_iff hparts.offset,
    exists_and_right, exists_eq_ok_iff, readBase_eq_error_iff, Shape.Fault, ne_eq]

/-- **A text is no relative date exactly if it does not have the shape of one.** -/
theorem parse_eq_none_iff :
    parse text = .ok none ↔ ¬ ∃ shape : Shape, shape.text = text.toList ∧ shape.WellFormed := by
  simp only [← shape?_eq_some_iff]
  constructor
  · rintro hnone ⟨shape, hshape⟩
    exact parse_ne_none_of_shape? hshape hnone
  · intro hshape
    rw [parse, Option.eq_none_iff_forall_ne_some.2 (not_exists.1 hshape)]

/-- **A text is read as the relative date that its parts stand for.** -/
theorem parse_eq_some_iff :
    parse text = .ok (some r) ↔
      r.text = text ∧ ∃ shape : Shape, shape.text = text.toList ∧ shape.Denotes r := by
  constructor
  · intro h
    cases hshape : shape? text.toList with
    | none => simp [parse, hshape] at h
    | some shape =>
      obtain ⟨htext, hdenotes⟩ := (parse_eq_some_iff_denotes hshape).1 h
      exact ⟨htext, shape, (shape?_eq_some_iff.1 hshape).1, hdenotes⟩
  · rintro ⟨htext, shape, hshape, hdenotes⟩
    exact (parse_eq_some_iff_denotes (shape?_eq_some_iff.2 ⟨hshape, hdenotes.wellFormed⟩)).2
      ⟨htext, hdenotes⟩

/-- **Reading fails with the first thing that is the matter with a token.** -/
theorem parse_eq_error_iff :
    parse text = .error e ↔
      ∃ shape : Shape, shape.text = text.toList ∧ shape.WellFormed ∧ shape.Fault text e := by
  constructor
  · intro h
    cases hshape : shape? text.toList with
    | none => simp [parse, hshape] at h
    | some shape =>
      obtain ⟨htext, hparts⟩ := shape?_eq_some_iff.1 hshape
      exact ⟨shape, htext, hparts, (parse_eq_error_iff_fault hshape).1 h⟩
  · rintro ⟨shape, htext, hparts, hfault⟩
    exact (parse_eq_error_iff_fault (shape?_eq_some_iff.2 ⟨htext, hparts⟩)).2 hfault

end Answers

/-! ## The instant meant -/

/-- The instant that a base means: now, or where the current period begins or the next one does. -/
inductive BaseMeans (ctx : Context) : Option (Edge × Period) → DateTime → Prop
  | now : BaseMeans ctx none ctx.now
  | start {p : Period} {t : DateTime} (h : p.truncate? ctx.weekStart ctx.now = some t) :
    BaseMeans ctx (some (.start, p)) t
  | finish {p : Period} {s t : DateTime} (hstart : p.truncate? ctx.weekStart ctx.now = some s)
    (h : p.add? s 1 = some t) : BaseMeans ctx (some (.finish, p)) t

/-- An instant shifted by an offset. -/
inductive Shifts (s : DateTime) : Option (Int × Period) → DateTime → Prop
  | stay : Shifts s none s
  | shift {n : Int} {p : Period} {t : DateTime} (h : p.add? s n = some t) : Shifts s (some (n, p)) t

/-- The instant that a relative date means: that of its base, shifted by its offset. -/
def Means (r : RelativeDate) (ctx : Context) (t : DateTime) : Prop :=
  ∃ s, BaseMeans ctx r.base s ∧ Shifts s r.offset t

section Instants

variable {r : RelativeDate} {ctx : Context} {t : DateTime}

theorem baseInstant?_eq_some_iff {base : Option (Edge × Period)} :
    baseInstant? ctx base = some t ↔ BaseMeans ctx base t := by
  rcases base with _ | ⟨_ | _, p⟩
  · constructor
    · rintro ⟨⟩
      exact .now
    · rintro ⟨⟩
      rfl
  · simp only [baseInstant?, Option.bind_fun_some]
    constructor
    · exact .start
    · intro hmeans
      cases hmeans with
      | start h => exact h
  · simp only [baseInstant?, Option.bind_eq_some_iff]
    constructor
    · rintro ⟨s, hstart, h⟩
      exact .finish hstart h
    · intro hmeans
      cases hmeans with
      | finish hstart h => exact ⟨_, hstart, h⟩

theorem shifted?_eq_some_iff {s : DateTime} {offset : Option (Int × Period)} :
    shifted? s offset = some t ↔ Shifts s offset t := by
  cases offset with
  | none =>
    constructor
    · rintro ⟨⟩
      exact .stay
    · rintro ⟨⟩
      rfl
  | some o =>
    constructor
    · exact .shift
    · intro hshifts
      cases hshifts with
      | shift h => exact h

theorem resolve?_eq_some_iff : r.resolve? ctx = some t ↔ r.Means ctx t := by
  simp only [resolve?, Option.bind_eq_some_iff, baseInstant?_eq_some_iff, shifted?_eq_some_iff, Means]

theorem resolve_eq_ok_iff : r.resolve ctx = .ok t ↔ r.Means ctx t := by
  rw [← resolve?_eq_some_iff, resolve]
  cases r.resolve? ctx <;> simp

theorem resolve_eq_error_iff {e : OperatorError} :
    r.resolve ctx = .error e ↔ (∀ t, ¬ r.Means ctx t) ∧ e = .offsetOutOfRange r.text := by
  simp only [← resolve?_eq_some_iff, resolve]
  cases r.resolve? ctx <;> simp [eq_comm]

end Instants

/-! ## All texts -/

/-- **The text of a relative date reads as it is written.**  A text whose parts stand for a relative
date is read as that one, which keeps the text; it means the instant of its base shifted by the number
of its offset, and is out of range where there is no such instant.  A text without the shape of a
token, whatever word characters stand for its codes and whatever digits for its amount, is no relative
date.  Any other text fails: with the code of the base if it is none of a period, else with an amount
that is no integer of 64 bits, else with the code of the offset. -/
theorem token_text_reads_as_written (text : String) :
    (∀ r, parse text = .ok (some r) ↔
        r.text = text ∧ ∃ shape : Shape, shape.text = text.toList ∧ shape.Denotes r) ∧
      (∀ (r : RelativeDate) (ctx : Context), (∀ t, r.resolve ctx = .ok t ↔ r.Means ctx t) ∧
        ∀ e, r.resolve ctx = .error e ↔ (∀ t, ¬ r.Means ctx t) ∧ e = .offsetOutOfRange r.text) ∧
      (parse text = .ok none ↔
        ¬ ∃ shape : Shape, shape.text = text.toList ∧ shape.WellFormed) ∧
      ∀ e, parse text = .error e ↔
        ∃ shape : Shape, shape.text = text.toList ∧ shape.WellFormed ∧ shape.Fault text e :=
  ⟨fun _ => parse_eq_some_iff, fun _ _ => ⟨fun _ => resolve_eq_ok_iff, fun _ => resolve_eq_error_iff⟩,
    parse_eq_none_iff, fun _ => parse_eq_error_iff⟩

/-- The last character is the code, even if it is a digit. -/
example : parse "ct+12" = .error (.invalidPeriod "2" "ct+12") := by
  decide +kernel

end RelativeDate

end QueryCriteria
