import QueryCriteria.Proofs.Value.Rank
import QueryCriteria.Range.Parse

/-!
# Numbers in range text

The shape of a number admits digits of every script, the readers behind it only ASCII digits.  What
both admit is a numeral; it stands for a rational number, and what an end is read as is told by that.

* `Range.Numeral` — an optional minus sign, ASCII digits, and optionally a point and ASCII digits;
  `Numeral.value` is the rational number it writes.
* `Range.Numeral.exists_text_iff`, `Range.Numeral.text_injective` — the texts that numerals have are
  those of the shape without digits of other scripts, and each has its own.
* `Range.Numeral.integer?_text_eq_some_iff`, `Range.Numeral.plain?_text_of_fits` — integers and
  decimals are read from them digit by digit.
* `Range.Numeral.Native`, `Range.Numeral.Stands` — the value an end stands for: the number in the
  representation of the field, or else a decimal.
* `Range.Numeral.Stands.numeric` — whatever the representation, the number is that of the decimal.
* `Range.readNumber?_eq_some_iff` — ends are read as the values that numerals stand for.
-/

namespace QueryCriteria.Range

/-- One or more ASCII digits. -/
@[ext]
structure DigitRun where
  chars : List Char
  ne_nil : chars ≠ []
  allDigits : Text.AllDigits chars

/-- A number as range text writes it. -/
@[ext]
structure Numeral where
  negative : Bool
  whole : DigitRun
  fraction : Option DigitRun

namespace Numeral

/-- The part behind the digits of the whole number, with its point. -/
def pointText : Option DigitRun → List Char
  | none => []
  | some f => '.' :: f.chars

/-- A number as it is written, without its sign. -/
def body (n : Numeral) : List Char :=
  n.whole.chars ++ pointText n.fraction

/-- A number as it is written. -/
def text (n : Numeral) : List Char :=
  (if n.negative then ['-'] else []) ++ n.body

/-- The digits behind the point. -/
def places (n : Numeral) : List Char :=
  (n.fraction.map DigitRun.chars).getD []

/-- The digits, read without the point. -/
def coefficient (n : Numeral) : Nat :=
  Text.natural (n.whole.chars ++ n.places)

/-- The digits, read without the point, and their sign. -/
def signed (n : Numeral) : Int :=
  if n.negative then -(n.coefficient : Int) else n.coefficient

/-- The rational number that is written. -/
def value (n : Numeral) : ℚ :=
  n.signed / (tenTo n.places.length : Nat)

/-- Whether a decimal has room for all digits. -/
def Fits (n : Numeral) : Prop :=
  n.places.length ≤ greatestScale ∧ n.coefficient < coefficientLimit

instance (n : Numeral) : Decidable n.Fits :=
  inferInstanceAs (Decidable (_ ∧ _))

/-! ## Texts -/

theorem head?_body (n : Numeral) {c : Char} (hc : n.body.head? = some c) : c.isDigit = true := by
  rw [body, List.head?_append_of_ne_nil _ n.whole.ne_nil] at hc
  exact n.whole.allDigits c (List.mem_of_mem_head? hc)

theorem splitSign_text (n : Numeral) : Literal.splitSign n.text = (n.negative, n.body) :=
  Literal.splitSign_minus_append n.negative fun _ => n.head?_body

theorem noDigitHead_pointText (f : Option DigitRun) : Text.NoDigitHead (pointText f) := by
  cases f with
  | none => exact Text.noDigitHead_nil
  | some f => exact Text.noDigitHead_cons rfl f.chars

theorem pointText_injective : Function.Injective pointText := by
  intro f g h
  cases f with
  | none => cases g with
    | none => rfl
    | some g => cases h
  | some f => cases g with
    | none => cases h
    | some g => exact congrArg some (DigitRun.ext (List.cons.inj h).2)

theorem text_injective : Function.Injective text := by
  intro n m h
  have hparts : (n.negative, n.body) = (m.negative, m.body) := by
    rw [← splitSign_text, ← splitSign_text, h]
  obtain ⟨hnegative, hbody⟩ := Prod.mk.inj hparts
  -- The whole part ends where the digits do.
  have hwhole : n.whole.chars = m.whole.chars := by
    rw [← Text.takeWhile_isDigit_append n.whole.allDigits (noDigitHead_pointText n.fraction),
      ← Text.takeWhile_isDigit_append m.whole.allDigits (noDigitHead_pointText m.fraction)]
    exact congrArg _ hbody
  have hpoint : pointText n.fraction = pointText m.fraction := by
    rw [body, body, hwhole] at hbody
    exact List.append_cancel_left hbody
  exact Numeral.ext hnegative (DigitRun.ext hwhole) (pointText_injective hpoint)

theorem text_ne_nil (n : Numeral) : n.text ≠ [] :=
  List.append_ne_nil_of_right_ne_nil _ (List.append_ne_nil_of_left_ne_nil n.whole.ne_nil _)

/-- A numeral has nothing but digits, a point and a minus sign in it. -/
theorem text_chars (n : Numeral) : ∀ c ∈ n.text, c.isDigit = true ∨ c = '.' ∨ c = '-' := by
  obtain ⟨negative, whole, fraction⟩ := n
  intro c hc
  simp only [text, body, List.mem_append] at hc
  rcases hc with hsign | hwhole | hpoint
  · cases negative with
    | true => exact .inr (.inr (List.mem_singleton.1 hsign))
    | false => cases hsign
  · exact .inl (whole.allDigits c hwhole)
  · cases fraction with
    | none => cases hpoint
    | some f =>
      rcases List.mem_cons.1 hpoint with rfl | hf
      · exact .inr (.inl rfl)
      · exact .inl (f.allDigits c hf)

/-! ## The shape of a number -/

theorem isDigits_iff {s : List Char} :
    isDigits s = true ↔ s ≠ [] ∧ ∀ c ∈ s, Text.isDigit c = true := by
  rw [isDigits, Bool.and_eq_true, Bool.not_eq_true', List.isEmpty_eq_false_iff, List.all_eq_true]

/-- A text of digits is a run of them if they are all ASCII digits. -/
theorem exists_digitRun_iff {s : List Char} :
    (∃ f : DigitRun, f.chars = s) ↔
      isDigits s = true ∧ ∀ c ∈ s, Text.isDigit c = true → c.isDigit = true := by
  constructor
  · rintro ⟨f, rfl⟩
    exact ⟨isDigits_iff.2 ⟨f.ne_nil, fun c hc => Text.isDigit_of_isAsciiDigit (f.allDigits c hc)⟩,
      fun c hc _ => f.allDigits c hc⟩
  · rintro ⟨hs, hascii⟩
    obtain ⟨hne, hdigits⟩ := isDigits_iff.1 hs
    exact ⟨⟨s, hne, fun c hc => hascii c hc (hdigits c hc)⟩, rfl⟩

/-- The shape of a number without its sign. -/
def isMagnitude (s : List Char) : Bool :=
  isDigits (s.takeWhile Text.isDigit) &&
    match s.dropWhile Text.isDigit with
    | [] => true
    | c :: fraction => c == '.' && isDigits fraction

theorem isNumber_iff {s : List Char} :
    isNumber s = true ↔ ∃ (negative : Bool) (body : List Char),
      s = (if negative then ['-'] else []) ++ body ∧ isMagnitude body = true := by
  constructor
  · intro h
    unfold isNumber at h
    split at h
    · exact ⟨true, _, rfl, h⟩
    · exact ⟨false, s, rfl, h⟩
  · rintro ⟨negative, body, rfl, h⟩
    cases negative with
    | true => exact h
    | false =>
      unfold isNumber
      split
      · rename_i heq
        have hbody : body = '-' :: _ := heq
        -- No digits stand before this minus sign.
        rw [hbody] at h
        cases h
      · exact h

theorem isMagnitude_iff {s : List Char} :
    isMagnitude s = true ↔ ∃ whole rest, s = whole ++ rest ∧ isDigits whole = true ∧
      (rest = [] ∨ ∃ fraction, rest = '.' :: fraction ∧ isDigits fraction = true) := by
  constructor
  · intro h
    obtain ⟨hwhole, hrest⟩ := Bool.and_eq_true_iff.1 h
    refine ⟨_, _, List.takeWhile_append_dropWhile.symm, hwhole, ?_⟩
    split at hrest
    · rename_i hnil
      exact .inl hnil
    · rename_i c fraction hcons
      simp only [Bool.and_eq_true, beq_iff_eq] at hrest
      rw [hrest.1] at hcons
      exact .inr ⟨fraction, hcons, hrest.2⟩
  · rintro ⟨whole, rest, rfl, hwhole, hrest⟩
    have hdigits := (isDigits_iff.1 hwhole).2
    have hpoint : Text.isDigit '.' = false := by decide
    rw [isMagnitude, List.takeWhile_append_of_pos hdigits, List.dropWhile_append_of_pos hdigits]
    rcases hrest with rfl | ⟨fraction, rfl, hfraction⟩
    · simp [hwhole]
    · simp [hwhole, hfraction, hpoint]

/-- **A text is a numeral if it has the shape of a number and no digits of other scripts.** -/
theorem exists_text_iff {s : List Char} :
    (∃ n : Numeral, n.text = s) ↔
      isNumber s = true ∧ ∀ c ∈ s, Text.isDigit c = true → c.isDigit = true := by
  constructor
  · rintro ⟨n, rfl⟩
    obtain ⟨hwhole, -⟩ := exists_digitRun_iff.1 ⟨n.whole, rfl⟩
    refine ⟨isNumber_iff.2 ⟨n.negative, n.body, rfl, isMagnitude_iff.2 ⟨_, _, rfl, hwhole, ?_⟩⟩, ?_⟩
    · cases n.fraction with
      | none => exact .inl rfl
      | some f => exact .inr ⟨f.chars, rfl, (exists_digitRun_iff.1 ⟨f, rfl⟩).1⟩
    · intro c hc hdigit
      rcases n.text_chars c hc with h | rfl | rfl
      · exact h
      · exact absurd hdigit (by decide)
      · exact absurd hdigit (by decide)
  · rintro ⟨hshape, hascii⟩
    obtain ⟨negative, body, rfl, hbody⟩ := isNumber_iff.1 hshape
    obtain ⟨whole, rest, rfl, hwhole, hrest⟩ := isMagnitude_iff.1 hbody
    obtain ⟨w, rfl⟩ := exists_digitRun_iff.2 ⟨hwhole, fun c hc => hascii c (by simp [hc])⟩
    rcases hrest with rfl | ⟨fraction, rfl, hfraction⟩
    · exact ⟨⟨negative, w, none⟩, rfl⟩
    · obtain ⟨f, rfl⟩ := exists_digitRun_iff.2 ⟨hfraction, fun c hc => hascii c (by simp [hc])⟩
      exact ⟨⟨negative, w, some f⟩, rfl⟩

/-! ## What is read -/

theorem integer?_text_eq_some_iff {n : Numeral} {i : Int} :
    Literal.integer? n.text = some i ↔ n.fraction = none ∧ i = n.signed := by
  rw [Literal.integer?_eq_some_iff, splitSign_text]
  obtain ⟨negative, whole, fraction⟩ := n
  cases fraction with
  | none =>
    have hnatural := Text.isNatural_of_allDigits whole.allDigits whole.ne_nil
    simp [body, pointText, signed, coefficient, places, hnatural]
  | some f => simp [body, pointText, Text.isNatural]

theorem int64?_text_eq_some_iff {n : Numeral} {i : Int64} :
    Literal.int64? n.text = some i ↔ n.fraction = none ∧ i.toInt = n.signed := by
  rw [Literal.int64?_eq_some_iff, integer?_text_eq_some_iff]

theorem uint64?_text_eq_some_iff {n : Numeral} {u : UInt64} :
    Literal.uint64? n.text = some u ↔
      n.fraction = none ∧ n.negative = false ∧ u.toNat = n.coefficient := by
  have hsign : n.text.head? ≠ some '-' ↔ n.negative = false := by
    cases hn : n.negative with
    | true => simp [text, hn]
    | false =>
      have hbody : n.body.head? ≠ some '-' := fun h => absurd (n.head?_body h) (by decide)
      simp [text, hn, hbody]
  rw [Literal.uint64?_eq_some_iff, integer?_text_eq_some_iff, hsign]
  constructor
  · rintro ⟨hn, hfraction, hvalue⟩
    rw [signed, hn, if_neg Bool.false_ne_true] at hvalue
    exact ⟨hfraction, hn, by omega⟩
  · rintro ⟨hfraction, hn, hvalue⟩
    rw [signed, hn, if_neg Bool.false_ne_true]
    exact ⟨rfl, hfraction, by omega⟩

/-- A numeral that fits is read digit by digit; only a zero loses its sign. -/
theorem plain?_text_of_fits {n : Numeral} (h : n.Fits) :
    Decimal.plain? n.text =
      Decimal.make? (n.negative && n.coefficient != 0) n.coefficient n.places.length := by
  have hmagnitude : Decimal.magnitude? n.body 0 0 false false =
      some (n.coefficient, n.places.length) := by
    obtain ⟨hscale, hlimit⟩ := h
    obtain ⟨negative, whole, fraction⟩ := n
    cases fraction with
    | none =>
      simp only [body, pointText, coefficient, places, Option.map_none, Option.getD_none,
        List.append_nil] at hlimit ⊢
      exact Decimal.magnitude?_whole whole.allDigits whole.ne_nil hlimit
    | some f =>
      exact Decimal.magnitude?_pointed whole.allDigits whole.ne_nil f.allDigits hlimit hscale
  have hmake := Decimal.make?_eq_some (n.negative && n.coefficient != 0) h.2 h.1
  rw [hmake, Decimal.plain?_eq_some_iff, splitSign_text]
  exact ⟨_, hmagnitude, hmake⟩

theorem exists_plain?_text {n : Numeral} (h : n.Fits) :
    ∃ d, Decimal.plain? n.text = some d ∧ d.toRat = n.value := by
  rw [plain?_text_of_fits h, Decimal.make?_eq_some _ h.2 h.1]
  refine ⟨_, rfl, ?_⟩
  by_cases hzero : n.coefficient = 0
  · simp [Decimal.toRat, Decimal.signed, value, signed, hzero]
  · simp [Decimal.toRat, Decimal.signed, value, signed, hzero]

/-! ## The values of ends -/

/-- The number in the representation of a field, where that has the number. -/
def Native (n : Numeral) : FieldType → Value → Prop
  | .int, .int i => n.fraction = none ∧ i.toInt = n.signed
  | .uint, .uint u => n.fraction = none ∧ n.negative = false ∧ u.toNat = n.coefficient
  | _, _ => False

/-- The value that a number stands for at an end for a field: in the representation of the field if
that has the number, and else the decimal that is read. -/
def Stands (n : Numeral) (ty : FieldType) (v : Value) : Prop :=
  n.Native ty v ∨ (∀ w, ¬ n.Native ty w) ∧ ∃ d, Decimal.plain? n.text = some d ∧ v = .decimal d

variable {n : Numeral} {ty : FieldType} {v : Value}

theorem plain?_text_of_whole (hfraction : n.fraction = none)
    (hlimit : n.coefficient < coefficientLimit) :
    Decimal.plain? n.text =
      Decimal.make? (n.negative && n.coefficient != 0) n.coefficient 0 := by
  have hplaces : n.places.length = 0 := by simp [places, hfraction]
  have hfits : n.Fits := ⟨by omega, hlimit⟩
  rw [plain?_text_of_fits hfits, hplaces]

/-- Whole numbers of 64 bits are decimals as well. -/
theorem Native.numeric (h : n.Native ty v) :
    ∃ d, Decimal.plain? n.text = some d ∧ v.numeric = some (.exact d) := by
  cases ty with
  | int =>
    cases v with
    | int i =>
      obtain ⟨hfraction, hi⟩ := h
      have hlimit := (Decimal.ofInt64 i).coefficient_lt
      have hcoefficient : n.coefficient = i.toInt.natAbs := by
        rw [hi, signed]
        split <;> omega
      have hnegative : (n.negative && n.coefficient != 0) = decide (i.toInt < 0) := by
        rw [hi, signed, Bool.eq_iff_iff]
        cases n.negative with
        | true => simp [Nat.pos_iff_ne_zero]
        | false => simp
      refine ⟨.ofInt64 i, ?_, rfl⟩
      rw [plain?_text_of_whole hfraction (hcoefficient ▸ hlimit), hnegative, hcoefficient]
      exact Decimal.make?_eq_some _ hlimit (Nat.zero_le _)
    | _ => exact h.elim
  | uint =>
    cases v with
    | uint u =>
      obtain ⟨hfraction, hnegative, hu⟩ := h
      have hlimit := (Decimal.ofUInt64 u).coefficient_lt
      refine ⟨.ofUInt64 u, ?_, rfl⟩
      rw [plain?_text_of_whole hfraction (hu ▸ hlimit), hnegative, ← hu]
      exact Decimal.make?_eq_some _ hlimit (Nat.zero_le _)
    | _ => exact h.elim
  | _ => exact h.elim

/-- **Whatever the representation, the number is that of the decimal.** -/
theorem Stands.numeric (h : n.Stands ty v) :
    ∃ d, Decimal.plain? n.text = some d ∧ v.numeric = some (.exact d) := by
  rcases h with h | ⟨-, d, hd, rfl⟩
  · exact h.numeric
  · exact ⟨d, hd, rfl⟩

theorem exists_stands_iff (n : Numeral) (ty : FieldType) :
    (∃ v, n.Stands ty v) ↔ (Decimal.plain? n.text).isSome = true := by
  constructor
  · rintro ⟨v, hv⟩
    obtain ⟨d, hd, -⟩ := hv.numeric
    rw [hd]
    rfl
  · intro h
    obtain ⟨d, hd⟩ := Option.isSome_iff_exists.1 h
    by_cases hnative : ∃ w, n.Native ty w
    · obtain ⟨w, hw⟩ := hnative
      exact ⟨w, .inl hw⟩
    · exact ⟨.decimal d, .inr ⟨not_exists.1 hnative, d, hd, rfl⟩⟩

end Numeral

/-! ## Reading an end -/

/-- The field types whose numbers are exact. -/
def HoldsExact (ty : FieldType) : Prop :=
  ty = .int ∨ ty = .uint ∨ ty = .decimal

/-- The number of a text in the representation of a field itself. -/
def ownNumber? : FieldType → List Char → Option Value
  | .int, s => (Literal.int64? s).map .int
  | .uint, s => (Literal.uint64? s).map .uint
  | _, _ => none

theorem ownNumber?_text_eq_some_iff {n : Numeral} {ty : FieldType} {v : Value} :
    ownNumber? ty n.text = some v ↔ n.Native ty v := by
  cases ty with
  | int => cases v <;> simp [ownNumber?, Numeral.Native, Numeral.int64?_text_eq_some_iff]
  | uint => cases v <;> simp [ownNumber?, Numeral.Native, Numeral.uint64?_text_eq_some_iff]
  | _ => simp [ownNumber?, Numeral.Native]

theorem isAsciiDigit_of_ownNumber? {ty : FieldType} {s : List Char} {v : Value}
    (h : ownNumber? ty s = some v) {c : Char} (hc : c ∈ s) (hdigit : Text.isDigit c = true) :
    c.isDigit = true := by
  unfold ownNumber? at h
  split at h
  · obtain ⟨i, hi, -⟩ := Option.map_eq_some_iff.1 h
    exact Literal.isAsciiDigit_of_integer? (Literal.int64?_eq_some_iff.1 hi) hc hdigit
  · obtain ⟨u, hu, -⟩ := Option.map_eq_some_iff.1 h
    exact Literal.isAsciiDigit_of_integer? (Literal.uint64?_eq_some_iff.1 hu).2 hc hdigit
  · cases h

section Exact

variable {ty : FieldType} (hty : HoldsExact ty)
include hty

theorem HoldsExact.isNumeric : ty.isNumeric = true := by
  rcases hty with rfl | rfl | rfl <;> rfl

theorem HoldsExact.isTemporal_eq_false : ty.isTemporal = false := by
  rcases hty with rfl | rfl | rfl <;> rfl

theorem readNumber?_eq_or (s : List Char) :
    readNumber? ty s = (ownNumber? ty s).or ((Decimal.plain? s).map .decimal) := by
  rcases hty with rfl | rfl | rfl <;> rfl

/-- **An end of the shape of a number is read as the values that numerals stand for**; digits of
other scripts stand for none. -/
theorem readNumber?_eq_some_iff {s : List Char} (hshape : isNumber s = true) {v : Value} :
    readNumber? ty s = some v ↔ ∃ n : Numeral, n.text = s ∧ n.Stands ty v := by
  rw [readNumber?_eq_or hty, Option.or_eq_some_iff]
  constructor
  · intro h
    -- Either reader takes ASCII digits only.
    have hascii : ∀ c ∈ s, Text.isDigit c = true → c.isDigit = true := by
      rcases h with h | ⟨-, h⟩
      · exact fun c => isAsciiDigit_of_ownNumber? h
      · obtain ⟨d, hd, -⟩ := Option.map_eq_some_iff.1 h
        exact fun c => Decimal.isAsciiDigit_of_plain? hd
    obtain ⟨n, rfl⟩ := Numeral.exists_text_iff.2 ⟨hshape, hascii⟩
    refine ⟨n, rfl, ?_⟩
    rcases h with h | ⟨hnone, h⟩
    · exact .inl (ownNumber?_text_eq_some_iff.1 h)
    · obtain ⟨d, hd, rfl⟩ := Option.map_eq_some_iff.1 h
      refine .inr ⟨fun w hw => ?_, d, hd, rfl⟩
      rw [ownNumber?_text_eq_some_iff.2 hw] at hnone
      cases hnone
  · rintro ⟨n, rfl, h | ⟨hnone, d, hd, rfl⟩⟩
    · exact .inl (ownNumber?_text_eq_some_iff.2 h)
    · have hown : ownNumber? ty n.text = none :=
        Option.eq_none_iff_forall_ne_some.2 fun w hw =>
          hnone w (ownNumber?_text_eq_some_iff.1 hw)
      exact .inr ⟨hown, by rw [hd]; rfl⟩

end Exact

end QueryCriteria.Range
