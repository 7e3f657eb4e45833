import QueryCriteria.Proofs.Text.Digit
import QueryCriteria.Proofs.Time.Calendar
import QueryCriteria.Proofs.Time.Instant
import QueryCriteria.Time.Iso

/-!
# Dates and date-times are read as they were written

* `field?_padded`, `mark?_cons`, `year?_text` — the fields of a text and what stands between them.
* `Date.ofText?_text` — every date of the range is read back, with a year of either sign and of
  more than four digits too.
* `DateTime.nanos?_fraction`, `DateTime.clock?_text` — the time of day with its fraction.
* `DateTime.ofText?_text` — every date-time outside a leap second is read back.
-/

namespace QueryCriteria

open Text (AllDigits NoDigitHead)

/-! ## Fields -/

theorem digits?_append {width : Nat} {ds rest : List Char} (hds : AllDigits ds) (hne : ds ≠ [])
    (hwidth : ds.length ≤ width) (hrest : NoDigitHead rest) :
    digits? width (ds ++ rest) = some (Text.natural ds, rest) := by
  simp [digits?, Text.takeWhile_isDigit_append hds hrest, List.take_of_length_le hwidth, hne]

theorem trimStart_cons {c : Char} (h : Text.isBlank c = false) (s : List Char) :
    Text.trimStart (c :: s) = c :: s :=
  Text.trimStart_of_first fun d hd => by
    cases hd
    exact h

theorem trimStart_digits {ds : List Char} (hds : AllDigits ds) (hne : ds ≠ [])
    (rest : List Char) : Text.trimStart (ds ++ rest) = ds ++ rest := by
  obtain ⟨c, s, rfl, hdigit⟩ := hds.exists_cons hne
  exact trimStart_cons (Text.isBlank_of_isAsciiDigit hdigit) (s ++ rest)

/-- A number that fits into a field is read from it. -/
theorem field?_padded {width n : Nat} {rest : List Char} (hwidth : 0 < width) (hn : n < tenTo width)
    (hrest : NoDigitHead rest) :
    field? width (Text.padded width n ++ rest) = some (n, rest) := by
  have hdigits := Text.allDigits_padded width n
  have hne := Text.padded_ne_nil width n
  rw [field?, trimStart_digits hdigits hne,
    digits?_append hdigits hne (Text.length_padded hwidth hn).le hrest, Text.natural_padded]

theorem mark?_cons {c : Char} (h : Text.isBlank c = false) (rest : List Char) :
    mark? c (c :: rest) = some rest := by
  simp [mark?, trimStart_cons h]

section Year

variable {ds rest : List Char} (hds : AllDigits ds) (hne : ds ≠ []) (hrest : NoDigitHead rest)
include hds hne hrest

theorem year?_unsigned (hfour : ds.length ≤ 4) :
    year? (ds ++ rest) = some ((Text.natural ds : Int), rest) := by
  have hread := digits?_append hds hne hfour hrest
  have htrim := trimStart_digits hds hne rest
  obtain ⟨c, s, rfl, hdigit⟩ := hds.exists_cons hne
  have hminus : c ≠ '-' := Text.ne_of_isDigit hdigit rfl
  have hplus : c ≠ '+' := Text.ne_of_isDigit hdigit rfl
  rw [List.cons_append] at hread htrim ⊢
  simp [year?, htrim, hminus, hplus, hread]

theorem year?_minus : year? ('-' :: (ds ++ rest)) = some (-(Text.natural ds : Int), rest) := by
  have hread := digits?_append hds hne (by simp : ds.length ≤ (ds ++ rest).length) hrest
  simp only [year?, trimStart_cons (show Text.isBlank '-' = false from rfl), hread, Option.map_some]

theorem year?_plus : year? ('+' :: (ds ++ rest)) = some ((Text.natural ds : Int), rest) := by
  have hread := digits?_append hds hne (by simp : ds.length ≤ (ds ++ rest).length) hrest
  simp only [year?, trimStart_cons (show Text.isBlank '+' = false from rfl), hread, Option.map_some]

end Year

/-- A year of four digits needs no sign, any other one has it. -/
theorem year?_text (year : Int) {rest : List Char} (hrest : NoDigitHead rest) :
    year? (yearText year ++ rest) = some (year, rest) := by
  have hdigits := Text.allDigits_padded 4 year.natAbs
  have hne := Text.padded_ne_nil 4 year.natAbs
  have hvalue := Text.natural_padded 4 year.natAbs
  unfold yearText
  split_ifs with hfour hneg
  · have hlength : (Text.padded 4 year.natAbs).length = 4 :=
      Text.length_padded (by decide) (by omega : year.natAbs < 10000)
    have hyear : (year.natAbs : Int) = year := by omega
    rw [year?_unsigned hdigits hne hrest hlength.le, hvalue, hyear]
  · have hyear : -(year.natAbs : Int) = year := by omega
    rw [List.cons_append, year?_minus hdigits hne hrest, hvalue, hyear]
  · have hyear : (year.natAbs : Int) = year := by omega
    rw [List.cons_append, year?_plus hdigits hne hrest, hvalue, hyear]

/-! ## Dates -/

theorem monthLengths_le : ∀ leap, ∀ length ∈ monthLengths leap, length ≤ 31 := by
  decide

theorem monthLength_le (year : Int) (month : Nat) : monthLength year month ≤ 31 := by
  unfold monthLength
  split_ifs with hzero
  · omega
  · by_cases hmonth : month - 1 < (monthLengths (isLeapYear year)).length
    · rw [List.getD_eq_getElem _ 0 hmonth]
      exact monthLengths_le _ _ (List.getElem_mem hmonth)
    · rw [List.getD_eq_default _ 0 (by omega)]
      omega

namespace Date

theorem civil?_text (d : Date) {rest : List Char} (hrest : NoDigitHead rest) :
    civil? (d.text ++ rest) = some (d.civil, rest) := by
  obtain ⟨⟨-, hmonth⟩, -, hday⟩ := Civil.isReal_iff.1 d.isReal_civil
  have hlength := monthLength_le d.civil.year d.civil.month
  have hhyphen (s : List Char) : NoDigitHead ('-' :: s) := Text.noDigitHead_cons rfl s
  have hmark (s : List Char) : mark? '-' ('-' :: s) = some s := mark?_cons rfl s
  change d.civil.month ≤ 12 at hmonth
  change d.civil.day ≤ monthLength d.civil.year d.civil.month at hday
  unfold civil? text
  simp only [List.append_assoc, List.cons_append]
  rw [year?_text _ (hhyphen _)]
  simp only [Option.bind_eq_bind, Option.bind_some, hmark]
  rw [field?_padded (by decide) (by omega : d.civil.month < 100) (hhyphen _)]
  simp only [Option.bind_some, hmark]
  rw [field?_padded (by decide) (by omega : d.civil.day < 100) hrest]
  rfl

/-- **Every date is read back.** -/
theorem ofText?_text (d : Date) : ofText? d.text = some d := by
  have hread := d.civil?_text Text.noDigitHead_nil
  rw [List.append_nil] at hread
  unfold ofText?
  rw [hread]
  exact d.ofCivil?_civil

end Date

/-! ## Times of day -/

namespace DateTime

theorem nanos?_padded {width n : Nat} (hpos : 0 < width) (hwidth : width ≤ 9)
    (hn : n < tenTo width) :
    nanos? ('.' :: Text.padded width n) = some (n * tenTo (9 - width), []) := by
  have hdigits := Text.allDigits_padded width n
  have hlength := Text.length_padded hpos hn
  have htake : (Text.padded width n).takeWhile Char.isDigit = Text.padded width n := by
    simpa using Text.takeWhile_isDigit_append hdigits Text.noDigitHead_nil
  simp [nanos?, htake, Text.padded_ne_nil, List.take_of_length_le (hlength.le.trans hwidth),
    Text.natural_padded, hlength]

/-- A fraction is written with as many digits as it needs. -/
theorem nanos?_fraction {nano : Nat} (h : nano < secondNanos) :
    nanos? (fraction nano) = some (nano, []) := by
  unfold secondNanos at h
  unfold fraction
  split_ifs with hzero hmilli hmicro
  · rw [hzero]
    rfl
  · have hpower : tenTo (9 - 3) = 1000000 := rfl
    rw [nanos?_padded (by decide) (by decide) (by omega : nano / 1000000 < 1000), hpower,
      Nat.div_mul_cancel (Nat.dvd_of_mod_eq_zero hmilli)]
  · have hpower : tenTo (9 - 6) = 1000 := rfl
    rw [nanos?_padded (by decide) (by decide) (by omega : nano / 1000 < 1000000), hpower,
      Nat.div_mul_cancel (Nat.dvd_of_mod_eq_zero hmicro)]
  · have hpower : tenTo (9 - 9) = 1 := rfl
    rw [nanos?_padded (by decide) (by decide) (by omega : nano < 1000000000), hpower, Nat.mul_one]

theorem noDigitHead_fraction (nano : Nat) : NoDigitHead (fraction nano) := by
  unfold fraction
  split_ifs
  · exact Text.noDigitHead_nil
  all_goals exact Text.noDigitHead_cons rfl _

theorem clock?_text {t : DateTime} (hleap : t.inLeapSecond = false) :
    clock? (t.clock ++ fraction t.nano) = some (t.second, t.nano, []) := by
  have hsecond := t.second_lt
  have hnano : t.nano < secondNanos := by
    simpa [inLeapSecond] using hleap
  have hcolon (s : List Char) : NoDigitHead (':' :: s) := Text.noDigitHead_cons rfl s
  have hmark (s : List Char) : mark? ':' (':' :: s) = some s := mark?_cons rfl s
  unfold daySeconds at hsecond
  have hhour : t.second / 3600 < 24 := by omega
  have hminute : t.second / 60 % 60 < 60 := Nat.mod_lt _ (by decide)
  have hrest : t.second % 60 < 60 := Nat.mod_lt _ (by decide)
  unfold clock? clock
  simp only [hleap, Bool.false_eq_true, if_false, Nat.add_zero, List.append_assoc,
    List.cons_append]
  rw [field?_padded (by decide) (by omega : t.second / 3600 < 100) (hcolon _)]
  simp only [Option.bind_eq_bind, Option.bind_some, hmark]
  rw [field?_padded (by decide) (by omega : t.second / 60 % 60 < 100) (hcolon _)]
  simp only [Option.bind_some, hmark]
  rw [field?_padded (by decide) (by omega : t.second % 60 < 100) (noDigitHead_fraction _)]
  simp only [Option.bind_some, nanos?_fraction hnano]
  rw [if_pos (by omega)]
  have hwhole : t.second / 3600 * 3600 + t.second / 60 % 60 * 60 + t.second % 60 = t.second := by
    omega
  simp [Nat.div_eq_of_lt hrest, hwhole]

/-- **Every date-time outside a leap second is read back.** -/
theorem ofText?_text {t : DateTime} (hleap : t.inLeapSecond = false) :
    ofText? t.text = some t := by
  have hnano : t.nano < secondNanos := by
    simpa [inLeapSecond] using hleap
  have hseparator (s : List Char) : NoDigitHead ('T' :: s) := Text.noDigitHead_cons rfl s
  have hmark (s : List Char) : mark? 'T' ('T' :: s) = some s := mark?_cons rfl s
  unfold ofText? text
  simp only [List.append_assoc, List.cons_append]
  rw [Date.civil?_text _ (hseparator _), Nat.mod_eq_of_lt hnano]
  simp only [Option.bind_eq_bind, Option.bind_some, hmark, clock?_text hleap, Date.ofCivil?_civil]
  rw [dif_pos ⟨t.second_lt, t.nano_lt⟩]
  rfl

end DateTime

end QueryCriteria
