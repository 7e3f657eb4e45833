import Mathlib
import QueryCriteria.Time.Calendar

/-!
# Years and months on the line of days

The days are counted from 1 January of year 0.  Years and months cut the line of days into cells,
each beginning where the last one ends; the year and the month of a day are the cells it lies in.

* `eq_of_cells` — a day lies in one cell only.
* `yearStart_strictMono`, `Civil.yearOf_cell` — years as cells.
* `Civil.monthIndex`, `monthBegin` — months counted from January of year 0, and the days before one.
* `monthBegin_strictMono`, `Civil.monthIndex_cell` — months as cells.
* `Civil.isReal_ofNumber`, `Civil.number_ofNumber`, `Civil.ofNumber_number` — counting days and
  naming them are inverse to each other.
* `Civil.firstOf` — the first day of a month.
* `Civil.eq_with_day`, `Date.number_lt_of_monthIndex_lt` — days of one month, and of different ones.
* `Date.ofCivil?_eq_some_iff`, `Date.monthIndex_bounds` — the days and the months of the calendar.
-/

namespace QueryCriteria

/-- Where cells begin at increasing points, a point lies in one of them only. -/
theorem eq_of_cells {start : Int → Int} (hstart : StrictMono start) {a b n : Int}
    (ha : start a ≤ n ∧ n < start (a + 1)) (hb : start b ≤ n ∧ n < start (b + 1)) : a = b := by
  have hab : a < b + 1 := hstart.lt_iff_lt.1 (by omega)
  have hba : b < a + 1 := hstart.lt_iff_lt.1 (by omega)
  omega

/-! ## Years -/

/-- The days of a year. -/
def yearLength (leap : Bool) : Nat :=
  if leap then 366 else 365

theorem yearStart_succ (y : Int) : yearStart (y + 1) = yearStart y + yearLength (isLeapYear y) := by
  unfold yearStart isLeapYear yearLength
  by_cases h4 : y % 4 = 0
  · by_cases h100 : y % 100 = 0
    · by_cases h400 : y % 400 = 0
      · simp [h4, h400]
        omega
      · simp [h4, h100, h400]
        omega
    · simp [h4, h100]
      omega
  · simp [h4]
    omega

theorem yearStart_strictMono : StrictMono yearStart := by
  refine strictMono_int_of_lt_succ fun y => ?_
  rw [yearStart_succ]
  unfold yearLength
  split <;> omega

/-- Four hundred years have 146097 days, and no year begins two days off that pace. -/
theorem yearStart_pace (y : Int) :
    146097 * y - 396 ≤ 400 * yearStart y ∧ 400 * yearStart y ≤ 146097 * y + 699 := by
  unfold yearStart
  omega

namespace Civil

/-- The year of a day is the one it lies in. -/
theorem yearOf_cell (n : Int) : yearStart (yearOf n) ≤ n ∧ n < yearStart (yearOf n + 1) := by
  -- The estimate keeps the pace, so it is not off by more than a year either way.
  have hfloor : 146097 * (400 * n / 146097) ≤ 400 * n ∧
      400 * n < 146097 * (400 * n / 146097) + 146097 := by omega
  unfold yearOf
  generalize 400 * n / 146097 = estimate at hfloor
  have hbefore := yearStart_pace (estimate - 1)
  have hafter := yearStart_pace (estimate + 1 + 1)
  dsimp only
  split
  · have hself : estimate - 1 + 1 = estimate := by omega
    rw [hself]
    omega
  · split
    · omega
    · omega

end Civil

/-! ## Months -/

theorem monthStart_one (y : Int) : monthStart y 1 = 0 := rfl

theorem monthStart_succ (y : Int) {m : Nat} (h : m < 12) :
    monthStart y (m + 1 + 1) = monthStart y (m + 1) + monthLength y (m + 1) := by
  unfold monthStart monthLength
  cases isLeapYear y <;> revert h <;> revert m <;> decide

theorem monthStart_end (y : Int) : monthStart y (12 + 1) = yearLength (isLeapYear y) := by
  unfold monthStart
  cases isLeapYear y <;> decide

theorem le_monthLength (y : Int) {m : Nat} (h : m < 12) : 28 ≤ monthLength y (m + 1) := by
  unfold monthLength
  cases isLeapYear y <;> revert h <;> revert m <;> decide

theorem monthLength_pos (y : Int) {m : Nat} (h : m < 12) : 0 < monthLength y (m + 1) :=
  Nat.lt_of_lt_of_le (by decide) (le_monthLength y h)

/-- The days before a month, which is counted from January of year 0. -/
def monthBegin (k : Int) : Int :=
  yearStart (k / 12) + monthStart (k / 12) ((k % 12).toNat + 1)

/-- The days of a month, which is counted from January of year 0. -/
def monthDays (k : Int) : Nat :=
  monthLength (k / 12) ((k % 12).toNat + 1)

theorem le_monthDays (k : Int) : 28 ≤ monthDays k :=
  le_monthLength (k / 12) (by omega)

theorem monthBegin_succ (k : Int) : monthBegin (k + 1) = monthBegin k + monthDays k := by
  unfold monthBegin monthDays
  by_cases hlast : k % 12 = 11
  · -- From December on to January.
    have hyear : (k + 1) / 12 = k / 12 + 1 := by omega
    have hmonth : ((k + 1) % 12).toNat = 0 := by omega
    have hdecember : (k % 12).toNat = 11 := by omega
    have hend := monthStart_end (k / 12)
    rw [monthStart_succ (k / 12) (show 11 < 12 by decide)] at hend
    rw [hyear, hmonth, hdecember, monthStart_one, yearStart_succ, ← hend]
    push_cast
    omega
  · have hyear : (k + 1) / 12 = k / 12 := by omega
    have hmonth : ((k + 1) % 12).toNat = (k % 12).toNat + 1 := by omega
    have hsucc := monthStart_succ (k / 12) (show (k % 12).toNat < 12 by omega)
    rw [hyear, hmonth, hsucc]
    push_cast
    omega

theorem monthBegin_strictMono : StrictMono monthBegin := by
  refine strictMono_int_of_lt_succ fun k => ?_
  have hpos := monthLength_pos (k / 12) (show (k % 12).toNat < 12 by omega)
  have hdays : 0 < monthDays k := hpos
  rw [monthBegin_succ]
  omega

/-- A year begins with its January. -/
theorem monthBegin_january (y : Int) : monthBegin (y * 12) = yearStart y := by
  have hyear : y * 12 / 12 = y := by omega
  have hmonth : (y * 12 % 12).toNat = 0 := by omega
  rw [monthBegin, hyear, hmonth, monthStart_one]
  simp

/-! ## Days named by year, month and day of the month -/

namespace Civil

/-- The months before the one of a day, counted from January of year 0. -/
def monthIndex (c : Civil) : Int :=
  c.year * 12 + (c.month - 1 : Nat)

theorem isReal_iff {c : Civil} :
    c.isReal = true ↔ (1 ≤ c.month ∧ c.month ≤ 12) ∧ 1 ≤ c.day ∧ c.day ≤ monthLength c.year c.month := by
  simp only [isReal, Bool.and_eq_true, decide_eq_true_eq, and_assoc]

section Real

variable {c : Civil} (h : c.isReal = true)
include h

theorem monthIndex_div : c.monthIndex / 12 = c.year := by
  obtain ⟨⟨h1, h2⟩, -⟩ := isReal_iff.1 h
  unfold monthIndex
  omega

theorem monthIndex_mod : (c.monthIndex % 12).toNat + 1 = c.month := by
  obtain ⟨⟨h1, h2⟩, -⟩ := isReal_iff.1 h
  unfold monthIndex
  omega

/-- A day is counted from the beginning of its month. -/
theorem number_eq : c.number = monthBegin c.monthIndex + (c.day - 1 : Nat) := by
  obtain ⟨-, h1, h2⟩ := isReal_iff.1 h
  rw [number, monthBegin, monthIndex_div h, monthIndex_mod h]
  omega

theorem day_le_monthDays : c.day ≤ monthDays c.monthIndex := by
  rw [monthDays, monthIndex_div h, monthIndex_mod h]
  exact (isReal_iff.1 h).2.2

/-- The month of a day is the one it lies in. -/
theorem monthIndex_cell :
    monthBegin c.monthIndex ≤ c.number ∧ c.number < monthBegin (c.monthIndex + 1) := by
  have hfirst := (isReal_iff.1 h).2.1
  have hlast := day_le_monthDays h
  rw [monthBegin_succ, number_eq h]
  omega

end Real

/-- Days of one month differ in the day of the month only. -/
theorem eq_with_day {c d : Civil} (hc : c.isReal = true) (hd : d.isReal = true)
    (h : c.monthIndex = d.monthIndex) : c = { d with day := c.day } := by
  have hyear : c.year = d.year := by rw [← monthIndex_div hc, h, monthIndex_div hd]
  have hmonth : c.month = d.month := by rw [← monthIndex_mod hc, h, monthIndex_mod hd]
  rw [← hyear, ← hmonth]

/-- Real days with one number are the same day. -/
theorem eq_of_number_eq {c d : Civil} (hc : c.isReal = true) (hd : d.isReal = true)
    (h : c.number = d.number) : c = d := by
  have hindex : c.monthIndex = d.monthIndex := by
    refine eq_of_cells monthBegin_strictMono (monthIndex_cell hc) ?_
    rw [h]
    exact monthIndex_cell hd
  have hday : c.day = d.day := by
    have hcday := (isReal_iff.1 hc).2.1
    have hdday := (isReal_iff.1 hd).2.1
    rw [number_eq hc, number_eq hd, hindex] at h
    omega
  rw [eq_with_day hc hd hindex, hday]

/-- Counting a day off the months finds the month it lies in and its place there. -/
theorem monthAndDay_spec : ∀ (lengths : List Nat) (month day : Nat), day < lengths.sum →
    ∃ i, i < lengths.length ∧ (lengths.take i).sum ≤ day ∧
      day < (lengths.take i).sum + lengths.getD i 0 ∧
      monthAndDay lengths month day = (month + i, day - (lengths.take i).sum + 1)
  | [], month, day, h => by simp at h
  | length :: rest, month, day, h => by
    unfold monthAndDay
    split
    · rename_i hfirst
      exact ⟨0, by simp, by simp, by simpa using hfirst, by simp⟩
    · rename_i hlater
      rw [List.sum_cons] at h
      obtain ⟨i, hi, hle, hlt, heq⟩ := monthAndDay_spec rest (month + 1) (day - length) (by omega)
      refine ⟨i + 1, by simpa using hi, ?_, ?_, ?_⟩
      · rw [List.take_succ_cons, List.sum_cons]
        omega
      · rw [List.take_succ_cons, List.sum_cons, List.getD_cons_succ]
        omega
      · rw [heq, List.take_succ_cons, List.sum_cons]
        simp only [Prod.mk.injEq]
        omega

theorem sum_monthLengths (leap : Bool) : (monthLengths leap).sum = yearLength leap := by
  cases leap <;> decide

theorem monthStart_eq_sum (y : Int) (i : Nat) :
    monthStart y (1 + i) = ((monthLengths (isLeapYear y)).take i).sum := by
  rw [monthStart, Nat.add_sub_cancel_left, List.sum_eq_foldl]

/-- Naming a day by its number gives a day that exists and has this number. -/
theorem ofNumber_spec (n : Int) : (ofNumber n).isReal = true ∧ (ofNumber n).number = n := by
  obtain ⟨hle, hlt⟩ := yearOf_cell n
  rw [yearStart_succ, ← sum_monthLengths] at hlt
  have hday : (n - yearStart (yearOf n)).toNat < (monthLengths (isLeapYear (yearOf n))).sum := by
    omega
  obtain ⟨i, hi, hfrom, hto, heq⟩ := monthAndDay_spec _ 1 _ hday
  have hmonths : (monthLengths (isLeapYear (yearOf n))).length = 12 := by
    cases isLeapYear (yearOf n) <;> rfl
  have hcivil : ofNumber n = ⟨yearOf n, 1 + i, (n - yearStart (yearOf n)).toNat -
      ((monthLengths (isLeapYear (yearOf n))).take i).sum + 1⟩ := by
    rw [ofNumber, heq]
  have hlength : monthLength (yearOf n) (1 + i) =
      (monthLengths (isLeapYear (yearOf n))).getD i 0 := by
    rw [monthLength, if_neg (by omega), Nat.add_sub_cancel_left]
  have hstart := monthStart_eq_sum (yearOf n) i
  rw [hcivil]
  constructor
  · rw [isReal_iff, hlength]
    dsimp only
    omega
  · rw [number, hstart]
    dsimp only
    omega

theorem isReal_ofNumber (n : Int) : (ofNumber n).isReal = true :=
  (ofNumber_spec n).1

theorem number_ofNumber (n : Int) : (ofNumber n).number = n :=
  (ofNumber_spec n).2

/-- **Naming a day and counting days are inverse to each other.** -/
theorem ofNumber_number {c : Civil} (h : c.isReal = true) : ofNumber c.number = c :=
  eq_of_number_eq (isReal_ofNumber _) h (number_ofNumber _)

theorem year_ofNumber (n : Int) : (ofNumber n).year = yearOf n := rfl

/-- The first day of a month, which is counted from January of year 0. -/
def firstOf (k : Int) : Civil :=
  ⟨k / 12, (k % 12).toNat + 1, 1⟩

theorem isReal_firstOf (k : Int) : (firstOf k).isReal = true := by
  have hlength := monthLength_pos (k / 12) (show (k % 12).toNat < 12 by omega)
  rw [isReal_iff, firstOf]
  dsimp only
  omega

theorem number_firstOf (k : Int) : (firstOf k).number = monthBegin k := by
  rw [number, firstOf, monthBegin]
  dsimp only
  omega

theorem ofNumber_monthBegin (k : Int) : ofNumber (monthBegin k) = firstOf k := by
  rw [← number_firstOf, ofNumber_number (isReal_firstOf k)]

end Civil

/-! ## Dates -/

namespace Date

theorem ofNumber?_eq_some_iff {n : Int} {d : Date} : ofNumber? n = some d ↔ d.number = n := by
  unfold ofNumber?
  constructor
  · intro h
    split at h
    · cases h
      rfl
    · cases h
  · rintro rfl
    rw [dif_pos ⟨d.first_le, d.le_last⟩]

theorem isReal_civil (d : Date) : d.civil.isReal = true :=
  Civil.isReal_ofNumber d.number

theorem number_civil (d : Date) : d.civil.number = d.number :=
  Civil.number_ofNumber d.number

theorem ofCivil?_eq_some_iff {c : Civil} (hc : c.isReal = true) {d : Date} :
    ofCivil? c = some d ↔ d.civil = c := by
  rw [ofCivil?, if_pos hc, ofNumber?_eq_some_iff]
  constructor
  · intro h
    rw [civil, h, Civil.ofNumber_number hc]
  · rintro rfl
    exact d.number_civil.symm

theorem ofCivil?_civil (d : Date) : ofCivil? d.civil = some d :=
  (ofCivil?_eq_some_iff d.isReal_civil).2 rfl

/-- A date is given by year, month and day. -/
theorem eq_of_civil_eq {d e : Date} (h : d.civil = e.civil) : d = e := by
  have hd := d.ofCivil?_civil
  rw [h, e.ofCivil?_civil] at hd
  exact (Option.some.inj hd).symm

/-- The days of an earlier month are earlier days. -/
theorem number_lt_of_monthIndex_lt {d e : Date} (h : d.civil.monthIndex < e.civil.monthIndex) :
    d.number < e.number := by
  have hd := (Civil.monthIndex_cell d.isReal_civil).2
  have he := (Civil.monthIndex_cell e.isReal_civil).1
  have hmarks : monthBegin (d.civil.monthIndex + 1) ≤ monthBegin e.civil.monthIndex :=
    monthBegin_strictMono.monotone h
  rw [d.number_civil] at hd
  rw [e.number_civil] at he
  omega

/-- The calendar has the months of the years from -262143 to 262142. -/
theorem monthIndex_bounds (d : Date) :
    -262143 * 12 ≤ d.civil.monthIndex ∧ d.civil.monthIndex < 262143 * 12 := by
  have hcell := Civil.monthIndex_cell d.isReal_civil
  rw [d.number_civil] at hcell
  have hfirst := d.first_le
  have hlast := d.le_last
  rw [firstDay, ← monthBegin_january] at hfirst
  rw [lastDay, ← monthBegin_january] at hlast
  have hfrom := monthBegin_strictMono.lt_iff_lt.1 (Int.lt_of_le_of_lt hfirst hcell.2)
  have hto : d.civil.monthIndex < 262143 * 12 := monthBegin_strictMono.lt_iff_lt.1 (by omega)
  exact ⟨Int.lt_add_one_iff.1 hfrom, hto⟩

end Date

end QueryCriteria
