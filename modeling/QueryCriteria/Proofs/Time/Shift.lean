import QueryCriteria.Proofs.Time.Calendar
import QueryCriteria.Proofs.Time.Instant
import QueryCriteria.Time.Period

/-!
# Shifts by periods are exact

A shift adds a length on the line of seconds, or moves along the months of the calendar.  The limits
on lengths and counts are all wider than the calendar, so that only its ends make a shift fail.

* `DateTime.seconds_bounds`, `DateTime.exists_of_seconds` — the seconds of the calendar.
* `Civil.inMonth`, `Civil.eq_inMonth_iff` — a day carried over to a month, and cut to its length.
* `Stride`, `Period.stride` — what a period is a multiple of: seconds, or months.
* `Stride.Leads`, `Stride.dayReached` — the exact result of a shift, and the day it lies on.
* `Stride.exists_leads_iff` — the result exists exactly if that day lies in the calendar.
* `Period.addLength?_eq_some_iff`, `Period.addMonths?_eq_some_iff` — the two ways to shift.
* `Period.add?_exact` — shifting by any number of any period.
-/

namespace QueryCriteria

/-! ## The reach of the calendar -/

theorem DateTime.seconds_bounds (t : DateTime) :
    firstDay * 86400 ≤ t.seconds ∧ t.seconds < (lastDay + 1) * 86400 := by
  have hfirst := t.date.first_le
  have hlast := t.date.le_last
  have hsecond := t.second_lt_day
  unfold seconds
  omega

theorem DateTime.exists_of_seconds {s : Int} {nano : Nat} (hnano : nano < 2 * secondNanos)
    (hfirst : firstDay ≤ s / 86400) (hlast : s / 86400 ≤ lastDay) :
    ∃ t : DateTime, t.seconds = s ∧ t.nano = nano := by
  have hsecond : (s % 86400).toNat < daySeconds := by
    rw [daySeconds]
    omega
  refine ⟨⟨⟨s / 86400, hfirst, hlast⟩, (s % 86400).toNat, nano, hsecond, hnano⟩, ?_, rfl⟩
  unfold seconds
  dsimp only
  omega

/-! ## Days carried over to another month -/

namespace Civil

/-- A day in a month counted from January of year 0, cut to the length of the month. -/
def inMonth (c : Civil) (k : Int) : Civil :=
  ⟨k / 12, (k % 12).toNat + 1, min c.day (monthDays k)⟩

variable {c e : Civil}

theorem monthIndex_inMonth (c : Civil) (k : Int) : (c.inMonth k).monthIndex = k := by
  unfold monthIndex inMonth
  dsimp only
  omega

theorem isReal_inMonth (hc : c.isReal = true) (k : Int) : (c.inMonth k).isReal = true := by
  have hday := (isReal_iff.1 hc).2.1
  have hlength := monthLength_pos (k / 12) (show (k % 12).toNat < 12 by omega)
  rw [isReal_iff, inMonth, monthDays]
  dsimp only
  omega

theorem eq_inMonth_iff (he : e.isReal = true) {k : Int} :
    e = c.inMonth k ↔ e.monthIndex = k ∧ e.day = min c.day (monthDays k) := by
  constructor
  · rintro rfl
    exact ⟨monthIndex_inMonth c k, rfl⟩
  · rintro ⟨rfl, hday⟩
    rw [inMonth, monthIndex_div he, monthIndex_mod he, ← hday]

theorem inMonth_monthIndex (hc : c.isReal = true) : c.inMonth c.monthIndex = c :=
  ((eq_inMonth_iff hc).2 ⟨rfl, (Nat.min_eq_left (day_le_monthDays hc)).symm⟩).symm

theorem inMonth_firstOf (j k : Int) : (firstOf j).inMonth k = firstOf k := by
  have hlength := monthLength_pos (k / 12) (show (k % 12).toNat < 12 by omega)
  rw [inMonth, firstOf, monthDays, Nat.min_eq_left hlength, firstOf]

theorem monthIndex_firstOf (k : Int) : (firstOf k).monthIndex = k := by
  rw [← inMonth_firstOf k k, monthIndex_inMonth]

end Civil

/-- No two days of the calendar are further apart than it has months. -/
theorem Date.natAbs_lt_of_inMonth (d : Date) {e : Date} {n : Int}
    (h : e.civil = d.civil.inMonth (d.civil.monthIndex + n)) : n.natAbs < 524286 * 12 := by
  have hindex : e.civil.monthIndex = d.civil.monthIndex + n := by rw [h, Civil.monthIndex_inMonth]
  have hfrom := d.monthIndex_bounds
  have hto := e.monthIndex_bounds
  omega

/-! ## Strides -/

/-- What the periods of a kind are multiples of. -/
inductive Stride where
  | seconds (length : Nat)
  | months (count : Nat)
  deriving DecidableEq, Repr

/-- The stride of a period. -/
def Period.stride : Period → Stride
  | .second => .seconds 1
  | .minute => .seconds 60
  | .hour => .seconds 3600
  | .day => .seconds 86400
  | .week => .seconds 604800
  | .month => .months 1
  | .year => .months 12

namespace Stride

/-- Whether an instant lies exactly `n` strides after another: so many seconds later, or so many
months later, on the same day of the month or the last one there is, at the same time of day. -/
def Leads : Stride → Int → DateTime → DateTime → Prop
  | .seconds length, n, t, u => u.seconds = t.seconds + n * length ∧ u.nano = t.nano
  | .months count, n, t, u =>
    u.date.civil.monthIndex = t.date.civil.monthIndex + n * count ∧
      u.date.civil.day = min t.date.civil.day (monthDays (t.date.civil.monthIndex + n * count)) ∧
      u.second = t.second ∧ u.nano = t.nano

instance : (s : Stride) → (n : Int) → (t u : DateTime) → Decidable (s.Leads n t u)
  | .seconds _, _, _, _ => inferInstanceAs (Decidable (_ ∧ _))
  | .months _, _, _, _ => inferInstanceAs (Decidable (_ ∧ _ ∧ _ ∧ _))

/-- The day on which the instant `n` strides later lies, whether it is in the calendar or not. -/
def dayReached : Stride → Int → DateTime → Int
  | .seconds length, n, t => (t.seconds + n * length) / 86400
  | .months count, n, t => (t.date.civil.inMonth (t.date.civil.monthIndex + n * count)).number

theorem leads_months_iff {count : Nat} {n : Int} {t u : DateTime} :
    (months count).Leads n t u ↔
      u.date.civil = t.date.civil.inMonth (t.date.civil.monthIndex + n * count) ∧
        u.second = t.second ∧ u.nano = t.nano := by
  rw [Civil.eq_inMonth_iff u.date.isReal_civil, and_assoc, Leads]

/-- **The result of a shift exists exactly if its day lies in the calendar.** -/
theorem exists_leads_iff (s : Stride) (n : Int) (t : DateTime) :
    (∃ u, s.Leads n t u) ↔ firstDay ≤ s.dayReached n t ∧ s.dayReached n t ≤ lastDay := by
  cases s with
  | seconds length =>
    constructor
    · rintro ⟨u, hseconds, -⟩
      rw [dayReached, ← hseconds, u.seconds_div]
      exact ⟨u.date.first_le, u.date.le_last⟩
    · rintro ⟨hfirst, hlast⟩
      exact DateTime.exists_of_seconds t.nano_lt hfirst hlast
  | months count =>
    simp only [leads_months_iff]
    constructor
    · rintro ⟨u, hcivil, -⟩
      rw [dayReached, ← hcivil, u.date.number_civil]
      exact ⟨u.date.first_le, u.date.le_last⟩
    · rintro ⟨hfirst, hlast⟩
      have hreal := Civil.isReal_inMonth t.date.isReal_civil (t.date.civil.monthIndex + n * count)
      exact ⟨t.onDate ⟨_, hfirst, hlast⟩, Civil.ofNumber_number hreal, rfl, rfl⟩

end Stride

namespace Period

variable {t u : DateTime} {n : Int}

/-! ## Shifts of fixed length -/

/-- The limit on lengths never decides: it is more than five hundred times the width of the whole
calendar. -/
theorem addLength?_eq_some_iff (ht : t.inLeapSecond = false) (length : Nat) :
    addLength? length t n = some u ↔ (Stride.seconds length).Leads n t u := by
  unfold addLength?
  split
  · rw [DateTime.addSeconds?, ht, if_neg Bool.false_ne_true, DateTime.ofSeconds?_eq_some_iff,
      ← Int.add_assoc]
    rfl
  · rename_i hlong
    refine iff_of_false (Option.some_ne_none u).symm ?_
    rintro ⟨hseconds, -⟩
    have hwidth : (lastDay + 1 - firstDay) * 86400 * 1000 ≤ longestShift := by decide
    have hfrom := t.seconds_bounds
    have hto := u.seconds_bounds
    omega

/-! ## Shifts along the months -/

theorem addMonthsToDate?_eq_some_iff {d e : Date} :
    addMonthsToDate? d n = some e ↔ e.civil = d.civil.inMonth (d.civil.monthIndex + n) :=
  Date.ofCivil?_eq_some_iff (Civil.isReal_inMonth d.isReal_civil _)

/-- The limit on what a date is moved by never decides. -/
theorem moveMonths?_eq_some_iff {d e : Date} :
    moveMonths? d n = some e ↔ e.civil = d.civil.inMonth (d.civil.monthIndex + n) := by
  unfold moveMonths?
  split
  · rename_i hzero
    rw [hzero, Int.add_zero, Civil.inMonth_monthIndex d.isReal_civil, ← d.ofCivil?_civil]
    exact Date.ofCivil?_eq_some_iff d.isReal_civil
  · split
    · exact addMonthsToDate?_eq_some_iff
    · rename_i hmost
      refine iff_of_false (Option.some_ne_none e).symm fun hcivil => hmost ?_
      exact Nat.le_of_lt (Nat.lt_of_lt_of_le (d.natAbs_lt_of_inMonth hcivil) (by decide))

/-- Nor does the limit on what can be asked for. -/
theorem addMonths?_eq_some_iff : addMonths? t n = some u ↔ (Stride.months 1).Leads n t u := by
  rw [Stride.leads_months_iff, Int.natCast_one, Int.mul_one]
  unfold addMonths?
  split
  · simp only [Option.map_eq_some_iff, moveMonths?_eq_some_iff]
    constructor
    · rintro ⟨e, hcivil, rfl⟩
      exact ⟨hcivil, rfl, rfl⟩
    · rintro ⟨hcivil, hsecond, hnano⟩
      refine ⟨u.date, hcivil, DateTime.ext_seconds ?_ hnano.symm⟩
      rw [DateTime.seconds, DateTime.seconds, hsecond]
      rfl
  · rename_i hgreatest
    refine iff_of_false (Option.some_ne_none u).symm fun hleads => hgreatest ?_
    exact Nat.le_of_lt
      (Nat.lt_of_lt_of_le (t.date.natAbs_lt_of_inMonth hleads.1) (by decide))

/-- Nor does the limit on the months of years. -/
theorem bind_monthsOfYears?_eq_some_iff :
    (monthsOfYears? n).bind (addMonths? t) = some u ↔ (Stride.months 12).Leads n t u := by
  have hyears : (Stride.months 12).Leads n t u ↔ (Stride.months 1).Leads (n * 12) t u := by
    simp [Stride.Leads]
  rw [hyears]
  unfold monthsOfYears?
  split
  · exact addMonths?_eq_some_iff
  · rename_i hlimits
    refine iff_of_false (Option.some_ne_none u).symm fun hleads => hlimits ?_
    rw [Stride.leads_months_iff, Int.natCast_one, Int.mul_one] at hleads
    have hfew := t.date.natAbs_lt_of_inMonth hleads.1
    unfold leastInt64 greatestInt64
    omega

/-! ## Shifts by any period -/

theorem add?_eq_some_iff (ht : t.inLeapSecond = false) {p : Period} :
    p.add? t n = some u ↔ p.stride.Leads n t u := by
  cases p with
  | month => exact addMonths?_eq_some_iff
  | year => exact bind_monthsOfYears?_eq_some_iff
  | _ => exact addLength?_eq_some_iff ht _

/-- **A shift by any number of periods is exact.**  Outside of leap seconds the result is the instant
that lies exactly so many periods later, and there is none exactly if its day lies outside of the
calendar.  None of the limits on lengths and counts shows. -/
theorem add?_exact (p : Period) {t : DateTime} (ht : t.inLeapSecond = false) (n : Int) :
    (∀ u, p.add? t n = some u ↔ p.stride.Leads n t u) ∧
      (p.add? t n = none ↔
        ¬ (firstDay ≤ p.stride.dayReached n t ∧ p.stride.dayReached n t ≤ lastDay)) := by
  have hsome : ∀ u, p.add? t n = some u ↔ p.stride.Leads n t u := fun u => add?_eq_some_iff ht
  refine ⟨hsome, ?_⟩
  rw [← Stride.exists_leads_iff, not_exists, Option.eq_none_iff_forall_ne_some]
  exact forall_congr' fun u => not_congr (hsome u)

/-- A month before 31 March 2024 lies 29 February, at the same time of day; and the most negative
number of years that can be asked for leads out of the calendar. -/
theorem month_before_march_31 :
    let march : DateTime := ⟨⟨739341, by decide, by decide⟩, 49500, 250000000, by decide, by decide⟩
    let february : DateTime := ⟨⟨739310, by decide, by decide⟩, 49500, 250000000, by decide, by decide⟩
    march.inLeapSecond = false ∧ march.date.civil = ⟨2024, 3, 31⟩ ∧
      february.date.civil = ⟨2024, 2, 29⟩ ∧ Period.month.add? march (-1) = some february ∧
      Period.year.add? march (-9223372036854775808) = none := by
  intro march february
  have hleap : march.inLeapSecond = false := by decide
  obtain ⟨hsome, -⟩ := add?_exact .month hleap (-1)
  obtain ⟨-, hnone⟩ := add?_exact .year hleap (-9223372036854775808)
  exact ⟨hleap, by decide +kernel, by decide +kernel, (hsome february).2 (by decide +kernel),
    hnone.2 (by decide +kernel)⟩

end Period

end QueryCriteria
