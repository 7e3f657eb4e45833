import QueryCriteria.Proofs.Time.Shift

/-!
# Periods on the line of seconds

The periods of a kind follow one another on the line of seconds, each beginning at a mark where the
one before it ends.

* `Period.mark`, `Period.mark_strictMono` — where the periods of a kind begin.
* `Period.index`, `Period.index_cell` — the period that an instant lies in.
* `Period.truncate?_eq_some_iff` — cutting an instant to its period leads to the mark of the period.
* `Period.truncate?_eq_iff_index` — instants are cut to the same instant exactly when they lie in the
  same period.
* `Period.add?_one` — one period after a mark lies the next mark.
-/

namespace QueryCriteria.Period

/-! ## Marks -/

/-- The second at which a period begins.  The periods of a kind are numbered through; the period of
number zero is the first one of year 0, or the week around its beginning. -/
def mark (weekStart : Weekday) : Period → Int → Int
  | .second, k => k
  | .minute, k => 60 * k
  | .hour, k => 3600 * k
  | .day, k => 86400 * k
  | .week, k => 86400 * (7 * k + weekStart.fromMonday - 5)
  | .month, k => 86400 * monthBegin k
  | .year, k => 86400 * yearStart k

/-- The number of the period that an instant lies in. -/
def index (weekStart : Weekday) (t : DateTime) : Period → Int
  | .second => t.seconds
  | .minute => t.seconds / 60
  | .hour => t.seconds / 3600
  | .day => t.date.number
  | .week => (t.date.number + 5 - weekStart.fromMonday) / 7
  | .month => t.date.civil.monthIndex
  | .year => t.date.civil.year

variable (ws : Weekday)

theorem mark_strictMono (p : Period) : StrictMono (p.mark ws) := by
  intro j k hjk
  cases p with
  | month =>
    have := monthBegin_strictMono hjk
    simp only [mark]
    omega
  | year =>
    have := yearStart_strictMono hjk
    simp only [mark]
    omega
  | _ =>
    simp only [mark]
    omega

theorem index_cell (p : Period) (t : DateTime) :
    p.mark ws (p.index ws t) ≤ t.seconds ∧ t.seconds < p.mark ws (p.index ws t + 1) := by
  have hday := t.seconds_div
  cases p with
  | month =>
    have hmonth := Civil.monthIndex_cell t.date.isReal_civil
    rw [t.date.number_civil] at hmonth
    simp only [mark, index]
    omega
  | year =>
    have hyear := Civil.yearOf_cell t.date.number
    simp only [mark, index, Date.civil, Civil.year_ofNumber]
    omega
  | _ =>
    simp only [mark, index]
    omega

/-- The period of an instant is the only one it lies in. -/
theorem index_eq_iff {p : Period} {t : DateTime} {k : Int} :
    p.index ws t = k ↔ p.mark ws k ≤ t.seconds ∧ t.seconds < p.mark ws (k + 1) := by
  constructor
  · rintro rfl
    exact p.index_cell ws t
  · intro h
    exact eq_of_cells (p.mark_strictMono ws) (p.index_cell ws t) h

/-! ## The beginning of a period -/

theorem ofCivil?_firstOf (k : Int) :
    Date.ofCivil? (Civil.firstOf k) = Date.ofNumber? (monthBegin k) := by
  rw [Date.ofCivil?, if_pos (Civil.isReal_firstOf k), Civil.number_firstOf]

/-- **Cutting an instant to its period leads to the mark of the period**, if that lies in the
calendar. -/
theorem truncate?_eq_some_iff {p : Period} {t b : DateTime} :
    p.truncate? ws t = some b ↔ b.seconds = p.mark ws (p.index ws t) ∧ b.nano = 0 := by
  have hreal := t.date.isReal_civil
  cases p with
  | second =>
    rw [truncate?, Option.some.injEq, DateTime.floorTo_eq_iff (by decide)]
    simp [mark, index]
  | minute =>
    rw [truncate?, Option.some.injEq, DateTime.floorTo_eq_iff (by decide)]
    simp only [mark, index]
    omega
  | hour =>
    rw [truncate?, Option.some.injEq, DateTime.floorTo_eq_iff (by decide)]
    simp only [mark, index]
    omega
  | day =>
    have hself : Date.ofNumber? t.date.number = some t.date := Date.ofNumber?_eq_some_iff.2 rfl
    rw [truncate?, ← Option.map_some, ← hself, DateTime.map_midnight_eq_some_iff]
    simp only [mark, index]
    omega
  | week =>
    have hweek : t.date.number - ((7 + t.date.fromMonday - ws.fromMonday) % 7 : Nat) =
        7 * ((t.date.number + 5 - ws.fromMonday) / 7) + ws.fromMonday - 5 := by
      have hbefore : ws.fromMonday < 7 := by cases ws <;> decide
      rw [Date.fromMonday]
      omega
    rw [truncate?, Date.addDays?, ← Int.sub_eq_add_neg, hweek, DateTime.map_midnight_eq_some_iff]
    simp only [mark, index]
    omega
  | month =>
    have hfirst : { t.date.civil with day := 1 } = Civil.firstOf t.date.civil.monthIndex := by
      rw [Civil.firstOf, Civil.monthIndex_div hreal, Civil.monthIndex_mod hreal]
    rw [truncate?, hfirst, ofCivil?_firstOf, DateTime.map_midnight_eq_some_iff]
    simp only [mark, index]
    omega
  | year =>
    -- A year begins with its first month, so that the marks of months serve for both.
    have hfirst : { t.date.civil with month := 1, day := 1 } =
        Civil.firstOf (t.date.civil.year * 12) := by
      have hyear : t.date.civil.year * 12 / 12 = t.date.civil.year := by omega
      have hmonth : (t.date.civil.year * 12 % 12).toNat = 0 := by omega
      rw [Civil.firstOf, hyear, hmonth]
    rw [truncate?, hfirst, ofCivil?_firstOf, monthBegin_january,
      DateTime.map_midnight_eq_some_iff]
    simp only [mark, index]
    omega

theorem truncate?_eq_iff_index {p : Period} {s t b : DateTime} (h : p.truncate? ws s = some b) :
    p.truncate? ws t = p.truncate? ws s ↔ p.index ws t = p.index ws s := by
  obtain ⟨hseconds, hnano⟩ := (truncate?_eq_some_iff ws).1 h
  rw [h, truncate?_eq_some_iff, hseconds, (p.mark_strictMono ws).injective.eq_iff]
  constructor
  · rintro ⟨hindex, -⟩
    exact hindex.symm
  · intro hindex
    exact ⟨hindex.symm, hnano⟩

/-! ## The end of a period -/

section Advance

variable {b e : DateTime} (hnano : b.nano = 0)
include hnano

theorem leads_months_monthBegin {count : Nat} {k n : Int}
    (hseconds : b.seconds = 86400 * monthBegin k) :
    (Stride.months count).Leads n b e ↔
      e.seconds = 86400 * monthBegin (k + n * count) ∧ e.nano = 0 := by
  have hsecond : b.second = 0 := by
    have := b.seconds_mod
    omega
  have hcivil : b.date.civil = Civil.firstOf k := by
    rw [← Civil.ofNumber_monthBegin, Date.civil, ← b.seconds_div, hseconds]
    congr 1
    omega
  rw [Stride.leads_months_iff, hcivil, Civil.monthIndex_firstOf, Civil.inMonth_firstOf, hsecond, hnano,
    ← Date.ofCivil?_eq_some_iff (Civil.isReal_firstOf _), ofCivil?_firstOf,
    Date.ofNumber?_eq_some_iff]
  unfold DateTime.seconds
  have := e.second_lt_day
  omega

/-- **One period after a mark lies the next mark**, if that lies in the calendar. -/
theorem add?_one {p : Period} {k : Int} (hseconds : b.seconds = p.mark ws k) :
    p.add? b 1 = some e ↔ e.seconds = p.mark ws (k + 1) ∧ e.nano = 0 := by
  have hleap : b.inLeapSecond = false := by
    rw [DateTime.inLeapSecond, hnano]
    rfl
  rw [add?_eq_some_iff hleap]
  cases p with
  | month => exact leads_months_monthBegin hnano hseconds
  | year =>
    have hyear : b.seconds = 86400 * monthBegin (k * 12) := by rw [monthBegin_january, hseconds, mark]
    have hnext : monthBegin (k * 12 + 1 * (12 : Nat)) = yearStart (k + 1) := by
      rw [← monthBegin_january]
      congr 1
      omega
    rw [stride, leads_months_monthBegin hnano hyear, hnext, mark]
  | _ =>
    simp only [stride, Stride.Leads, hnano, hseconds, mark]
    omega

end Advance

end QueryCriteria.Period
