import QueryCriteria.Proofs.Time.Period

/-!
# Periods inside longer periods

There are two scales of periods, one by months and years and one by weeks.  On each of them a longer
period begins where a shorter one begins, so that it is made up of shorter ones.

* `Period.Finer` — a kind of period comes before another one on a scale.
* `Period.exists_mark_eq` — the marks of a kind are marks of every finer kind.
* `Period.mark_le_mark`, `Period.mark_succ_le_mark_succ` — the finer period of an instant lies in the
  longer one.
* `Period.index_eq_of_date_eq` — the instants of a day lie in the same longer period.
* `Period.exists_truncate?` — an instant can be cut to any period but a week.
* `Period.truncate?_truncate?` — cutting to a finer period first changes nothing.
-/

namespace QueryCriteria.Period

/-! ## The two scales -/

/-- The kinds of periods that are made up of one another, from the finest on.  A month is not made up
of weeks. -/
def scales : List (List Period) :=
  [[.second, .minute, .hour, .day, .month, .year], [.second, .minute, .hour, .day, .week]]

/-- Whether a kind of period comes before another one on a scale. -/
def Finer (q p : Period) : Prop :=
  ∃ scale ∈ scales, [q, p].Sublist scale

instance (q p : Period) : Decidable (q.Finer p) :=
  inferInstanceAs (Decidable (∃ scale ∈ scales, _))

variable {q p : Period}

theorem Finer.ne_week (h : q.Finer p) : q ≠ .week := by
  rintro rfl
  revert h
  cases p <;> decide

theorem finer_year (hweek : p ≠ .week) (hyear : p ≠ .year) : p.Finer .year := by
  revert hweek hyear
  cases p <;> decide

variable (ws : Weekday)

/-- **A longer period begins where a finer one begins.** -/
theorem exists_mark_eq (h : q.Finer p) (k : Int) : ∃ j, q.mark ws j = p.mark ws k := by
  -- The marks of days and of what is shorter are the multiples of a length.
  cases q with
  | second => exact ⟨p.mark ws k, rfl⟩
  | minute =>
    refine ⟨p.mark ws k / 60, ?_⟩
    cases p with
    | second => exact absurd h (by decide)
    | _ =>
      simp only [mark]
      omega
  | hour =>
    refine ⟨p.mark ws k / 3600, ?_⟩
    cases p with
    | second => exact absurd h (by decide)
    | minute => exact absurd h (by decide)
    | _ =>
      simp only [mark]
      omega
  | day =>
    refine ⟨p.mark ws k / 86400, ?_⟩
    cases p with
    | second => exact absurd h (by decide)
    | minute => exact absurd h (by decide)
    | hour => exact absurd h (by decide)
    | _ =>
      simp only [mark]
      omega
  | week => exact absurd rfl h.ne_week
  | month =>
    cases p with
    | year => exact ⟨k * 12, by rw [mark, mark, monthBegin_january]⟩
    | _ => exact absurd h (by decide)
  | year => cases p <;> exact absurd h (by decide)

/-! ## The finer period of an instant -/

section Inside

variable (h : q.Finer p) (t : DateTime)
include h

theorem mark_le_mark : p.mark ws (p.index ws t) ≤ q.mark ws (q.index ws t) := by
  obtain ⟨j, hj⟩ := exists_mark_eq ws h (p.index ws t)
  have hbegun := (p.index_cell ws t).1
  have hend := (q.index_cell ws t).2
  have hle : j < q.index ws t + 1 := (q.mark_strictMono ws).lt_iff_lt.1 (by omega)
  rw [← hj]
  exact (q.mark_strictMono ws).monotone (by omega)

theorem mark_succ_le_mark_succ : q.mark ws (q.index ws t + 1) ≤ p.mark ws (p.index ws t + 1) := by
  obtain ⟨j, hj⟩ := exists_mark_eq ws h (p.index ws t + 1)
  have hend := (p.index_cell ws t).2
  have hbegun := (q.index_cell ws t).1
  have hlt : q.index ws t < j := (q.mark_strictMono ws).lt_iff_lt.1 (by omega)
  rw [← hj]
  exact (q.mark_strictMono ws).monotone (by omega)

theorem index_of_seconds_eq_mark {b : DateTime} (hb : b.seconds = q.mark ws (q.index ws t)) :
    p.index ws b = p.index ws t := by
  have hbegun := mark_le_mark ws h t
  have hown := (q.index_cell ws t).1
  have hend := (p.index_cell ws t).2
  rw [index_eq_iff, hb]
  omega

end Inside

/-- A day or a longer period holds whole days. -/
theorem index_eq_of_date_eq {s t : DateTime} (h : p = .day ∨ Period.day.Finer p)
    (hdate : s.date = t.date) : p.index ws s = p.index ws t := by
  cases p with
  | second => exact absurd h (by decide)
  | minute => exact absurd h (by decide)
  | hour => exact absurd h (by decide)
  | _ => simp only [index, hdate]

/-! ## Cutting to a finer period first -/

/-- The calendar begins with a year, and so with a period of any kind but the week. -/
theorem exists_mark_eq_firstDay (hp : p ≠ .week) : ∃ j, p.mark ws j = firstDay * 86400 := by
  have hyear : Period.year.mark ws (-262143) = firstDay * 86400 := Int.mul_comm _ _
  rw [← hyear]
  by_cases h : p = .year
  · exact ⟨-262143, by rw [h]⟩
  · exact exists_mark_eq ws (finer_year hp h) _

theorem exists_truncate? (hp : p ≠ .week) (t : DateTime) : ∃ b, p.truncate? ws t = some b := by
  obtain ⟨j, hj⟩ := exists_mark_eq_firstDay ws hp
  obtain ⟨hbegun, hend⟩ := p.index_cell ws t
  obtain ⟨hfirst, hlast⟩ := t.seconds_bounds
  have hle : j < p.index ws t + 1 := (p.mark_strictMono ws).lt_iff_lt.1 (by omega)
  have hcalendar : p.mark ws j ≤ p.mark ws (p.index ws t) :=
    (p.mark_strictMono ws).monotone (by omega)
  have hfrom : firstDay ≤ p.mark ws (p.index ws t) / 86400 := by omega
  have hto : p.mark ws (p.index ws t) / 86400 ≤ lastDay := by omega
  obtain ⟨b, hb⟩ := DateTime.exists_of_seconds (show 0 < 2 * secondNanos by decide) hfrom hto
  exact ⟨b, (truncate?_eq_some_iff ws).2 hb⟩

/-- **Cutting to a finer period first changes nothing**, also where there is no beginning of the
longer one in the calendar. -/
theorem truncate?_truncate? (h : q.Finer p) (t : DateTime) :
    (q.truncate? ws t).bind (p.truncate? ws) = p.truncate? ws t := by
  obtain ⟨b, hb⟩ := exists_truncate? ws h.ne_week t
  have hindex := index_of_seconds_eq_mark ws h t ((truncate?_eq_some_iff ws).1 hb).1
  rw [hb, Option.bind_some]
  ext c
  rw [truncate?_eq_some_iff, truncate?_eq_some_iff, hindex]

end QueryCriteria.Period
