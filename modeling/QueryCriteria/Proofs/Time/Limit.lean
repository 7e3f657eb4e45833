import QueryCriteria.Proofs.Time.Period

/-!
# Where the calendar ends

A step on the line of time has a result unless it leads off the calendar.  The day that it leads to
is told by exact integers, so nothing else can make a step fail: no limit on lengths or counts, and
no leap second either, which a shift leaves towards the side that it goes to.

* `OffCalendar`, `DateTime.eq_none_iff_offCalendar` — days off the calendar, and instants that would
  lie on one.
* `Period.truncate?_eq_none_iff`, `Period.add?_one_eq_none_iff` — the marks of periods off the
  calendar.
* `DateTime.departure`, `Stride.landing` — the second that a shift starts from, and the day that it
  leads to.
* `Period.add?_eq_none_iff` — shifts off the calendar.
* `Period.offCalendar_landing` — a shift by a count past 64 bits always leads off it.
-/

namespace QueryCriteria

/-- Whether a day lies outside of the calendar. -/
def OffCalendar (day : Int) : Prop :=
  day < firstDay ∨ lastDay < day

instance (day : Int) : Decidable (OffCalendar day) :=
  inferInstanceAs (Decidable (_ ∨ _))

theorem not_offCalendar_iff {day : Int} :
    ¬ OffCalendar day ↔ firstDay ≤ day ∧ day ≤ lastDay := by
  unfold OffCalendar
  omega

theorem DateTime.eq_none_iff_offCalendar {o : Option DateTime} {s : Int} {nano : Nat}
    (hnano : nano < 2 * secondNanos) (h : ∀ t, o = some t ↔ t.seconds = s ∧ t.nano = nano) :
    o = none ↔ OffCalendar (s / 86400) := by
  rw [← not_iff_not, not_offCalendar_iff, ← ne_eq, Option.ne_none_iff_exists']
  constructor
  · rintro ⟨t, ht⟩
    rw [← ((h t).1 ht).1, t.seconds_div]
    exact ⟨t.date.first_le, t.date.le_last⟩
  · rintro ⟨hfirst, hlast⟩
    obtain ⟨t, ht⟩ := exists_of_seconds hnano hfirst hlast
    exact ⟨t, (h t).2 ht⟩

namespace Period

/-! ## Marks off the calendar -/

/-- **The period of an instant has no beginning exactly if that lies off the calendar.** -/
theorem truncate?_eq_none_iff (ws : Weekday) {p : Period} {t : DateTime} :
    p.truncate? ws t = none ↔ OffCalendar (p.mark ws (p.index ws t) / 86400) :=
  DateTime.eq_none_iff_offCalendar (by decide) fun _ => truncate?_eq_some_iff ws

/-- **A period has no end exactly if the next one begins off the calendar.** -/
theorem add?_one_eq_none_iff (ws : Weekday) {p : Period} {b : DateTime} {k : Int}
    (hseconds : b.seconds = p.mark ws k) (hnano : b.nano = 0) :
    p.add? b 1 = none ↔ OffCalendar (p.mark ws (k + 1) / 86400) :=
  DateTime.eq_none_iff_offCalendar (by decide) fun _ => add?_one ws hnano hseconds

end Period

/-! ## Shifts off the calendar -/

/-- The second that a shift starts from.  A shift back from within a leap second starts behind it. -/
def DateTime.departure (t : DateTime) (n : Int) : Int :=
  if t.inLeapSecond = true ∧ n < 0 then t.seconds + 1 else t.seconds

/-- The day that a shift by `n` strides leads to, whether it is in the calendar or not. -/
def Stride.landing : Stride → Int → DateTime → Int
  | .seconds length, n, t => (t.departure n + n * length) / 86400
  | .months count, n, t => (Stride.months count).dayReached n t

theorem DateTime.addSeconds?_eq_none_iff {t : DateTime} {s : Int} :
    t.addSeconds? s = none ↔ OffCalendar ((t.departure s + s) / 86400) := by
  have hseconds : t.seconds = t.date.number * 86400 + t.second := rfl
  have hnano := t.nano_lt
  unfold addSeconds? departure
  cases hleap : t.inLeapSecond with
  | false =>
    rw [if_neg Bool.false_ne_true, if_neg (by simp)]
    refine eq_none_iff_offCalendar hnano fun u => ?_
    rw [ofSeconds?_eq_some_iff, hseconds, Int.add_assoc]
  | true =>
    rw [if_pos rfl]
    by_cases hzero : s = 0
    · -- A shift by nothing stays where it is.
      have hin : ¬ OffCalendar (t.seconds / 86400) := by
        rw [not_offCalendar_iff, t.seconds_div]
        exact ⟨t.date.first_le, t.date.le_last⟩
      simp [hzero, hin]
    · have hinside : t.nano - secondNanos < 2 * secondNanos := by omega
      rw [if_neg hzero]
      refine eq_none_iff_offCalendar hinside fun u => ?_
      rw [ofSeconds?_eq_some_iff, hseconds]
      by_cases hneg : s < 0
      · simp only [hneg, if_true, and_self]
        omega
      · simp only [hneg, if_false, and_false]
        omega

namespace Period

variable {t : DateTime} {n : Int}

/-- A way longer than the calendar, with room for a leap second, leads off it. -/
theorem offCalendar_of_far {m : Int} (hm : (lastDay + 1 - firstDay + 1) * 86400 ≤ m.natAbs) :
    OffCalendar ((t.departure n + m) / 86400) := by
  have hfrom := t.seconds_bounds
  have hstart : t.seconds ≤ t.departure n ∧ t.departure n ≤ t.seconds + 1 := by
    unfold DateTime.departure
    split <;> omega
  unfold OffCalendar
  omega

/-- The limit on lengths never decides. -/
theorem addLength?_eq_none_iff {length : Nat} (hlength : 0 < length) :
    addLength? length t n = none ↔ OffCalendar ((Stride.seconds length).landing n t) := by
  have hsign : n * length < 0 ↔ n < 0 := by
    rw [Int.mul_neg_iff]
    omega
  have hdeparture : t.departure (n * length) = t.departure n := by
    simp only [DateTime.departure, hsign]
  show addLength? length t n = none ↔ OffCalendar ((t.departure n + n * length) / 86400)
  unfold addLength?
  split
  · rw [DateTime.addSeconds?_eq_none_iff, hdeparture]
  · rename_i hlong
    have hwidth : (lastDay + 1 - firstDay + 1) * 86400 * 1000 ≤ longestShift := by decide
    exact iff_of_true rfl (offCalendar_of_far (by omega))

/-- **A shift has no result exactly if it leads off the calendar**, from within leap seconds too. -/
theorem add?_eq_none_iff {p : Period} :
    p.add? t n = none ↔ OffCalendar (p.stride.landing n t) := by
  -- Years are counted in months as well.
  have hmonths : ∀ {o : Option DateTime} {count : Nat},
      (∀ u, o = some u ↔ (Stride.months count).Leads n t u) →
        (o = none ↔ OffCalendar ((Stride.months count).landing n t)) := by
    intro o count h
    rw [← not_iff_not, not_offCalendar_iff, ← ne_eq, Option.ne_none_iff_exists', Stride.landing,
      ← Stride.exists_leads_iff]
    exact exists_congr h
  cases p with
  | month => exact hmonths fun _ => addMonths?_eq_some_iff
  | year => exact hmonths fun _ => bind_monthsOfYears?_eq_some_iff
  | _ => exact addLength?_eq_none_iff (by decide)

end Period

theorem Period.offCalendar_landing (p : Period) {n : Int} (t : DateTime)
    (hn : n < leastInt64 ∨ greatestInt64 < n) : OffCalendar (p.stride.landing n t) := by
  have hcount : greatestInt64 ≤ n.natAbs := by
    unfold leastInt64 greatestInt64 at *
    omega
  have hmore : ∀ {k : Nat}, 0 < k → n.natAbs ≤ (n * k).natAbs := by
    intro k hk
    rw [Int.natAbs_mul]
    exact Nat.le_mul_of_pos_right _ hk
  have hlengths : ∀ {length : Nat}, 0 < length →
      OffCalendar ((Stride.seconds length).landing n t) := by
    intro length hpos
    have hfar : (lastDay + 1 - firstDay + 1) * 86400 ≤ greatestInt64 := by decide
    have hway := hmore hpos
    exact offCalendar_of_far (by omega)
  have hmonths : ∀ {count : Nat}, 0 < count →
      OffCalendar ((Stride.months count).landing n t) := by
    intro count hpos
    by_contra hin
    obtain ⟨u, hu⟩ := ((Stride.months count).exists_leads_iff n t).2 (not_offCalendar_iff.1 hin)
    have hfew := t.date.natAbs_lt_of_inMonth (Stride.leads_months_iff.1 hu).1
    have hway := hmore hpos
    unfold greatestInt64 at hcount
    omega
  cases p with
  | month => exact hmonths (by decide)
  | year => exact hmonths (by decide)
  | _ => exact hlengths (by decide)

end QueryCriteria
