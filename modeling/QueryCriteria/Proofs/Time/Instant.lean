import QueryCriteria.Proofs.Time.Calendar
import QueryCriteria.Time.DateTime

/-!
# Instants on the line of seconds

A date-time is a count of seconds since the beginning of year 0 with nanoseconds beside it, and
nothing else.

* `DateTime.seconds`, `DateTime.ext_seconds` — the count, and that it determines a date-time with
  the nanoseconds.
* `DateTime.order_eq` — the order in time is the order of counts, then of nanoseconds.
* `DateTime.order_eq_lt_of_seconds_lt`, `DateTime.isLE_order_of_le` — what follows for instants that
  lie apart.
* `DateTime.ofSeconds?_eq_some_iff`, `DateTime.map_midnight_eq_some_iff` — the date-times made from
  a count and from a day.
* `DateTime.seconds_floorTo`, `DateTime.floorTo_eq_iff` — going back to a multiple of a unit that
  divides the day.
-/

namespace QueryCriteria

namespace DateTime

/-- The whole seconds since the beginning of year 0. -/
def seconds (t : DateTime) : Int :=
  t.date.number * 86400 + t.second

theorem second_lt_day (t : DateTime) : t.second < 86400 :=
  t.second_lt

/-- A count of seconds is a day and a second of that day. -/
theorem seconds_div (t : DateTime) : t.seconds / 86400 = t.date.number := by
  have := t.second_lt_day
  unfold seconds
  omega

theorem seconds_mod (t : DateTime) : t.seconds % 86400 = t.second := by
  have := t.second_lt_day
  unfold seconds
  omega

/-- The seconds and the nanoseconds make the instant. -/
theorem ext_seconds {a b : DateTime} (hseconds : a.seconds = b.seconds) (hnano : a.nano = b.nano) :
    a = b := by
  have hdate : a.date.number = b.date.number := by rw [← seconds_div, hseconds, seconds_div]
  have hsecond : (a.second : Int) = b.second := by rw [← seconds_mod, hseconds, seconds_mod]
  obtain ⟨⟨n, _, _⟩, s, nano, _, _⟩ := a
  obtain ⟨⟨m, _, _⟩, r, nano', _, _⟩ := b
  simp only [Int.natCast_inj] at hdate hsecond hnano
  subst hdate hsecond hnano
  rfl

/-- **The order in time is the order of the seconds**, and of the nanoseconds within one. -/
theorem order_eq (a b : DateTime) :
    a.order b = (compare a.seconds b.seconds).then (compare a.nano b.nano) := by
  have ha := a.second_lt_day
  have hb := b.second_lt_day
  unfold order
  rcases Int.lt_trichotomy a.date.number b.date.number with hdate | hdate | hdate
  · have hseconds : a.seconds < b.seconds := by
      unfold seconds
      omega
    rw [Int.compare_eq_lt.2 hdate, Int.compare_eq_lt.2 hseconds]
    rfl
  · have hsecond : compare a.second b.second = compare a.seconds b.seconds := by
      unfold seconds
      rw [hdate]
      rcases Nat.lt_trichotomy a.second b.second with h | h | h
      · rw [Nat.compare_eq_lt.2 h, Int.compare_eq_lt.2 (by omega)]
      · rw [Nat.compare_eq_eq.2 h, Int.compare_eq_eq.2 (by omega)]
      · rw [Nat.compare_eq_gt.2 h, Int.compare_eq_gt.2 (by omega)]
    rw [Int.compare_eq_eq.2 hdate, hsecond]
    rfl
  · have hseconds : b.seconds < a.seconds := by
      unfold seconds
      omega
    rw [Int.compare_eq_gt.2 hdate, Int.compare_eq_gt.2 hseconds]
    rfl

theorem order_eq_lt_of_seconds_lt {a b : DateTime} (h : a.seconds < b.seconds) :
    a.order b = .lt := by
  rw [order_eq, Int.compare_eq_lt.2 h]
  rfl

theorem isLE_order_of_le {a b : DateTime} (hseconds : a.seconds ≤ b.seconds)
    (hnano : a.nano ≤ b.nano) : (a.order b).isLE = true := by
  rw [order_eq]
  rcases Int.lt_or_eq_of_le hseconds with hlt | heq
  · rw [Int.compare_eq_lt.2 hlt]
    rfl
  · rw [Int.compare_eq_eq.2 heq, Ordering.then]
    exact Nat.isLE_compare.2 hnano

section Whole

variable {b : DateTime} (h : b.nano = 0) (t : DateTime)
include h

/-- Nothing lies between a whole second and its beginning. -/
theorem isGE_order_whole : (t.order b).isGE = true ↔ b.seconds ≤ t.seconds := by
  rw [order_eq, h]
  rcases Int.lt_trichotomy t.seconds b.seconds with hlt | heq | hgt
  · rw [Int.compare_eq_lt.2 hlt]
    simp [hlt]
  · rw [Int.compare_eq_eq.2 heq, heq]
    have hnano : compare t.nano 0 ≠ .lt := by
      rw [Ne, Nat.compare_eq_lt]
      omega
    cases hc : compare t.nano 0 with
    | lt => exact absurd hc hnano
    | eq => simp
    | gt => simp
  · rw [Int.compare_eq_gt.2 hgt]
    simp [Int.le_of_lt hgt]

theorem order_whole_eq_lt : t.order b = .lt ↔ t.seconds < b.seconds := by
  have hge := isGE_order_whole h t
  rw [← not_iff_not, Int.not_lt, ← hge]
  cases t.order b <;> simp

end Whole

/-! ## Instants from counts -/

theorem ofSeconds?_eq_some_iff {d : Date} {s : Int} {nano : Nat} {t : DateTime} :
    ofSeconds? d s nano = some t ↔ t.seconds = d.number * 86400 + s ∧ t.nano = nano := by
  unfold ofSeconds? Date.addDays?
  constructor
  · intro h
    obtain ⟨day, hday, h⟩ := Option.bind_eq_some_iff.1 h
    rw [Date.ofNumber?_eq_some_iff] at hday
    dsimp only at h
    split at h
    · cases h
      simp only [seconds, and_true]
      simp only [show (daySeconds : Int) = 86400 from rfl] at hday ⊢
      omega
    · cases h
  · rintro ⟨hseconds, rfl⟩
    have hdiv := t.seconds_div
    have hmod := t.seconds_mod
    rw [hseconds] at hdiv hmod
    have hdate : Date.ofNumber? (d.number + s / (daySeconds : Nat)) = some t.date := by
      rw [Date.ofNumber?_eq_some_iff, ← hdiv, daySeconds]
      omega
    have hsecond : (s % (daySeconds : Nat)).toNat = t.second := by
      rw [daySeconds]
      omega
    rw [hdate, Option.bind_some]
    dsimp only
    rw [dif_pos ⟨by rw [hsecond]; exact t.second_lt, t.nano_lt⟩]
    exact congrArg some (ext_seconds (by simp [seconds, hsecond]) rfl)

theorem map_midnight_eq_some_iff {n : Int} {t : DateTime} :
    (Date.ofNumber? n).map midnight = some t ↔ t.seconds = n * 86400 ∧ t.nano = 0 := by
  rw [Option.map_eq_some_iff]
  constructor
  · rintro ⟨d, hd, rfl⟩
    rw [Date.ofNumber?_eq_some_iff] at hd
    simp [seconds, midnight, hd]
  · rintro ⟨hseconds, hnano⟩
    have hnumber : t.date.number = n := by
      rw [← seconds_div, hseconds]
      omega
    refine ⟨t.date, Date.ofNumber?_eq_some_iff.2 hnumber, ext_seconds ?_ hnano.symm⟩
    simp only [seconds, midnight, hnumber] at hseconds ⊢
    omega

/-- Going back to a multiple of a unit that divides the day is the same within the day and on the
whole line of seconds. -/
theorem seconds_floorTo {unit : Nat} (hunit : unit ∣ 86400) (t : DateTime) :
    (t.floorTo unit).seconds = t.seconds / unit * unit := by
  obtain ⟨count, hcount⟩ := hunit
  have hpos : 0 < unit := by
    rcases Nat.eq_zero_or_pos unit with rfl | h
    · omega
    · exact h
  have hday : t.date.number * 86400 = t.date.number * count * unit := by
    rw [show (86400 : Int) = ((unit * count : Nat) : Int) by rw [← hcount]; rfl]
    push_cast
    ring
  have hfloor : t.seconds / unit = t.date.number * count + t.second / unit := by
    rw [seconds, hday, Int.add_comm, Int.add_mul_ediv_right _ _ (by omega), Int.add_comm]
  have hsecond : t.second - t.second % unit = t.second / unit * unit := by
    have := Nat.div_add_mod' t.second unit
    omega
  rw [hfloor, seconds]
  simp only [floorTo, hsecond]
  push_cast
  rw [hday]
  ring

theorem floorTo_eq_iff {unit : Nat} (hunit : unit ∣ 86400) {t b : DateTime} :
    t.floorTo unit = b ↔ b.seconds = t.seconds / unit * unit ∧ b.nano = 0 := by
  rw [← seconds_floorTo hunit]
  constructor
  · rintro rfl
    exact ⟨rfl, rfl⟩
  · rintro ⟨hseconds, hnano⟩
    exact ext_seconds hseconds.symm hnano.symm

end DateTime

end QueryCriteria
