import QueryCriteria.Proofs.Time.Shift

/-!
# Shifts forth and back

A shift by more periods leads to a later instant.  A shift back leads to where the first one began,
except that a day near the end of its month may have been cut to the length of the month between.

* `Date.exists_inMonth` — a calendar with one day of a month has all the days before it.
* `Stride.Leads.order_seconds`, `Stride.Leads.order_months` — more strides lead to a later instant.
* `Stride.Returns` — the instant that the same strides back lead to.
* `Stride.Leads.exists_returns` — there is one, whatever the strides.
* `Period.shifts_increase_and_return` — both laws, for the shifts by any period.
-/

namespace QueryCriteria

theorem Date.exists_inMonth (d : Date) {c : Civil} (hc : c.isReal = true)
    (hday : c.day ≤ d.civil.day) : ∃ e : Date, e.civil = c.inMonth d.civil.monthIndex := by
  have hreal := Civil.isReal_inMonth hc d.civil.monthIndex
  have hnumber := Civil.number_eq hreal
  have hd := Civil.number_eq d.isReal_civil
  have hfirst : firstDay ≤ monthBegin d.civil.monthIndex := by
    rw [firstDay, ← monthBegin_january]
    exact monthBegin_strictMono.monotone d.monthIndex_bounds.1
  have hlast := d.le_last
  have hcut : (c.inMonth d.civil.monthIndex).day ≤ c.day := Nat.min_le_left _ _
  rw [Civil.monthIndex_inMonth] at hnumber
  rw [d.number_civil] at hd
  exact ⟨⟨(c.inMonth d.civil.monthIndex).number, by omega, by omega⟩, Civil.ofNumber_number hreal⟩

namespace Stride

variable {t u v w : DateTime} {m n : Int}

/-! ## More strides -/

theorem Leads.order_seconds {length : Nat} (hlength : 0 < length) (hmn : m < n)
    (hu : (seconds length).Leads m t u) (hv : (seconds length).Leads n t v) :
    u.order v = .lt := by
  have hshift : m * length < n * length := Int.mul_lt_mul_of_pos_right hmn (by omega)
  refine DateTime.order_eq_lt_of_seconds_lt ?_
  rw [hu.1, hv.1]
  omega

theorem Leads.order_months {count : Nat} (hcount : 0 < count) (hmn : m < n)
    (hu : (months count).Leads m t u) (hv : (months count).Leads n t v) :
    u.order v = .lt := by
  have hshift : m * count < n * count := Int.mul_lt_mul_of_pos_right hmn (by omega)
  have hdate : u.date.number < v.date.number := by
    refine Date.number_lt_of_monthIndex_lt ?_
    rw [hu.1, hv.1]
    omega
  have hsecond := u.second_lt_day
  refine DateTime.order_eq_lt_of_seconds_lt ?_
  unfold DateTime.seconds
  omega

/-! ## The same strides back -/

theorem Leads.nano_eq {s : Stride} (h : s.Leads n t u) : u.nano = t.nano := by
  cases s with
  | seconds length => exact h.2
  | months count => exact h.2.2.2

/-- What an instant is like that strides forth and back lead to from another one: it is the same,
or for months an earlier day of the same month, at the same time of day. -/
structure Returns (s : Stride) (t w : DateTime) : Prop where
  civil_eq : w.date.civil = { t.date.civil with day := w.date.civil.day }
  day_le : w.date.civil.day ≤ t.date.civil.day
  second_eq : w.second = t.second
  nano_eq : w.nano = t.nano
  /-- Only months are cut, and only days that some months do not have. -/
  day_eq : (∀ count, s = months count → t.date.civil.day ≤ 28) → w.date.civil.day = t.date.civil.day

namespace Returns

variable {s : Stride} (h : s.Returns t w)
include h

theorem eq_of_day_eq (hday : w.date.civil.day = t.date.civil.day) : w = t := by
  have hdate : w.date = t.date := Date.eq_of_civil_eq (by rw [h.civil_eq, hday])
  refine DateTime.ext_seconds ?_ h.nano_eq
  rw [DateTime.seconds, DateTime.seconds, hdate, h.second_eq]

theorem isLE_order : (w.order t).isLE = true := by
  have hindex : w.date.civil.monthIndex = t.date.civil.monthIndex := by
    rw [h.civil_eq]
    rfl
  have hw := Civil.number_eq w.date.isReal_civil
  have ht := Civil.number_eq t.date.isReal_civil
  rw [w.date.number_civil, hindex] at hw
  rw [t.date.number_civil] at ht
  have hday := h.day_le
  refine DateTime.isLE_order_of_le ?_ (Nat.le_of_eq h.nano_eq)
  rw [DateTime.seconds, DateTime.seconds, h.second_eq]
  omega

end Returns

/-- From another month a day is carried back to its own month, and to itself where every month has
such a day. -/
theorem Leads.exists_returns_months {count : Nat} (hu : (months count).Leads n t u) :
    ∃ w, (months count).Leads (-n) u w ∧ (months count).Returns t w := by
  obtain ⟨hindex, hday, hsecond, hnano⟩ := hu
  have hreal := t.date.isReal_civil
  have hback : u.date.civil.monthIndex + -n * count = t.date.civil.monthIndex := by
    rw [hindex, Int.neg_mul]
    omega
  have hlength := le_monthDays (t.date.civil.monthIndex + n * count)
  have hown := Civil.day_le_monthDays hreal
  -- The day was cut to the length of the month between, and is cut to that of its own month now.
  have hcut : min u.date.civil.day (monthDays t.date.civil.monthIndex) = u.date.civil.day := by
    omega
  obtain ⟨e, he⟩ := t.date.exists_inMonth (c := u.date.civil) u.date.isReal_civil (by omega)
  have hmonth : e.civil.monthIndex = t.date.civil.monthIndex := by
    rw [he, Civil.monthIndex_inMonth]
  have heday : e.civil.day = u.date.civil.day := by
    rw [he]
    exact hcut
  refine ⟨t.onDate e, Stride.leads_months_iff.2 ⟨?_, hsecond.symm, hnano.symm⟩, ?_⟩
  · rw [hback]
    exact he
  · exact
      { civil_eq := Civil.eq_with_day e.isReal_civil hreal hmonth
        day_le := heday.trans_le (hday.trans_le (Nat.min_le_left _ _))
        second_eq := rfl
        nano_eq := rfl
        day_eq := fun hshort => by
          have hle := hshort count rfl
          exact heday.trans (by omega) }

/-- **Strides back lead to where the strides forth began**, but for a day that was cut. -/
theorem Leads.exists_returns {s : Stride} (hu : s.Leads n t u) :
    ∃ w, s.Leads (-n) u w ∧ s.Returns t w := by
  cases s with
  | months count => exact Leads.exists_returns_months hu
  | seconds length =>
    refine ⟨t, ⟨?_, hu.2.symm⟩, ⟨rfl, le_rfl, rfl, rfl, fun _ => rfl⟩⟩
    rw [hu.1, Int.neg_mul]
    omega

end Stride

namespace Period

theorem eq_month_or_year_of_stride {p : Period} {count : Nat} (h : p.stride = .months count) :
    p = .month ∨ p = .year := by
  cases p with
  | month => exact .inl rfl
  | year => exact .inr rfl
  | _ => cases h

theorem order_of_add? {p : Period} {t u v : DateTime} {m n : Int} (ht : t.inLeapSecond = false)
    (hmn : m < n) (hu : p.add? t m = some u) (hv : p.add? t n = some v) : u.order v = .lt := by
  rw [add?_eq_some_iff ht] at hu hv
  cases p with
  | month => exact hu.order_months (by decide) hmn hv
  | year => exact hu.order_months (by decide) hmn hv
  | _ => exact hu.order_seconds (by decide) hmn hv

/-- **More periods lead to a later instant, and as many back lead to where they began.**  Only months
and years may cut a day that not every month has, and then lead to an earlier day of its month, at
the same time of day. -/
theorem shifts_increase_and_return (p : Period) {t : DateTime} (ht : t.inLeapSecond = false) :
    (∀ m n u v, m < n → p.add? t m = some u → p.add? t n = some v → u.order v = .lt) ∧
      ∀ n u, p.add? t n = some u →
        ∃ w, p.add? u (-n) = some w ∧ (w.order t).isLE = true ∧
          (w ≠ t → (p = .month ∨ p = .year) ∧ 28 < t.date.civil.day) ∧
          w.date.civil = { t.date.civil with day := w.date.civil.day } ∧
          w.second = t.second ∧ w.nano = t.nano := by
  refine ⟨fun m n u v hmn hu hv => order_of_add? ht hmn hu hv, fun n u hu => ?_⟩
  rw [add?_eq_some_iff ht] at hu
  have hleap : u.inLeapSecond = false := by
    rw [DateTime.inLeapSecond, hu.nano_eq]
    exact ht
  obtain ⟨w, hw, hreturns⟩ := hu.exists_returns
  refine ⟨w, (add?_eq_some_iff hleap).2 hw, hreturns.isLE_order, ?_, hreturns.civil_eq,
    hreturns.second_eq, hreturns.nano_eq⟩
  intro hne
  by_contra hcut
  refine hne (hreturns.eq_of_day_eq (hreturns.day_eq fun count hstride => ?_))
  have hmonths := eq_month_or_year_of_stride hstride
  rw [not_and, Nat.not_lt] at hcut
  exact hcut hmonths

/-- From 31 January 2024, one month leads to 29 February, and back to 29 January; two months lead to
31 March, which is later. -/
theorem month_after_january_31 :
    let january : DateTime := ⟨⟨739281, by decide, by decide⟩, 43200, 0, by decide, by decide⟩
    let february : DateTime := ⟨⟨739310, by decide, by decide⟩, 43200, 0, by decide, by decide⟩
    let march : DateTime := ⟨⟨739341, by decide, by decide⟩, 43200, 0, by decide, by decide⟩
    january.inLeapSecond = false ∧ january.date.civil = ⟨2024, 1, 31⟩ ∧
      Period.month.add? january 1 = some february ∧ Period.month.add? january 2 = some march ∧
      february.order march = .lt ∧
      ∃ w, Period.month.add? february (-1) = some w ∧ (w.order january).isLE = true ∧
        w.date.civil = ⟨2024, 1, 29⟩ := by
  intro january february march
  have hleap : january.inLeapSecond = false := by decide
  have hone : Period.month.add? january 1 = some february := by decide +kernel
  have htwo : Period.month.add? january 2 = some march := by decide +kernel
  obtain ⟨hincrease, hreturn⟩ := shifts_increase_and_return .month hleap
  obtain ⟨w, hw, hle, -⟩ := hreturn 1 february hone
  have hback : Period.month.add? february (-1) =
      some ⟨⟨739279, by decide, by decide⟩, 43200, 0, by decide, by decide⟩ := by decide +kernel
  refine ⟨hleap, by decide +kernel, hone, htwo, hincrease 1 2 _ _ (by decide) hone htwo,
    w, hw, hle, ?_⟩
  rw [hw, Option.some.injEq] at hback
  rw [hback]
  decide +kernel

end Period

end QueryCriteria
