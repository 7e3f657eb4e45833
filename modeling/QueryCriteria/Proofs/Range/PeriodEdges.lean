import QueryCriteria.Proofs.Range.CurrentPeriod
import QueryCriteria.Proofs.Time.Nesting

/-!
# The edges of the current period

The tokens for the beginning and the end of the current period keep the order of the periods they
belong to, and a range between them holds today if a day lies between them.

* `RelativeDate.Token.instant?_ofEdge_start_iff`, `RelativeDate.Token.of_instant?_ofEdge_finish` —
  the edges are marks of the period.
* `RelativeDate.edges_of_finer_inside` — the edges of a finer period lie inside those of a longer
  one, with now between them.
* `Range.contains_upTo_date` — the days of a range between two instants.
* `Range.current_period_holds_today_iff` — the range of the current period holds today exactly if it
  is the period of the last second of today, too.
-/

namespace QueryCriteria

namespace RelativeDate

namespace Token

variable {p : Period} {ctx : Context} {b e : DateTime}

theorem instant?_ofEdge_start_iff :
    (ofEdge .start p).instant? ctx = some b ↔
      b.seconds = p.mark ctx.weekStart (p.index ctx.weekStart ctx.now) ∧ b.nano = 0 := by
  rw [instant?_ofEdge_start, Period.truncate?_eq_some_iff]

theorem of_instant?_ofEdge_finish (h : (ofEdge .finish p).instant? ctx = some e) :
    e.seconds = p.mark ctx.weekStart (p.index ctx.weekStart ctx.now + 1) ∧ e.nano = 0 := by
  rw [instant?_ofEdge_finish] at h
  obtain ⟨b, hb, he⟩ := Option.bind_eq_some_iff.1 h
  obtain ⟨hseconds, hnano⟩ := (Period.truncate?_eq_some_iff _).1 hb
  exact (Period.add?_one _ hnano hseconds).1 he

end Token

open Token

/-- **A finer period lies inside a longer one.**  Cutting an instant to the finer one first changes
nothing.  The current finer period begins no earlier than the longer one and not after now, and ends
after now and no later than the longer one.  Only a week may begin outside of the calendar. -/
theorem edges_of_finer_inside (ctx : Context) {q p : Period} (h : q.Finer p) :
    (∀ t, (q.truncate? ctx.weekStart t).bind (p.truncate? ctx.weekStart) =
        p.truncate? ctx.weekStart t) ∧
      (∃ b, (ofEdge .start q).instant? ctx = some b ∧ (b.order ctx.now).isLE = true ∧
        ∀ c, (ofEdge .start p).instant? ctx = some c → (c.order b).isLE = true) ∧
      (p ≠ .week → ((ofEdge .start p).instant? ctx).isSome = true) ∧
      ∀ d e, (ofEdge .finish q).instant? ctx = some d → (ofEdge .finish p).instant? ctx = some e →
        ctx.now.order d = .lt ∧ (d.order e).isLE = true := by
  have hcell := q.index_cell ctx.weekStart ctx.now
  refine ⟨Period.truncate?_truncate? ctx.weekStart h, ?_, ?_, ?_⟩
  · obtain ⟨b, hb⟩ := Period.exists_truncate? ctx.weekStart h.ne_week ctx.now
    rw [← instant?_ofEdge_start] at hb
    obtain ⟨hseconds, hnano⟩ := instant?_ofEdge_start_iff.1 hb
    refine ⟨b, hb, DateTime.isLE_order_of_le (by omega) (by omega), fun c hc => ?_⟩
    obtain ⟨hlonger, hwhole⟩ := instant?_ofEdge_start_iff.1 hc
    have hmarks := Period.mark_le_mark ctx.weekStart h ctx.now
    exact DateTime.isLE_order_of_le (by omega) (by omega)
  · intro hp
    rw [instant?_ofEdge_start, Option.isSome_iff_exists]
    exact Period.exists_truncate? ctx.weekStart hp ctx.now
  · intro d e hd he
    obtain ⟨hfiner, hnano⟩ := of_instant?_ofEdge_finish hd
    obtain ⟨hlonger, -⟩ := of_instant?_ofEdge_finish he
    have hmarks := Period.mark_succ_le_mark_succ ctx.weekStart h ctx.now
    exact ⟨DateTime.order_eq_lt_of_seconds_lt (by omega),
      DateTime.isLE_order_of_le (by omega) (by omega)⟩

/-- 29 February 2024 ends with its month, and begins after it. -/
theorem leap_day_inside_february :
    let now : DateTime := ⟨⟨739310, by decide, by decide⟩, 43200, 0, by decide, by decide⟩
    let march : DateTime := .midnight ⟨739311, by decide, by decide⟩
    Period.day.Finer .month ∧
      (ofEdge .finish .day).instant? ⟨now, .mon⟩ = some march ∧
      (ofEdge .finish .month).instant? ⟨now, .mon⟩ = some march ∧ now.order march = .lt ∧
      ∃ b c, (ofEdge .start .day).instant? ⟨now, .mon⟩ = some b ∧
        (ofEdge .start .month).instant? ⟨now, .mon⟩ = some c ∧ (c.order b).isLE = true ∧ c ≠ b := by
  intro now march
  have hfiner : Period.day.Finer .month := by decide
  have hday : (ofEdge .finish .day).instant? ⟨now, .mon⟩ = some march := by decide +kernel
  have hmonth : (ofEdge .finish .month).instant? ⟨now, .mon⟩ = some march := by decide +kernel
  have hbegun : (ofEdge .start .month).instant? ⟨now, .mon⟩ =
      some (.midnight ⟨739282, by decide, by decide⟩) := by decide +kernel
  obtain ⟨-, ⟨b, hb, -, horder⟩, -, hends⟩ := edges_of_finer_inside ⟨now, .mon⟩ hfiner
  refine ⟨hfiner, hday, hmonth, (hends _ _ hday hmonth).1, b, _, hb, hbegun, horder _ hbegun, ?_⟩
  rintro rfl
  revert hb
  decide +kernel

end RelativeDate

/-! ## Days between the edges -/

/-- The last second of a date. -/
def DateTime.lastSecond (date : Date) : DateTime :=
  { midnight date with
    second := daySeconds - 1
    second_lt := by decide }

namespace Range

open RelativeDate (Token)

theorem contains_upTo_date (text : String) (b e : DateTime) (d : Date) :
    (upTo text .date b e).contains (.date d) = true ↔
      b.date.number ≤ d.number ∧ d.number < e.date.number := by
  rw [← Int.isGE_compare, ← Int.compare_eq_lt]
  simp [contains, upTo, Bound.admitsAbove, Bound.admitsBelow, Value.order, moment]

theorem index_lastSecond_eq_iff {p : Period} {ws : Weekday} {now e : DateTime}
    (he : e.seconds = p.mark ws (p.index ws now + 1)) :
    p.index ws (.lastSecond now.date) = p.index ws now ↔ now.date.number < e.date.number := by
  have hlast : (DateTime.lastSecond now.date).seconds = now.date.number * 86400 + 86399 := rfl
  have hbegun := (p.index_cell ws now).1
  have hnow := now.seconds_div
  have hend := e.seconds_div
  rw [Period.index_eq_iff, hlast, ← he]
  omega

/-- **The range of the current period holds today exactly if it is the period of the last second of
today, too.**  The ends are cut to their dates, so that the range of an hour that ends today is
empty.  The range of a day or of a longer period always holds today. -/
theorem current_period_holds_today_iff (p : Period) (ctx : Context)
    (hstart : ((Token.ofEdge .start p).instant? ctx).isSome = true)
    (hfinish : ((Token.ofEdge .finish p).instant? ctx).isSome = true) :
    ∃ r, parse (periodText p) .date ctx = .ok (some r) ∧
      (r.contains (.date ctx.now.date) = true ↔
        p.truncate? ctx.weekStart (.lastSecond ctx.now.date) =
          p.truncate? ctx.weekStart ctx.now) ∧
      (p = .day ∨ Period.day.Finer p → r.contains (.date ctx.now.date) = true) := by
  obtain ⟨b, hb⟩ := Option.isSome_iff_exists.1 hstart
  obtain ⟨e, he⟩ := Option.isSome_iff_exists.1 hfinish
  have htemporal : FieldType.date.isTemporal = true := rfl
  have hparse := parse_periodText_of_isTemporal htemporal hb he
  have hbegun := (Token.instant?_ofEdge_start_iff.1 hb).1
  have hend := (Token.of_instant?_ofEdge_finish he).1
  have hcell := p.index_cell ctx.weekStart ctx.now
  have hfrom : b.date.number ≤ ctx.now.date.number := by
    have hbday := b.seconds_div
    have hnow := ctx.now.seconds_div
    omega
  have hiff : (upTo (periodText p) .date b e).contains (.date ctx.now.date) = true ↔
      p.index ctx.weekStart (.lastSecond ctx.now.date) = p.index ctx.weekStart ctx.now := by
    rw [contains_upTo_date, index_lastSecond_eq_iff hend]
    exact and_iff_right hfrom
  refine ⟨_, hparse, ?_, fun hday => ?_⟩
  · rw [Token.instant?_ofEdge_start] at hb
    rw [hiff, Period.truncate?_eq_iff_index _ hb]
  · rw [hiff]
    exact Period.index_eq_of_date_eq _ hday rfl

/-- The last hour of a day ends on the next day. -/
theorem last_hour_holds_today :
    let now : DateTime := ⟨⟨739323, by decide, by decide⟩, 83700, 0, by decide, by decide⟩
    ((Token.ofEdge .start .hour).instant? ⟨now, .mon⟩).isSome = true ∧
      ((Token.ofEdge .finish .hour).instant? ⟨now, .mon⟩).isSome = true ∧
      ∃ r, parse "[boh,eoh)" .date ⟨now, .mon⟩ = .ok (some r) ∧
        r.contains (.date now.date) = true := by
  intro now
  have hstart : ((Token.ofEdge .start .hour).instant? ⟨now, .mon⟩).isSome = true := by
    decide +kernel
  have hfinish : ((Token.ofEdge .finish .hour).instant? ⟨now, .mon⟩).isSome = true := by
    decide +kernel
  obtain ⟨r, hparse, hiff, -⟩ := current_period_holds_today_iff .hour ⟨now, .mon⟩ hstart hfinish
  exact ⟨hstart, hfinish, r, hparse, hiff.2 (by decide +kernel)⟩

/-- Not every current period holds today: on 13 March 2024 at 15:42:07, the hour begins and ends on
this date, and the range of dates from it up to itself is empty. -/
theorem hour_of_afternoon_misses_today :
    ¬ ∀ (p : Period) (ctx : Context), ctx.now.inLeapSecond = false →
      ((Token.ofEdge .start p).instant? ctx).isSome = true →
      ((Token.ofEdge .finish p).instant? ctx).isSome = true →
      ∃ r, parse (periodText p) .date ctx = .ok (some r) ∧
        r.contains (.date ctx.now.date) = true := by
  intro h
  let now : DateTime := ⟨⟨739323, by decide, by decide⟩, 56527, 0, by decide, by decide⟩
  obtain ⟨r, hparse, hcontains⟩ := h .hour ⟨now, .mon⟩ (by decide) (by decide +kernel)
    (by decide +kernel)
  have hempty : parse (periodText .hour) .date ⟨now, .mon⟩ =
      .ok (some (upTo "[boh,eoh)" .date now now)) := by decide +kernel
  rw [hparse, Except.ok.injEq, Option.some.injEq] at hempty
  rw [hempty] at hcontains
  exact absurd hcontains (by decide +kernel)

end Range

end QueryCriteria
