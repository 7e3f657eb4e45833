import QueryCriteria.Operator.Registry
import QueryCriteria.Proofs.Text.Blank

/-!
# Named ranges

A range that is registered under a name keeps no more of the text it was read from than the
trimmed text, and is read anew for every field.

* `bind_eq_ok_iff`, `bind_eq_error_iff`, `map_eq_ok_iff`, `map_eq_error_iff` — a computation that gives
  a result, or fails, taken apart.
* `Range.parse_cases`, `Range.parse_of_readSide` — what a range that was read consists of.
* `Range.exists_parse_of_not_isTemporal` — reading fails for times only.
* `Range.parse_trim` — blanks around range text make no difference, to errors neither.
* `Range.resolveFor_of_parse`, `Range.resolveFor_cases` — reading a range anew is reading its text;
  a range put together by hand stays as it is.
* `Range.resolveFor_of_resolveFor` — a range that was read anew, for whatever field and at whatever
  time, stands for the same ranges as the one it comes from.
* `Range.resolveThrough`, `Range.resolveThrough_concat` — a range read anew step after step; only
  the last step counts.
* `Range.lookup_reads_text` — a name bound to a range means the text of that range.
-/

namespace QueryCriteria

/-! ## Results -/

theorem bind_eq_ok_iff {ε α β : Type} {x : Except ε α} {f : α → Except ε β} {b : β} :
    x >>= f = .ok b ↔ ∃ a, x = .ok a ∧ f a = .ok b := by
  cases x <;> simp [bind, Except.bind]

theorem bind_eq_error_iff {ε α β : Type} {x : Except ε α} {f : α → Except ε β} {e : ε} :
    x >>= f = .error e ↔ x = .error e ∨ ∃ a, x = .ok a ∧ f a = .error e := by
  cases x <;> simp [bind, Except.bind]

theorem exists_eq_ok_iff {ε α : Type} {x : Except ε α} : (∃ a, x = .ok a) ↔ ∀ e, x ≠ .error e := by
  cases x <;> simp

theorem map_eq_ok_iff {ε α β : Type} {x : Except ε α} {f : α → β} {b : β} :
    x.map f = .ok b ↔ ∃ a, x = .ok a ∧ f a = b := by
  cases x <;> simp [Except.map]

theorem map_eq_error_iff {ε α β : Type} {x : Except ε α} {f : α → β} {e : ε} :
    x.map f = .error e ↔ x = .error e := by
  cases x <;> simp [Except.map]

namespace Range

/-! ## Reading -/

theorem parse_cases {text : String} {ty : FieldType} {ctx : Context} {r : Range}
    (h : parse text ty ctx = .ok (some r)) :
    ∃ p lower upper, shape? ty text.toList = some p ∧
      readSide ty ctx p.lowerClosed p.lower = .ok (some lower) ∧
      readSide ty ctx p.upperClosed p.upper = .ok (some upper) ∧
      r = ⟨String.ofList (Text.trim text.toList), none, some ty, lower, upper⟩ := by
  unfold parse at h
  cases hshape : shape? ty text.toList with
  | none => simp [hshape] at h
  | some p =>
    simp only [hshape] at h
    obtain ⟨lower?, hlower, h⟩ := bind_eq_ok_iff.1 h
    cases lower? with
    | none => cases h
    | some lower =>
      obtain ⟨upper?, hupper, h⟩ := bind_eq_ok_iff.1 h
      cases upper? with
      | none => cases h
      | some upper =>
        cases h
        exact ⟨p, lower, upper, rfl, hlower, hupper, rfl⟩

theorem parse_of_readSide {text : String} {ty : FieldType} {ctx : Context} {p : Split}
    {lower upper : Option Bound} (hshape : shape? ty text.toList = some p)
    (hlower : readSide ty ctx p.lowerClosed p.lower = .ok (some lower))
    (hupper : readSide ty ctx p.upperClosed p.upper = .ok (some upper)) :
    parse text ty ctx =
      .ok (some ⟨String.ofList (Text.trim text.toList), none, some ty, lower, upper⟩) := by
  simp only [parse, hshape, hlower, hupper]
  rfl

/-- Reading fails for times only: what stands for no number is no range. -/
theorem exists_parse_of_not_isTemporal {ty : FieldType} (hty : ty.isTemporal = false)
    (text : String) (ctx : Context) : ∃ r?, parse text ty ctx = .ok r? := by
  unfold parse
  cases hshape : shape? ty text.toList with
  | none => exact ⟨none, rfl⟩
  | some p =>
    have hnumeric : ty.isNumeric = true := by
      by_contra hnumeric
      simp [shape?, FieldType.takesRanges, hty, hnumeric] at hshape
    have hside : ∀ closed s, ∃ side, readSide ty ctx closed s = .ok side := by
      intro closed s
      unfold readSide readEnd
      rw [if_pos hnumeric]
      split <;> exact ⟨_, rfl⟩
    obtain ⟨lower?, hlower⟩ := hside p.lowerClosed p.lower
    obtain ⟨upper?, hupper⟩ := hside p.upperClosed p.upper
    simp only [hlower, hupper]
    cases lower? with
    | none => exact ⟨none, rfl⟩
    | some lower =>
      cases upper? with
      | none => exact ⟨none, rfl⟩
      | some upper => exact ⟨_, rfl⟩

theorem shape?_trim (ty : FieldType) (s : List Char) : shape? ty (Text.trim s) = shape? ty s := by
  have hsplit : split? (Text.trim s) = split? s := by
    unfold split?
    rw [Text.trim_trim]
  unfold shape?
  rw [hsplit]

/-- **Trimmed range text reads like the text itself**, also where reading fails. -/
theorem parse_trim (text : String) (ty : FieldType) (ctx : Context) :
    parse (String.ofList (Text.trim text.toList)) ty ctx = parse text ty ctx := by
  unfold parse
  rw [String.toList_ofList, shape?_trim, Text.trim_trim]

/-! ## Reading anew -/

/-- A range that was read is read anew from its text, whatever field and time it was read for. -/
theorem resolveFor_of_parse {text : String} {ty₀ : FieldType} {ctx₀ : Context} {r : Range}
    (h : parse text ty₀ ctx₀ = .ok (some r)) (name : String) (ty : FieldType) (ctx : Context) :
    (r.named name).resolveFor ty ctx = (parse text ty ctx).map (·.map (·.named name)) := by
  obtain ⟨p, lower, upper, -, -, -, rfl⟩ := parse_cases h
  have htext := parse_trim text ty ctx
  simp only [resolveFor, named, Option.isSome_some, if_true, htext]

theorem resolveFor_cases {r s : Range} {ty : FieldType} {ctx : Context}
    (h : r.resolveFor ty ctx = .ok (some s)) :
    (r.parsedFor.isSome = true ∧
        ∃ fresh, parse r.text ty ctx = .ok (some fresh) ∧
          s = { fresh with givenName := r.givenName }) ∨
      r.parsedFor.isSome = false ∧ s = r := by
  unfold resolveFor at h
  split at h
  · rename_i hparsed
    obtain ⟨fresh?, hfresh, h⟩ := map_eq_ok_iff.1 h
    obtain ⟨fresh, rfl, rfl⟩ := Option.map_eq_some_iff.1 h
    exact .inl ⟨hparsed, fresh, hfresh, rfl⟩
  · rename_i hparsed
    split at h
    · simp only [Except.ok.injEq, Option.some.injEq] at h
      exact .inr ⟨by simpa using hparsed, h.symm⟩
    · simp at h

/-- A range that was read anew stands for the same ranges as the one it comes from: nothing is left
in it of the field and the time it was read for. -/
theorem resolveFor_of_resolveFor {r s : Range} {ty : FieldType} {ctx : Context}
    (h : r.resolveFor ty ctx = .ok (some s)) : s.resolveFor = r.resolveFor := by
  funext ty' ctx'
  rcases resolveFor_cases h with ⟨hparsed, fresh, hfresh, rfl⟩ | ⟨-, rfl⟩
  · obtain ⟨p, lower, upper, -, -, -, rfl⟩ := parse_cases hfresh
    have htext := parse_trim r.text ty' ctx'
    simp only [resolveFor, Option.isSome_some, if_true, htext, hparsed]
  · rfl

/-- A range read anew for one field and time after the other, as long as it stands for a range. -/
def resolveThrough (r : Range) : List (FieldType × Context) → Except OperatorError (Option Range)
  | [] => .ok (some r)
  | (ty, ctx) :: steps =>
    match r.resolveFor ty ctx with
    | .ok (some s) => s.resolveThrough steps
    | other => other

theorem resolveThrough_of_step {r s : Range} {ty : FieldType} {ctx : Context}
    (h : r.resolveFor ty ctx = .ok (some s)) (steps : List (FieldType × Context)) :
    r.resolveThrough ((ty, ctx) :: steps) = s.resolveThrough steps := by
  simp only [resolveThrough, h]

theorem exists_of_resolveThrough_cons {r s : Range} {ty : FieldType} {ctx : Context}
    {steps : List (FieldType × Context)}
    (h : r.resolveThrough ((ty, ctx) :: steps) = .ok (some s)) :
    ∃ next, r.resolveFor ty ctx = .ok (some next) ∧ next.resolveThrough steps = .ok (some s) := by
  unfold resolveThrough at h
  split at h
  · rename_i next hnext
    exact ⟨next, hnext, h⟩
  · rename_i hnone
    exact absurd h (hnone s)

theorem resolveThrough_concat (ty : FieldType) (ctx : Context) :
    ∀ {steps : List (FieldType × Context)} {r s : Range},
      r.resolveThrough steps = .ok (some s) →
      r.resolveThrough (steps ++ [(ty, ctx)]) = r.resolveFor ty ctx
  | [], r, s, _ => by
    rw [List.nil_append]
    unfold resolveThrough
    split
    · rename_i last hlast
      rw [hlast]
      rfl
    · rfl
  | (ty₁, ctx₁) :: steps, r, s, h => by
    obtain ⟨next, hnext, hsteps⟩ := exists_of_resolveThrough_cons h
    rw [List.cons_append, resolveThrough_of_step hnext, resolveThrough_concat ty ctx hsteps,
      resolveFor_of_resolveFor hnext]

/-! ## Names -/

/-- **A name bound to a range means the text of the range.**  Looking the name up for a field gives
what reading the text for that field at that time gives, under the name of the range; the field and
the time the range was read for at first play no part.  And of a chain of readings only the last one
counts. -/
theorem lookup_reads_text {reg : Registry} {text spelling name : String} {ty₀ : FieldType}
    {ctx₀ : Context} {r : Range} (hparse : parse text ty₀ ctx₀ = .ok (some r))
    (hbound : reg.get? spelling = some (.range (r.named name))) :
    (∀ ty, reg.lookup spelling ty =
        (parse text ty reg.context).map (·.map fun s => .range (s.named name))) ∧
      ∀ (q s : Range) (steps : List (FieldType × Context)),
        q.resolveThrough steps = .ok (some s) →
        ∀ ty ctx, q.resolveThrough (steps ++ [(ty, ctx)]) = q.resolveFor ty ctx := by
  constructor
  · intro ty
    have hlookup : reg.lookup spelling ty =
        ((r.named name).resolveFor ty reg.context).map (·.map .range) := by
      unfold Registry.lookup
      rw [hbound]
    rw [hlookup, resolveFor_of_parse hparse]
    cases parse text ty reg.context with
    | error e => rfl
    | ok fresh? => cases fresh? <;> rfl
  · intro q s steps hsteps ty ctx
    exact resolveThrough_concat ty ctx hsteps

/-- A range read for a date field on 13 March 2024, registered as `Today` and looked up for a
date-time field a day later, means that day. -/
theorem today_follows_the_clock :
    let before : Context := ⟨.midnight ⟨739323, by decide, by decide⟩, .mon⟩
    let r : Range := ⟨"[bod,eod)", none, some .date,
      some ⟨.date ⟨739323, by decide, by decide⟩, true⟩,
      some ⟨.date ⟨739324, by decide, by decide⟩, false⟩⟩
    let now : DateTime := ⟨⟨739324, by decide, by decide⟩, 3600, 0, by decide, by decide⟩
    let reg := (Registry.empty {} now).register [.range (r.named "Today")]
    let tomorrow : Range := ⟨"[bod,eod)", some "Today", some .dateTime,
      some ⟨.dateTime (.midnight ⟨739324, by decide, by decide⟩), true⟩,
      some ⟨.dateTime (.midnight ⟨739325, by decide, by decide⟩), false⟩⟩
    parse " [bod,eod)\t" .date before = .ok (some r) ∧
      reg.lookup "today" .dateTime = .ok (some (.range tomorrow)) ∧
      (r.named "Today").resolveThrough ([(.date, before)] ++ [(.dateTime, reg.context)]) =
        .ok (some tomorrow) := by
  intro before r now reg tomorrow
  have hparse : parse " [bod,eod)\t" .date before = .ok (some r) := by decide +kernel
  have hbound : reg.get? "today" = some (.range (r.named "Today")) := by decide +kernel
  have hfresh : parse " [bod,eod)\t" .dateTime reg.context =
      .ok (some { tomorrow with givenName := none }) := by decide +kernel
  have hstep : (r.named "Today").resolveThrough [(.date, before)] = .ok (some (r.named "Today")) := by
    decide +kernel
  obtain ⟨hlookup, hchain⟩ := lookup_reads_text hparse hbound
  refine ⟨hparse, ?_, ?_⟩
  · rw [hlookup, hfresh]
    rfl
  · rw [hchain _ _ _ hstep, resolveFor_of_parse hparse, hfresh]
    rfl

end Range

end QueryCriteria
