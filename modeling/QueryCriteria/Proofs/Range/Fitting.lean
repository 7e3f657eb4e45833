import QueryCriteria.Proofs.Range.Resolution
import QueryCriteria.Proofs.Text.Case
import QueryCriteria.Proofs.Value.Order

/-!
# Ranges fit the fields they are found for

A name may be bound to a range of another type or to one put together by hand, or be range text
itself.  The ends of what is looked up for a field are values that those of the field are ordered
beside, except for ends put in by hand that have no order with anything.

* `Range.Outside` — a value lies beyond an end, or on one that does not belong to the range.
* `Range.contains_eq_false_iff` — a value is excluded where it is outside, or where it has no order
  with an end.
* `FieldType.Measures` — a value that the values of a field are ordered beside.
* `Range.Fits` — what a range that applies to a field is like; `Range.fits_of_parse` and
  `Range.fits_of_resolveFor` show it of a range that is read and of one that is read anew.
* `Registry.lookup_range_cases` — a range that is found is bound to the name and read anew, or is
  the name read as range text.
* `Registry.range_fits_field` — a range that is found fits the field.
-/

namespace QueryCriteria

/-! ## Excluded values -/

namespace Bound

variable (b : Bound) (v : Value)

/-- Whether a value lies below a lower end, or on one that does not belong to the range. -/
def Below : Prop :=
  v.order b.value = some .lt ∨ v.order b.value = some .eq ∧ b.inclusive = false

/-- Whether a value lies above an upper end, or on one that does not belong to the range. -/
def Above : Prop :=
  v.order b.value = some .gt ∨ v.order b.value = some .eq ∧ b.inclusive = false

instance : Decidable (b.Below v) :=
  inferInstanceAs (Decidable (_ ∨ _))

instance : Decidable (b.Above v) :=
  inferInstanceAs (Decidable (_ ∨ _))

theorem admitsAbove_eq_false_iff :
    b.admitsAbove v = false ↔ v.order b.value = none ∨ b.Below v := by
  unfold admitsAbove Below
  cases b.inclusive <;> rcases v.order b.value with _ | _ | _ | _ <;> decide

theorem admitsBelow_eq_false_iff :
    b.admitsBelow v = false ↔ v.order b.value = none ∨ b.Above v := by
  unfold admitsBelow Above
  cases b.inclusive <;> rcases v.order b.value with _ | _ | _ | _ <;> decide

end Bound

/-- Whether a value lies outside of a range. -/
def Range.Outside (r : Range) (v : Value) : Prop :=
  (∃ b ∈ r.lower, b.Below v) ∨ ∃ b ∈ r.upper, b.Above v

/-- A value is excluded where it lies outside, or where it has no order with an end. -/
theorem Range.contains_eq_false_iff (r : Range) (v : Value) :
    r.contains v = false ↔ (∃ b ∈ r.bounds, v.order b.value = none) ∨ r.Outside v := by
  have hlower : r.lower.all (·.admitsAbove v) = false ↔
      ∃ b ∈ r.lower, v.order b.value = none ∨ b.Below v := by
    cases r.lower <;> simp [Bound.admitsAbove_eq_false_iff]
  have hupper : r.upper.all (·.admitsBelow v) = false ↔
      ∃ b ∈ r.upper, v.order b.value = none ∨ b.Above v := by
    cases r.upper <;> simp [Bound.admitsBelow_eq_false_iff]
  have hbounds : (∃ b ∈ r.bounds, v.order b.value = none) ↔
      (∃ b ∈ r.lower, v.order b.value = none) ∨ ∃ b ∈ r.upper, v.order b.value = none := by
    simp only [bounds, List.mem_append, Option.mem_toList, Option.mem_def, or_and_right, exists_or]
  unfold contains Outside
  rw [Bool.and_eq_false_iff, hlower, hupper, hbounds]
  simp only [and_or_left, exists_or]
  exact or_or_or_comm

/-! ## Values that measure a field -/

namespace FieldType

variable {ty : FieldType} {v w : Value}

/-- Whether a value is one that the values of a field are ordered beside. -/
def Measures (ty : FieldType) (w : Value) : Prop :=
  w.Orderable ∧ w.family = some ty.family

theorem Measures.of_family (hfamily : w.family = some ty.family) (hnan : w ≠ .float .nan) :
    ty.Measures w := by
  refine ⟨⟨?_, hnan⟩, hfamily⟩
  rintro rfl
  cases hfamily

/-- What a field accepts measures it, if it is orderable at all. -/
theorem Measures.of_accepts (haccepts : ty.accepts w = true) (hw : w.Orderable) : ty.Measures w :=
  ⟨hw, family_of_accepts haccepts hw.1⟩

theorem Measures.exists_order (hw : ty.Measures w) (haccepts : ty.accepts v = true)
    (hv : v.Orderable) : ∃ o, v.order w = some o := by
  have hfamily : v.family = w.family := (family_of_accepts haccepts hv.1).trans hw.2.symm
  exact Option.isSome_iff_exists.1 (Value.order_isSome_iff.2 ⟨hv, hw.1, hfamily⟩)

end FieldType

/-! ## Numbers that were read -/

namespace Literal

theorem special?_of_binary64? {s : List Char} (h : binary64? s = some .nan) :
    special? binary64 (splitSign s).2 = some none := by
  obtain ⟨⟨negative, code⟩, hfloat, hnan⟩ := Option.map_eq_some_iff.1 h
  cases code with
  | some code => cases hnan
  | none =>
    rcases hsign : splitSign s with ⟨sign, body⟩
    simp only [float?, hsign] at hfloat
    split at hfloat
    · rename_i code hspecial
      simp only [Option.some.injEq, Prod.mk.injEq] at hfloat
      rw [hspecial, hfloat.2]
    · obtain ⟨mantissa, -, hmantissa⟩ := Option.bind_eq_some_iff.1 hfloat
      obtain ⟨exponent, -, hcode⟩ := Option.map_eq_some_iff.1 hmantissa
      cases hcode

/-- What begins with a digit, a sign aside, does not spell not-a-number. -/
theorem binary64?_ne_nan {s : List Char} {c : Char} {rest : List Char}
    (hbody : (splitSign s).2 = c :: rest) (hc : Text.isDigit c = true) :
    binary64? s ≠ some .nan := by
  intro h
  have hspecial := special?_of_binary64? h
  have hhead : Text.lowerAscii c ≠ 'n' := by
    rw [Text.lowerAscii_of_isDigit hc]
    rintro rfl
    revert hc
    decide
  rw [hbody, special?, List.map_cons] at hspecial
  simp [hhead, Format.infinity] at hspecial

end Literal

namespace Range

theorem exists_cons_of_isDigits {s : List Char}
    (h : isDigits (s.takeWhile Text.isDigit) = true) :
    ∃ c rest, s = c :: rest ∧ Text.isDigit c = true := by
  cases s with
  | nil => cases h
  | cons c rest =>
    refine ⟨c, rest, rfl, ?_⟩
    by_contra hc
    simp [isDigits, hc] at h

theorem exists_digit_of_isNumber {s : List Char} (h : isNumber s = true) :
    ∃ c rest, (Literal.splitSign s).2 = c :: rest ∧ Text.isDigit c = true := by
  unfold isNumber at h
  rw [Bool.and_eq_true] at h
  obtain ⟨c, rest, hbody, hc⟩ := exists_cons_of_isDigits h.1
  split at hbody
  · exact ⟨c, rest, hbody, hc⟩
  · rename_i hminus
    subst hbody
    refine ⟨c, rest, ?_, hc⟩
    unfold Literal.splitSign
    split
    · rename_i heq
      exact absurd heq (hminus _)
    · rename_i heq
      simp only [List.cons.injEq] at heq
      rw [heq.1] at hc
      cases hc
    · rfl

variable {ty : FieldType} {ctx : Context} {s : List Char} {v : Value}

theorem measures_of_readNumber? (hty : ty.isNumeric = true) (hshape : isNumber s = true)
    (h : readNumber? ty s = some v) : ty.Measures v := by
  have hfamily := FieldType.family_of_isNumeric hty
  rcases Option.or_eq_some_iff.1 h with hown | ⟨-, hdecimal⟩
  · split at hown
    · obtain ⟨i, -, rfl⟩ := Option.map_eq_some_iff.1 hown
      exact .of_family rfl nofun
    · obtain ⟨n, -, rfl⟩ := Option.map_eq_some_iff.1 hown
      exact .of_family rfl nofun
    · obtain ⟨x, hx, rfl⟩ := Option.map_eq_some_iff.1 hown
      obtain ⟨c, rest, hbody, hc⟩ := exists_digit_of_isNumber hshape
      refine .of_family rfl ?_
      rintro ⟨⟩
      exact Literal.binary64?_ne_nan hbody hc hx
    · cases hown
  · obtain ⟨d, -, rfl⟩ := Option.map_eq_some_iff.1 hdecimal
    exact .of_family (congrArg some hfamily.symm) nofun

/-! ## Times that were read -/

theorem measures_moment (hty : ty.isTemporal = true) (t : DateTime) :
    ty.Measures (moment ty t) := by
  have hfamily := FieldType.family_of_isTemporal hty
  unfold moment
  split <;> exact .of_family (congrArg some hfamily.symm) nofun

theorem eq_moment_of_readMoment (h : readMoment ty ctx s = .ok (some v)) :
    ∃ t, v = moment ty t := by
  unfold readMoment at h
  split at h
  · simp only [Except.ok.injEq, Option.map_eq_some_iff] at h
    obtain ⟨d, -, rfl⟩ := h
    exact ⟨_, rfl⟩
  · obtain ⟨token?, -, h⟩ := bind_eq_ok_iff.1 h
    cases token? with
    | none => cases h
    | some token =>
      obtain ⟨t, -, h⟩ := bind_eq_ok_iff.1 h
      cases h
      exact ⟨t, rfl⟩

/-! ## Ranges that were read -/

theorem measures_of_readEnd (hty : ty.takesRanges = true) (hshape : isEnd ty s = true)
    (h : readEnd ty ctx s = .ok (some v)) : ty.Measures v := by
  unfold isEnd at hshape
  unfold readEnd at h
  by_cases hnumeric : ty.isNumeric = true
  · rw [if_pos hnumeric] at hshape h
    simp only [Except.ok.injEq] at h
    exact measures_of_readNumber? hnumeric hshape h
  · rw [if_neg hnumeric] at h
    have htemporal : ty.isTemporal = true := (Bool.or_eq_true_iff.1 hty).resolve_left hnumeric
    obtain ⟨t, rfl⟩ := eq_moment_of_readMoment h
    exact measures_moment htemporal t

theorem measures_of_readSide {closed : Bool} {side : Option Bound} (hty : ty.takesRanges = true)
    (hshape : (s.isEmpty || isEnd ty s) = true) (h : readSide ty ctx closed s = .ok (some side)) :
    ∀ b ∈ side, ty.Measures b.value := by
  unfold readSide at h
  split at h
  · simp only [Except.ok.injEq, Option.some.injEq] at h
    subst h
    intro b hb
    cases hb
  · rename_i hne
    have hend : isEnd ty s = true := (Bool.or_eq_true_iff.1 hshape).resolve_left hne
    obtain ⟨v?, hv, h⟩ := map_eq_ok_iff.1 h
    obtain ⟨v, rfl, rfl⟩ := Option.map_eq_some_iff.1 h
    intro b hb
    cases hb
    exact measures_of_readEnd hty hend hv

/-- What a range that applies to a field is like. -/
structure Fits (r : Range) (ty : FieldType) : Prop where
  takesRanges : ty.takesRanges = true
  /-- Ends that were read always have an order with the values of the field. -/
  read : r.parsedFor.isSome = true → ∀ b ∈ r.bounds, ty.Measures b.value
  /-- Others have one if they have one with anything. -/
  ends : ∀ b ∈ r.bounds, b.value.Orderable → ty.Measures b.value

theorem shape?_cases {p : Split} (h : shape? ty s = some p) :
    ty.takesRanges = true ∧ (p.lower.isEmpty || isEnd ty p.lower) = true ∧
      (p.upper.isEmpty || isEnd ty p.upper) = true := by
  unfold shape? at h
  split at h
  · rename_i htakes
    have hends := (Option.filter_eq_some_iff.1 h).2
    exact ⟨htakes, Bool.and_eq_true_iff.1 hends⟩
  · cases h

theorem fits_of_parse {text : String} {r : Range} (h : parse text ty ctx = .ok (some r)) :
    r.Fits ty := by
  obtain ⟨p, lower, upper, hshape, hlower, hupper, rfl⟩ := parse_cases h
  obtain ⟨htakes, hlowerEnd, hupperEnd⟩ := shape?_cases hshape
  have hmeasures : ∀ b ∈ lower.toList ++ upper.toList, ty.Measures b.value := by
    intro b hb
    rcases List.mem_append.1 hb with hb | hb
    · exact measures_of_readSide htakes hlowerEnd hlower b (Option.mem_toList.1 hb)
    · exact measures_of_readSide htakes hupperEnd hupper b (Option.mem_toList.1 hb)
  exact ⟨htakes, fun _ => hmeasures, fun b hb _ => hmeasures b hb⟩

/-- A range put together by hand applies where the field accepts its ends. -/
theorem accepts_of_resolveFor {r s : Range} (hr : r.parsedFor.isSome = false)
    (h : r.resolveFor ty ctx = .ok (some s)) :
    ty.takesRanges = true ∧ ∀ b ∈ r.bounds, ty.accepts b.value = true := by
  unfold resolveFor at h
  rw [hr, if_neg Bool.false_ne_true] at h
  split at h
  · rename_i happlies
    rw [Bool.and_eq_true, List.all_eq_true] at happlies
    exact happlies
  · cases h

theorem fits_of_resolveFor {r s : Range} (h : r.resolveFor ty ctx = .ok (some s)) :
    s.Fits ty := by
  rcases resolveFor_cases h with ⟨-, fresh, hfresh, rfl⟩ | ⟨hr, rfl⟩
  · have hfits := fits_of_parse hfresh
    exact ⟨hfits.takesRanges, hfits.read, hfits.ends⟩
  · obtain ⟨htakes, haccepts⟩ := accepts_of_resolveFor hr h
    refine ⟨htakes, fun hread => ?_, fun b hb horderable => .of_accepts (haccepts b hb) horderable⟩
    rw [hr] at hread
    cases hread

/-- A value has no order with an end of a fitting range only where the end has none at all. -/
theorem Fits.order_eq_none_iff {r : Range} (hr : r.Fits ty) {b : Bound} (hb : b ∈ r.bounds)
    (haccepts : ty.accepts v = true) (hv : v.Orderable) :
    v.order b.value = none ↔ ¬ b.value.Orderable := by
  constructor
  · intro hnone hb'
    obtain ⟨o, ho⟩ := (hr.ends b hb hb').exists_order haccepts hv
    rw [ho] at hnone
    cases hnone
  · intro hb'
    rw [← Option.not_isSome_iff_eq_none, Value.order_isSome_iff]
    exact fun horder => hb' horder.2.1

end Range

/-! ## Ranges that are found -/

namespace Registry

variable {reg : Registry} {name : String} {ty : FieldType} {r : Range}

theorem lookup_range_cases (h : reg.lookup name ty = .ok (some (.range r))) :
    (∃ q, reg.get? name = some (.range q) ∧ q.resolveFor ty reg.context = .ok (some r)) ∨
      reg.get? name = none ∧ Range.parse name ty reg.context = .ok (some r) := by
  have hrange {found : Except OperatorError (Option Range)}
      (hfound : found.map (·.map .range) = .ok (some (Operator.range r))) : found = .ok (some r) := by
    obtain ⟨q?, hq, h⟩ := map_eq_ok_iff.1 hfound
    obtain ⟨q, rfl, hrange⟩ := Option.map_eq_some_iff.1 h
    cases hrange
    exact hq
  unfold lookup at h
  split at h
  · cases h
  · rename_i q hq
    exact .inl ⟨q, hq, hrange h⟩
  · rename_i hnone
    split at h
    · exact .inr ⟨hnone, hrange h⟩
    · cases h

theorem fits_of_lookup (h : reg.lookup name ty = .ok (some (.range r))) : r.Fits ty := by
  rcases lookup_range_cases h with ⟨q, -, hq⟩ | ⟨-, hname⟩
  · exact Range.fits_of_resolveFor hq
  · exact Range.fits_of_parse hname

/-- **A range that is found fits the field**, whatever type it was registered for and however it was
put together.  The type is one of numbers or of times, and a value of the field that has an order at
all has one with each end that has.  So the value is excluded only where it lies outside, unless the
range was put together by hand with an end that has no order with anything. -/
theorem range_fits_field (h : reg.lookup name ty = .ok (some (.range r))) :
    (ty.isNumeric = true ∨ ty.isTemporal = true) ∧
      (r.parsedFor.isSome = true → ∀ b ∈ r.bounds, b.value.Orderable) ∧
      ∀ v, ty.accepts v = true → v.Orderable →
        (∀ b ∈ r.bounds, b.value.Orderable → ∃ o, v.order b.value = some o) ∧
        (r.contains v = false ↔ (∃ b ∈ r.bounds, ¬ b.value.Orderable) ∨ r.Outside v) := by
  have hfits := fits_of_lookup h
  refine ⟨Bool.or_eq_true_iff.1 hfits.takesRanges, fun hread b hb => (hfits.read hread b hb).1, ?_⟩
  intro v haccepts hv
  constructor
  · intro b hb horderable
    exact (hfits.ends b hb horderable).exists_order haccepts hv
  · have hends : (∃ b ∈ r.bounds, v.order b.value = none) ↔
        ∃ b ∈ r.bounds, ¬ b.value.Orderable :=
      exists_congr fun b => and_congr_right fun hb => hfits.order_eq_none_iff hb haccepts hv
    rw [r.contains_eq_false_iff, hends]

/-- A range read for an unsigned field and registered as `Small` excludes a negative number of a
signed field, which lies below its lower end. -/
theorem small_excludes_negative :
    let ctx : Context := ⟨.midnight ⟨739323, by decide, by decide⟩, .mon⟩
    let upper : Bound := ⟨.decimal ⟨false, 15, 1, by decide, by decide⟩, false⟩
    let r : Range := ⟨"[0, 1.5)", none, some .uint, some ⟨.uint 0, true⟩, some upper⟩
    let found : Range := ⟨"[0, 1.5)", some "Small", some .int, some ⟨.int 0, true⟩, some upper⟩
    let reg := (Registry.empty {} ctx.now).register [.range (r.named "Small")]
    Range.parse " [0, 1.5) " .uint ctx = .ok (some r) ∧
      reg.lookup "SMALL" .int = .ok (some (.range found)) ∧
      (∃ o, (Value.int (-1)).order upper.value = some o) ∧
      found.contains (.int (-1)) = false := by
  intro ctx upper r found reg
  have hparse : Range.parse " [0, 1.5) " .uint ctx = .ok (some r) := by decide +kernel
  have hlookup : reg.lookup "SMALL" .int = .ok (some (.range found)) := by decide +kernel
  obtain ⟨-, hread, hvalues⟩ := range_fits_field hlookup
  obtain ⟨horder, hexcluded⟩ := hvalues (.int (-1)) (by decide) (by decide)
  have hupper : upper ∈ found.bounds := List.mem_append_right _ (List.mem_singleton_self _)
  have houtside : found.Outside (.int (-1)) := .inl ⟨⟨.int 0, true⟩, rfl, by decide +kernel⟩
  exact ⟨hparse, hlookup, horder upper hupper (hread rfl upper hupper), hexcluded.2 (.inr houtside)⟩

end Registry

end QueryCriteria
