import QueryCriteria.Proofs.Number.Decimal
import QueryCriteria.Proofs.Value.Order

/-!
# Values that compare alike

A zero, decimal or floating-point, may have a sign, and no comparison sees it.  The scale of a decimal
is another matter: beside a floating-point number a decimal is rounded to its own grid.  So values that
are the same and of one scale stand for each other in every comparison.

* `Binary64.unsignedZero`, `Decimal.unsignedZero_eq`, `Decimal.key_toBinary64_unsignedZero` — numbers
  without the sign of a zero.
* `Value.normal`, `Value.order_normal`, `Value.equal_normal` — values without it, and comparisons with
  them.
* `Value.Alike`, `Value.Alike.normal_eq` — equal values, and those that are the same with the same
  scale.
-/

namespace QueryCriteria

/-! ## Numbers -/

/-- A sign and a magnitude are read off the integer that they make, but for the sign of a zero. -/
theorem sign_and_magnitude_eq {negative negative' : Bool} {n m : Nat}
    (h : (if negative then -(n : Int) else n) = if negative' then -(m : Int) else m) :
    (negative && n != 0) = (negative' && m != 0) ∧ n = m := by
  have hmagnitude : n = m := by
    split at h <;> split at h <;> omega
  subst hmagnitude
  refine ⟨?_, rfl⟩
  cases negative <;> cases negative' <;> simp at h ⊢ <;> omega

namespace Binary64

/-- The number without the sign of a zero. -/
def unsignedZero : Binary64 → Binary64
  | .nan => .nan
  | .number negative magnitude bounded => .number (negative && magnitude != 0) magnitude bounded

theorem key_unsignedZero (x : Binary64) : x.unsignedZero.key = x.key := by
  cases x with
  | nan => rfl
  | number negative magnitude bounded =>
    by_cases hzero : magnitude = 0 <;> simp [unsignedZero, key, hzero]

/-- What is the same number differs in the sign of a zero at most. -/
theorem unsignedZero_eq {x y : Binary64} (h : x.sameNumber y = true) :
    x.unsignedZero = y.unsignedZero := by
  have horder : x.order y = some .eq := eq_of_beq h
  cases x with
  | nan => cases h
  | number negative magnitude bounded =>
    cases y with
    | nan => cases h
    | number negative' magnitude' bounded' =>
      have hkey := Std.LawfulEqOrd.eq_of_compare (Option.some.inj horder)
      obtain ⟨hnegative, hmagnitude⟩ := sign_and_magnitude_eq hkey
      subst hmagnitude
      simp only [unsignedZero, hnegative]

end Binary64

namespace Decimal

/-- Decimals of one scale that are the same number differ in the sign of a zero at most. -/
theorem unsignedZero_eq {a b : Decimal} (h : a.sameNumber b = true) (hscale : a.scale = b.scale) :
    a.unsignedZero = b.unsignedZero := by
  have hpower : ((tenTo b.scale : Nat) : Int) ≠ 0 := by exact_mod_cast (tenTo_pos b.scale).ne'
  have hcross := Std.LawfulEqOrd.eq_of_compare (eq_of_beq h)
  rw [hscale] at hcross
  obtain ⟨hnegative, hcoefficient⟩ :=
    sign_and_magnitude_eq (Int.eq_of_mul_eq_mul_right hpower hcross)
  simp only [unsignedZero, mk.injEq]
  exact ⟨hnegative, hcoefficient, hscale⟩

theorem order_unsignedZero (a d : Decimal) : a.order d.unsignedZero = a.order d := by
  rw [order, order, signed_unsignedZero, scale_unsignedZero]

theorem floatMagnitude_zero (scale : Nat) : floatMagnitude 0 scale = 0 := by
  have hround : binary64.round 0 = 0 := by decide +kernel
  have hcast : ((0 : Nat) : Rat) = 0 := rfl
  simp only [floatMagnitude, Nat.zero_div, Nat.zero_mod, hcast, hround, Rat.div_def, Rat.zero_mul,
    if_true]

theorem unsignedZero_of_ne_zero {d : Decimal} (h : d.coefficient ≠ 0) : d.unsignedZero = d := by
  have hsign : (d.coefficient != 0) = true := bne_iff_ne.2 h
  simp only [unsignedZero, hsign, Bool.and_true]

/-- Beside floating-point numbers the sign of a zero does not count either. -/
theorem key_toBinary64_unsignedZero (d : Decimal) :
    d.unsignedZero.toBinary64.key = d.toBinary64.key := by
  by_cases hzero : d.coefficient = 0
  · have hcode : binary64.code 0 = 0 := rfl
    simp [toBinary64, unsignedZero, hzero, floatMagnitude_zero, hcode, Binary64.ofCode, Binary64.key]
  · rw [unsignedZero_of_ne_zero hzero]

end Decimal

/-! ## Values -/

namespace Value

theorem Numeric.order_float_unsignedZero (x : Numeric) (y : Binary64) :
    x.order (.float y.unsignedZero) = x.order (.float y) := by
  cases x <;> simp only [order, toFloat, Binary64.order, Binary64.key_unsignedZero]

theorem Numeric.order_exact_unsignedZero (x : Numeric) (d : Decimal) :
    x.order (.exact d.unsignedZero) = x.order (.exact d) := by
  cases x with
  | exact a => exact congrArg some (a.order_unsignedZero d)
  | float x => simp only [order, toFloat, Binary64.order, d.key_toBinary64_unsignedZero]

/-- The scale of a decimal; other values have none. -/
def scale? : Value → Option Nat
  | .decimal d => some d.scale
  | _ => none

/-- The value without the sign of a zero. -/
def normal : Value → Value
  | .float x => .float x.unsignedZero
  | .decimal d => .decimal d.unsignedZero
  | v => v

theorem normal_eq_null_iff {v : Value} : v.normal = .null ↔ v = .null := by
  cases v <;> simp [normal]

theorem asText_normal (v : Value) : v.normal.asText = v.asText := by
  cases v <;> rfl

/-- **The sign of a zero does not count in the order.** -/
theorem order_normal (u v : Value) : u.order v.normal = u.order v := by
  cases v with
  | float x =>
    rw [normal, order_of_numeric rfl, order_of_numeric rfl]
    simp only [Numeric.order_float_unsignedZero]
  | decimal d =>
    rw [normal, order_of_numeric rfl, order_of_numeric rfl]
    simp only [Numeric.order_exact_unsignedZero]
  | _ => rfl

theorem equal_normal (u v : Value) : u.equal v.normal = u.equal v := by
  by_cases hnull : v = .null
  · rw [hnull]
    rfl
  · rw [equal_eq_order (mt normal_eq_null_iff.1 hnull), equal_eq_order hnull, order_normal]

/-- Equal values, and those that are the same and of one scale. -/
def Alike (v w : Value) : Prop :=
  v = w ∨ v.same w = true ∧ v.scale? = w.scale?

instance (v w : Value) : Decidable (v.Alike w) :=
  inferInstanceAs (Decidable (_ ∨ _))

/-- **Values that are the same and of one scale differ in the sign of a zero at most.** -/
theorem Alike.normal_eq {v w : Value} (h : v.Alike w) : v.normal = w.normal := by
  rcases h with rfl | ⟨hsame, hscale⟩
  · rfl
  cases v with
  | float x =>
    cases w with
    | float y => exact congrArg float (Binary64.unsignedZero_eq hsame)
    | _ => cases hsame
  | decimal a =>
    cases w with
    | decimal b => exact congrArg decimal (Decimal.unsignedZero_eq hsame (Option.some.inj hscale))
    | _ => cases hsame
  | _ => rw [eq_of_beq hsame]

/-- The scale counts: a decimal beside a floating-point number is rounded to its own grid. -/
example :
    let v : Value := .decimal ⟨false, 9007199254740995, 1, by decide, by decide⟩
    let w : Value := .decimal ⟨false, 90071992547409950, 2, by decide, by decide⟩
    v.same w = true ∧ ∃ x, v.order (.float x) ≠ w.order (.float x) :=
  ⟨by decide +kernel, Decimal.toBinary64 ⟨false, 9007199254740995, 1, by decide, by decide⟩,
    by decide +kernel⟩

end Value

end QueryCriteria
