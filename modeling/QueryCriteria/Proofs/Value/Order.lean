import QueryCriteria.Value.FieldType
import QueryCriteria.Value.Order

/-!
# Where values have an order

* `Value.Family`, `FieldType.family`, `Value.family` — the kinds of values that are ordered among
  themselves: numbers of every representation are one, and so are dates with date-times.
* `Value.Orderable` — neither absent nor not-a-number.
* `Value.order_isSome_iff` — two values have an order exactly if both are orderable and of one
  family.
* `Value.order_of_numeric` — what compares with a number compares by the number it holds.
* `Value.equal_eq_order` — to equal a value that is not null is to be level with it.
* `FieldType.family_of_accepts` — a field accepts values of its own family only.
* `FieldType.family_of_isNumeric`, `FieldType.family_of_isTemporal` — the types of numbers and of
  times.
-/

namespace QueryCriteria

/-! ## Numbers -/

theorem Binary64.order_isSome_iff {x y : Binary64} :
    (x.order y).isSome = true ↔ x ≠ .nan ∧ y ≠ .nan := by
  cases x <;> cases y <;> simp [order, key]

/-- A decimal is a number beside floating-point numbers, too. -/
theorem Decimal.toBinary64_ne_nan (d : Decimal) : d.toBinary64 ≠ .nan := by
  intro h
  cases h

namespace Value

theorem Numeric.order_isSome_iff {x y : Numeric} :
    (x.order y).isSome = true ↔ x ≠ .float .nan ∧ y ≠ .float .nan := by
  have hexact (d : Decimal) := d.toBinary64_ne_nan
  cases x <;> cases y <;> simp [order, toFloat, Binary64.order_isSome_iff, hexact]

end Value

/-! ## Families -/

/-- A kind of values that are ordered among themselves. -/
inductive Value.Family where
  | truth
  | number
  | text
  | code
  | time
  deriving DecidableEq, Repr

/-- The family of the values of a type. -/
def FieldType.family : FieldType → Value.Family
  | .bool => .truth
  | .int | .uint | .float | .decimal => .number
  | .text => .text
  | .enum => .code
  | .date | .dateTime => .time

namespace Value

/-- The family that a value belongs to; `null` belongs to none. -/
def family (v : Value) : Option Family :=
  v.fieldType.map FieldType.family

/-- Whether a value is neither absent nor not-a-number. -/
def Orderable (v : Value) : Prop :=
  v ≠ .null ∧ v ≠ .float .nan

instance (v : Value) : Decidable v.Orderable :=
  inferInstanceAs (Decidable (_ ∧ _))

/-- **Two values have an order exactly if both are orderable and of one family**. -/
theorem order_isSome_iff {v w : Value} :
    (v.order w).isSome = true ↔ v.Orderable ∧ w.Orderable ∧ v.family = w.family := by
  cases v <;> cases w <;>
    simp [order, numeric, Numeric.order_isSome_iff, Orderable, family, fieldType, FieldType.family]

variable {a b : Value}

/-- Beside a number, a value compares by the number it holds. -/
theorem order_of_numeric {y : Numeric} (h : b.numeric = some y) :
    a.order b = a.numeric.bind fun x => x.order y := by
  cases b with
  | int i | uint n | float x | decimal d =>
    cases h
    cases a <;> rfl
  | _ => cases h

/-! ## Equality beside the order -/

theorem isNull_iff : a.isNull = true ↔ a = .null := by
  cases a <;> simp [isNull]

theorem isNull_eq_false_iff : a.isNull = false ↔ a ≠ .null := by
  rw [← Bool.not_eq_true, isNull_iff]

/-- Values without an order do not have the same representation either. -/
theorem same_eq_false_of_order_eq_none (hnull : a ≠ .null) (h : a.order b = none) :
    a.same b = false := by
  cases a with
  | null => exact absurd rfl hnull
  | float x =>
    cases b with
    | float y =>
      have hxy : x.order y = none := h
      rw [same, Binary64.sameNumber, hxy]
      rfl
    | _ => rfl
  | _ => cases b <;> first | rfl | cases h

theorem equal_null_iff : a.equal .null = true ↔ a = .null := by
  cases a <;> simp [equal]

theorem null_equal_iff : Value.null.equal b = true ↔ b = .null := by
  cases b <;> simp [equal]

theorem equal_of_ne_null (ha : a ≠ .null) (hb : b ≠ .null) :
    a.equal b = match a.order b with
      | some o => o == .eq
      | none => a.same b := by
  unfold equal
  split
  · exact absurd rfl ha
  · exact absurd rfl ha
  · exact absurd rfl hb
  · rfl

/-- **To equal a value that is not null is to be level with it.** -/
theorem equal_eq_order (hb : b ≠ .null) : a.equal b = (a.order b == some .eq) := by
  by_cases ha : a = .null
  · rw [ha]
    cases b with
    | null => exact absurd rfl hb
    | _ => rfl
  · rw [equal_of_ne_null ha hb]
    cases h : a.order b with
    | some o => rfl
    | none => exact same_eq_false_of_order_eq_none ha h

end Value

namespace FieldType

variable {ty : FieldType} {v : Value}

theorem family_of_accepts (h : ty.accepts v = true) (hv : v ≠ .null) :
    v.family = some ty.family := by
  unfold accepts at h
  cases hown : v.fieldType with
  | none =>
    cases v with
    | null => exact absurd rfl hv
    | _ => simp [Value.fieldType] at hown
  | some own =>
    have hty : own = ty := by simpa [hown] using h
    rw [Value.family, hown, hty, Option.map_some]

theorem family_of_isNumeric (h : ty.isNumeric = true) : ty.family = .number := by
  revert h
  cases ty <;> decide

theorem family_of_isTemporal (h : ty.isTemporal = true) : ty.family = .time := by
  revert h
  cases ty <;> decide

end FieldType

end QueryCriteria
