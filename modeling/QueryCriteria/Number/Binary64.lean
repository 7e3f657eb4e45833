import QueryCriteria.Number.Rounding

/-!
# Binary floating-point numbers

* `Binary64` — not-a-number, or a sign with a magnitude pattern (zero, subnormal, normal or
  infinite).  There is one not-a-number: payloads carry no meaning here.
* `Binary64.key` — the integer whose order is the order of the numbers.  Both zeros have key
  zero; not-a-number has no key.
* `Binary64.order` — the partial order: undefined exactly when a side is not-a-number.
* `Binary64.ofBits`, `Binary64.toBits` — the sixty-four bit interchange form.
-/

namespace QueryCriteria

/-- A floating-point number of 64 bits. -/
inductive Binary64 where
  /-- The result of an undefined operation. -/
  | nan
  /-- A signed magnitude, the latter as its bit pattern below the sign bit. -/
  | number (negative : Bool) (magnitude : Nat) (bounded : magnitude ≤ binary64.infinity)
  deriving DecidableEq, Repr

namespace Binary64

/-- The number with a sign and the magnitude pattern `code`, cut at infinity. -/
def ofCode (negative : Bool) (code : Nat) : Binary64 :=
  .number negative (min code binary64.infinity) (Nat.min_le_right _ _)

/-- The number nearest to a rational. -/
def ofRat (x : Rat) : Binary64 :=
  ofCode (decide (x < 0)) (binary64.code x.abs)

/-- The number nearest to an integer. -/
def ofInt (i : Int) : Binary64 :=
  ofRat i

/-- An infinity. -/
def infinite (negative : Bool) : Binary64 :=
  .number negative binary64.infinity (Nat.le_refl _)

/-- Whether the number is neither infinite nor not-a-number. -/
def isFinite : Binary64 → Bool
  | .nan => false
  | .number _ magnitude _ => magnitude < binary64.infinity

/-- The integer whose order is the numeric order. -/
def key : Binary64 → Option Int
  | .nan => none
  | .number negative magnitude _ => some (if negative then -magnitude else magnitude)

/-- The order of two numbers, if both are numbers. -/
def order (a b : Binary64) : Option Ordering :=
  match a.key, b.key with
  | some x, some y => some (compare x y)
  | _, _ => none

/-- Numeric equality: not-a-number differs from everything, the two zeros are equal. -/
def sameNumber (a b : Binary64) : Bool :=
  a.order b == some .eq

/-- The weight of the sign bit. -/
def signWeight : Nat := 9223372036854775808

/-- Decoding of the interchange form. -/
def ofBits (bits : UInt64) : Binary64 :=
  let magnitude := bits.toNat % signWeight
  if h : magnitude ≤ binary64.infinity then .number (decide (signWeight ≤ bits.toNat)) magnitude h
  else .nan

/-- The interchange form; not-a-number has the quiet pattern without payload. -/
def toBits : Binary64 → UInt64
  | .nan => 0x7ff8000000000000
  | .number negative magnitude _ =>
    UInt64.ofNat (magnitude + if negative then signWeight else 0)

/-- Re-encoding of a 32-bit magnitude pattern. -/
def ofBinary32 (negative : Bool) (code : Nat) : Binary64 :=
  if code < binary32.infinity then ofCode negative (binary64.code (binary32.value code))
  else infinite negative

end Binary64

end QueryCriteria
