import QueryCriteria.Number.Power

/-!
# Rounding to a binary format

* `Format` — a binary floating-point format, given by its significand width and exponent range.
* `roundHalfEven`, `roundHalfAway` — a quotient rounded to the nearest integer.
* `Format.code` — the representable magnitude nearest to a non-negative rational, as the bit
  pattern below the sign bit.  Patterns grow with the magnitudes they stand for, and a
  magnitude past the largest finite one is `infinity`.
* `Format.value` — the rational that a finite pattern stands for.
* `Format.codeOfDecimal` — `code` for a decimal literal of any exponent.

All of it is exact integer and rational arithmetic.
-/

namespace QueryCriteria

/-- A binary floating-point format. -/
structure Format where
  /-- The number of significant bits. -/
  precision : Nat
  /-- Subnormal magnitudes are the multiples of `2 ^ (-least)`. -/
  least : Nat
  /-- The number of exponent fields that stand for finite magnitudes. -/
  fields : Nat
  deriving DecidableEq, Repr

/-- The format of 64 bits. -/
def binary64 : Format := ⟨53, 1074, 2047⟩

/-- The format of 32 bits. -/
def binary32 : Format := ⟨24, 149, 255⟩

/-- The quotient `n / d` rounded to the nearest integer, a tie to the even one. -/
def roundHalfEven (n d : Nat) : Nat :=
  let q := n / d
  let r := n % d
  if 2 * r < d then q else if d < 2 * r then q + 1 else q + q % 2

/-- A non-negative rational rounded to the nearest integer, a tie away from zero. -/
def roundHalfAway (x : Rat) : Nat :=
  (x + 1 / 2).floor.toNat

/-- The exponent of the greatest power of two that is at most `n / d`, both positive. -/
def floorLog2 (n d : Nat) : Int :=
  let e : Int := n.log2 - d.log2
  let reached := if 0 ≤ e then d * twoTo e.toNat ≤ n else d ≤ n * twoTo (-e).toNat
  if reached then e else e - 1

namespace Format

/-- The number of patterns that share one exponent field. -/
def fieldSize (f : Format) : Nat := twoTo (f.precision - 1)

/-- The pattern that stands for infinity. -/
def infinity (f : Format) : Nat := f.fields * f.fieldSize

/-- The pattern of the representable magnitude nearest to `x`, a tie to the even pattern. -/
def code (f : Format) (x : Rat) : Nat :=
  let n := x.num.toNat
  if n = 0 then 0 else
    let quantum : Int := max (floorLog2 n x.den - (f.precision - 1 : Nat)) (-f.least)
    let significand :=
      if 0 ≤ quantum then roundHalfEven n (x.den * twoTo quantum.toNat)
      else roundHalfEven (n * twoTo (-quantum).toNat) x.den
    min f.infinity (significand + (quantum + f.least).toNat * f.fieldSize)

/-- The significand and the binary exponent of a finite pattern. -/
def split (f : Format) (code : Nat) : Nat × Int :=
  if code < f.fieldSize then (code, -f.least)
  else (f.fieldSize + code % f.fieldSize, (code / f.fieldSize : Nat) - 1 - (f.least : Int))

/-- The rational that a finite pattern stands for. -/
def value (f : Format) (code : Nat) : Rat :=
  let (significand, exponent) := f.split code
  significand * power 2 exponent

/-- The representable rational nearest to `x ≥ 0`. -/
def round (f : Format) (x : Rat) : Rat :=
  f.value (f.code x)

/-- The pattern nearest to `coefficient · 10 ^ exponent`.  A literal whose leading digit lies
beyond the format's decimal range is settled by its position alone. -/
def codeOfDecimal (f : Format) (coefficient : Nat) (exponent : Int) : Nat :=
  if coefficient = 0 then 0 else
    let position := (Nat.toDigits 10 coefficient).length + exponent
    if 400 < position then f.infinity
    else if position < -400 then 0
    else f.code (coefficient * power 10 exponent)

end Format

end QueryCriteria
