import QueryCriteria.Number.Binary64
import QueryCriteria.Text.Digit

/-!
# Decimal numbers

* `Decimal` — a sign and a coefficient of at most 96 bits over a power of ten up to `10 ^ 28`.
  The scale is kept: `1.5` and `1.50` are two decimals of one value.  So is the sign of a zero
  that a negative number was rounded to.
* `Decimal.order`, `Decimal.sameNumber` — the numeric order and equality, blind to the scale and
  to the sign of zero.
* `Decimal.text` — the digits with `scale` of them behind the point.
* `Decimal.plain?` — reading of digits with a point; digits past the capacity are rounded, and
  a zero is read without its sign.
* `Decimal.ofText?` — reading of plain or scientific text.  An exponent is at most the greatest
  scale; one below zero rounds the digits that it moves past that scale.
* `Decimal.toBinary64` — the floating-point number used beside floats: the integral and the
  fractional part converted apart, and their sum rounded back to the decimal's own grid.
-/

namespace QueryCriteria

/-- Coefficients lie below the power of two with exponent 96. -/
def coefficientLimit : Nat := 79228162514264337593543950336

/-- The greatest scale of a decimal. -/
def greatestScale : Nat := 28

/-- A decimal number, `coefficient / 10 ^ scale` with a sign. -/
structure Decimal where
  negative : Bool
  coefficient : Nat
  scale : Nat
  coefficient_lt : coefficient < coefficientLimit
  scale_le : scale ≤ greatestScale
  deriving DecidableEq, Repr

namespace Decimal

/-- The decimal with the given parts, if they fit. -/
def make? (negative : Bool) (coefficient scale : Nat) : Option Decimal :=
  if h : coefficient < coefficientLimit ∧ scale ≤ greatestScale then
    some ⟨negative, coefficient, scale, h.1, h.2⟩
  else none

/-- A whole number of 64 bits. -/
def ofInt64 (i : Int64) : Decimal where
  negative := decide (i.toInt < 0)
  coefficient := i.toInt.natAbs
  scale := 0
  coefficient_lt := by
    have h₁ := Int64.toInt_lt i
    have h₂ := Int64.le_toInt i
    simp only [coefficientLimit]
    omega
  scale_le := by decide

/-- A non-negative whole number of 64 bits. -/
def ofUInt64 (n : UInt64) : Decimal where
  negative := false
  coefficient := n.toNat
  scale := 0
  coefficient_lt := by
    have h := UInt64.toNat_lt n
    simp only [coefficientLimit]
    omega
  scale_le := by decide

/-- The coefficient as a signed number, the same for both zeros. -/
def signed (d : Decimal) : Int :=
  if d.negative then -(d.coefficient : Int) else d.coefficient

/-- The rational number a decimal stands for. -/
def toRat (d : Decimal) : Rat :=
  (d.signed : Rat) / (tenTo d.scale : Nat)

/-- The numeric order, by cross-multiplication. -/
def order (a b : Decimal) : Ordering :=
  compare (a.signed * (tenTo b.scale : Nat)) (b.signed * (tenTo a.scale : Nat))

/-- Whether two decimals have the same value. -/
def sameNumber (a b : Decimal) : Bool :=
  a.order b == .eq

/-- The text of a decimal. -/
def text (d : Decimal) : List Char :=
  let whole := Text.digits (d.coefficient / tenTo d.scale)
  let sign := if d.negative then ['-'] else []
  if d.scale = 0 then sign ++ whole
  else sign ++ whole ++ '.' :: Text.padded d.scale (d.coefficient % tenTo d.scale)

/-! ## Reading -/

/-- From this coefficient on, separators before the digit that decides the rounding are passed
over.  Below it such a separator stands for the digit zero. -/
def wideCoefficient : Nat := 18446744073709549060

/-- The digit that decides the rounding of a coefficient, at the start of what does not fit. -/
def decidingDigit (coefficient : Nat) (excess : List Char) : Nat :=
  let ahead := if wideCoefficient ≤ coefficient then excess.dropWhile (· == '_') else excess
  match ahead with
  | c :: _ => if c.isDigit then c.toNat - 48 else 0
  | [] => 0

/-- The magnitude after the digits that do not fit, which no other character may interrupt.  The
deciding digit rounds: from five on the coefficient grows by one.  A coefficient that leaves its
range that way gives up its last digit. -/
def settle? (coefficient scale : Nat) (excess : List Char) : Option (Nat × Nat) :=
  if !excess.all (fun c => c.isDigit || c == '_') then none
  else if decidingDigit coefficient excess < 5 then some (coefficient, scale)
  else if coefficient + 1 < coefficientLimit then some (coefficient + 1, scale)
  else if scale = 0 then none
  else some ((coefficient + 5) / 10, scale - 1)

/-- Reads the digits of a magnitude.  `pointed` tells whether the point has been passed, `seen`
whether a digit has. -/
def magnitude? : List Char → Nat → Nat → Bool → Bool → Option (Nat × Nat)
  | [], coefficient, scale, _, seen => if seen then some (coefficient, scale) else none
  | c :: rest, coefficient, scale, pointed, seen =>
    if pointed && greatestScale ≤ scale then settle? coefficient scale (c :: rest)
    else if c.isDigit then
      let next := 10 * coefficient + (c.toNat - 48)
      if next < coefficientLimit then magnitude? rest next (if pointed then scale + 1 else scale) pointed true
      else if pointed then settle? coefficient scale (c :: rest)
      else none
    else if c == '.' && !pointed then magnitude? rest coefficient scale true seen
    else if c == '_' && seen then magnitude? rest coefficient scale pointed seen
    else none

/-- Reads a decimal written with digits and at most one point. -/
def plain? (s : List Char) : Option Decimal :=
  let (minus, body) := match s with
    | '-' :: rest => (true, rest)
    | '+' :: rest => (false, rest)
    | _ => (false, s)
  (magnitude? body 0 0 false false).bind fun (coefficient, scale) =>
    make? (minus && coefficient != 0) coefficient scale

/-- The amount of an exponent: an optional plus sign and digits. -/
def exponentAmount? (s : List Char) : Option Nat :=
  let ds := match s with
    | '+' :: rest => rest
    | _ => s
  if Text.isNatural ds then some (Text.natural ds) else none

/-- Moves the point of a decimal to the right. -/
def raised? (d : Decimal) (amount : Nat) : Option Decimal :=
  if amount ≤ d.scale then make? d.negative d.coefficient (d.scale - amount)
  else if amount ≤ greatestScale then
    make? d.negative (d.coefficient * tenTo (amount - d.scale)) 0
  else none

/-- Moves the point of a decimal to the left.  Places past the greatest scale are rounded off, half
away from zero; the sign stays, also with a zero. -/
def lowered? (d : Decimal) (amount : Nat) : Option Decimal :=
  if greatestScale < amount then none
  else if d.scale + amount ≤ greatestScale then make? d.negative d.coefficient (d.scale + amount)
  else
    let excess := tenTo (d.scale + amount - greatestScale)
    make? d.negative (roundHalfAway (d.coefficient / excess)) greatestScale

/-- Reads a decimal with an exponent. -/
def scientific? (s : List Char) : Option Decimal :=
  let isMark (c : Char) : Bool := c == 'e' || c == 'E'
  match plain? (s.takeWhile (!isMark ·)), s.dropWhile (!isMark ·) with
  | some base, _ :: '-' :: exponent => (exponentAmount? exponent).bind base.lowered?
  | some base, _ :: exponent => (exponentAmount? exponent).bind base.raised?
  | _, _ => none

/-- Reads plain text, or else scientific text. -/
def ofText? (s : List Char) : Option Decimal :=
  (plain? s).or (scientific? s)

/-! ## Beside floating-point numbers -/

/-- The magnitude used beside floats, as a representable rational. -/
def floatMagnitude (coefficient scale : Nat) : Rat :=
  let power := tenTo scale
  let whole := binary64.round (coefficient / power : Nat)
  let fraction := binary64.round
    (binary64.round (coefficient % power : Nat) / binary64.round (power : Nat))
  if fraction = 0 then whole else
    let sum := binary64.round (whole + fraction)
    let grid := binary64.round (power : Nat)
    binary64.round (roundHalfAway (binary64.round (sum * grid)) / grid)

/-- The floating-point number a decimal is compared as. -/
def toBinary64 (d : Decimal) : Binary64 :=
  Binary64.ofCode d.negative
    (binary64.code (if d.scale = 0 then (d.coefficient : Rat)
      else floatMagnitude d.coefficient d.scale))

end Decimal

end QueryCriteria
