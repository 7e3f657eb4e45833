import QueryCriteria.Number.Binary64
import QueryCriteria.Text.Digit

/-!
# Shortest decimal text of a floating-point number

* `Neighbourhood` — a magnitude with the interval of rationals that round to it.  The ends
  belong to it exactly when the significand is even.
* `Neighbourhood.shortest` — the fewest decimal digits whose value lies in the interval, and
  of those the nearest to the magnitude.
* `Layout` — how the digits are written: what a whole number ends in, which decimal points
  are written out and which as an exponent, and which way a tie between two digits goes.
* `Layout.plain` — the layout of every number outside documents: never an exponent.
-/

namespace QueryCriteria

/-- A positive magnitude and the rationals that round to it. -/
structure Neighbourhood where
  value : Rat
  low : Rat
  high : Rat
  /-- Whether the ends themselves round to the magnitude. -/
  closed : Bool
  deriving DecidableEq, Repr

/-- Which of two equally near candidates is taken. -/
inductive Tie where
  | up
  | even
  deriving DecidableEq, Repr

/-- Decimal digits with the position of the point: `digits = [d₁, d₂, …]` and `point = p`
stand for `0.d₁d₂… · 10 ^ p`. -/
structure DecimalDigits where
  digits : List Char
  point : Int
  deriving DecidableEq, Repr

namespace Neighbourhood

/-- The neighbourhood of a positive finite pattern. -/
def ofCode (f : Format) (code : Nat) : Neighbourhood :=
  let (significand, exponent) := f.split code
  let quarter : Rat := power 2 (exponent - 2)
  let below : Rat := if significand = f.fieldSize ∧ -(f.least : Int) < exponent then 1 else 2
  { value := 4 * significand * quarter
    low := (4 * significand - below) * quarter
    high := (4 * significand + 2) * quarter
    closed := significand % 2 == 0 }

/-- Whether a rational rounds to the magnitude. -/
def has (v : Neighbourhood) (x : Rat) : Bool :=
  if v.closed then v.low ≤ x && x ≤ v.high else v.low < x && x < v.high

/-- The least exponent `e` with `value < 10 ^ e`. -/
def position (v : Neighbourhood) : Int :=
  let e : Int := (Text.digits v.value.num.toNat).length - (Text.digits v.value.den).length
  if v.value < power 10 e then e else e + 1

/-- The better of two adjacent points of a decimal grid, given which of them round to the
magnitude and how far they are from it. -/
def choose (tie : Tie) (below above : Bool) (toBelow toAbove : Rat) (n : Nat) : Option Nat :=
  match below, above with
  | false, false => none
  | true, false => some n
  | false, true => some (n + 1)
  | true, true =>
    if toBelow < toAbove then some n
    else if toAbove < toBelow then some (n + 1)
    else match tie with
      | .up => some (n + 1)
      | .even => some (n + n % 2)

/-- The nearest point of the grid with `count` significant digits, as a multiple of its unit,
if one rounds to the magnitude. -/
def onGrid (v : Neighbourhood) (tie : Tie) (count : Nat) : Option Nat :=
  let unit : Rat := power 10 (v.position - count)
  let n := (v.value / unit).floor.toNat
  let lower := n * unit
  let upper := lower + unit
  choose tie (v.has lower) (v.has upper) (v.value - lower) (upper - v.value) n

/-- The fewest digits that read back as the magnitude.  Seventeen always do. -/
def shortest (v : Neighbourhood) (tie : Tie) : DecimalDigits :=
  let found := (List.range 17).findSome? fun k =>
    (v.onGrid tie (k + 1)).map fun n => (Text.digits n, v.position - (k + 1 : Nat))
  let (ds, exponent) := found.getD (['0'], 0)
  { digits := (ds.reverse.dropWhile (· == '0')).reverse
    point := ds.length + exponent }

end Neighbourhood

/-- How the digits of a floating-point number are written. -/
structure Layout where
  /-- What a number without fraction ends in. -/
  whole : List Char
  /-- The positions of the decimal point that are written out; `none` stands for all. -/
  written : Option (Int × Int)
  tie : Tie
  deriving DecidableEq, Repr

namespace Layout

/-- Numbers without exponent: every position is written out, whole numbers end without a mark,
and a tie between two digits goes up. -/
def plain : Layout where
  whole := []
  written := none
  tie := .up

/-- Digits with their point written out. -/
def positional (l : Layout) (d : DecimalDigits) : List Char :=
  if d.point ≤ 0 then '0' :: '.' :: (List.replicate (-d.point).toNat '0' ++ d.digits)
  else if d.digits.length ≤ d.point.toNat then
    d.digits ++ List.replicate (d.point.toNat - d.digits.length) '0' ++ l.whole
  else d.digits.take d.point.toNat ++ '.' :: d.digits.drop d.point.toNat

/-- Digits with a point after the first one and a signed exponent. -/
def scientific (d : DecimalDigits) : List Char :=
  let exponent := d.point - 1
  let fraction := d.digits.drop 1
  d.digits.take 1 ++ (if fraction.isEmpty then [] else '.' :: fraction) ++
    'e' :: (if exponent < 0 then '-' else '+') :: Text.digits exponent.natAbs

/-- The digits of a positive finite pattern, laid out. -/
def magnitude (l : Layout) (code : Nat) : List Char :=
  if code = 0 then '0' :: l.whole else
    let d := (Neighbourhood.ofCode binary64 code).shortest l.tie
    match l.written with
    | none => l.positional d
    | some (first, last) =>
      if first ≤ d.point ∧ d.point ≤ last then l.positional d else scientific d

/-- The text of a number. -/
def text (l : Layout) : Binary64 → List Char
  | .nan => ['N', 'a', 'N']
  | .number negative code _ =>
    (if negative then ['-'] else []) ++
      if code < binary64.infinity then l.magnitude code else ['i', 'n', 'f']

end Layout

end QueryCriteria
