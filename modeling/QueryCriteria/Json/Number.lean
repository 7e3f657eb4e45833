import QueryCriteria.Json.Basic
import QueryCriteria.Number.Decimal
import QueryCriteria.Number.Literal
import QueryCriteria.Number.Shortest

/-!
# Numbers of JSON documents

* `integer?` — the value of an integer literal of 64 bits.  A minus sign before zero makes the
  literal a floating-point one.
* `float?` — the floating-point value of a literal, rounded correctly.  A value past the largest
  finite number is refused.
* `decimal?` — the decimal value of a literal: exact for integers of 64 bits, and otherwise the
  one that the floating-point value is displayed as.
* `floatLayout`, `ofFloat` — writing of floating-point numbers.  Every one has a point or an
  exponent; one that is no number or infinite is written `null`.
-/

namespace QueryCriteria.Json

/-- The value of an integer literal of 64 bits. -/
def integer? (lexeme : List Char) : Option Int :=
  match lexeme with
  | '-' :: ds =>
    if Text.isNatural ds then
      (some (-(Text.natural ds : Int))).filter fun i => i < 0 && leastInt64 ≤ i
    else none
  | ds =>
    if Text.isNatural ds then
      (some (Text.natural ds : Int)).filter fun i => i ≤ greatestUInt64
    else none

/-- The floating-point value of a number. -/
def float? (lexeme : List Char) : Option Binary64 :=
  (Literal.binary64? lexeme).filter Binary64.isFinite

/-- The decimal value of a number. -/
def decimal? (lexeme : List Char) : Option Decimal :=
  match integer? lexeme with
  | some i => Decimal.make? (decide (i < 0)) i.natAbs 0
  | none => (float? lexeme).bind fun x => Decimal.plain? (Layout.plain.text x)

/-- Floating-point numbers in documents. -/
def floatLayout : Layout where
  whole := ['.', '0']
  written := some (-4, 16)
  tie := .even

/-- A floating-point number as a document. -/
def ofFloat (x : Binary64) : Json :=
  if x.isFinite then .number (floatLayout.text x) else .null

/-- An integer as a document. -/
def ofInteger (i : Int) : Json :=
  .number (Text.integer i)

end QueryCriteria.Json
