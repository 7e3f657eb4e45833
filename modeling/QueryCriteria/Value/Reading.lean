import QueryCriteria.Number.Literal
import QueryCriteria.Value.Basic

/-!
# Values from text

* `Scalar` — the plain types that values are made from: integers of some width, floating-point
  numbers of two precisions, and the types of the other kinds of value.
* `Scalar.read?` — the value that a text stands for as one of them.
-/

namespace QueryCriteria

/-- A plain type that values are made from. -/
inductive Scalar where
  | bool
  | signed (bits : Nat)
  | unsigned (bits : Nat)
  /-- Floating-point numbers of 32 bits, widened. -/
  | single
  | double
  | decimal
  | text
  | date
  | dateTime
  deriving DecidableEq, Repr

/-- The value that a text stands for. -/
def Scalar.read? (kind : Scalar) (s : String) : Option Value :=
  let cs := s.toList
  match kind with
  | .bool => if s = "true" then some (.bool true) else if s = "false" then some (.bool false) else none
  | .signed bits =>
    let limit : Int := twoTo (bits - 1)
    (Literal.bounded? (-limit) (limit - 1) cs).map fun i => .int (Int64.ofInt i)
  | .unsigned bits =>
    (Literal.bounded? 0 ((twoTo bits : Int) - 1) cs).map fun i => .uint (UInt64.ofNat i.toNat)
  | .single => (Literal.binary32? cs).map .float
  | .double => (Literal.binary64? cs).map .float
  | .decimal => (Decimal.ofText? cs).map .decimal
  | .text => some (.text s)
  | .date => (Date.ofText? cs).map .date
  | .dateTime => (DateTime.ofText? cs).map .dateTime

end QueryCriteria
