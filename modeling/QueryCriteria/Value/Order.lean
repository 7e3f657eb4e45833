import QueryCriteria.Value.Basic

/-!
# Comparing values

* `Value.order` — the order behind every comparison: truth values, texts, codes and times with
  their own kind, numbers across all four representations, and a date as its midnight beside a
  date-time.  It is undefined beside `null`, between kinds, and for a floating-point number that
  is not a number.
* `Value.equal` — equality for matching: `null` equals only `null`, and what has an order is
  equal when it is level.
* `Value.same` — equality of representation: one kind on both sides, numbers by value.
* `Value.contains`, `Value.startsWith` — the text tests, defined between texts and codes.

Two exact numbers compare exactly; a number beside a floating-point number is compared as one.
-/

namespace QueryCriteria.Value

/-- A number, exact or floating-point. -/
inductive Numeric where
  | exact (d : Decimal)
  | float (x : Binary64)
  deriving DecidableEq, Repr

/-- The floating-point form of a number. -/
def Numeric.toFloat : Numeric → Binary64
  | .exact d => d.toBinary64
  | .float x => x

/-- The order of two numbers. -/
def Numeric.order : Numeric → Numeric → Option Ordering
  | .exact a, .exact b => some (a.order b)
  | a, b => a.toFloat.order b.toFloat

/-- The number that a value holds. -/
def numeric : Value → Option Numeric
  | .int i => some (.exact (.ofInt64 i))
  | .uint n => some (.exact (.ofUInt64 n))
  | .decimal d => some (.exact d)
  | .float x => some (.float x)
  | _ => none

/-- The order of two values, where it is defined. -/
def order (a b : Value) : Option Ordering :=
  match a, b with
  | .bool a, .bool b => some (compare a b)
  | .text a, .text b => some (compare a b)
  | .enum a, .enum b => some (compare a b)
  | .date a, .date b => some (compare a.number b.number)
  | .dateTime a, .dateTime b => some (a.order b)
  | .date a, .dateTime b => some ((DateTime.midnight a).order b)
  | .dateTime a, .date b => some (a.order (DateTime.midnight b))
  | a, b =>
    match a.numeric, b.numeric with
    | some x, some y => x.order y
    | _, _ => none

/-- Whether two values have the same representation and value.  Not-a-number differs from
itself; decimals of different scale may be the same. -/
def same (a b : Value) : Bool :=
  match a, b with
  | .float a, .float b => a.sameNumber b
  | .decimal a, .decimal b => a.sameNumber b
  | a, b => a == b

/-- Whether two values are equal for matching. -/
def equal (a b : Value) : Bool :=
  match a, b with
  | .null, .null => true
  | .null, _ => false
  | _, .null => false
  | a, b =>
    match a.order b with
    | some o => o == .eq
    | none => a.same b

/-- Whether two lists of values agree member by member. -/
def sameAll : List Value → List Value → Bool
  | [], [] => true
  | a :: as, b :: bs => a.same b && sameAll as bs
  | _, _ => false

/-! ## Text tests -/

/-- Whether one text occurs in another. -/
def occursIn (needle : List Char) : List Char → Bool
  | [] => needle.isEmpty
  | c :: rest => needle.isPrefixOf (c :: rest) || occursIn needle rest

/-- Whether the text of `needle` occurs in that of `hay`, case counting. -/
def contains (hay needle : Value) : Option Bool :=
  match hay.asText, needle.asText with
  | some h, some n => some (occursIn n.toList h.toList)
  | _, _ => none

/-- Whether the text of `hay` begins with that of `start`, case counting. -/
def startsWith (hay start : Value) : Option Bool :=
  match hay.asText, start.asText with
  | some h, some s => some (s.toList.isPrefixOf h.toList)
  | _, _ => none

end QueryCriteria.Value
