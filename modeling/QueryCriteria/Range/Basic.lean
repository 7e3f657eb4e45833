import QueryCriteria.Predicate.Basic
import QueryCriteria.Value.FieldType
import QueryCriteria.Value.Order

/-!
# Ranges

* `Bound` — one end of an interval, which belongs to it or not.  A missing end is the absence of
  a bound, never an excluded one.
* `Range` — an interval of values with the text it was read from, if it was, and an optional name
  it can be registered under.
* `Range.contains` — whether a value lies in the interval.
* `Range.build` — the same as a predicate: the lower end is parameter 0, the upper parameter 1.
-/

namespace QueryCriteria

/-- One end of an interval. -/
structure Bound where
  value : Value
  inclusive : Bool
  deriving DecidableEq, Repr

namespace Bound

/-- Whether a value lies on the upper side of a lower end. -/
def admitsAbove (b : Bound) (v : Value) : Bool :=
  (v.order b.value).any fun o => if b.inclusive then o.isGE else o == .gt

/-- Whether a value lies on the lower side of an upper end. -/
def admitsBelow (b : Bound) (v : Value) : Bool :=
  (v.order b.value).any fun o => if b.inclusive then o.isLE else o == .lt

/-- The comparison with a lower end. -/
def lowerComparison (b : Bound) : Comparison :=
  if b.inclusive then .gte else .gt

/-- The comparison with an upper end. -/
def upperComparison (b : Bound) : Comparison :=
  if b.inclusive then .lte else .lt

end Bound

/-- An interval of values. -/
structure Range where
  /-- The text of the range. -/
  text : String
  /-- The name given for registration. -/
  givenName : Option String
  /-- The field type the text was read for; none for a range put together by hand. -/
  parsedFor : Option FieldType
  lower : Option Bound
  upper : Option Bound
  deriving DecidableEq, Repr

namespace Range

/-- A range put together by hand. -/
def make (text : String) (lower upper : Option Bound) : Range where
  text := text
  givenName := none
  parsedFor := none
  lower := lower
  upper := upper

/-- The range under a name for registration. -/
def named (r : Range) (name : String) : Range :=
  { r with givenName := some name }

/-- The name a range goes by: its given one, or else its text. -/
def canonicalName (r : Range) : String :=
  r.givenName.getD r.text

/-- All names of a range, the one it goes by first. -/
def names (r : Range) : List String :=
  r.givenName.toList ++ [r.text]

/-- The ends that a range has. -/
def bounds (r : Range) : List Bound :=
  r.lower.toList ++ r.upper.toList

/-- Whether a range has no ends. -/
def isUnbounded (r : Range) : Bool :=
  r.lower.isNone && r.upper.isNone

/-- Whether a value lies in the interval. -/
def contains (r : Range) (v : Value) : Bool :=
  r.lower.all (·.admitsAbove v) && r.upper.all (·.admitsBelow v)

/-- The conditions that the ends put on a value, the lower one first. -/
def conditions (r : Range) (accessor : Accessor) : List Predicate :=
  (r.lower.map fun b => Predicate.compare accessor b.lowerComparison ⟨0, b.value⟩).toList ++
    (r.upper.map fun b => Predicate.compare accessor b.upperComparison ⟨1, b.value⟩).toList

/-- The interval as a predicate. -/
def build (r : Range) (accessor : Accessor) : Predicate :=
  .conjunction (r.conditions accessor)

end Range

end QueryCriteria
