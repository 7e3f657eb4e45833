import QueryCriteria.Value.Order

/-!
# Criterion records

* `Criterion` — what a group hands on for one field: the name of an operator and the values it
  reads, in slot order.
* `Sentence` — a criterion for readers: label, operator text and the texts of the values.
* `Sentence.text` — the sentence written out.  The two ends of an interval are joined by a word,
  other values by commas.
-/

namespace QueryCriteria

/-- The record of a criterion. -/
structure Criterion where
  field : String
  operator : String
  values : List Value
  deriving DecidableEq, Repr

namespace Criterion

/-- The record without names and values. -/
def blank : Criterion := ⟨"", "", []⟩

/-- Whether two records agree, their values being the same. -/
def same (a b : Criterion) : Bool :=
  a.field == b.field && a.operator == b.operator && Value.sameAll a.values b.values

end Criterion

/-- A criterion for readers. -/
structure Sentence where
  field : String
  label : String
  operator : String
  values : List String
  /-- The word between the ends of an interval. -/
  joiner : String
  /-- Whether the values are the two ends of an interval. -/
  interval : Bool
  deriving DecidableEq, Repr

namespace Sentence

/-- The usual word between the ends of an interval. -/
def standardJoiner : String := "and"

/-- The sentence written out. -/
def text (s : Sentence) : String :=
  let opening := s.label ++ " " ++ s.operator
  match s.values with
  | [] => opening
  | [lower, upper] =>
    if s.interval then opening ++ " " ++ lower ++ " " ++ s.joiner ++ " " ++ upper
    else opening ++ " " ++ ", ".intercalate [lower, upper]
  | values => opening ++ " " ++ ", ".intercalate values

end Sentence

end QueryCriteria
