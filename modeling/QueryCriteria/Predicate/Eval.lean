import QueryCriteria.Predicate.Basic
import QueryCriteria.Value.Order

/-!
# Evaluation of predicates

* `Row` — what a predicate sees of a row: its named fields and, for a bare value, the value.
* `Row.read` — the value behind an accessor.  What is missing reads as `null`, so that a negated
  comparison stays the exact complement of the positive one.
* `Comparison.holds` — one comparison; an undefined one does not hold.
* `Predicate.holds` — the value of a predicate on a row, by recursion over the tree.
-/

namespace QueryCriteria

/-- The fields and the bare value that a row shows. -/
structure Row where
  field : String → Option Value
  identity : Option Value

namespace Row

/-- A row of named fields; of a name given twice, the first counts. -/
def ofFields (fields : List (String × Value)) : Row where
  field name := fields.lookup name
  identity := none

/-- A row that is a bare value. -/
def ofValue (v : Value) : Row where
  field _ := none
  identity := some v

/-- The value behind an accessor. -/
def read (row : Row) : Accessor → Value
  | .identity => row.identity.getD .null
  | .field name => (row.field name).getD .null

end Row

/-- Whether a comparison holds between a value and a criterion. -/
def Comparison.holds (op : Comparison) (actual expected : Value) : Bool :=
  match op with
  | .eq => actual.equal expected
  | .lt => (actual.order expected).any (·.isLT)
  | .lte => (actual.order expected).any (·.isLE)
  | .gt => (actual.order expected).any (·.isGT)
  | .gte => (actual.order expected).any (·.isGE)
  | .contains => (actual.contains expected).getD false
  | .startsWith => (actual.startsWith expected).getD false

namespace Predicate

mutual

/-- Whether a row satisfies a predicate. -/
def holds (row : Row) : Predicate → Bool
  | .always => true
  | .all children => allHold row children
  | .any children => anyHolds row children
  | .not child => !holds row child
  | .compare accessor op param => op.holds (row.read accessor) param.value
  | .isNull accessor => (row.read accessor).isNull

/-- Whether a row satisfies every one of some predicates. -/
def allHold (row : Row) : List Predicate → Bool
  | [] => true
  | p :: ps => holds row p && allHold row ps

/-- Whether a row satisfies at least one of some predicates. -/
def anyHolds (row : Row) : List Predicate → Bool
  | [] => false
  | p :: ps => holds row p || anyHolds row ps

end

theorem allHold_eq_all (row : Row) (ps : List Predicate) :
    allHold row ps = ps.all (holds row) := by
  induction ps with
  | nil => rfl
  | cons p ps ih => simp [allHold, ih]

theorem anyHolds_eq_any (row : Row) (ps : List Predicate) :
    anyHolds row ps = ps.any (holds row) := by
  induction ps with
  | nil => rfl
  | cons p ps ih => simp [anyHolds, ih]

end Predicate

end QueryCriteria
