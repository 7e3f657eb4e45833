import QueryCriteria.Value.Basic

/-!
# Predicates

* `Accessor` — where a predicate reads: the row itself or a named field of it.
* `Comparison` — the comparisons, with their number and symbol.
* `Param` — a criterion value with the position it was supplied at.  Values stand in a tree only
  as parameters, so that a query translator can bind them.
* `Predicate` — the tree of a condition.
* `Predicate.conjunction`, `Predicate.disjunction` — the connectives without their trivial
  forms: one child stands for itself, and no child of a conjunction is `always`.
* `Predicate.params` — the parameters in tree order.
-/

namespace QueryCriteria

/-- Where a predicate reads its left operand. -/
inductive Accessor where
  /-- The row itself is the value. -/
  | identity
  /-- A named field of the row. -/
  | field (name : String)
  deriving DecidableEq, Repr

/-- The comparisons a predicate may make. -/
inductive Comparison where
  | eq
  | lt
  | lte
  | gt
  | gte
  | contains
  | startsWith
  deriving DecidableEq, Repr

namespace Comparison

/-- All comparisons, by number. -/
def all : List Comparison := [.eq, .lt, .lte, .gt, .gte, .contains, .startsWith]

/-- The number of a comparison. -/
def tag : Comparison → Nat
  | .eq => 1
  | .lt => 2
  | .lte => 3
  | .gt => 4
  | .gte => 5
  | .contains => 6
  | .startsWith => 7

/-- The symbol of a comparison. -/
def symbol : Comparison → String
  | .eq => "="
  | .lt => "<"
  | .lte => "<="
  | .gt => ">"
  | .gte => ">="
  | .contains => "CONTAINS"
  | .startsWith => "STARTS WITH"

end Comparison

/-- A criterion value and the position it was supplied at. -/
structure Param where
  slot : Nat
  value : Value
  deriving DecidableEq, Repr

/-- A condition on a row. -/
inductive Predicate where
  /-- Holds of every row. -/
  | always
  | all (children : List Predicate)
  | any (children : List Predicate)
  | not (child : Predicate)
  | compare (accessor : Accessor) (op : Comparison) (param : Param)
  | isNull (accessor : Accessor)
  deriving Repr

namespace Predicate

/-- The conjunction of some predicates. -/
def conjunction : List Predicate → Predicate
  | [] => .always
  | [p] => p
  | ps => .all ps

/-- The disjunction of some predicates. -/
def disjunction : List Predicate → Predicate
  | [p] => p
  | ps => .any ps

/-- Whether the predicate is the trivial one. -/
def isAlways : Predicate → Bool
  | .always => true
  | _ => false

mutual

/-- The parameters in tree order. -/
def params : Predicate → List Param
  | .always => []
  | .all children => paramsOfAll children
  | .any children => paramsOfAll children
  | .not child => child.params
  | .compare _ _ param => [param]
  | .isNull _ => []

/-- The parameters of some predicates, one after the other. -/
def paramsOfAll : List Predicate → List Param
  | [] => []
  | p :: ps => p.params ++ paramsOfAll ps

end

end Predicate

end QueryCriteria
