import QueryCriteria.Operator.Builtin
import QueryCriteria.Range.Parse

/-!
# Operators

* `Operator` — a built-in operator or a range.
* `Operator.build` — the operator as a predicate whose parameters are the criterion values.
* `Operator.admits` — the operator applied to a value directly.

Both refuse a list with fewer values than the operator needs, and agree on every row otherwise.
-/

namespace QueryCriteria

/-- An operator of a criterion. -/
inductive Operator where
  | builtin (b : Builtin)
  | range (r : Range)
  deriving DecidableEq, Repr

namespace Operator

/-- All names of an operator, the one it goes by first. -/
def names : Operator → List String
  | .builtin b => b.names
  | .range r => r.names

/-- The name an operator goes by. -/
def canonicalName : Operator → String
  | .builtin b => b.canonicalName
  | .range r => r.canonicalName

/-- The number of criterion values an operator needs; a range brings its own. -/
def arity : Operator → Arity
  | .builtin b => b.arity
  | .range _ => .fixed 0

/-- Whether an operator is a negation. -/
def negated : Operator → Bool
  | .builtin b => b.negated
  | .range _ => false

/-- Refuses a number of values that is too small. -/
def checkArity (op : Operator) (supplied : Nat) : Except OperatorError Unit :=
  if supplied < op.arity.required then
    .error (.arity op.canonicalName op.arity.required supplied)
  else .ok ()

/-- The operator as a predicate over an accessor. -/
def build (op : Operator) (accessor : Accessor) (criteria : List Value) :
    Except OperatorError Predicate :=
  (op.checkArity criteria.length).map fun _ =>
    match op with
    | .builtin b => b.build accessor criteria
    | .range r => r.build accessor

/-- Whether a value satisfies the operator. -/
def admits (op : Operator) (v : Value) (criteria : List Value) : Except OperatorError Bool :=
  (op.checkArity criteria.length).map fun _ =>
    match op with
    | .builtin b => b.admits v criteria
    | .range r => r.contains v

end Operator

end QueryCriteria
