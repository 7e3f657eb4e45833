import QueryCriteria.Predicate.Eval
import QueryCriteria.Text.Case

/-!
# Built-in operators

* `Arity` — how many criterion values an operator needs.
* `Rule` — the matching rules.
* `Builtin` — the table of operators: a rule, whether it is negated, and its names, the canonical
  one first.
* `Builtin.find?` — the operator that answers to a name, the case of ASCII letters not counting.
* `Builtin.build` — the operator as a predicate over an accessor.
* `Builtin.admits` — the operator applied to a value directly.

Criteria that hold no value at all exclude nothing: an operator that reads values is then true
of every row, negated or not.
-/

namespace QueryCriteria

/-- The number of criterion values an operator needs. -/
inductive Arity where
  | fixed (count : Nat)
  | unbounded
  deriving DecidableEq, Repr

namespace Arity

/-- The least number of values to supply. -/
def required : Arity → Nat
  | .fixed count => count
  | .unbounded => 0

/-- Whether the operator reads no values. -/
def isNullary (a : Arity) : Bool :=
  a == .fixed 0

/-- The text for readers. -/
def display : Arity → String
  | .fixed count => String.ofList (Text.digits count)
  | .unbounded => "unbounded"

end Arity

/-- The matching rules. -/
inductive Rule where
  | equal
  | oneOf
  | contains
  | startsWith
  | lessThan
  | lessOrEqual
  | greaterThan
  | greaterOrEqual
  | between
  | isNull
  deriving DecidableEq, Repr

/-- The built-in operators. -/
inductive Builtin where
  | equal
  | notEqual
  | oneOf
  | notOneOf
  | contains
  | notContains
  | startsWith
  | notStartsWith
  | lessThan
  | lessOrEqual
  | greaterThan
  | greaterOrEqual
  | between
  | notBetween
  | isNull
  | isNotNull
  deriving DecidableEq, Repr

namespace Rule

/-- The number of criterion values a rule reads. -/
def arity : Rule → Arity
  | .isNull => .fixed 0
  | .oneOf => .unbounded
  | .between => .fixed 2
  | _ => .fixed 1

/-- The name of a rule. -/
def name : Rule → String
  | .equal => "Equal"
  | .oneOf => "OneOf"
  | .contains => "Contains"
  | .startsWith => "StartsWith"
  | .lessThan => "LessThan"
  | .lessOrEqual => "LessOrEqual"
  | .greaterThan => "GreaterThan"
  | .greaterOrEqual => "GreaterOrEqual"
  | .between => "Between"
  | .isNull => "IsNull"

end Rule

/-- The criterion value at a position; a missing one reads as `null`. -/
def criterion (values : List Value) (slot : Nat) : Value :=
  values.getD slot .null

namespace Builtin

/-- All operators, in the order of their registration. -/
def all : List Builtin :=
  [.equal, .notEqual, .oneOf, .notOneOf, .contains, .notContains, .startsWith, .notStartsWith,
   .lessThan, .lessOrEqual, .greaterThan, .greaterOrEqual, .between, .notBetween, .isNull,
   .isNotNull]

/-- The rule of an operator. -/
def rule : Builtin → Rule
  | .equal | .notEqual => .equal
  | .oneOf | .notOneOf => .oneOf
  | .contains | .notContains => .contains
  | .startsWith | .notStartsWith => .startsWith
  | .lessThan => .lessThan
  | .lessOrEqual => .lessOrEqual
  | .greaterThan => .greaterThan
  | .greaterOrEqual => .greaterOrEqual
  | .between | .notBetween => .between
  | .isNull | .isNotNull => .isNull

/-- Whether an operator is the negation of its rule. -/
def negated : Builtin → Bool
  | .notEqual | .notOneOf | .notContains | .notStartsWith | .notBetween | .isNotNull => true
  | _ => false

/-- The name an operator goes by. -/
def canonicalName : Builtin → String
  | .equal => "EQ"
  | .notEqual => "NEQ"
  | .oneOf => "IN"
  | .notOneOf => "NotIn"
  | .contains => "Contains"
  | .notContains => "NotContains"
  | .startsWith => "StartsWith"
  | .notStartsWith => "NotStartWith"
  | .lessThan => "LT"
  | .lessOrEqual => "LE"
  | .greaterThan => "GT"
  | .greaterOrEqual => "GE"
  | .between => "Between"
  | .notBetween => "NotBetween"
  | .isNull => "IsNull"
  | .isNotNull => "IsNotNull"

/-- The other names of an operator. -/
def otherNames : Builtin → List String
  | .equal => ["=", "==", "Equals", "EqualTo"]
  | .notEqual => ["!=", "<>", "NE", "NotEquals", "NotEqualTo"]
  | .oneOf => ["OneOf", "AnyOf"]
  | .notOneOf => ["NIN", "NotOneOf", "NoneOf"]
  | .contains => ["CONT", "Like"]
  | .notContains => ["NCONT", "NotLike", "DoesNotContain"]
  | .startsWith => ["SW", "BeginsWith"]
  | .notStartsWith => ["NSW", "NotStartsWith", "NotBeginWith"]
  | .lessThan => ["<", "LessThan"]
  | .lessOrEqual => ["<=", "LTE", "LessOrEqual", "LessThanOrEqual"]
  | .greaterThan => [">", "GreaterThan"]
  | .greaterOrEqual => [">=", "GTE", "GreaterOrEqual", "GreaterThanOrEqual"]
  | .between => ["BW"]
  | .notBetween => ["NBW"]
  | .isNull => ["NULL"]
  | .isNotNull => ["NotNull", "NNULL"]

/-- All names of an operator, the one it goes by first. -/
def names (b : Builtin) : List String :=
  b.canonicalName :: b.otherNames

/-- The number of criterion values an operator needs. -/
def arity (b : Builtin) : Arity :=
  b.rule.arity

/-- The operator that answers to a name. -/
def find? (name : String) : Option Builtin :=
  all.find? fun b => b.names.any (Text.sameCaseless · name)

/-- Whether the criteria hold no value for an operator that reads some. -/
def passesThrough (b : Builtin) (criteria : List Value) : Bool :=
  !b.arity.isNullary && Value.allNull criteria

/-- The parameter at a position. -/
def param (criteria : List Value) (slot : Nat) : Param :=
  ⟨slot, criterion criteria slot⟩

/-- The conditions of `between`; a blank end puts none. -/
def betweenConditions (accessor : Accessor) (criteria : List Value) : List Predicate :=
  let condition (op : Comparison) (slot : Nat) : List Predicate :=
    if (criterion criteria slot).isNull then [] else [.compare accessor op (param criteria slot)]
  condition .gte 0 ++ condition .lte 1

/-- The conditions of `oneOf`, one for each criterion. -/
def memberConditions (accessor : Accessor) (criteria : List Value) : List Predicate :=
  criteria.zipIdx.map fun (v, slot) => .compare accessor .eq ⟨slot, v⟩

end Builtin

/-- A rule as a predicate. -/
def Rule.build (rule : Rule) (accessor : Accessor) (criteria : List Value) : Predicate :=
  let single (op : Comparison) : Predicate := .compare accessor op (Builtin.param criteria 0)
  match rule with
  | .equal => single .eq
  | .oneOf => .disjunction (Builtin.memberConditions accessor criteria)
  | .contains => single .contains
  | .startsWith => single .startsWith
  | .lessThan => single .lt
  | .lessOrEqual => single .lte
  | .greaterThan => single .gt
  | .greaterOrEqual => single .gte
  | .between => .conjunction (Builtin.betweenConditions accessor criteria)
  | .isNull => .isNull accessor

/-- Whether a value satisfies a rule. -/
def Rule.admits (rule : Rule) (v : Value) (criteria : List Value) : Bool :=
  let first := criterion criteria 0
  match rule with
  | .equal => v.equal first
  | .oneOf => criteria.any (v.equal ·)
  | .contains => (v.contains first).getD false
  | .startsWith => (v.startsWith first).getD false
  | .lessThan => v.order first == some .lt
  | .lessOrEqual => (v.order first).any (· != .gt)
  | .greaterThan => v.order first == some .gt
  | .greaterOrEqual => (v.order first).any (· != .lt)
  | .between =>
    let second := criterion criteria 1
    (first.isNull || (v.order first).any (· != .lt)) &&
      (second.isNull || (v.order second).any (· != .gt))
  | .isNull => v.isNull

namespace Builtin

/-- The operator as a predicate over an accessor. -/
def build (b : Builtin) (accessor : Accessor) (criteria : List Value) : Predicate :=
  if b.passesThrough criteria then .always
  else if b.negated then .not (b.rule.build accessor criteria)
  else b.rule.build accessor criteria

/-- Whether a value satisfies the operator. -/
def admits (b : Builtin) (v : Value) (criteria : List Value) : Bool :=
  b.passesThrough criteria || b.rule.admits v criteria != b.negated

end Builtin

end QueryCriteria
