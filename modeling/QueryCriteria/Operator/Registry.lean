import QueryCriteria.Operator.Basic
import QueryCriteria.Settings.Basic

/-!
# The operator registry

* `Registry` — operators bound to names in capitals, with the settings and the current instant.
* `Registry.register` — binds operators: a built-in one under all its names, a range under its
  given name only.  A name bound again belongs to the later operator.
* `Registry.get?` — the operator bound to a name, case not counting.
* `Registry.lookup` — the operator for a field: the bound one first, a range among them read anew
  for the field; for numeric and temporal fields the name itself is read as range text otherwise.
* `Registry.aliases` — the bound names in order.
-/

namespace QueryCriteria

/-- Operators by name, with what relative dates are resolved against. -/
structure Registry where
  settings : Settings
  now : DateTime
  /-- The operators by their names in capitals, each name once. -/
  bindings : List (String × Operator)
  deriving DecidableEq, Repr

namespace Registry

/-- The registry without operators. -/
def empty (settings : Settings) (now : DateTime) : Registry :=
  ⟨settings, now, []⟩

/-- The names an operator is bound under. -/
def registrationNames : Operator → List String
  | .builtin b => b.names
  | .range r => r.givenName.toList

/-- Bindings with one more; a key that is bound already keeps its place. -/
def bind (key : String) (op : Operator) : List (String × Operator) → List (String × Operator)
  | [] => [(key, op)]
  | (k, o) :: rest => if k = key then (key, op) :: rest else (k, o) :: bind key op rest

/-- The registry with an operator bound to each of its names. -/
def add (r : Registry) (op : Operator) : Registry :=
  { r with
    bindings := (registrationNames op).foldl
      (fun bindings name => bind (Text.upper name) op bindings) r.bindings }

/-- The registry with some operators added, one after the other. -/
def register (r : Registry) (ops : List Operator) : Registry :=
  ops.foldl add r

/-- The registry of the built-in operators. -/
def standard (settings : Settings) (now : DateTime) : Registry :=
  (empty settings now).register (Builtin.all.map .builtin)

/-- The operator bound to a name. -/
def get? (r : Registry) (name : String) : Option Operator :=
  r.bindings.lookup (Text.upper name)

/-- What relative dates are resolved against. -/
def context (r : Registry) : Context :=
  ⟨r.now, r.settings.weekStart⟩

/-- The operator that a name means for a field of type `ty`, if it means one. -/
def lookup (r : Registry) (name : String) (ty : FieldType) :
    Except OperatorError (Option Operator) :=
  match r.get? name with
  | some (.builtin b) => .ok (some (.builtin b))
  | some (.range range) => (range.resolveFor ty r.context).map (·.map .range)
  | none =>
    if ty.takesRanges then (Range.parse name ty r.context).map (·.map .range) else .ok none

/-- The bound names, by code point. -/
def aliases (r : Registry) : List String :=
  (r.bindings.map (·.1)).mergeSort

/-- One line about the registry, for logs. -/
def summary (r : Registry) : String :=
  let settings := r.settings
  let count := r.bindings.length
  let week := settings.weekStart.short
  let collision := settings.collision.display
  s!"OperatorRegistry \x7b aliases: {count}, config: EngineConfig \x7b week_start: {week}, " ++
    s!"alias_collision: {collision}, debug: {settings.debug} \x7d, .. \x7d"

end Registry

end QueryCriteria
