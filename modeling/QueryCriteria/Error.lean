/-!
# Errors

* `OperatorError` — what goes wrong when an operator is applied or a relative date resolved.
* `GroupError` — what goes wrong when a criteria group is edited or asked for its predicate.
* `Error` — any error, with settings text that could not be read as the third source.
* `Error.category` — who is at fault: the caller, the engine itself, or the settings.
-/

namespace QueryCriteria

/-- Why an operator could not be applied. -/
inductive OperatorError where
  /-- Fewer criterion values than the operator needs. -/
  | arity (operator : String) (required supplied : Nat)
  /-- A relative date names a period that does not exist. -/
  | invalidPeriod (code input : String)
  /-- A relative date leaves the calendar. -/
  | offsetOutOfRange (input : String)
  deriving DecidableEq, Repr

/-- Why a criteria group refused an edit or a predicate. -/
inductive GroupError where
  | notApplicable (field operator : String)
  | noSelector (field : String)
  | fieldMismatch (expected actual : String)
  | operator (cause : OperatorError)
  deriving DecidableEq, Repr

/-- Any error of the engine. -/
inductive Error where
  | operator (cause : OperatorError)
  | group (cause : GroupError)
  /-- Settings or catalog text that could not be read. -/
  | settings
  deriving DecidableEq, Repr

/-- Who is at fault. -/
inductive ErrorCategory where
  /-- The caller broke the contract of an operator or a selection. -/
  | argument
  /-- The engine accepted what it cannot handle. -/
  | invariant
  /-- The settings could not be loaded. -/
  | settings
  deriving DecidableEq, Repr

namespace OperatorError

/-- The wording of an error. -/
def message : OperatorError → String
  | .arity name required supplied =>
    s!"operator '{name}' requires {required} value(s), {supplied} supplied"
  | .invalidPeriod code input => s!"invalid period code '{code}' in relative date '{input}'"
  | .offsetOutOfRange input =>
    s!"relative date '{input}' resolves outside the supported calendar range"

/-- Who is at fault. -/
def category : OperatorError → ErrorCategory
  | .arity .. | .offsetOutOfRange _ => .argument
  | .invalidPeriod .. => .invariant

end OperatorError

namespace GroupError

/-- The wording of an error. -/
def message : GroupError → String
  | .notApplicable field name =>
    s!"operator '{name}' is not applicable to field '{field}'"
  | .noSelector field => s!"field '{field}' has no operator selector"
  | .fieldMismatch expected actual =>
    s!"criteria for field '{actual}' cannot be applied to field '{expected}'"
  | .operator cause => cause.message

/-- Who is at fault. -/
def category : GroupError → ErrorCategory
  | .notApplicable .. | .noSelector _ | .fieldMismatch .. => .argument
  | .operator cause => cause.category

end GroupError

namespace Error

/-- The wording of an error. -/
def message : Error → String
  | .operator cause => cause.message
  | .group cause => cause.message
  | .settings => "invalid engine configuration"

/-- Who is at fault. -/
def category : Error → ErrorCategory
  | .operator cause => cause.category
  | .group cause => cause.category
  | .settings => .settings

end Error

end QueryCriteria
