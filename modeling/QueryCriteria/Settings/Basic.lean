import QueryCriteria.Time.Calendar

/-!
# Settings

* `CollisionPolicy` — how a registry reports a name that is bound again.  The later binding wins
  either way.
* `Settings` — the day weeks begin on, the collision policy, and whether lookups are traced.
-/

namespace QueryCriteria

/-- How a name that is bound again is reported. -/
inductive CollisionPolicy where
  | overwrite
  | warn
  deriving DecidableEq, Repr

/-- The settings of the engine; weeks begin on Monday unless they say otherwise. -/
structure Settings where
  weekStart : Weekday := .mon
  collision : CollisionPolicy := .overwrite
  debug : Bool := false
  deriving DecidableEq, Repr

namespace CollisionPolicy

/-- All policies. -/
def all : List CollisionPolicy := [.overwrite, .warn]

/-- The name in settings text. -/
def name : CollisionPolicy → String
  | .overwrite => "overwrite"
  | .warn => "warn"

/-- The name for readers. -/
def display : CollisionPolicy → String
  | .overwrite => "Overwrite"
  | .warn => "Warn"

end CollisionPolicy

end QueryCriteria
