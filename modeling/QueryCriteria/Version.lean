/-!
# Version

* `version` — the version of the library, as shown to its callers.
-/

namespace QueryCriteria

/-- The version of the library. -/
def version : String := "0.4.0"

end QueryCriteria
