/-!
# Fields of records

* `readOr` — reading of a field that may be absent.
* `inOrder` — the fields of a record that is written as a list, in the order of the record, the
  last of them possibly missing.  What a list holds beyond the record is left to the format.
-/

namespace QueryCriteria

/-- Reads a field, or takes a fallback where it is absent. -/
def readOr {α β : Type} (fallback : β) (read : α → Option β) : Option α → Option β
  | none => some fallback
  | some x => read x

/-- The fields of a record of `count` fields that is written as a list. -/
def inOrder {α : Type} (count : Nat) (items : List α) : List (Option α) :=
  (List.range count).map fun i => items[i]?

end QueryCriteria
