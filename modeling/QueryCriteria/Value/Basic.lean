import QueryCriteria.Number.Decimal
import QueryCriteria.Number.Shortest
import QueryCriteria.Time.Iso

/-!
# Values

* `Value` — what a field may hold: nothing (`null`), a truth value, a number in one of four
  representations, text, an enumerated code, a date or a date-time.
* `Value.allNull` — whether a list holds nothing but nulls; the empty list does.
* `Value.display` — the text of a value for readers.  Floating-point numbers are written without
  exponent, and whole ones without point.
-/

namespace QueryCriteria

/-- The value of a field, or of a criterion. -/
inductive Value where
  /-- The field holds no value. -/
  | null
  | bool (b : Bool)
  | int (i : Int64)
  | uint (n : UInt64)
  | float (x : Binary64)
  | decimal (d : Decimal)
  | text (s : String)
  /-- A code of an enumeration. -/
  | enum (code : String)
  | date (d : Date)
  | dateTime (t : DateTime)
  deriving DecidableEq, Repr

namespace Value

/-- Whether the value is absent. -/
def isNull : Value → Bool
  | .null => true
  | _ => false

/-- Whether every value of a list is absent. -/
def allNull (values : List Value) : Bool :=
  values.all isNull

/-- The characters of a text or a code. -/
def asText : Value → Option String
  | .text s => some s
  | .enum code => some code
  | _ => none

/-- The text of a value for readers; an absent value has none. -/
def display : Value → String
  | .null => ""
  | .bool b => if b then "true" else "false"
  | .int i => String.ofList (Text.integer i.toInt)
  | .uint n => String.ofList (Text.digits n.toNat)
  | .float x => String.ofList (Layout.plain.text x)
  | .decimal d => String.ofList d.text
  | .text s => s
  | .enum code => code
  | .date d => String.ofList d.text
  | .dateTime t => String.ofList t.display

end Value

end QueryCriteria
