import QueryCriteria.Value.Basic

/-!
# Field types

* `FieldType` — the declared type of a field, one per kind of value.
* `Capability` — a family of types that an operator may ask for.  A type has its own family
  first and every broader one after it; codes of an enumeration also count as text.
* `FieldType.accepts` — whether a field may hold a value; `null` it always may.
* `FieldType.takesRanges` — whether range text may be read for the type.
-/

namespace QueryCriteria

/-- A family of field types. -/
inductive Capability where
  | boolean
  | integer
  | numeric
  | text
  | enumerated
  | date
  | dateTime
  | temporal
  deriving DecidableEq, Repr

/-- The declared type of a field. -/
inductive FieldType where
  | bool
  | int
  | uint
  | float
  | decimal
  | text
  | enum
  | date
  | dateTime
  deriving DecidableEq, Repr

namespace Capability

/-- All families. -/
def all : List Capability :=
  [.boolean, .integer, .numeric, .text, .enumerated, .date, .dateTime, .temporal]

/-- The name for readers. -/
def display : Capability → String
  | .boolean => "Boolean"
  | .integer => "Integer"
  | .numeric => "Numeric"
  | .text => "Text"
  | .enumerated => "Enumerated"
  | .date => "Date"
  | .dateTime => "DateTime"
  | .temporal => "Temporal"

/-- The name in records and catalogs. -/
def name : Capability → String
  | .boolean => "boolean"
  | .integer => "integer"
  | .numeric => "numeric"
  | .text => "text"
  | .enumerated => "enumerated"
  | .date => "date"
  | .dateTime => "date_time"
  | .temporal => "temporal"

/-- The family with a name. -/
def ofName? (s : String) : Option Capability :=
  all.find? (·.name == s)

end Capability

namespace FieldType

/-- All types. -/
def all : List FieldType :=
  [.bool, .int, .uint, .float, .decimal, .text, .enum, .date, .dateTime]

/-- The name for readers. -/
def display : FieldType → String
  | .bool => "Bool"
  | .int => "Int"
  | .uint => "Uint"
  | .float => "Float"
  | .decimal => "Decimal"
  | .text => "Text"
  | .enum => "Enum"
  | .date => "Date"
  | .dateTime => "DateTime"

/-- The name in records. -/
def name : FieldType → String
  | .bool => "bool"
  | .int => "int"
  | .uint => "uint"
  | .float => "float"
  | .decimal => "decimal"
  | .text => "text"
  | .enum => "enum"
  | .date => "date"
  | .dateTime => "date_time"

/-- The type with a name. -/
def ofName? (s : String) : Option FieldType :=
  all.find? (·.name == s)

/-- The families of a type, the narrowest first. -/
def capabilities : FieldType → List Capability
  | .bool => [.boolean]
  | .int | .uint => [.integer, .numeric]
  | .float | .decimal => [.numeric]
  | .text => [.text]
  | .enum => [.enumerated, .text]
  | .date => [.date, .temporal]
  | .dateTime => [.dateTime, .temporal]

/-- Whether a type belongs to a family. -/
def has (ty : FieldType) (c : Capability) : Bool :=
  ty.capabilities.contains c

/-- Whether the values of a type are numbers. -/
def isNumeric : FieldType → Bool
  | .int | .uint | .float | .decimal => true
  | _ => false

/-- Whether the values of a type are points in time. -/
def isTemporal : FieldType → Bool
  | .date | .dateTime => true
  | _ => false

/-- Whether range text may be read for a type. -/
def takesRanges (ty : FieldType) : Bool :=
  ty.isNumeric || ty.isTemporal

end FieldType

/-- The type a value belongs to; `null` belongs to none. -/
def Value.fieldType : Value → Option FieldType
  | .null => none
  | .bool _ => some .bool
  | .int _ => some .int
  | .uint _ => some .uint
  | .float _ => some .float
  | .decimal _ => some .decimal
  | .text _ => some .text
  | .enum _ => some .enum
  | .date _ => some .date
  | .dateTime _ => some .dateTime

/-- Whether a field of a type may hold a value. -/
def FieldType.accepts (ty : FieldType) (v : Value) : Bool :=
  match v.fieldType with
  | none => true
  | some own => own == ty

end QueryCriteria
