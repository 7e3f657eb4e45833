import QueryCriteria.Json.Access
import QueryCriteria.Value.FieldType

/-!
# Values in documents

* `Value.toJson`, `Value.ofJson?` — a value is an object whose one key names its kind; `null` is
  the bare name of its kind.  Decimals and times are strings.
* `FieldType.toJson`, `Capability.toJson` and their readers — names.
-/

namespace QueryCriteria

namespace Value

/-- A value of a named kind. -/
def tagged (kind : String) (content : Json) : Json :=
  .record [(kind, content)]

/-- The document of a value. -/
def toJson : Value → Json
  | .null => .ofString "Null"
  | .bool b => tagged "Bool" (.bool b)
  | .int i => tagged "Int" (.ofInteger i.toInt)
  | .uint n => tagged "Uint" (.ofInteger n.toNat)
  | .float x => tagged "Float" (.ofFloat x)
  | .decimal d => tagged "Decimal" (.ofString (String.ofList d.text))
  | .text s => tagged "Text" (.ofString s)
  | .enum code => tagged "Enum" (.ofString code)
  | .date d => tagged "Date" (.ofString (String.ofList d.text))
  | .dateTime t => tagged "DateTime" (.ofString (String.ofList t.text))

/-- The value of a kind with some content. -/
def ofTagged? (kind : String) (content : Json) : Option Value :=
  match kind with
  | "Null" => match content with
    | .null => some .null
    | _ => none
  | "Bool" => content.asBool?.map .bool
  | "Int" => (content.asInteger? leastInt64 greatestInt64).map fun i => .int (Int64.ofInt i)
  | "Uint" => (content.asInteger? 0 greatestUInt64).map fun i => .uint (UInt64.ofNat i.toNat)
  | "Float" => content.asFloat?.map .float
  | "Decimal" => content.asDecimal?.map .decimal
  | "Text" => content.asText?.map .text
  | "Enum" => content.asText?.map .enum
  | "Date" => content.asText?.bind fun s => (Date.ofText? s.toList).map .date
  | "DateTime" => content.asText?.bind fun s => (DateTime.ofText? s.toList).map .dateTime
  | _ => none

/-- The value of a document. -/
def ofJson? (j : Json) : Option Value :=
  match j.variant? with
  | some (kind, none) => if kind = "Null" then some .null else none
  | some (kind, some content) => ofTagged? kind content
  | none => none

end Value

/-- The document of a field type. -/
def FieldType.toJson (ty : FieldType) : Json :=
  .ofString ty.name

/-- The field type of a document. -/
def FieldType.ofJson? (j : Json) : Option FieldType :=
  j.bareVariant?.bind ofName?

/-- The document of a family of types. -/
def Capability.toJson (c : Capability) : Json :=
  .ofString c.name

/-- The family of types of a document. -/
def Capability.ofJson? (j : Json) : Option Capability :=
  j.bareVariant?.bind ofName?

end QueryCriteria
