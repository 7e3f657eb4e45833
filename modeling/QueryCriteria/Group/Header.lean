import QueryCriteria.Operator.Builtin
import QueryCriteria.Value.FieldType

/-!
# Operator headers

* `Header` — what a selector shows of an operator, and the fields it applies to: how many value
  slots it reads, whether the field must be single- or multi-valued, whether the group must offer
  null checks, and which families of types it asks for or excludes.
* `Target` — what a group offers an operator.
* `Header.appliesTo` — whether the operator applies to a target.
* `Header.answersTo` — whether a name means the operator: its own, or a name of the built-in
  operator with that canonical name; the case of ASCII letters does not count.
* `findHeader?` — the header a name means in a list: own names come before built-in ones.
* `Catalog`, `Catalog.standard` — headers in the order they are offered.
-/

namespace QueryCriteria

/-- Display text and applicability of an operator. -/
structure Header where
  name : String
  text : String
  /-- The number of value slots the operator reads. -/
  slots : UInt8
  /-- `false` asks for single-valued fields, `true` for multi-valued ones. -/
  multivalued : Option Bool := none
  /-- Whether the operator is offered only with null checks. -/
  nullCheck : Bool := false
  /-- The families the field type must belong to one of; none stand for any type. -/
  types : List Capability := []
  /-- The families the field type must not belong to. -/
  excluded : List Capability := []
  deriving DecidableEq, Repr

/-- What a group offers an operator. -/
structure Target where
  fieldType : FieldType
  multivalued : Bool
  slots : UInt8
  nullCheck : Bool
  deriving DecidableEq, Repr

namespace Header

/-- The keys of a header in records and catalogs. -/
def keys : List String :=
  ["name", "text", "addl-props", "multival", "null-check", "type", "exclude-type"]

/-- Whether a name means the operator. -/
def answersTo (h : Header) (name : String) : Bool :=
  Text.sameCaseless h.name name ||
    (Builtin.find? name).any fun b => Text.sameCaseless h.name b.canonicalName

/-- Whether the operator applies to a target. -/
def appliesTo (h : Header) (t : Target) : Bool :=
  h.slots ≤ t.slots &&
    h.multivalued.all (· == t.multivalued) &&
    (!h.nullCheck || t.nullCheck) &&
    !h.excluded.any t.fieldType.has &&
    (h.types.isEmpty || h.types.any t.fieldType.has)

end Header

/-- The position of the header that a name means. -/
def headerPosition? (headers : List Header) (name : String) : Option Nat :=
  (headers.findIdx? fun h => Text.sameCaseless h.name name).or
    (headers.findIdx? (·.answersTo name))

/-- The header that a name means. -/
def findHeader? (headers : List Header) (name : String) : Option Header :=
  (headers.find? fun h => Text.sameCaseless h.name name).or
    (headers.find? (·.answersTo name))

/-- Headers in the order a selector offers them. -/
structure Catalog where
  headers : List Header
  deriving DecidableEq, Repr

namespace Catalog

/-- The header of a built-in operator. -/
def entry (b : Builtin) (text : String) (slots : UInt8) : Header where
  name := b.canonicalName
  text := text
  slots := slots

/-- The headers of the built-in operators. -/
def standard : Catalog :=
  let nullary (b : Builtin) (text : String) : Header :=
    { entry b text 0 with nullCheck := true }
  let ofOne (b : Builtin) (text : String) : Header :=
    { entry b text 1 with multivalued := some false }
  let ofMany (b : Builtin) (text : String) : Header :=
    { entry b text 1 with multivalued := some true }
  let ordered (b : Builtin) (text : String) (slots : UInt8) : Header :=
    { entry b text slots with multivalued := some false, types := [.numeric, .temporal] }
  let textual (b : Builtin) (text : String) : Header :=
    { entry b text 1 with
      multivalued := some false, types := [.text], excluded := [.enumerated] }
  ⟨[nullary .isNull "Is Null",
    nullary .isNotNull "Is Not Null",
    ofOne .equal "Equals",
    ofOne .notEqual "Does Not Equal",
    ofMany .oneOf "Is One Of",
    ofMany .notOneOf "Is Not One Of",
    ordered .lessThan "Less Than" 1,
    ordered .lessOrEqual "Less Than Or Equal To" 1,
    ordered .greaterThan "Greater Than" 1,
    ordered .greaterOrEqual "Greater Than Or Equal To" 1,
    ordered .between "Between" 2,
    ordered .notBetween "Not Between" 2,
    textual .contains "Contains",
    textual .notContains "Does Not Contain",
    textual .startsWith "Starts With",
    textual .notStartsWith "Does Not Start With"]⟩

/-- The header that a name means. -/
def get? (c : Catalog) (name : String) : Option Header :=
  findHeader? c.headers name

/-- The headers that apply to a target, in order. -/
def applicable (c : Catalog) (t : Target) : List Header :=
  c.headers.filter (·.appliesTo t)

end Catalog

end QueryCriteria
