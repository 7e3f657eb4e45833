import QueryCriteria.Codec.Value
import QueryCriteria.Group.Criterion
import QueryCriteria.Group.Header
import QueryCriteria.Settings.Basic

/-!
# Records in documents

* `Criterion.toJson`, `Criterion.ofJson?` — field, operator and values; an empty list of values
  is left out.
* `Header.toJson`, `Header.ofJson?` — headers with hyphenated keys; the families of types are left
  out when there are none, and the cardinality when either is allowed.
* `Catalog.toJson`, `Settings.toJson` — catalogs and settings.
-/

namespace QueryCriteria

/-- An entry that is left out when its list is empty. -/
def listEntry {α : Type} (key : String) (toJson : α → Json) (items : List α) :
    List (String × Json) :=
  if items.isEmpty then [] else [(key, .array (items.map toJson))]

namespace Criterion

/-- The document of a record. -/
def toJson (c : Criterion) : Json :=
  .record ([("field", .ofString c.field), ("operator", .ofString c.operator)] ++
    listEntry "values" Value.toJson c.values)

/-- The record of a document. -/
def ofJson? (j : Json) : Option Criterion :=
  match j.fields? ["field", "operator", "values"] with
  | some [some field, some operator, values] => do
    let field ← field.asText?
    let operator ← operator.asText?
    let values ← readOr [] (Json.asListOf? Value.ofJson?) values
    pure ⟨field, operator, values⟩
  | _ => none

end Criterion

namespace Header

/-- The document of a header. -/
def toJson (h : Header) : Json :=
  .record (
    [("name", .ofString h.name), ("text", .ofString h.text),
     ("addl-props", .ofInteger h.slots.toNat)] ++
    (h.multivalued.map fun b => ("multival", Json.bool b)).toList ++
    [("null-check", .bool h.nullCheck)] ++
    listEntry "type" Capability.toJson h.types ++
    listEntry "exclude-type" Capability.toJson h.excluded)

/-- The cardinality in a document; `null` stands for either. -/
def multivalued? : Json → Option (Option Bool)
  | .null => some none
  | j => j.asBool?.map some

/-- The header of a document. -/
def ofJson? (j : Json) : Option Header :=
  match j.fields? keys with
  | some [some name, some text, slots, multivalued, nullCheck, types, excluded] => do
    let name ← name.asText?
    let text ← text.asText?
    let slots ← readOr 0 (Json.asInteger? 0 255) slots
    let multivalued ← readOr none multivalued? multivalued
    let nullCheck ← readOr false Json.asBool? nullCheck
    let types ← readOr [] (Json.asListOf? Capability.ofJson?) types
    let excluded ← readOr [] (Json.asListOf? Capability.ofJson?) excluded
    pure ⟨name, text, UInt8.ofNat slots.toNat, multivalued, nullCheck, types, excluded⟩
  | _ => none

end Header

/-- The document of a catalog. -/
def Catalog.toJson (c : Catalog) : Json :=
  .record [("operator", .array (c.headers.map Header.toJson))]

/-- The document of settings. -/
def Settings.toJson (s : Settings) : Json :=
  .record [("week_start", .ofString s.weekStart.short),
    ("alias_collision", .ofString s.collision.name), ("debug", .bool s.debug)]

end QueryCriteria
