import QueryCriteria.Codec.Fields
import QueryCriteria.Json.Number

/-!
# Reading values out of documents

* `asText?`, `asBool?`, `asInteger?`, `asFloat?`, `asDecimal?`, `asItems?` — the value of one
  kind.
* `fields?` — the values of a record with known keys, which is an object or an array.  An object
  may have other keys, but each known one only once; an array gives the values in order, and may
  end early but not late.
* `variant?` — a named alternative: a string, or an object with one entry whose value is what the
  alternative carries.
-/

namespace QueryCriteria.Json

/-- The text of a string. -/
def asText? : Json → Option String
  | .string raw => unescape? raw
  | _ => none

/-- The truth value of a document. -/
def asBool? : Json → Option Bool
  | .bool b => some b
  | _ => none

/-- An integer between two bounds. -/
def asInteger? (least greatest : Int) : Json → Option Int
  | .number lexeme => (integer? lexeme).filter fun i => least ≤ i && i ≤ greatest
  | _ => none

/-- A floating-point number. -/
def asFloat? : Json → Option Binary64
  | .number lexeme => float? lexeme
  | _ => none

/-- A decimal number, written as a string or as a number. -/
def asDecimal? : Json → Option Decimal
  | .number lexeme => decimal? lexeme
  | .string raw => (unescape? raw).bind fun s => Decimal.ofText? s.toList
  | _ => none

/-- The items of an array. -/
def asItems? : Json → Option (List Json)
  | .array items => some items
  | _ => none

/-- The items of an array, each read. -/
def asListOf? {α : Type} (read : Json → Option α) (j : Json) : Option (List α) :=
  j.asItems?.bind fun items => items.mapM read

/-- The entries of an object by the text of their keys. -/
def namedEntries? (entries : List (List Char × Json)) : Option (List (String × Json)) :=
  entries.mapM fun (raw, v) => (unescape? raw).map fun key => (key, v)

/-- The value of a key among entries: `none` when the key stands twice. -/
def valueOf? (entries : List (String × Json)) (key : String) : Option (Option Json) :=
  match entries.filter (·.1 == key) with
  | [] => some none
  | [(_, v)] => some (some v)
  | _ => none

/-- The values of a record with the given keys, in their order. -/
def fields? (keys : List String) : Json → Option (List (Option Json))
  | .object entries => (namedEntries? entries).bind fun named => keys.mapM (valueOf? named)
  | .array items => if items.length ≤ keys.length then some (inOrder keys.length items) else none
  | _ => none

/-- The name of an alternative and what it carries. -/
def variant? : Json → Option (String × Option Json)
  | .string raw => (unescape? raw).map fun name => (name, none)
  | .object [(raw, v)] => (unescape? raw).map fun name => (name, some v)
  | _ => none

/-- The name of an alternative that carries nothing. -/
def bareVariant? (j : Json) : Option String :=
  match j.variant? with
  | some (name, none) => some name
  | some (name, some .null) => some name
  | _ => none

end QueryCriteria.Json
