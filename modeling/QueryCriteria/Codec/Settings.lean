import QueryCriteria.Codec.Fields
import QueryCriteria.Group.Header
import QueryCriteria.Settings.Basic
import QueryCriteria.Toml.Parse

/-!
# Settings and catalogs from text

* `Weekday.ofText?` — a weekday by its short or full name, case not counting.
* `Settings.ofText?` — settings from the three known keys, each of which may be left out; an
  unknown key is refused, so that a misspelt one does not go unnoticed.
* `Catalog.ofText?` — a catalog from its list of `operator` tables; unknown keys are skipped, but
  numbers under them must be in range.
* `Toml.fields?` — the values of a record.  What an array holds beyond the record is not looked at.
-/

namespace QueryCriteria

/-- The weekday with a name. -/
def Weekday.ofText? (s : String) : Option Weekday :=
  all.find? fun d => Text.sameCaseless d.short s || Text.sameCaseless d.long s

namespace Toml

/-- The text of a string. -/
def asText? : Toml → Option String
  | .string s => some s
  | _ => none

/-- The truth value of a boolean. -/
def asBool? : Toml → Option Bool
  | .boolean b => some b
  | _ => none

/-- An integer between two bounds. -/
def asInteger? (least greatest : Int) : Toml → Option Int
  | .integer i => if least ≤ i ∧ i ≤ greatest then some i else none
  | _ => none

/-- The name of an alternative that carries nothing: a string, or a table with one empty entry. -/
def asName? : Toml → Option String
  | .string s => some s
  | .table [(name, .table [])] => some name
  | .table [(name, .array [])] => some name
  | _ => none

/-- The items of an array, each read. -/
def asListOf? {α : Type} (read : Toml → Option α) : Toml → Option (List α)
  | .array items => items.mapM read
  | _ => none

/-- The values of some keys, if the values of all other keys are bounded. -/
def known? (keys : List String) (entries : List (String × Toml)) : Option (List (Option Toml)) :=
  if entriesBounded (entries.filter fun (key, _) => !keys.contains key) then
    some (keys.map fun key => entries.lookup key)
  else none

/-- The values of a record with the given keys: a table, or an array in their order. -/
def fields? (keys : List String) : Toml → Option (List (Option Toml))
  | .table entries => known? keys entries
  | .array items => some (inOrder keys.length items)
  | _ => none

end Toml

/-- The collision policy with a name. -/
def CollisionPolicy.ofToml? (v : Toml) : Option CollisionPolicy :=
  v.asName?.bind fun name => all.find? (·.name == name)

/-- The family of types with a name. -/
def Capability.ofToml? (v : Toml) : Option Capability :=
  v.asName?.bind ofName?

namespace Settings

/-- The keys of settings. -/
def keys : List String := ["week_start", "alias_collision", "debug"]

/-- Settings from the entries of a document. -/
def ofEntries? (entries : List (String × Toml)) : Option Settings :=
  if entries.all fun (key, _) => keys.contains key then do
    let weekStart ← readOr .mon (fun v => v.asText?.bind Weekday.ofText?)
      (entries.lookup "week_start")
    let collision ← readOr .overwrite CollisionPolicy.ofToml?
      (entries.lookup "alias_collision")
    let debug ← readOr false Toml.asBool? (entries.lookup "debug")
    pure ⟨weekStart, collision, debug⟩
  else none

/-- Settings from text. -/
def ofText? (text : String) : Option Settings :=
  (Toml.parse? text).bind ofEntries?

end Settings

namespace Header

/-- A header from a document. -/
def ofToml? (v : Toml) : Option Header :=
  match v.fields? keys with
  | some [some name, some text, slots, multivalued, nullCheck, types, excluded] => do
    let name ← name.asText?
    let text ← text.asText?
    let slots ← readOr 0 (Toml.asInteger? 0 255) slots
    let multivalued ← readOr none (fun v => v.asBool?.map some) multivalued
    let nullCheck ← readOr false Toml.asBool? nullCheck
    let types ← readOr [] (Toml.asListOf? Capability.ofToml?) types
    let excluded ← readOr [] (Toml.asListOf? Capability.ofToml?) excluded
    pure ⟨name, text, UInt8.ofNat slots.toNat, multivalued, nullCheck, types, excluded⟩
  | _ => none

end Header

namespace Catalog

/-- A catalog from the entries of a document. -/
def ofEntries? (entries : List (String × Toml)) : Option Catalog :=
  match Toml.known? ["operator"] entries with
  | some [headers] => (readOr [] (Toml.asListOf? Header.ofToml?) headers).map Catalog.mk
  | _ => none

/-- A catalog from text. -/
def ofText? (text : String) : Option Catalog :=
  (Toml.parse? text).bind ofEntries?

end Catalog

end QueryCriteria
