import QueryCriteria.Value.FieldType

/-!
# Fields and value slots

* `Field` — the declared shape of a searchable field.
* `Slot` — one editable value: its name, its values, and whether it is shown and required.
* `Slot.isBlank` — whether a slot has no values or only nulls.
* `Slot.sync` — shows and requires a slot, or hides it and empties it unless it is blank already.
* `syncSlots` — shows the first `count` of two slots and hides the rest.
-/

namespace QueryCriteria

/-- A searchable field. -/
structure Field where
  name : String
  label : String
  fieldType : FieldType
  multivalued : Bool
  deriving DecidableEq, Repr

/-- An editable value. -/
structure Slot where
  name : String
  values : List Value
  visible : Bool
  required : Bool
  deriving DecidableEq, Repr

namespace Slot

/-- An empty slot, shown but not required. -/
def new (name : String) : Slot :=
  ⟨name, [], true, false⟩

/-- The first value, `null` when there is none. -/
def first (s : Slot) : Value :=
  s.values.headD .null

/-- Whether the slot has no values or only nulls. -/
def isBlank (s : Slot) : Bool :=
  Value.allNull s.values

/-- The slot with other values. -/
def setValues (s : Slot) (values : List Value) : Slot :=
  { s with values := values }

/-- The slot with a single value. -/
def setValue (s : Slot) (v : Value) : Slot :=
  s.setValues [v]

/-- The slot without values. -/
def clear (s : Slot) : Slot :=
  s.setValues []

/-- The slot shown or hidden. -/
def setVisible (s : Slot) (visible : Bool) : Slot :=
  { s with visible := visible }

/-- The slot required or not. -/
def setRequired (s : Slot) (required : Bool) : Slot :=
  { s with required := required }

/-- The slot shown and required, or hidden and blank. -/
def sync (s : Slot) (shown : Bool) : Slot :=
  let kept := if !shown && !s.isBlank then s.clear else s
  (kept.setVisible shown).setRequired shown

end Slot

/-- Two slots with the first `count` of them shown. -/
def syncSlots (count : Nat) (first second : Option Slot) : Option Slot × Option Slot :=
  (first.map (·.sync (0 < count)), second.map (·.sync (1 < count)))

end QueryCriteria
