import QueryCriteria.Group.Criterion
import QueryCriteria.Group.Selector
import QueryCriteria.Group.Slot
import QueryCriteria.Operator.Registry

/-!
# Criteria groups

* `Group` — the editor of the criterion of one field: an operator selector and up to two value
  slots.  There is a selector only where more than one operator applies; a single one is implied.
* `GroupOptions`, `Group.initial`, `Group.build` — building a group from a field and a catalog.
* `Group.reset`, `Group.setOperator`, `Group.setOperatorVisible`, `Group.apply` — the edits that
  choose an operator.  Each ends by showing exactly the slots that the operator in effect reads.
* `Group.criterion?` — the record of the group, if it has an operator in effect and a value for
  it, should it read any.
* `Group.predicate` — the condition of the group under a registry.

An edit that can be refused gives the group afterwards beside the reason of the refusal.
-/

namespace QueryCriteria

/-- The editor of the criterion of one field. -/
structure Group where
  field : Field
  selector : Option Selector
  /-- The only operator that applies, where there is no selector. -/
  implied : Option Header
  first : Option Slot
  second : Option Slot
  /-- The operator named for a reset, if one was. -/
  preferred : Option String
  nullCheck : Bool
  deriving DecidableEq, Repr

/-- A group after an edit, and why the edit was refused, if it was. -/
structure Edited where
  group : Group
  refusal : Option GroupError
  deriving DecidableEq, Repr

namespace Group

/-- The operator that a reset aims at: the preferred one, or else equality, and membership for
multi-valued fields; a group without value slot has none. -/
def defaultOperator (g : Group) : Option String :=
  match g.preferred with
  | some name => some name
  | none =>
    if g.first.isNone then none
    else if g.field.multivalued then some Builtin.oneOf.canonicalName
    else some Builtin.equal.canonicalName

/-- The operator in effect. -/
def current (g : Group) : Option Header :=
  match g.selector with
  | some s => s.effective
  | none => g.implied

/-- The number of value slots the operator in effect reads. -/
def slotCount (g : Group) : Nat :=
  (g.current.map (·.slots.toNat)).getD 0

/-- The value slots of the group. -/
def slots (g : Group) : List Slot :=
  g.first.toList ++ g.second.toList

/-- The group with exactly the slots shown that the operator in effect reads. -/
def sync (g : Group) : Group :=
  let (first, second) := syncSlots g.slotCount g.first g.second
  { g with first := first, second := second }

/-- The group without values. -/
def clear (g : Group) : Group :=
  { g with first := g.first.map (·.clear), second := g.second.map (·.clear) }

/-- A selector set to a name, or to its first operator when the name means none. -/
def resetSelector (name : Option String) (s : Selector) : Selector :=
  match name with
  | some name => (s.select? (some name)).getD s.selectFirst
  | none => s.selectFirst

/-- The group without values and with its default operator. -/
def reset (g : Group) : Group :=
  { g.clear with selector := g.selector.map (resetSelector g.defaultOperator) }.sync

/-! ## Choosing an operator -/

/-- Selects an operator by name, `none` clearing the selection. -/
def setOperator (g : Group) (name : Option String) : Edited :=
  match g.selector with
  | none => ⟨g, some (.noSelector g.field.name)⟩
  | some s =>
    match s.select? name with
    | none => ⟨g, some (.notApplicable g.field.name (name.getD ""))⟩
    | some chosen => ⟨{ g with selector := some chosen }.sync, none⟩

/-- Shows or hides the selector. -/
def setOperatorVisible (g : Group) (visible : Bool) : Group :=
  { g with selector := g.selector.map (Selector.setVisible · visible) }.sync

/-! ## Records -/

/-- Whether the group contributes a criterion. -/
def hasValue (g : Group) : Bool :=
  g.current.isSome &&
    (g.slotCount == 0 || (g.slots.take g.slotCount).any (!·.isBlank))

/-- The values that an operator reads. -/
def valuesFor (g : Group) (h : Header) : List Value :=
  if h.slots = 0 then []
  else if h.slots = 1 then (g.first.map (·.values)).getD []
  else g.slots.map (·.first)

/-- The record of the group. -/
def criterion? (g : Group) : Option Criterion :=
  if g.hasValue then
    g.current.map fun h => ⟨g.field.name, h.name, g.valuesFor h⟩
  else none

/-- Accepts the operator of a record: a selector selects it, an implied one must answer to it. -/
def acceptOperator (g : Group) (name : String) : Edited :=
  match g.selector with
  | some _ => g.setOperator (some name)
  | none =>
    if g.current.any (·.answersTo name) then ⟨g, none⟩
    else ⟨g, some (.notApplicable g.field.name name)⟩

/-- A slot with the value at a position of a list as its only one, if there is one. -/
def loadSlot (values : List Value) (position : Nat) (s : Slot) : Slot :=
  s.setValues values[position]?.toList

/-- Distributes values over the slots that the operator in effect reads. -/
def load (g : Group) (values : List Value) : Group :=
  if g.slotCount = 0 then g
  else if g.slotCount = 1 then { g with first := g.first.map (·.setValues values) }
  else
    { g with
      first := g.first.map (loadSlot values 0)
      second := g.second.map (loadSlot values g.first.toList.length) }

/-- Loads a record: its operator is selected and its values distributed. -/
def apply (g : Group) (c : Criterion) : Edited :=
  if c.field ≠ g.field.name then ⟨g, some (.fieldMismatch g.field.name c.field)⟩
  else
    let accepted := g.acceptOperator c.operator
    match accepted.refusal with
    | some _ => accepted
    | none => ⟨(accepted.group.load c.values).sync, none⟩

/-- The condition of the group: none without a record, or when the registry does not know the
operator. -/
def predicate (g : Group) (r : Registry) : Except GroupError (Option Predicate) :=
  match g.criterion? with
  | none => .ok none
  | some c =>
    match r.lookup c.operator g.field.fieldType with
    | .error e => .error (.operator e)
    | .ok none => .ok none
    | .ok (some op) =>
      match op.build (.field g.field.name) c.values with
      | .error e => .error (.operator e)
      | .ok p => .ok (some p)

end Group

/-! ## Building -/

/-- How a group is built. -/
structure GroupOptions where
  /-- Whether null checks are offered. -/
  nullCheck : Bool := false
  /-- Whether there is a second slot; by default for single-valued numbers and times. -/
  range : Option Bool := none
  /-- Whether there are slots at all. -/
  withValue : Bool := true
  /-- The operator named for a reset. -/
  preferred : Option String := none
  deriving DecidableEq, Repr

namespace GroupOptions

/-- Whether a group has a second slot. -/
def hasSecond (o : GroupOptions) (f : Field) : Bool :=
  o.withValue && o.range.getD (!f.multivalued && f.fieldType.takesRanges)

/-- What a group offers an operator. -/
def target (o : GroupOptions) (f : Field) : Target where
  fieldType := f.fieldType
  multivalued := f.multivalued
  slots := (if o.withValue then 1 else 0) + (if o.hasSecond f then 1 else 0)
  nullCheck := o.nullCheck

end GroupOptions

/-- The group of a field before its first reset. -/
def Group.initial (f : Field) (o : GroupOptions) (catalog : Catalog) : Group :=
  let applicable := catalog.applicable (o.target f)
  let several := 1 < applicable.length
  { field := f
    selector := if several then some (.new applicable) else none
    implied := if several then none else applicable.getLast?
    first := if o.withValue then some (.new f.name) else none
    second := if o.hasSecond f then some (.new (f.name ++ "2")) else none
    preferred := o.preferred
    nullCheck := o.nullCheck }

/-- The group of a field, reset. -/
def Group.build (f : Field) (o : GroupOptions) (catalog : Catalog) : Group :=
  (initial f o catalog).reset

end QueryCriteria
