import QueryCriteria.Group.Basic

/-!
# Edits of criteria groups

* `SlotEdit`, `Slot.edit` — the edits of a value slot.
* `Edit`, `Group.perform` — every way a group can be changed.  An edit of a missing slot changes
  nothing.
* `Slot.same`, `Group.same` — equality up to the representation of equal numbers.
-/

namespace QueryCriteria

/-- An edit of a value slot. -/
inductive SlotEdit where
  | values (vs : List Value)
  | value (v : Value)
  | clear
  | visible (b : Bool)
  | required (b : Bool)
  deriving DecidableEq, Repr

/-- An edit of a group. -/
inductive Edit where
  | reset
  | operator (name : Option String)
  | operatorVisible (b : Bool)
  | apply (c : Criterion)
  | first (e : SlotEdit)
  | second (e : SlotEdit)
  deriving DecidableEq, Repr

namespace Slot

/-- A slot after an edit. -/
def edit (s : Slot) : SlotEdit → Slot
  | .values vs => s.setValues vs
  | .value v => s.setValue v
  | .clear => s.clear
  | .visible b => s.setVisible b
  | .required b => s.setRequired b

/-- Whether two slots agree, their values being the same. -/
def same (a b : Slot) : Bool :=
  a.name == b.name && Value.sameAll a.values b.values && a.visible == b.visible &&
    a.required == b.required

/-- Whether two slots agree, or both are missing. -/
def sameOptional : Option Slot → Option Slot → Bool
  | none, none => true
  | some a, some b => a.same b
  | _, _ => false

end Slot

namespace Group

/-- A group after an edit. -/
def perform (g : Group) : Edit → Edited
  | .reset => ⟨g.reset, none⟩
  | .operator name => g.setOperator name
  | .operatorVisible b => ⟨g.setOperatorVisible b, none⟩
  | .apply c => g.apply c
  | .first e => ⟨{ g with first := g.first.map (·.edit e) }, none⟩
  | .second e => ⟨{ g with second := g.second.map (·.edit e) }, none⟩

/-- Whether two groups agree, their values being the same. -/
def same (a b : Group) : Bool :=
  a.field == b.field && a.selector == b.selector && a.implied == b.implied &&
    Slot.sameOptional a.first b.first && Slot.sameOptional a.second b.second &&
    a.preferred == b.preferred && a.nullCheck == b.nullCheck

end Group

end QueryCriteria
