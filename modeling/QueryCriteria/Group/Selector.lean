import QueryCriteria.Group.Header

/-!
# Operator selectors

* `Selector` — the operators applicable to a field, the selected one, and whether the selector is
  shown.
* `Selector.select?` — selection by name; clearing always works, and a name that means no
  applicable operator is refused.
* `Selector.effective` — the operator in effect: the selected one of a shown selector.
-/

namespace QueryCriteria

/-- The operator choice of a field. -/
structure Selector where
  applicable : List Header
  /-- The position of the selected operator. -/
  selected : Option Nat
  visible : Bool
  deriving DecidableEq, Repr

namespace Selector

/-- A shown selector without selection. -/
def new (applicable : List Header) : Selector :=
  ⟨applicable, none, true⟩

/-- The position of the operator that a name means. -/
def position? (s : Selector) (name : String) : Option Nat :=
  headerPosition? s.applicable name

/-- The selector with another selection, `none` clearing it. -/
def select? (s : Selector) (name : Option String) : Option Selector :=
  match name with
  | none => some { s with selected := none }
  | some name => (s.position? name).map fun i => { s with selected := some i }

/-- The selector with its first operator selected, if it has any. -/
def selectFirst (s : Selector) : Selector :=
  { s with selected := if s.applicable.isEmpty then none else some 0 }

/-- The selected operator. -/
def current (s : Selector) : Option Header :=
  s.selected.bind fun i => s.applicable[i]?

/-- The operator in effect. -/
def effective (s : Selector) : Option Header :=
  if s.visible then s.current else none

/-- The number of value slots the operator in effect reads. -/
def slotCount (s : Selector) : Nat :=
  (s.effective.map (·.slots.toNat)).getD 0

/-- The selector shown or hidden. -/
def setVisible (s : Selector) (visible : Bool) : Selector :=
  { s with visible := visible }

end Selector

end QueryCriteria
