import QueryCriteria.Group.Basic

/-!
# Criteria groups for readers

* `Group.operatorText` — the operator as a reader sees it.  An interval with one blank end reads
  as the one-sided comparison that it amounts to.
* `Group.sentence?` — the record of a group as a sentence.
-/

namespace QueryCriteria.Group

/-- The comparison that an interval with one end amounts to. -/
def oneSided (lowerOnly negated : Bool) : Builtin :=
  match lowerOnly, negated with
  | true, false => .greaterOrEqual
  | false, false => .lessOrEqual
  | true, true => .lessThan
  | false, true => .greaterThan

/-- The text of a built-in operator: from the selector, or else from the standard catalog. -/
def builtinText? (g : Group) (b : Builtin) : Option String :=
  let offered := g.selector.bind fun s =>
    (s.position? b.canonicalName).bind fun i => s.applicable[i]?
  (offered.or (Catalog.standard.get? b.canonicalName)).map (·.text)

/-- The text of the operator of a header, given the values it reads. -/
def operatorText (g : Group) (h : Header) (values : List Value) : String :=
  match values with
  | [lower, upper] =>
    if h.slots = 2 && lower.isNull != upper.isNull then
      let negated := (Builtin.find? h.name).any (·.negated)
      (g.builtinText? (oneSided upper.isNull negated)).getD h.text
    else h.text
  | _ => h.text

/-- The record of the group as a sentence. -/
def sentence? (g : Group) : Option Sentence :=
  g.criterion?.bind fun c => g.current.map fun h =>
    let values := (c.values.filter (!·.isNull)).map (·.display)
    { field := g.field.name
      label := g.field.label
      operator := g.operatorText h c.values
      values := values
      joiner := Sentence.standardJoiner
      interval := h.slots = 2 && values.length = 2 }

end QueryCriteria.Group
