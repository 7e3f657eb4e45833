import QueryCriteria.Predicate.Basic
import QueryCriteria.Text.Digit

/-!
# Text of predicates

* `Predicate.render` — a predicate as a condition with numbered parameters: `$0` stands for the
  value supplied first.  Criterion values never appear in it.

Connectives stand in parentheses around their children; without children they are the constants
they amount to, `TRUE` and `FALSE`.
-/

namespace QueryCriteria

/-- The text of an accessor: a field by its name, the row itself as `it`. -/
def Accessor.text : Accessor → String
  | .identity => "it"
  | .field name => name

namespace Predicate

/-- Rendered children between parentheses, or the constant that stands for none of them. -/
def enclosed (none separator : String) : List (List Char) → List Char
  | [] => none.toList
  | texts => '(' :: separator.toList.intercalate texts ++ [')']

mutual

/-- The characters of a predicate's text. -/
def render : Predicate → List Char
  | .always => "TRUE".toList
  | .all children => enclosed "TRUE" " AND " (renderAll children)
  | .any children => enclosed "FALSE" " OR " (renderAll children)
  | .not child => "NOT ".toList ++ child.render
  | .compare accessor op param =>
    accessor.text.toList ++ ' ' :: op.symbol.toList ++ ' ' :: '$' :: Text.digits param.slot
  | .isNull accessor => accessor.text.toList ++ " IS NULL".toList

/-- The texts of some predicates. -/
def renderAll : List Predicate → List (List Char)
  | [] => []
  | p :: ps => p.render :: renderAll ps

end

/-- The text of a predicate. -/
def text (p : Predicate) : String :=
  String.ofList p.render

end Predicate

end QueryCriteria
