import Mathlib.Data.List.Forall2
import QueryCriteria.Predicate.Eval
import QueryCriteria.Predicate.Text
import QueryCriteria.Proofs.Value.Alike

/-!
# Outlines of predicates

The text of a predicate shows less than the tree has: a conjunction of one child looks like a
disjunction of it, and an empty one like the constant.  What it does show is the outline of the
predicate, and this with the values of the parameters is enough to evaluate it.

* `Predicate.accessors` — what a predicate reads of a row.
* `Param.Alike`, `Param.map_normal_eq`, `Comparison.holds_normal` — parameters that compare alike, and
  how they come to be equal.
* `Connective`, `Test`, `Outline` — conditions as they are written: constants, tests of a value,
  negations, and conditions in parentheses with a connective between any two.
* `Outline.render`, `Outline.tests`, `Outline.params`, `Outline.holds` — the text of an outline, its
  tests with their parameters, and the rows that satisfy it.
* `Predicate.outline` — a predicate as its text shows it.
* `Predicate.render_outline`, `Predicate.params_outline`, `Predicate.accessors_outline`,
  `Predicate.holds_outline` — the outline has the text, the parameters and the accessors of the
  predicate, but for the sign of zeros, and holds of the same rows.
-/

namespace QueryCriteria

namespace Predicate

mutual

/-- The accessors of a predicate, in tree order. -/
def accessors : Predicate → List Accessor
  | .always => []
  | .all children => accessorsOfAll children
  | .any children => accessorsOfAll children
  | .not child => child.accessors
  | .compare accessor _ _ => [accessor]
  | .isNull accessor => [accessor]

/-- The accessors of some predicates, one after the other. -/
def accessorsOfAll : List Predicate → List Accessor
  | [] => []
  | p :: ps => p.accessors ++ accessorsOfAll ps

end

end Predicate

/-! ## Parameters -/

namespace Param

/-- A parameter without the sign of a zero. -/
def normal (param : Param) : Param where
  slot := param.slot
  value := param.value.normal

/-- Parameters from one position, with values that compare alike. -/
structure Alike (a b : Param) : Prop where
  slot : a.slot = b.slot
  value : a.value.Alike b.value

theorem Alike.normal_eq {a b : Param} (h : a.Alike b) : a.normal = b.normal := by
  rw [normal, normal, h.slot, h.value.normal_eq]

theorem map_normal_eq {ps qs : List Param} (h : List.Forall₂ Alike ps qs) :
    ps.map normal = qs.map normal := by
  rw [← List.forall₂_eq_eq_eq, List.forall₂_map_left_iff, List.forall₂_map_right_iff]
  exact h.imp fun _ _ => Alike.normal_eq

end Param

/-- **The sign of a zero does not count in a comparison.** -/
theorem Comparison.holds_normal (op : Comparison) (actual expected : Value) :
    op.holds actual expected.normal = op.holds actual expected := by
  cases op <;> simp only [holds, Value.equal_normal, Value.order_normal, Value.contains,
    Value.startsWith, Value.asText_normal]

/-! ## Outlines -/

/-- What stands between two conditions in parentheses. -/
inductive Connective where
  | and
  | or
  deriving DecidableEq, Repr

namespace Connective

/-- A connective as it is written. -/
def text : Connective → String
  | .and => " AND "
  | .or => " OR "

/-- The condition on both sides of a connective. -/
def join : Connective → Bool → Bool → Bool
  | .and => (· && ·)
  | .or => (· || ·)

/-- Any number of conditions joined by a connective. -/
def joinAll : Connective → List Bool → Bool
  | .and, values => values.all id
  | .or, values => values.any id

theorem joinAll_cons (connective : Connective) (value : Bool) (values : List Bool) :
    connective.joinAll (value :: values) = connective.join value (connective.joinAll values) := by
  cases connective <;> rfl

theorem join_nil (connective : Connective) (value : Bool) :
    connective.join value (connective.joinAll []) = value := by
  cases connective
  · exact Bool.and_true value
  · exact Bool.or_false value

theorem join_assoc (connective : Connective) (x y z : Bool) :
    connective.join (connective.join x y) z = connective.join x (connective.join y z) := by
  cases connective
  · exact Bool.and_assoc x y z
  · exact Bool.or_assoc x y z

end Connective

/-- What a condition without parts asks of the value it reads. -/
inductive Test where
  | compare (op : Comparison) (param : Param)
  | isNull
  deriving DecidableEq, Repr

namespace Test

/-- A test as it is written behind the accessor. -/
def text : Test → List Char
  | .compare op param => op.symbol.toList ++ ' ' :: '$' :: Text.digits param.slot
  | .isNull => ['I', 'S', ' ', 'N', 'U', 'L', 'L']

/-- The parameter of a test. -/
def params : Test → List Param
  | .compare _ param => [param]
  | .isNull => []

/-- Whether a value passes a test. -/
def holds : Test → Value → Bool
  | .compare op param, v => op.holds v param.value
  | .isNull, v => v.isNull

end Test

/-- A condition as its text shows it.  In parentheses stands a first condition, and each further one
behind a connective. -/
inductive Outline where
  | constant (value : Bool)
  | test (accessor : Accessor) (asked : Test)
  | negation (child : Outline)
  | group (first : Outline) (more : List (Connective × Outline))

namespace Outline

/-- The word for a condition that holds of every row, or of none. -/
def constantText (value : Bool) : String :=
  if value then "TRUE" else "FALSE"

mutual

/-- The text of an outline. -/
def render : Outline → List Char
  | .constant value => (constantText value).toList
  | .test accessor asked => accessor.text.toList ++ ' ' :: asked.text
  | .negation child => 'N' :: 'O' :: 'T' :: ' ' :: child.render
  | .group first more => '(' :: (first.render ++ renderMore more)

/-- The text of further conditions, up to the closing parenthesis. -/
def renderMore : List (Connective × Outline) → List Char
  | [] => [')']
  | (connective, o) :: more => connective.text.toList ++ (o.render ++ renderMore more)

end

mutual

/-- The tests of an outline with what they read, in order. -/
def tests : Outline → List (Accessor × Test)
  | .constant _ => []
  | .test accessor asked => [(accessor, asked)]
  | .negation child => child.tests
  | .group first more => first.tests ++ testsOfMore more

/-- The tests of further conditions. -/
def testsOfMore : List (Connective × Outline) → List (Accessor × Test)
  | [] => []
  | (_, o) :: more => o.tests ++ testsOfMore more

end

/-- The parameters of an outline. -/
def params (o : Outline) : List Param :=
  o.tests.flatMap fun t => t.2.params

mutual

/-- Whether a row satisfies an outline; conditions in parentheses are joined from the left. -/
def holds (row : Row) : Outline → Bool
  | .constant value => value
  | .test accessor asked => asked.holds (row.read accessor)
  | .negation child => !holds row child
  | .group first more => holdsMore row (holds row first) more

/-- Further conditions joined to those before. -/
def holdsMore (row : Row) (before : Bool) : List (Connective × Outline) → Bool
  | [] => before
  | (connective, o) :: more => holdsMore row (connective.join before (holds row o)) more

end

/-- Conditions with a connective between them. -/
def joined (connective : Connective) : List Outline → Outline
  | [] => .constant (connective.joinAll [])
  | o :: os => .group o (os.map fun o => (connective, o))

section Joined

variable (connective : Connective) (os : List Outline)

theorem render_append_renderMore (o : Outline) :
    o.render ++ renderMore (os.map fun o => (connective, o)) =
      connective.text.toList.intercalate ((o :: os).map render) ++ [')'] := by
  induction os generalizing o with
  | nil => simp [renderMore]
  | cons o' os ih =>
    simp only [List.map_cons, renderMore, List.intercalate_cons_cons, List.append_assoc] at ih ⊢
    rw [ih o']

theorem render_joined :
    (joined connective os).render =
      Predicate.enclosed (constantText (connective.joinAll [])) connective.text (os.map render) := by
  cases os with
  | nil => rfl
  | cons o os => exact congrArg ('(' :: ·) (render_append_renderMore connective os o)

theorem tests_joined : (joined connective os).tests = os.flatMap tests := by
  have hmore : ∀ os : List Outline,
      testsOfMore (os.map fun o => (connective, o)) = os.flatMap tests := by
    intro os
    induction os with
    | nil => rfl
    | cons o os ih => simp only [List.map_cons, testsOfMore, ih, List.flatMap_cons]
  cases os with
  | nil => rfl
  | cons o os => rw [joined, tests, hmore, List.flatMap_cons]

theorem holdsMore_map (row : Row) (before : Bool) :
    holdsMore row before (os.map fun o => (connective, o)) =
      connective.join before (connective.joinAll (os.map (holds row))) := by
  induction os generalizing before with
  | nil => exact (connective.join_nil before).symm
  | cons o os ih =>
    rw [List.map_cons, holdsMore, ih, connective.join_assoc, List.map_cons, connective.joinAll_cons]

theorem holds_joined (row : Row) :
    (joined connective os).holds row = connective.joinAll (os.map (holds row)) := by
  cases os with
  | nil => rfl
  | cons o os => rw [joined, holds, holdsMore_map, List.map_cons, connective.joinAll_cons]

end Joined

end Outline

/-! ### The outline of a predicate -/

namespace Predicate

open Outline (joined)

mutual

/-- What the text of a predicate shows of it, with the values of its parameters but not the sign of
zeros among them. -/
def outline : Predicate → Outline
  | .always => .constant true
  | .all children => joined .and (outlines children)
  | .any children => joined .or (outlines children)
  | .not child => .negation child.outline
  | .compare accessor op param => .test accessor (.compare op param.normal)
  | .isNull accessor => .test accessor .isNull

/-- The outlines of some predicates. -/
def outlines : List Predicate → List Outline
  | [] => []
  | p :: ps => p.outline :: outlines ps

end

mutual

theorem render_outline : ∀ p : Predicate, p.outline.render = p.render
  | .always => rfl
  | .all children => by
    rw [outline, Outline.render_joined, map_render_outlines children, render]
    rfl
  | .any children => by
    rw [outline, Outline.render_joined, map_render_outlines children, render]
    rfl
  | .not child => by
    rw [outline, Outline.render, render_outline child]
    rfl
  | .compare _ _ _ => by simp [outline, Outline.render, Test.text, Param.normal, render]
  | .isNull _ => rfl

theorem map_render_outlines : ∀ ps : List Predicate, (outlines ps).map Outline.render = renderAll ps
  | [] => rfl
  | p :: ps => by rw [outlines, List.map_cons, render_outline p, map_render_outlines ps, renderAll]

end

mutual

theorem params_outline : ∀ p : Predicate, p.outline.params = p.params.map Param.normal
  | .always => rfl
  | .all children => by
    rw [outline, Outline.params, Outline.tests_joined, List.flatMap_assoc, params]
    exact flatMap_params_outlines children
  | .any children => by
    rw [outline, Outline.params, Outline.tests_joined, List.flatMap_assoc, params]
    exact flatMap_params_outlines children
  | .not child => params_outline child
  | .compare _ _ _ => rfl
  | .isNull _ => rfl

theorem flatMap_params_outlines :
    ∀ ps : List Predicate, (outlines ps).flatMap Outline.params = (paramsOfAll ps).map Param.normal
  | [] => rfl
  | p :: ps => by
    rw [outlines, List.flatMap_cons, params_outline p, flatMap_params_outlines ps, paramsOfAll,
      List.map_append]

end

mutual

theorem accessors_outline : ∀ p : Predicate, (p.outline.tests.map fun t => t.1) = p.accessors
  | .always => rfl
  | .all children => by
    rw [outline, Outline.tests_joined, List.map_flatMap, accessors]
    exact flatMap_accessors_outlines children
  | .any children => by
    rw [outline, Outline.tests_joined, List.map_flatMap, accessors]
    exact flatMap_accessors_outlines children
  | .not child => accessors_outline child
  | .compare _ _ _ => rfl
  | .isNull _ => rfl

theorem flatMap_accessors_outlines : ∀ ps : List Predicate,
    ((outlines ps).flatMap fun o => o.tests.map fun t => t.1) = accessorsOfAll ps
  | [] => rfl
  | p :: ps => by
    rw [outlines, List.flatMap_cons, accessors_outline p, flatMap_accessors_outlines ps,
      accessorsOfAll]

end

mutual

theorem holds_outline (row : Row) : ∀ p : Predicate, p.outline.holds row = p.holds row
  | .always => rfl
  | .all children => by
    rw [outline, Outline.holds_joined, map_holds_outlines row children, holds, allHold_eq_all]
    exact List.all_map
  | .any children => by
    rw [outline, Outline.holds_joined, map_holds_outlines row children, holds, anyHolds_eq_any]
    exact List.any_map
  | .not child => by rw [outline, Outline.holds, holds_outline row child, holds]
  | .compare _ op _ => op.holds_normal _ _
  | .isNull _ => rfl

theorem map_holds_outlines (row : Row) :
    ∀ ps : List Predicate, (outlines ps).map (Outline.holds row) = ps.map (holds row)
  | [] => rfl
  | p :: ps => by
    rw [outlines, List.map_cons, holds_outline row p, map_holds_outlines row ps, List.map_cons]

end

end Predicate

end QueryCriteria
