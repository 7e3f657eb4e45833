import QueryCriteria.Proofs.Predicate.Outline
import QueryCriteria.Proofs.Text.Digit

/-!
# Reading predicates off their texts

The text of a predicate can be read in one way only, so long as every field name is a word of its own.
The words of a text do not tell what they are: a field may be named `NOT`, `TRUE`, `AND` or `=`.  But a
field is always followed by a test, and neither a condition nor what may stand behind one begins with
a test, so a word in the place of a field is one.

* `Accessor.Legible`, `Outline.Legible` — names that can be told from what stands around them.
* `Test.text_append_inj`, `Connective.text_append_inj` — tests and connectives are told from what
  follows them.
* `Outline.Follows`, `Outline.Asks` — what may stand behind a condition, and texts that begin with a
  test.
* `Outline.Follows.not_asks`, `Outline.not_asks_render` — neither the former nor a condition begins
  with a test.
* `Outline.exists_eq_test` — so only a test has a test behind its first word.
* `Outline.render_append_inj` — an outline is told from what follows it, and no two have the same text
  and parameters.
* `Predicate.text_is_unambiguous` — predicates of the same text, with parameters that compare alike,
  hold of the same rows.
-/

namespace QueryCriteria

/-! ## Names -/

namespace Text

/-- Whether a character may stand in a word of a condition. -/
def isPlain (c : Char) : Bool :=
  c != ' ' && c != '(' && c != ')'

theorem all_isPlain_iff {s : List Char} :
    s.all isPlain = true ↔ ∀ c ∈ s, c ≠ ' ' ∧ c ≠ '(' ∧ c ≠ ')' := by
  simp [isPlain, and_assoc]

end Text

/-- A field name that can be told from what stands around it: it has no spaces and parentheses, and is
not the word for the row itself.  Even an empty one can. -/
def Accessor.Legible : Accessor → Prop
  | .identity => True
  | .field name => name ≠ "it" ∧ ∀ c ∈ name.toList, c ≠ ' ' ∧ c ≠ '(' ∧ c ≠ ')'

instance : DecidablePred Accessor.Legible
  | .identity => isTrue trivial
  | .field name =>
    decidable_of_iff (name ≠ "it" ∧ name.toList.all Text.isPlain = true)
      (and_congr_right' Text.all_isPlain_iff)

namespace Accessor

variable {a b : Accessor}

theorem Legible.isPlain (h : a.Legible) : ∀ c ∈ a.text.toList, Text.isPlain c = true := by
  refine List.all_eq_true.1 ?_
  cases a with
  | identity => decide
  | field name => exact Text.all_isPlain_iff.2 h.2

theorem Legible.eq_of_text_eq (ha : a.Legible) (hb : b.Legible) (h : a.text = b.text) : a = b := by
  cases a with
  | identity =>
    cases b with
    | identity => rfl
    | field name => exact absurd h.symm hb.1
  | field name =>
    cases b with
    | identity => exact absurd h ha.1
    | field other => exact congrArg field h

end Accessor

/-! ## Tests and connectives -/

namespace Comparison

theorem symbol_append_inj {op op' : Comparison} {s t : List Char}
    (h : op.symbol.toList ++ ' ' :: s = op'.symbol.toList ++ ' ' :: t) : op = op' ∧ s = t := by
  cases op <;> cases op' <;> simp_all [symbol]

end Comparison

namespace Connective

theorem text_append_inj {connective connective' : Connective} {s s' : List Char}
    (h : connective.text.toList ++ s = connective'.text.toList ++ s') :
    connective = connective' ∧ s = s' := by
  cases connective <;> cases connective' <;> simp_all [text]

end Connective

namespace Test

/-- The characters that tests begin with. -/
def openings : List Char :=
  ['=', '<', '>', 'C', 'S', 'I']

theorem exists_text_eq_cons (t : Test) : ∃ c s, t.text = c :: s ∧ c ∈ openings := by
  cases t with
  | compare op param => cases op <;> exact ⟨_, _, rfl, by decide⟩
  | isNull => exact ⟨_, _, rfl, by decide⟩

/-- Behind the first word of a test stands no other one. -/
theorem exists_text_eq_word (t : Test) :
    ∃ w d s, t.text = w ++ ' ' :: d :: s ∧ w.all Text.isPlain = true ∧ d ∉ openings := by
  cases t with
  | compare op param =>
    cases op with
    | eq => exact ⟨['='], _, _, rfl, by decide, by decide⟩
    | lt => exact ⟨['<'], _, _, rfl, by decide, by decide⟩
    | lte => exact ⟨['<', '='], _, _, rfl, by decide, by decide⟩
    | gt => exact ⟨['>'], _, _, rfl, by decide, by decide⟩
    | gte => exact ⟨['>', '='], _, _, rfl, by decide, by decide⟩
    | contains => exact ⟨"CONTAINS".toList, _, _, rfl, by decide, by decide⟩
    | startsWith => exact ⟨"STARTS".toList, _, _, rfl, by decide, by decide⟩
  | isNull => exact ⟨['I', 'S'], _, _, rfl, by decide, by decide⟩

theorem text_append_inj {t t' : Test} {s s' : List Char} {xs ys : List Param}
    (htext : t.text ++ s = t'.text ++ s') (hparams : t.params ++ xs = t'.params ++ ys) :
    t = t' ∧ s = s' ∧ xs = ys := by
  cases t with
  | compare op param =>
    cases t' with
    | compare op' param' =>
      obtain ⟨rfl, rfl⟩ := List.cons.inj hparams
      simp only [text, List.append_assoc, List.cons_append] at htext
      obtain ⟨rfl, hrest⟩ := Comparison.symbol_append_inj htext
      exact ⟨rfl, List.append_cancel_left (List.cons.inj hrest).2, rfl⟩
    | isNull => cases op <;> simp [text, Comparison.symbol] at htext
  | isNull =>
    cases t' with
    | compare op' param' => cases op' <;> simp [text, Comparison.symbol] at htext
    | isNull => exact ⟨rfl, List.append_cancel_left htext, hparams⟩

end Test

/-! ## Conditions -/

namespace Outline

/-- The names of an outline can be told from what stands around them. -/
def Legible (o : Outline) : Prop :=
  ∀ t ∈ o.tests, t.1.Legible

/-- What may stand behind the text of a condition: nothing, a closing parenthesis, or a connective. -/
inductive Follows : List Char → Prop
  | nothing : Follows []
  | close (s : List Char) : Follows (')' :: s)
  | next (connective : Connective) (s : List Char) : Follows (connective.text.toList ++ s)

theorem follows_renderMore (more : List (Connective × Outline)) (s : List Char) :
    Follows (renderMore more ++ s) := by
  cases more with
  | nil => exact .close s
  | cons first more =>
    rw [renderMore, List.append_assoc]
    exact .next first.1 _

/-- A text that begins with a test. -/
def Asks (s : List Char) : Prop :=
  ∃ (t : Test) (s' : List Char), s = t.text ++ s'

theorem not_asks_cons {c : Char} (hc : c ∉ Test.openings) (s : List Char) : ¬ Asks (c :: s) := by
  rintro ⟨t, s', hs⟩
  obtain ⟨d, rest, ht, hd⟩ := t.exists_text_eq_cons
  rw [ht] at hs
  cases hs
  exact hc hd

theorem Follows.not_asks {s : List Char} (h : Follows (' ' :: s)) : ¬ Asks s := by
  generalize hs : ' ' :: s = text at h
  cases h with
  | nothing => cases hs
  | close => cases hs
  | next connective s' =>
    cases connective <;> (cases hs; exact not_asks_cons (by decide) _)

theorem Follows.head?_isPlain {s : List Char} (h : Follows s) :
    ∀ c, s.head? = some c → Text.isPlain c = false := by
  cases h with
  | nothing => exact nofun
  | close s =>
    rintro c ⟨⟩
    decide
  | next connective s =>
    cases connective <;> (rintro c ⟨⟩; decide)

theorem head?_space_isPlain (s : List Char) :
    ∀ c, (' ' :: s).head? = some c → Text.isPlain c = false := by
  rintro c ⟨⟩
  decide

/-- **A condition does not begin with a test**, even if its first word is a symbol. -/
theorem not_asks_render {o : Outline} (ho : o.Legible) (s : List Char) : ¬ Asks (o.render ++ s) := by
  cases o with
  | constant value => cases value <;> exact not_asks_cons (by decide) _
  | negation child => exact not_asks_cons (by decide) _
  | group first more => exact not_asks_cons (by decide) _
  | test accessor asked =>
    rintro ⟨t, s', h⟩
    obtain ⟨w, d, rest, ht, hw, hd⟩ := t.exists_text_eq_word
    have hname : accessor.Legible := ho (accessor, asked) List.mem_cons_self
    simp only [render, ht, List.append_assoc, List.cons_append] at h
    obtain ⟨-, hbehind⟩ := Text.run_append_inj hname.isPlain (List.all_eq_true.1 hw)
      (head?_space_isPlain _) (head?_space_isPlain _) h
    exact not_asks_cons hd _ ⟨asked, s, (List.cons.inj hbehind).2.symm⟩

/-- **Only a test has a test behind its first word.** -/
theorem exists_eq_test {o : Outline} {u w s : List Char} (ho : o.Legible) (hu : Follows u)
    (hw : ∀ c ∈ w, Text.isPlain c = true) (hs : Asks s) (h : o.render ++ u = w ++ ' ' :: s) :
    ∃ accessor asked, o = .test accessor asked := by
  cases o with
  | test accessor asked => exact ⟨accessor, asked, rfl⟩
  | constant value =>
    have hplain : (constantText value).toList.all Text.isPlain = true := by
      cases value <;> decide
    obtain ⟨-, rfl⟩ := Text.run_append_inj (List.all_eq_true.1 hplain) hw hu.head?_isPlain
      (head?_space_isPlain s) h
    exact absurd hs hu.not_asks
  | negation child =>
    have hplain : ['N', 'O', 'T'].all Text.isPlain = true := by decide
    have hsplit : ['N', 'O', 'T'] ++ ' ' :: (child.render ++ u) = w ++ ' ' :: s := h
    obtain ⟨-, hrest⟩ := Text.run_append_inj (List.all_eq_true.1 hplain) hw
      (head?_space_isPlain _) (head?_space_isPlain s) hsplit
    have hchild : child.Legible := ho
    rw [← (List.cons.inj hrest).2] at hs
    exact absurd hs (not_asks_render hchild u)
  | group first more =>
    cases w with
    | nil => cases h
    | cons c w =>
      obtain ⟨rfl, -⟩ := List.cons.inj h
      exact absurd (hw '(' List.mem_cons_self) (by decide)

theorem exists_eq_test_of_render {o : Outline} {a : Accessor} {t : Test} {u v : List Char}
    (ho : o.Legible) (ha : (test a t).Legible) (hu : Follows u)
    (h : o.render ++ u = (test a t).render ++ v) : ∃ a' t', o = .test a' t' := by
  have hname : a.Legible := ha (a, t) List.mem_cons_self
  simp only [render, List.append_assoc, List.cons_append] at h
  exact exists_eq_test ho hu hname.isPlain ⟨t, v, rfl⟩ h

theorem test_append_inj {a a' : Accessor} {t t' : Test} {u v : List Char} {xs ys : List Param}
    (ha : (test a t).Legible) (ha' : (test a' t').Legible)
    (htext : (test a t).render ++ u = (test a' t').render ++ v)
    (hparams : (test a t).params ++ xs = (test a' t').params ++ ys) :
    test a t = test a' t' ∧ u = v ∧ xs = ys := by
  have hname : a.Legible := ha (a, t) List.mem_cons_self
  have hname' : a'.Legible := ha' (a', t') List.mem_cons_self
  simp only [render, List.append_assoc, List.cons_append] at htext
  obtain ⟨hword, hbehind⟩ := Text.run_append_inj hname.isPlain hname'.isPlain
    (head?_space_isPlain _) (head?_space_isPlain _) htext
  simp only [params, tests, List.flatMap_singleton] at hparams
  obtain ⟨rfl, hu, hxs⟩ := Test.text_append_inj (List.cons.inj hbehind).2 hparams
  rw [hname.eq_of_text_eq hname' (String.toList_inj.1 hword)]
  exact ⟨rfl, hu, hxs⟩

theorem constant_append_inj {value value' : Bool} {u v : List Char}
    (h : (constant value).render ++ u = (constant value').render ++ v) :
    constant value = constant value' ∧ u = v := by
  cases value <;> cases value' <;> simp_all [render, constantText]

mutual

/-- **The text of an outline is told from what follows it, and determines the outline**, given the
parameters. -/
-- The induction is on the first outline.  Texts and parameters that follow are carried along, since the
-- parts of a group stand one behind the other.
theorem render_append_inj : ∀ {o o' : Outline} {u v : List Char} {xs ys : List Param},
    o.Legible → o'.Legible → Follows u → Follows v → o.render ++ u = o'.render ++ v →
    o.params ++ xs = o'.params ++ ys → o = o' ∧ u = v ∧ xs = ys
  | .constant value, o', u, v, xs, ys, ho, ho', hu, _, htext, hparams => by
    cases o' with
    | constant value' =>
      obtain ⟨heq, hrest⟩ := constant_append_inj htext
      exact ⟨heq, hrest, hparams⟩
    | test a' t' => obtain ⟨_, _, ⟨⟩⟩ := exists_eq_test_of_render ho ho' hu htext
    | negation child' => cases value <;> simp [render, constantText] at htext
    | group first' more' => cases value <;> simp [render, constantText] at htext
  | .test a t, o', u, v, xs, ys, ho, ho', _, hv, htext, hparams => by
    obtain ⟨a', t', rfl⟩ := exists_eq_test_of_render ho' ho hv htext.symm
    exact test_append_inj ho ho' htext hparams
  | .negation child, o', u, v, xs, ys, ho, ho', hu, hv, htext, hparams => by
    cases o' with
    | negation child' =>
      have hchild : child.Legible := ho
      have hchild' : child'.Legible := ho'
      simp only [render, List.cons_append, List.cons.injEq, true_and] at htext
      obtain ⟨rfl, hrest⟩ := render_append_inj hchild hchild' hu hv htext hparams
      exact ⟨rfl, hrest⟩
    | test a' t' => obtain ⟨_, _, ⟨⟩⟩ := exists_eq_test_of_render ho ho' hu htext
    | constant value' => cases value' <;> simp [render, constantText] at htext
    | group first' more' => simp [render] at htext
  | .group first more, o', u, v, xs, ys, ho, ho', hu, hv, htext, hparams => by
    cases o' with
    | group first' more' =>
      obtain ⟨hfirst, hmore⟩ := List.forall_mem_append.1 ho
      obtain ⟨hfirst', hmore'⟩ := List.forall_mem_append.1 ho'
      simp only [render, List.cons_append, List.append_assoc, List.cons.injEq, true_and] at htext
      simp only [params, tests, List.flatMap_append, List.append_assoc] at hparams
      obtain ⟨rfl, hrest, hbehind⟩ := render_append_inj hfirst hfirst' (follows_renderMore more u)
        (follows_renderMore more' v) htext hparams
      obtain ⟨rfl, hends⟩ := renderMore_append_inj hmore hmore' hrest hbehind
      exact ⟨rfl, hends⟩
    | test a' t' => obtain ⟨_, _, ⟨⟩⟩ := exists_eq_test_of_render ho ho' hu htext
    | constant value' => cases value' <;> simp [render, constantText] at htext
    | negation child' => simp [render] at htext

theorem renderMore_append_inj : ∀ {more more' : List (Connective × Outline)} {u v : List Char}
    {xs ys : List Param}, (∀ t ∈ testsOfMore more, t.1.Legible) →
    (∀ t ∈ testsOfMore more', t.1.Legible) → renderMore more ++ u = renderMore more' ++ v →
    ((testsOfMore more).flatMap fun t => t.2.params) ++ xs =
      ((testsOfMore more').flatMap fun t => t.2.params) ++ ys →
    more = more' ∧ u = v ∧ xs = ys
  | [], more', u, v, xs, ys, _, _, htext, hparams => by
    cases more' with
    | nil => exact ⟨rfl, (List.cons.inj htext).2, hparams⟩
    | cons next' more' =>
      obtain ⟨connective', o'⟩ := next'
      cases connective' <;> simp [renderMore, Connective.text] at htext
  | (connective, o) :: more, more', u, v, xs, ys, hlegible, hlegible', htext, hparams => by
    cases more' with
    | nil => cases connective <;> simp [renderMore, Connective.text] at htext
    | cons next' more' =>
      obtain ⟨connective', o'⟩ := next'
      obtain ⟨ho, hmore⟩ := List.forall_mem_append.1 hlegible
      obtain ⟨ho', hmore'⟩ := List.forall_mem_append.1 hlegible'
      simp only [renderMore, List.append_assoc] at htext
      simp only [testsOfMore, List.flatMap_append, List.append_assoc] at hparams
      obtain ⟨rfl, hrest⟩ := Connective.text_append_inj htext
      obtain ⟨rfl, hrest, hbehind⟩ := render_append_inj ho ho' (follows_renderMore more u)
        (follows_renderMore more' v) hrest hparams
      obtain ⟨rfl, hends⟩ := renderMore_append_inj hmore hmore' hrest hbehind
      exact ⟨rfl, hends⟩

end

end Outline

namespace Predicate

variable {p q : Predicate}

theorem legible_outline (h : ∀ a ∈ p.accessors, a.Legible) : p.outline.Legible := by
  intro t ht
  apply h
  rw [← accessors_outline p]
  exact List.mem_map_of_mem ht

theorem outline_eq (hp : ∀ a ∈ p.accessors, a.Legible) (hq : ∀ a ∈ q.accessors, a.Legible)
    (htext : p.text = q.text) (hparams : List.Forall₂ Param.Alike p.params q.params) :
    p.outline = q.outline := by
  have hrender : p.render = q.render := String.ofList_inj.1 htext
  have hnormal := Param.map_normal_eq hparams
  rw [← render_outline p, ← render_outline q] at hrender
  rw [← params_outline p, ← params_outline q] at hnormal
  obtain ⟨heq, -⟩ := Outline.render_append_inj (legible_outline hp) (legible_outline hq) .nothing
    .nothing (congrArg (· ++ []) hrender) (congrArg (· ++ []) hnormal)
  exact heq

/-- **The text of a predicate is unambiguous.**  If two predicates read the same, capture the same
values at the same positions, decimals of the same scale, and all their field names are words other
than the one for the row itself, they hold of the same rows. -/
theorem text_is_unambiguous (hp : ∀ a ∈ p.accessors, a.Legible) (hq : ∀ a ∈ q.accessors, a.Legible)
    (htext : p.text = q.text) (hparams : List.Forall₂ Param.Alike p.params q.params) (row : Row) :
    p.holds row = q.holds row := by
  rw [← holds_outline row p, outline_eq hp hq htext hparams, holds_outline row q]

/-- Fields named like a negation and like a constant are read as fields, and zeros with and without
sign are the same. -/
theorem names_like_words_are_unambiguous :
    let started : Predicate := .compare (.field "NOT") .startsWith ⟨0, .text "A"⟩
    let above (zero : Value) : Predicate := .compare (.field "TRUE") .gt ⟨1, zero⟩
    let p : Predicate := .any [.not (.all [started]), .all [.always, above (.float (.ofCode true 0))]]
    let q : Predicate := .any [.not (.any [started]), .all [.all [], above (.float (.ofCode false 0))]]
    (∀ a ∈ p.accessors, a.Legible) ∧ (∀ a ∈ q.accessors, a.Legible) ∧
      p.text = "(NOT (NOT STARTS WITH $0) OR (TRUE AND TRUE > $1))" ∧ p.text = q.text ∧
      List.Forall₂ Param.Alike p.params q.params ∧ ∀ row, p.holds row = q.holds row := by
  intro started above p q
  have hp : ∀ a ∈ p.accessors, a.Legible := by decide
  have hq : ∀ a ∈ q.accessors, a.Legible := by decide
  have htext : p.text = q.text := by decide
  have hparams : List.Forall₂ Param.Alike p.params q.params :=
    .cons ⟨rfl, by decide⟩ (.cons ⟨rfl, by decide⟩ .nil)
  exact ⟨hp, hq, by decide, htext, hparams, text_is_unambiguous hp hq htext hparams⟩

/-- With a space in its name, a field may read like the negation of another one. -/
example : text (.isNull (.field "NOT age")) = text (.not (.isNull (.field "age"))) := by
  decide

end Predicate

end QueryCriteria
