import QueryCriteria.Proofs.Group.Selection
import QueryCriteria.Proofs.Operator.Registry

/-!
# The names of operators in the catalog and the registry

A name is looked up in three places: in the table of built-in operators, in a registry and in a
catalog.  The table and the catalog ignore the case of ASCII letters; the registry compares full
capitals.

* `findHeader?_eq_some`, `findHeader?_eq_none_iff`, `exists_findHeader?` — a name means a header
  that answers to it, if there is one.
* `Arity.slots`, `Arity.takes` — the value slots that an operator needs, and whether a number of
  values is what it is made for.
* `Catalog.Canonical`, `Catalog.canonical_standard` — every header is named as a built-in operator
  and reads the slots that this operator needs.
* `Header.answersTo_iff_find?` — such a header answers to exactly the names of its operator.
* `Catalog.get?_standard` — the standard catalog finds what the table finds.
* `Registry.names_agree_on_ascii` — the three agree on every name but those that are not ASCII and
  become a name of a built-in operator in capitals; `Registry.dotless_name_is_found_alone` shows one.
-/

namespace QueryCriteria

/-! ## Headers -/

theorem findHeader?_eq_some {headers : List Header} {name : String} {hd : Header}
    (h : findHeader? headers name = some hd) : hd ∈ headers ∧ hd.answersTo name = true := by
  rcases Option.or_eq_some_iff.1 h with h | ⟨-, h⟩
  · have hown := List.find?_some h
    exact ⟨List.mem_of_find?_eq_some h, by simp [Header.answersTo, hown]⟩
  · have hans := List.find?_some h
    exact ⟨List.mem_of_find?_eq_some h, hans⟩

theorem findHeader?_eq_none_iff {headers : List Header} {name : String} :
    findHeader? headers name = none ↔ ∀ hd ∈ headers, hd.answersTo name = false := by
  unfold findHeader?
  rw [Option.or_eq_none_iff, List.find?_eq_none, List.find?_eq_none]
  constructor
  · rintro ⟨-, h⟩ hd hmem
    exact Bool.eq_false_iff.2 (h hd hmem)
  · intro h
    refine ⟨fun hd hmem hown => ?_, fun hd hmem => Bool.eq_false_iff.1 (h hd hmem)⟩
    have hanswers := h hd hmem
    simp [Header.answersTo, hown] at hanswers

/-- A name that a header answers to means some header. -/
theorem exists_findHeader? {headers : List Header} {name : String}
    (h : ∃ hd ∈ headers, hd.answersTo name = true) :
    ∃ hd ∈ headers, findHeader? headers name = some hd ∧ hd.answersTo name = true := by
  have hsome : findHeader? headers name ≠ none := by
    intro hnone
    obtain ⟨hd, hmem, hans⟩ := h
    rw [findHeader?_eq_none_iff.1 hnone hd hmem] at hans
    cases hans
  obtain ⟨hd, hhd⟩ := Option.ne_none_iff_exists'.1 hsome
  exact ⟨hd, (findHeader?_eq_some hhd).1, hhd, (findHeader?_eq_some hhd).2⟩

/-! ## Numbers of values -/

/-- The number of value slots that take the values of an operator.  A slot takes any number of
values, so one is enough for an operator of many. -/
def Arity.slots : Arity → Nat
  | .fixed count => count
  | .unbounded => 1

/-- Whether a number of values is what an operator is made for; an operator of many takes any. -/
def Arity.takes : Arity → Nat → Bool
  | .fixed count, supplied => supplied == count
  | .unbounded, _ => true

theorem Arity.required_le_slots (a : Arity) : a.required ≤ a.slots := by
  cases a with
  | fixed count => exact Nat.le_refl count
  | unbounded => exact Nat.zero_le _

theorem Arity.required_le_of_takes {a : Arity} {supplied : Nat} (h : a.takes supplied = true) :
    a.required ≤ supplied := by
  cases a with
  | fixed count => exact Nat.le_of_eq (beq_iff_eq.1 h).symm
  | unbounded => exact Nat.zero_le _

theorem Builtin.arity_cases (b : Builtin) :
    b.arity = .fixed 0 ∨ b.arity = .fixed 1 ∨ b.arity = .fixed 2 ∨ b.arity = .unbounded := by
  cases b <;> decide

/-! ## Headers of built-in operators -/

/-- Every header is named as a built-in operator and reads the slots that this operator needs. -/
def Catalog.Canonical (catalog : Catalog) : Prop :=
  ∀ hd ∈ catalog.headers, ∃ b ∈ Builtin.all,
    hd.name = b.canonicalName ∧ hd.slots.toNat = b.arity.slots

instance (catalog : Catalog) : Decidable catalog.Canonical := by
  unfold Catalog.Canonical
  exact inferInstance

theorem Catalog.canonical_standard : standard.Canonical := by
  decide

theorem Catalog.standard_has_all :
    ∀ b ∈ Builtin.all, ∃ hd ∈ standard.headers, hd.name = b.canonicalName := by
  decide

theorem Builtin.canonicalName_mem_names (b : Builtin) : b.canonicalName ∈ b.names :=
  List.mem_cons_self

theorem Builtin.find?_canonicalName (b : Builtin) : find? b.canonicalName = some b :=
  find?_of_mem_names b.canonicalName_mem_names

/-- A header named as a built-in operator answers to exactly the names of this operator. -/
theorem Header.answersTo_iff_find? {hd : Header} {b : Builtin}
    (hname : hd.name = b.canonicalName) (name : String) :
    hd.answersTo name = true ↔ Builtin.find? name = some b := by
  constructor
  · intro hans
    cases hown : Text.sameCaseless hd.name name with
    | true => rw [← Builtin.find?_congr hown, hname, b.find?_canonicalName]
    | false =>
      obtain ⟨b', hfind, hsame⟩ := (answersTo_iff_builtin hown).1 hans
      rw [hname] at hsame
      rw [hfind, Builtin.eq_of_sameCaseless b.canonicalName_mem_names
        b'.canonicalName_mem_names hsame]
  · intro hfind
    simp [answersTo, hfind, hname, Text.sameCaseless_refl]

/-- **The standard catalog finds what the table finds**: the header named as the operator. -/
theorem Catalog.get?_standard (name : String) :
    (standard.get? name).map (·.name) = (Builtin.find? name).map (·.canonicalName) := by
  cases hget : standard.get? name with
  | some hd =>
    obtain ⟨hmem, hans⟩ := findHeader?_eq_some hget
    obtain ⟨b, -, hname, -⟩ := canonical_standard hd hmem
    rw [(hd.answersTo_iff_find? hname name).1 hans]
    exact congrArg some hname
  | none =>
    cases hfind : Builtin.find? name with
    | none => rfl
    | some b =>
      obtain ⟨hd, hmem, hname⟩ := standard_has_all b b.mem_all
      have hans := (Header.answersTo_iff_find? hname name).2 hfind
      rw [findHeader?_eq_none_iff.1 hget hd hmem] at hans
      cases hans

namespace Registry

/-! ## The three together -/

/-- **One name means one operator.**  What the table finds under a name, the standard registry and
the standard catalog find too.  What the table does not find, the catalog does not find either; and
the registry finds it only if it is not ASCII and has the capitals of a name of a built-in
operator. -/
theorem names_agree_on_ascii (settings : Settings) (now : DateTime) (name : String) :
    match Builtin.find? name with
    | some b => (standard settings now).get? name = some (.builtin b) ∧
        ∃ hd, Catalog.standard.get? name = some hd ∧ hd.name = b.canonicalName
    | none => Catalog.standard.get? name = none ∧
        ∀ op, (standard settings now).get? name = some op ↔
          Text.isAscii name = false ∧
            ∃ b, op = .builtin b ∧ ∃ own ∈ b.names, Text.upper own = Text.upper name := by
  have hcatalog := Catalog.get?_standard name
  cases hfind : Builtin.find? name with
  | some b =>
    rw [hfind] at hcatalog
    exact ⟨get?_standard_of_find? settings now hfind, Option.map_eq_some_iff.1 hcatalog⟩
  | none =>
    rw [hfind] at hcatalog
    refine ⟨Option.map_eq_none_iff.1 hcatalog, fun op => ?_⟩
    rw [get?_standard_eq_some_iff, iff_and_self]
    intro hupper
    -- An ASCII name would have been found in the table.
    cases hascii : Text.isAscii name with
    | false => rfl
    | true =>
      have hget := (get?_standard_eq_some_iff settings now).2 hupper
      rw [get?_standard settings now hascii, hfind] at hget
      cases hget

/-- **The registry finds `ıN` alone**: the dotless `ı` has the capital `I`, but is not a letter that
the table and the catalog compare without case. -/
theorem dotless_name_is_found_alone :
    ¬ ∀ (settings : Settings) (now : DateTime) (name : String),
      (Builtin.find? name = none ∧ (standard settings now).get? name = none ∧
        Catalog.standard.get? name = none) ∨
      ∃ b, Builtin.find? name = some b ∧ (standard settings now).get? name = some (.builtin b) ∧
        ∃ hd, Catalog.standard.get? name = some hd ∧ hd.name = b.canonicalName := by
  intro agree
  let now : DateTime := .midnight ⟨0, by decide, by decide⟩
  have htable : Builtin.find? "ıN" = none := by decide
  have hupper : Text.upper "IN" = Text.upper "ıN" := by decide
  have hregistry : (standard {} now).get? "ıN" = some (.builtin .oneOf) :=
    (get?_standard_eq_some_iff {} now).2 ⟨.oneOf, rfl, "IN", by decide, hupper⟩
  rcases agree {} now "ıN" with ⟨-, hnone, -⟩ | ⟨b, hfound, -⟩
  · rw [hregistry] at hnone
    cases hnone
  · rw [htable] at hfound
    cases hfound

end Registry

end QueryCriteria
