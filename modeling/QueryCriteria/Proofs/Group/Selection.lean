import QueryCriteria.Group.Selector
import QueryCriteria.Proofs.Text.Case

/-!
# What a selection means

A name means the first header of its own name, or else the first that answers to it.  Headers of a
catalog may share names, so a position is not given by the name found there alone.

* `headerPosition?_isSome` — a name means some header exactly when one answers to it.
* `getElem?_headerPosition?` — the header at the position that a name leads to is the one that
  `findHeader?` gives.
* `headerPosition?_own_name` — the name of the header that a name means leads to the same header.
* `Selector.Settled` — the selected operator is the one its own name means; `select?`,
  `selectFirst` and `setVisible` keep this, whatever the headers.
-/

namespace QueryCriteria

/-! ## Headers by name -/

theorem Header.answersTo_own_name (h : Header) : h.answersTo h.name = true := by
  simp [answersTo, Text.sameCaseless_refl]

/-- A header that answers to a name it does not carry is named like a built-in operator. -/
theorem Header.answersTo_iff_builtin {h : Header} {name : String}
    (hn : Text.sameCaseless h.name name = false) :
    h.answersTo name = true ↔
      ∃ b, Builtin.find? name = some b ∧ Text.sameCaseless h.name b.canonicalName = true := by
  simp [answersTo, hn, Option.any_eq_true]

theorem headerPosition?_eq_some {headers : List Header} {name : String} {i : Nat}
    (h : headerPosition? headers name = some i) :
    ∃ hd, headers[i]? = some hd ∧ hd.answersTo name = true := by
  unfold headerPosition? at h
  rcases Option.or_eq_some_iff.1 h with h | ⟨-, h⟩
  · obtain ⟨hi, hp, -⟩ := List.findIdx?_eq_some_iff_getElem.1 h
    exact ⟨headers[i], List.getElem?_eq_getElem hi, by simp [Header.answersTo, hp]⟩
  · obtain ⟨hi, hp, -⟩ := List.findIdx?_eq_some_iff_getElem.1 h
    exact ⟨headers[i], List.getElem?_eq_getElem hi, hp⟩

theorem headerPosition?_isSome {headers : List Header} {name : String} :
    (headerPosition? headers name).isSome = true ↔ ∃ hd ∈ headers, hd.answersTo name = true := by
  constructor
  · intro h
    obtain ⟨i, hi⟩ := Option.isSome_iff_exists.1 h
    obtain ⟨hd, hget, hans⟩ := headerPosition?_eq_some hi
    exact ⟨hd, List.mem_of_getElem? hget, hans⟩
  · rintro ⟨hd, hmem, hans⟩
    unfold headerPosition?
    rw [Option.isSome_or, Bool.or_eq_true, List.findIdx?_isSome, List.findIdx?_isSome]
    exact Or.inr (List.any_eq_true.2 ⟨hd, hmem, hans⟩)

/-- The header at the position that a name leads to is the one that the name means. -/
theorem getElem?_headerPosition? (headers : List Header) (name : String) :
    (headerPosition? headers name).bind (headers[·]?) = findHeader? headers name := by
  unfold headerPosition? findHeader?
  rw [List.find?_eq_bind_findIdx?_getElem?, List.find?_eq_bind_findIdx?_getElem?]
  cases hown : headers.findIdx? fun hd => Text.sameCaseless hd.name name with
  | none => rfl
  | some i =>
    obtain ⟨hi, -, -⟩ := List.findIdx?_eq_some_iff_getElem.1 hown
    simp [hi]

/-- **A header is found again by its own name**, even where other headers carry that name too or
answer to it. -/
theorem headerPosition?_own_name {headers : List Header} {name : String} {i : Nat} {hd : Header}
    (h : headerPosition? headers name = some i) (hget : headers[i]? = some hd) :
    headerPosition? headers hd.name = some i := by
  obtain ⟨hi, rfl⟩ := List.getElem?_eq_some_iff.1 hget
  unfold headerPosition? at h ⊢
  rcases Option.or_eq_some_iff.1 h with h | ⟨hnone, h⟩
  · -- found by its own name: the same headers carry both names
    obtain ⟨_, hp, _⟩ := List.findIdx?_eq_some_iff_getElem.1 h
    simp only [Text.sameCaseless_right hp, h, Option.some_or]
  · -- found through a built-in operator: no header carries the given name
    obtain ⟨_, hp, hfirst⟩ := List.findIdx?_eq_some_iff_getElem.1 h
    have hother : ∀ x ∈ headers, Text.sameCaseless x.name name = false :=
      List.findIdx?_eq_none_iff.1 hnone
    obtain ⟨b, hb, hcan⟩ :=
      (Header.answersTo_iff_builtin (hother _ (List.getElem_mem hi))).1 hp
    have hown : headers.findIdx? (fun x => Text.sameCaseless x.name headers[i].name) = some i := by
      refine List.findIdx?_eq_some_iff_getElem.2 ⟨hi, Text.sameCaseless_refl _, ?_⟩
      intro j hj hsame
      refine hfirst j hj ?_
      rw [Text.sameCaseless_right hcan] at hsame
      exact (Header.answersTo_iff_builtin (hother _ (List.getElem_mem _))).2 ⟨b, hb, hsame⟩
    rw [hown, Option.some_or]

/-- The first header is found by its own name. -/
theorem headerPosition?_head (hd : Header) (rest : List Header) :
    headerPosition? (hd :: rest) hd.name = some 0 := by
  simp [headerPosition?, List.findIdx?_cons, Text.sameCaseless_refl]

/-! ## Selectors -/

namespace Selector

/-- The selected operator, if there is one, is the one that its own name means. -/
def Settled (s : Selector) : Prop :=
  ∀ i, s.selected = some i → ∃ hd, s.applicable[i]? = some hd ∧ s.position? hd.name = some i

theorem settled_new (applicable : List Header) : (new applicable).Settled := by
  intro i h
  cases h

theorem select?_eq_some_iff {s s' : Selector} {name : String} :
    s.select? (some name) = some s' ↔
      ∃ i, s.position? name = some i ∧ s' = { s with selected := some i } := by
  simp only [select?, Option.map_eq_some_iff, eq_comm (a := s')]

theorem Settled.select? {s s' : Selector} {name : Option String}
    (h : s.select? name = some s') : s'.Settled := by
  cases name with
  | none =>
    cases h
    intro i hi
    cases hi
  | some name =>
    obtain ⟨j, hj, rfl⟩ := select?_eq_some_iff.1 h
    intro i hi
    cases hi
    obtain ⟨hd, hget, -⟩ := headerPosition?_eq_some hj
    exact ⟨hd, hget, headerPosition?_own_name hj hget⟩

theorem settled_selectFirst (s : Selector) : s.selectFirst.Settled := by
  intro i hi
  unfold selectFirst at hi ⊢
  cases hs : s.applicable with
  | nil => simp [hs] at hi
  | cons hd rest =>
    simp only [hs, List.isEmpty_cons, Bool.false_eq_true, if_false, Option.some.injEq] at hi
    subst hi
    refine ⟨hd, rfl, ?_⟩
    exact headerPosition?_head hd rest

theorem Settled.setVisible {s : Selector} (h : s.Settled) (visible : Bool) :
    (s.setVisible visible).Settled := h

/-- The operator in effect is found again by its name. -/
theorem Settled.position?_effective {s : Selector} (h : s.Settled) {hd : Header}
    (heff : s.effective = some hd) :
    ∃ i, s.position? hd.name = some i ∧ s.applicable[i]? = some hd := by
  have hcur : s.current = some hd := by
    unfold effective at heff
    split at heff
    · exact heff
    · cases heff
  obtain ⟨i, hsel, hget⟩ := Option.bind_eq_some_iff.1 hcur
  obtain ⟨hd', hget', hpos⟩ := h i hsel
  rw [hget] at hget'
  cases hget'
  exact ⟨i, hpos, hget⟩

end Selector

end QueryCriteria
