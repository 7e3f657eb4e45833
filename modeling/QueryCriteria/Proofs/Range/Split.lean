import QueryCriteria.Proofs.Text.Blank
import QueryCriteria.Range.Parse

/-!
# Range text and its parts

Range text of every kind has two brackets and two ends with a comma between them; only the shape of
the ends depends on the field.  The parts are found by searching from the outside, and are those that
the text shows.

* `Range.split?_eq_some_iff` — taking text apart at its brackets and its first comma.
* `Range.Split.Shows` — a text shows brackets and ends, with blanks around every part.
* `Range.split?_eq_some_iff_shows` — the parts found are trimmed ones that the text shows; the lower
  one has no comma.
-/

namespace QueryCriteria.Range

theorem opening?_eq_some_iff {c : Char} {closed : Bool} :
    opening? c = some closed ↔ c = if closed then '[' else '(' := by
  unfold opening?
  split <;> cases closed <;> simp_all

theorem closing?_eq_some_iff {c : Char} {closed : Bool} :
    closing? c = some closed ↔ c = if closed then ']' else ')' := by
  unfold closing?
  split <;> cases closed <;> simp_all

/-- Text is taken apart at its outermost characters and its first comma, and the parts are
trimmed. -/
theorem split?_eq_some_iff {s : List Char} {p : Split} :
    split? s = some p ↔
      ∃ opening closing left right, opening? opening = some p.lowerClosed ∧
        closing? closing = some p.upperClosed ∧ ',' ∉ left ∧
        Text.trim s = opening :: (left ++ ',' :: right) ++ [closing] ∧
        p.lower = Text.trim left ∧ p.upper = Text.trim right := by
  unfold split?
  constructor
  · intro h
    cases htrim : Text.trim s with
    | nil => simp [htrim] at h
    | cons opening rest =>
      simp only [htrim] at h
      split at h
      · rename_i lowerClosed upperClosed comma right hopening hclosing hcomma
        simp only [Option.some.injEq] at h
        subst h
        obtain ⟨closing, hlast, hlastClosing⟩ := Option.bind_eq_some_iff.1 hclosing
        obtain ⟨body, rfl⟩ := List.getLast?_eq_some_iff.1 hlast
        rw [List.dropLast_concat] at hcomma ⊢
        -- The first part was read up to a comma, so what stands behind it is one.
        have hfound : (comma != ',') = false := by
          have hne : body.dropWhile (· != ',') ≠ [] := by rw [hcomma]; exact List.cons_ne_nil _ _
          have hhead := List.head_dropWhile_not (· != ',') hne
          simpa only [hcomma, List.head_cons] using hhead
        simp only [bne_eq_false_iff_eq] at hfound
        subst hfound
        refine ⟨opening, closing, _, right, hopening, hlastClosing, ?_, ?_, rfl, rfl⟩
        · intro hmem
          simpa using List.mem_takeWhile_imp hmem
        · rw [← hcomma, List.takeWhile_append_dropWhile]
          rfl
      · cases h
  · rintro ⟨opening, closing, left, right, hopening, hclosing, hleft, htrim, hlower, hupper⟩
    have hbefore : ∀ c ∈ left, (c != ',') = true := by
      intro c hc
      rw [bne_iff_ne]
      rintro rfl
      exact hleft hc
    have htake : (left ++ ',' :: right).takeWhile (· != ',') = left := by
      rw [List.takeWhile_append_of_pos hbefore, List.takeWhile_cons_of_neg (by simp),
        List.append_nil]
    have hdrop : (left ++ ',' :: right).dropWhile (· != ',') = ',' :: right := by
      rw [List.dropWhile_append_of_pos hbefore, List.dropWhile_cons_of_neg (by simp)]
    simp only [htrim, List.cons_append, hopening, List.getLast?_concat, Option.bind_some, hclosing,
      List.dropLast_concat, hdrop, htake, ← hlower, ← hupper]

/-! ## Parts that are shown -/

namespace Split

/-- The text shows these brackets and ends, with a comma between the ends and blanks anywhere around
the parts. -/
def Shows (p : Split) (s : List Char) : Prop :=
  ∃ left right, Text.Padded p.lower left ∧ Text.Padded p.upper right ∧
    Text.Padded
      ((if p.lowerClosed then '[' else '(') :: (left ++ ',' :: right) ++
        [if p.upperClosed then ']' else ')']) s

/-- Ends that can be told apart from what stands around them: no blanks at their ends, and no comma
in the lower one. -/
structure Distinct (p : Split) : Prop where
  comma : ',' ∉ p.lower
  lower : Text.Solid p.lower
  upper : Text.Solid p.upper

theorem Distinct.of_chars {p : Split}
    (hlower : ∀ c ∈ p.lower, Text.isBlank c = false ∧ c ≠ ',')
    (hupper : ∀ c ∈ p.upper, Text.isBlank c = false ∧ c ≠ ',') : p.Distinct where
  comma hmem := (hlower _ hmem).2 rfl
  lower := .of_forall fun c hc => (hlower c hc).1
  upper := .of_forall fun c hc => (hupper c hc).1

end Split

/-- **The parts found are those that the text shows.** -/
theorem split?_eq_some_iff_shows {s : List Char} {p : Split} :
    split? s = some p ↔ p.Shows s ∧ p.Distinct := by
  have hcomma : Text.isBlank ',' = false := by decide
  rw [split?_eq_some_iff]
  constructor
  · rintro ⟨opening, closing, left, right, hopening, hclosing, hleft, htrim, hlower, hupper⟩
    have hpadded : Text.Padded p.lower left := hlower ▸ Text.padded_trim left
    refine ⟨⟨left, right, hpadded, hupper ▸ Text.padded_trim right, ?_⟩, ?_, ?_, ?_⟩
    · rw [← opening?_eq_some_iff.1 hopening, ← closing?_eq_some_iff.1 hclosing, ← htrim]
      exact Text.padded_trim s
    · exact fun hmem => hleft ((Text.mem_of_padded hpadded hcomma).2 hmem)
    · exact hlower ▸ Text.solid_trim left
    · exact hupper ▸ Text.solid_trim right
  · rintro ⟨⟨left, right, hleft, hright, hs⟩, hdistinct⟩
    refine ⟨_, _, left, right, opening?_eq_some_iff.2 rfl, closing?_eq_some_iff.2 rfl, ?_, ?_, ?_, ?_⟩
    · exact fun hmem => hdistinct.comma ((Text.mem_of_padded hleft hcomma).1 hmem)
    · refine Text.trim_eq_iff.2 ⟨hs, Text.Solid.of_ends ?_ ?_ _⟩
      · show Text.isBlank (if p.lowerClosed then '[' else '(') = false
        split <;> decide
      · show Text.isBlank (if p.upperClosed then ']' else ')') = false
        split <;> decide
    · exact (Text.trim_eq_iff.2 ⟨hleft, hdistinct.lower⟩).symm
    · exact (Text.trim_eq_iff.2 ⟨hright, hdistinct.upper⟩).symm

end QueryCriteria.Range
