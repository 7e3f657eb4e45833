import Mathlib.Data.List.DropRight
import QueryCriteria.Text.Blank
import QueryCriteria.Text.Digit

/-!
# Trimming

`trim` takes a text to a normal form: the one text without blanks at its ends from which it arises
by padding.

* `IsPadding`, `Padded`, `Solid` — texts of blanks, a text between two of them, and a text that
  neither begins nor ends with a blank.
* `trim_eq_iff` — `trim s` is the solid text that `s` pads; `trim_trim` and `trim_of_padded` follow.
* `isBlank_of_isDigit` — digits, of whatever script, are no blanks.
-/

namespace QueryCriteria.Text

/-- A text of nothing but blanks. -/
def IsPadding (s : List Char) : Prop :=
  ∀ c ∈ s, isBlank c = true

instance (s : List Char) : Decidable (IsPadding s) :=
  decidable_of_iff (s.all isBlank = true) List.all_eq_true

/-- `s` is the text `t` with blanks around it. -/
def Padded (t s : List Char) : Prop :=
  ∃ before after, IsPadding before ∧ IsPadding after ∧ s = before ++ t ++ after

/-- A text that neither begins nor ends with a blank. -/
structure Solid (s : List Char) : Prop where
  first : ∀ c, s.head? = some c → isBlank c = false
  last : ∀ c, s.getLast? = some c → isBlank c = false

theorem isPadding_nil : IsPadding [] := by
  intro c hc
  cases hc

theorem Padded.refl (s : List Char) : Padded s s :=
  ⟨[], [], isPadding_nil, isPadding_nil, by simp⟩

/-- Blanks around a text bring no other characters into it. -/
theorem mem_of_padded {s t : List Char} {c : Char} (h : Padded t s) (hc : isBlank c = false) :
    c ∈ s ↔ c ∈ t := by
  obtain ⟨before, after, hbefore, hafter, rfl⟩ := h
  have hout : ∀ {padding}, IsPadding padding → c ∉ padding := by
    intro padding hpadding hmem
    rw [hpadding c hmem] at hc
    cases hc
  simp [hout hbefore, hout hafter]

/-- A text with no blank in it is solid. -/
theorem Solid.of_forall {s : List Char} (h : ∀ c ∈ s, isBlank c = false) : Solid s where
  first c hc := h c (List.mem_of_mem_head? hc)
  last c hc := h c (List.mem_of_getLast? hc)

/-- Two characters that are no blanks make a solid text of whatever stands between them. -/
theorem Solid.of_ends {first last : Char} (hfirst : isBlank first = false)
    (hlast : isBlank last = false) (s : List Char) : Solid (first :: s ++ [last]) where
  first c hc := by
    simp only [List.cons_append, List.head?_cons, Option.some.injEq] at hc
    rw [← hc, hfirst]
  last c hc := by
    rw [List.getLast?_concat, Option.some.injEq] at hc
    rw [← hc, hlast]

/-! ## The two ends -/

theorem exists_trimStart (s : List Char) : ∃ before, IsPadding before ∧ s = before ++ trimStart s :=
  ⟨s.takeWhile isBlank, fun _ hc => List.mem_takeWhile_imp hc, List.takeWhile_append_dropWhile.symm⟩

theorem exists_trimEnd (s : List Char) : ∃ after, IsPadding after ∧ s = trimEnd s ++ after :=
  ⟨s.rtakeWhile isBlank, fun _ hc => List.mem_rtakeWhile_imp hc,
    List.rdropWhile_append_rtakeWhile.symm⟩

theorem trimStart_append {before : List Char} (h : IsPadding before) (s : List Char) :
    trimStart (before ++ s) = trimStart s :=
  List.dropWhile_append_of_pos h

theorem trimEnd_append {after : List Char} (h : IsPadding after) (s : List Char) :
    trimEnd (s ++ after) = trimEnd s := by
  have hreverse : IsPadding after.reverse := fun c hc => h c (List.mem_reverse.1 hc)
  rw [trimEnd, trimEnd, List.reverse_append, trimStart_append hreverse]

theorem trimStart_of_first {s : List Char} (h : ∀ c, s.head? = some c → isBlank c = false) :
    trimStart s = s := by
  cases s with
  | nil => rfl
  | cons c s => simp [trimStart, h c rfl]

theorem trimEnd_of_last {s : List Char} (h : ∀ c, s.getLast? = some c → isBlank c = false) :
    trimEnd s = s := by
  have hreverse : trimStart s.reverse = s.reverse :=
    trimStart_of_first fun c hc => h c (by rwa [List.head?_reverse] at hc)
  rw [trimEnd, hreverse, List.reverse_reverse]

theorem isBlank_head?_trimStart {s : List Char} {c : Char} (h : (trimStart s).head? = some c) :
    isBlank c = false := by
  have hne : trimStart s ≠ [] := by
    intro hnil
    rw [hnil] at h
    cases h
  rw [List.head?_eq_some_head hne, Option.some.injEq] at h
  rw [← h]
  exact List.head_dropWhile_not isBlank hne

/-! ## Both ends -/

theorem padded_trim (s : List Char) : Padded (trim s) s := by
  obtain ⟨before, hbefore, hs⟩ := exists_trimStart s
  obtain ⟨after, hafter, hstart⟩ := exists_trimEnd (trimStart s)
  refine ⟨before, after, hbefore, hafter, ?_⟩
  rw [List.append_assoc, trim, ← hstart]
  exact hs

theorem solid_trim (s : List Char) : Solid (trim s) where
  first c hc := by
    -- What is left of a text at the right end begins as the text does.
    obtain ⟨after, -, hstart⟩ := exists_trimEnd (trimStart s)
    refine isBlank_head?_trimStart (s := s) ?_
    rw [hstart, List.head?_append]
    change (trimEnd (trimStart s)).head? = some c at hc
    rw [hc]
    rfl
  last c hc := by
    refine isBlank_head?_trimStart (s := (trimStart s).reverse) ?_
    rw [trim, trimEnd, List.getLast?_reverse] at hc
    exact hc

theorem trim_of_solid {s : List Char} (h : Solid s) : trim s = s := by
  rw [trim, trimStart_of_first h.first, trimEnd_of_last h.last]

/-- Blanks around a text do not survive trimming. -/
theorem trim_of_padded {t s : List Char} (h : Padded t s) : trim s = trim t := by
  obtain ⟨before, after, hbefore, hafter, rfl⟩ := h
  rw [List.append_assoc, trim, trim, trimStart_append hbefore]
  -- Where `t` is blank as well, all of it goes with the blanks behind it.
  by_cases hblank : IsPadding t
  · rw [trimStart_append hblank, ← List.append_nil (trimStart after), ← List.append_nil t,
      trimStart_append hblank]
    have hempty : trimStart after = [] := by
      rw [← List.append_nil after, trimStart_append hafter]
      rfl
    rw [hempty]
    rfl
  · have hne : (List.dropWhile isBlank t).isEmpty = false := by
      rw [List.isEmpty_eq_false_iff]
      intro hnil
      exact hblank (List.dropWhile_eq_nil_iff.1 hnil)
    rw [trimStart, List.dropWhile_append, hne]
    exact trimEnd_append hafter _

/-- **Trimming finds the solid text that a text pads**, and there is only one. -/
theorem trim_eq_iff {s t : List Char} : trim s = t ↔ Padded t s ∧ Solid t := by
  constructor
  · rintro rfl
    exact ⟨padded_trim s, solid_trim s⟩
  · rintro ⟨hpadded, hsolid⟩
    rw [trim_of_padded hpadded, trim_of_solid hsolid]

theorem trim_trim (s : List Char) : trim (trim s) = trim s :=
  trim_of_solid (solid_trim s)

/-! ## Characters that are no blanks -/

theorem zeros_apart_from_blanks :
    ∀ z ∈ zeros, ∀ r ∈ blankRanges, z + 9 < r.1 ∨ r.2 < z := by
  decide

/-- No digit of any script is a blank. -/
theorem isBlank_of_isDigit {c : Char} (h : isDigit c = true) : isBlank c = false := by
  obtain ⟨z, hz, hdigit⟩ := List.any_eq_true.1 h
  rw [isBlank, List.any_eq_false]
  intro r hr
  have hapart := zeros_apart_from_blanks z hz r hr
  simp only [Bool.and_eq_true, decide_eq_true_eq] at hdigit ⊢
  omega

end QueryCriteria.Text
