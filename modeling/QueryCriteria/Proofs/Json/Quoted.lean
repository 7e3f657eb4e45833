import Mathlib.Tactic.SplitIfs
import QueryCriteria.Json.Quoted

/-!
# Quoted text is read as it was written

* `Escaped`, `escaped_escapeChar` — the three ways a character is written between quotes.  What
  reads quoted text is proved for each of them.
* `rawString?_escape` — the closing quote of an escaped text is found behind the text.
* `unescape?_escape` — an escaped text stands for the text it was made from.
-/

namespace QueryCriteria.Json

/-- The ways a character is written between quotes. -/
inductive Escaped (c : Char) : List Char → Prop where
  | letter {e : Char} (hlookup : letterEscapes.lookup e = some c) (hunit : e ≠ 'u') :
    Escaped c ['\\', e]
  | unit {high low : Char} (hvalue : hexUnit? '0' '0' high low = some c.toNat) :
    Escaped c ['\\', 'u', '0', '0', high, low]
  | plain (hquote : c ≠ '"') (hbackslash : c ≠ '\\') (hcontrol : ¬ c < ' ') : Escaped c [c]

theorem hexUnit?_hexDigit_all :
    ∀ n < 32, hexUnit? '0' '0' (hexDigit (n / 16)) (hexDigit n) = some n := by
  decide

theorem escaped_escapeChar (c : Char) : Escaped c (escapeChar c) := by
  unfold escapeChar
  split_ifs with hquote hbackslash _ _ _ _ _ hcontrol
  all_goals try subst c; exact .letter rfl (by decide)
  · exact .unit (hexUnit?_hexDigit_all c.toNat hcontrol)
  · exact .plain hquote hbackslash hcontrol

/-! ## Up to the closing quote -/

/-- One written character is taken as a whole, however it is written. -/
theorem rawString?_escaped {c : Char} {written : List Char} (h : Escaped c written)
    (rest : List Char) :
    rawString? (written ++ rest) =
      (rawString? rest).map fun (raw, tail) => (written ++ raw, tail) := by
  cases h with
  | letter hlookup hunit =>
    simp only [List.cons_append, List.nil_append]
    rw [rawString?, hlookup]
    · rfl
    · intro _ _ _ _ _ he
      exact absurd he hunit
  | unit hvalue =>
    simp only [List.cons_append, List.nil_append]
    rw [rawString?, hvalue]
    rfl
  | plain hquote hbackslash hcontrol =>
    simp only [List.cons_append, List.nil_append]
    rw [rawString?]
    · simp [hcontrol, hbackslash]
    · exact hquote
    · intro _ _ _ _ _ hc
      exact absurd hc hbackslash
    · intro _ _ hc
      exact absurd hc hbackslash

/-- An escaped text ends where its closing quote stands. -/
theorem rawString?_escape (s rest : List Char) :
    rawString? (escape s ++ '"' :: rest) = some (escape s, rest) := by
  induction s with
  | nil => simp [escape, rawString?]
  | cons c s ih =>
    have hcons : escape (c :: s) = escapeChar c ++ escape s := List.flatMap_cons
    rw [hcons, List.append_assoc, rawString?_escaped (escaped_escapeChar c), ih]
    rfl

/-! ## What is meant -/

theorem units?_escaped {c : Char} {written : List Char} (h : Escaped c written)
    (rest : List Char) : units? (written ++ rest) = (units? rest).map (c.toNat :: ·) := by
  cases h with
  | letter hlookup hunit =>
    simp only [List.cons_append, List.nil_append]
    rw [units?, hlookup]
    · rfl
    · intro _ _ _ _ _ he
      exact absurd he hunit
  | unit hvalue =>
    simp only [List.cons_append, List.nil_append]
    rw [units?, hvalue]
    rfl
  | plain _ hbackslash _ =>
    simp only [List.cons_append, List.nil_append]
    rw [units?]
    · intro _ _ _ _ _ hc
      exact absurd hc hbackslash
    · intro _ _ hc
      exact absurd hc hbackslash

theorem units?_escape (s : List Char) : units? (escape s) = some (s.map Char.toNat) := by
  induction s with
  | nil => rfl
  | cons c s ih =>
    have hcons : escape (c :: s) = escapeChar c ++ escape s := List.flatMap_cons
    rw [hcons, units?_escaped (escaped_escapeChar c), ih]
    rfl

theorem not_surrogate (c : Char) :
    isHighSurrogate c.toNat = false ∧ isLowSurrogate c.toNat = false := by
  have hvalid : c.toNat < 0xD800 ∨ (0xDFFF < c.toNat ∧ c.toNat < 0x110000) := c.valid
  simp only [isHighSurrogate, isLowSurrogate, Bool.and_eq_false_iff, decide_eq_false_iff_not]
  omega

theorem characters?_map_toNat (s : List Char) : characters? (s.map Char.toNat) = some s := by
  induction s with
  | nil => rfl
  | cons c s ih =>
    obtain ⟨hhigh, hlow⟩ := not_surrogate c
    cases s with
    | nil => simp [characters?, hhigh, hlow]
    | cons d s =>
      rw [List.map_cons, List.map_cons, characters?, hhigh, hlow, ← List.map_cons, ih]
      simp

/-- **An escaped text stands for the text it was made from.** -/
theorem unescape?_escape (s : String) : unescape? (escape s.toList) = some s := by
  rw [unescape?, units?_escape, Option.bind_some, characters?_map_toNat, Option.map_some,
    String.ofList_toList]

end QueryCriteria.Json
