import QueryCriteria.Number.Decimal
import QueryCriteria.Proofs.Number.Literal

/-!
# Decimals are read as they were written

* `magnitude?_digits` — what reading one run of digits does, before or behind the point;
  `magnitude?_whole` and `magnitude?_pointed` put the runs together.
* `chars_of_magnitude?`, `isAsciiDigit_of_plain?` — no digits are read but ASCII digits.
* `magnitude?_text` — the magnitude of a decimal is read with its scale.
* `unsignedZero`, `ofText?_text` — a decimal is read back with its scale; only a zero loses its
  sign, which changes nothing about the number.
-/

namespace QueryCriteria.Decimal

theorem le_ofDigitChars (ds : List Char) (n : Nat) : n ≤ Nat.ofDigitChars 10 ds n := by
  induction ds generalizing n with
  | nil => simp
  | cons c ds ih =>
    rw [Nat.ofDigitChars_cons]
    have hstep := ih (10 * n + (c.toNat - '0'.toNat))
    omega

/-- A run of digits that stays below the limit is taken into the coefficient as a whole. -/
theorem magnitude?_digits {ds : List Char} (hds : Text.AllDigits ds) (rest : List Char)
    (pointed : Bool) : ∀ {coefficient scale : Nat} (seen : Bool),
      Nat.ofDigitChars 10 ds coefficient < coefficientLimit →
      (pointed = true → scale + ds.length ≤ greatestScale) →
      magnitude? (ds ++ rest) coefficient scale pointed seen =
        magnitude? rest (Nat.ofDigitChars 10 ds coefficient)
          (if pointed then scale + ds.length else scale) pointed (seen || !ds.isEmpty) := by
  induction ds with
  | nil =>
    intro coefficient scale seen _ _
    simp
  | cons c ds ih =>
    intro coefficient scale seen hlimit hscale
    have hc : c.isDigit = true := hds c List.mem_cons_self
    have hds : Text.AllDigits ds := fun d hd => hds d (List.mem_cons_of_mem c hd)
    have hzero : '0'.toNat = 48 := rfl
    rw [Nat.ofDigitChars_cons, hzero] at hlimit ⊢
    -- The coefficient only grows, so no prefix of the digits leaves the range.
    have hnext : 10 * coefficient + (c.toNat - 48) < coefficientLimit :=
      Nat.lt_of_le_of_lt (le_ofDigitChars ds _) hlimit
    have hroom : (pointed && decide (greatestScale ≤ scale)) = false := by
      cases pointed with
      | false => rfl
      | true =>
        have hscale := hscale rfl
        simp only [List.length_cons] at hscale
        simp only [Bool.true_and, decide_eq_false_iff_not]
        omega
    rw [List.cons_append, magnitude?, hroom]
    simp only [hc, hnext, if_true, Bool.false_eq_true, if_false]
    rw [ih hds true hlimit]
    · cases pointed with
      | false => simp
      | true => simp [Nat.add_assoc, Nat.add_comm 1]
    · intro hpointed
      have hscale := hscale hpointed
      simp only [List.length_cons] at hscale
      simp only [hpointed, if_true]
      omega

theorem magnitude?_whole {ds : List Char} (hds : Text.AllDigits ds) (hne : ds ≠ [])
    (hlimit : Text.natural ds < coefficientLimit) :
    magnitude? ds 0 0 false false = some (Text.natural ds, 0) := by
  rw [← List.append_nil ds, magnitude?_digits hds [] false false hlimit (by simp)]
  simp [magnitude?, Text.natural, hne]

/-- Digits on both sides of a point are the coefficient together, if it is below the limit, and
those behind the point the scale. -/
theorem magnitude?_pointed {whole fraction : List Char} (hwhole : Text.AllDigits whole)
    (hne : whole ≠ []) (hfraction : Text.AllDigits fraction)
    (hlimit : Text.natural (whole ++ fraction) < coefficientLimit)
    (hscale : fraction.length ≤ greatestScale) :
    magnitude? (whole ++ '.' :: fraction) 0 0 false false =
      some (Text.natural (whole ++ fraction), fraction.length) := by
  have hvalue : Text.natural (whole ++ fraction) =
      Nat.ofDigitChars 10 fraction (Nat.ofDigitChars 10 whole 0) := Nat.ofDigitChars_append 0
  have hpoint (n : Nat) :
      magnitude? ('.' :: fraction) n 0 false true = magnitude? fraction n 0 true true := by
    simp [magnitude?]
  rw [hvalue] at hlimit ⊢
  have hstart := le_ofDigitChars fraction (Nat.ofDigitChars 10 whole 0)
  rw [magnitude?_digits hwhole _ false false (by omega) (by simp)]
  simp only [Bool.false_eq_true, if_false, Bool.false_or, List.isEmpty_eq_false_iff.2 hne,
    Bool.not_false]
  have hrest : magnitude? (fraction ++ []) (Nat.ofDigitChars 10 whole 0) 0 true true = _ :=
    magnitude?_digits hfraction [] true true hlimit fun _ => by omega
  rw [List.append_nil] at hrest
  rw [hpoint, hrest]
  simp [magnitude?]

/-- Reading a magnitude succeeds on ASCII digits, points and underscores only. -/
theorem chars_of_magnitude? {s : List Char} {coefficient scale : Nat} {pointed seen : Bool}
    {m : Nat × Nat} (h : magnitude? s coefficient scale pointed seen = some m) :
    ∀ c ∈ s, c.isDigit = true ∨ c = '.' ∨ c = '_' := by
  -- What does not fit is looked through before it is rounded off.
  have hexcess : ∀ {excess : List Char} {coefficient scale : Nat},
      settle? coefficient scale excess = some m →
        ∀ c ∈ excess, c.isDigit = true ∨ c = '.' ∨ c = '_' := by
    intro excess coefficient scale h c hc
    unfold settle? at h
    split at h
    · cases h
    · rename_i hall
      simp only [Bool.not_eq_true, Bool.not_eq_false', List.all_eq_true, Bool.or_eq_true,
        beq_iff_eq] at hall
      exact (hall c hc).imp_right .inr
  fun_induction magnitude? s coefficient scale pointed seen with
  | case1 => simp
  | case2 => simp
  | case3 => exact hexcess h
  | case4 c rest coefficient scale pointed seen _ hdigit next _ ih =>
    intro d hd
    rcases List.mem_cons.1 hd with rfl | hd
    · exact .inl hdigit
    · exact ih h d hd
  | case5 => exact hexcess h
  | case6 => cases h
  | case7 c rest coefficient scale pointed seen _ _ hpoint ih =>
    intro d hd
    simp only [Bool.and_eq_true, beq_iff_eq] at hpoint
    rcases List.mem_cons.1 hd with rfl | hd
    · exact .inr (.inl hpoint.1)
    · exact ih h d hd
  | case8 c rest coefficient scale pointed seen _ _ _ hseparator ih =>
    intro d hd
    simp only [Bool.and_eq_true, beq_iff_eq] at hseparator
    rcases List.mem_cons.1 hd with rfl | hd
    · exact .inr (.inr hseparator.1)
    · exact ih h d hd
  | case9 => cases h

theorem tenTo_pos (n : Nat) : 0 < tenTo n :=
  Nat.pow_pos (by decide)

/-- The text of a decimal without its sign. -/
def magnitudeText (d : Decimal) : List Char :=
  Text.digits (d.coefficient / tenTo d.scale) ++
    if d.scale = 0 then [] else '.' :: Text.padded d.scale (d.coefficient % tenTo d.scale)

theorem text_eq (d : Decimal) : d.text = (if d.negative then ['-'] else []) ++ d.magnitudeText := by
  unfold text magnitudeText
  split_ifs <;> simp

theorem length_fraction (d : Decimal) (hscale : d.scale ≠ 0) :
    (Text.padded d.scale (d.coefficient % tenTo d.scale)).length = d.scale :=
  Text.length_padded (Nat.pos_of_ne_zero hscale) (Nat.mod_lt _ (tenTo_pos d.scale))

/-- The digits of the fraction, behind those of the whole part, make the coefficient. -/
theorem natural_whole_append_fraction (d : Decimal) (hscale : d.scale ≠ 0) :
    Text.natural (Text.digits (d.coefficient / tenTo d.scale) ++
      Text.padded d.scale (d.coefficient % tenTo d.scale)) = d.coefficient := by
  rw [Text.natural_append, Text.natural_digits, Text.natural_padded, d.length_fraction hscale]
  exact Nat.div_add_mod' d.coefficient (tenTo d.scale)

theorem magnitude?_text (d : Decimal) :
    magnitude? d.magnitudeText 0 0 false false = some (d.coefficient, d.scale) := by
  have hlimit := d.coefficient_lt
  unfold magnitudeText
  by_cases hscale : d.scale = 0
  · have hpower : tenTo d.scale = 1 := by rw [hscale]; rfl
    have hvalue := Text.natural_digits d.coefficient
    rw [if_pos hscale, hpower, Nat.div_one, List.append_nil, magnitude?_whole
      (Text.allDigits_digits _) (Text.digits_ne_nil _) (by rwa [hvalue]), hvalue, hscale]
  · have hvalue := d.natural_whole_append_fraction hscale
    have hlength := d.length_fraction hscale
    rw [if_neg hscale, magnitude?_pointed (Text.allDigits_digits _) (Text.digits_ne_nil _)
      (Text.allDigits_padded _ _) (by rwa [hvalue]) (by rw [hlength]; exact d.scale_le), hvalue,
      hlength]

/-- The decimal without the sign of a zero. -/
def unsignedZero (d : Decimal) : Decimal :=
  { d with negative := d.negative && d.coefficient != 0 }

theorem make?_eq_some (negative : Bool) {coefficient scale : Nat}
    (hcoefficient : coefficient < coefficientLimit) (hscale : scale ≤ greatestScale) :
    make? negative coefficient scale =
      some ⟨negative, coefficient, scale, hcoefficient, hscale⟩ :=
  dif_pos ⟨hcoefficient, hscale⟩

/-- A decimal is read with the sign apart from the magnitude; a zero loses its sign. -/
theorem plain?_eq_some_iff {s : List Char} {d : Decimal} :
    plain? s = some d ↔ ∃ m, magnitude? (Literal.splitSign s).2 0 0 false false = some m ∧
      make? ((Literal.splitSign s).1 && m.1 != 0) m.1 m.2 = some d := by
  rw [← Option.bind_eq_some_iff]
  rfl

theorem isAsciiDigit_of_plain? {s : List Char} {d : Decimal} (h : plain? s = some d) {c : Char}
    (hc : c ∈ s) (hdigit : Text.isDigit c = true) : c.isDigit = true := by
  obtain ⟨m, hm, -⟩ := plain?_eq_some_iff.1 h
  rcases chars_of_magnitude? hm c (Literal.mem_splitSign_of_isDigit hc hdigit) with h | rfl | rfl
  · exact h
  · exact absurd hdigit (by decide)
  · exact absurd hdigit (by decide)

theorem plain?_text (d : Decimal) : plain? d.text = some d.unsignedZero := by
  have hsign : Literal.splitSign d.text = (d.negative, d.magnitudeText) := by
    rw [text_eq]
    refine Literal.splitSign_minus_append d.negative fun c hc => ?_
    rw [magnitudeText, List.head?_append_of_ne_nil _ (Text.digits_ne_nil _)] at hc
    exact Text.allDigits_digits _ c (List.mem_of_mem_head? hc)
  rw [plain?_eq_some_iff, hsign]
  exact ⟨_, magnitude?_text d, make?_eq_some _ d.coefficient_lt d.scale_le⟩

/-- **A decimal is read back with its scale**, a zero without its sign. -/
theorem ofText?_text (d : Decimal) : ofText? d.text = some d.unsignedZero := by
  rw [ofText?, plain?_text, Option.some_or]

theorem scale_unsignedZero (d : Decimal) : d.unsignedZero.scale = d.scale := rfl

theorem signed_unsignedZero (d : Decimal) : d.unsignedZero.signed = d.signed := by
  unfold signed unsignedZero
  by_cases hzero : d.coefficient = 0
  · simp [hzero]
  · simp [hzero]

theorem sameNumber_unsignedZero (d : Decimal) : d.unsignedZero.sameNumber d = true := by
  simp [sameNumber, order, signed_unsignedZero, scale_unsignedZero]

end QueryCriteria.Decimal
