import QueryCriteria.Text.Case
import QueryCriteria.Text.Digit

/-!
# Equality up to case, and capitals

Registry keys are written in full capitals, while the names of operators and headers are compared
up to the case of ASCII letters.  On ASCII texts this makes no difference.

* `sameCaseless_iff` — equality up to case is equality of the lower-case forms, hence an
  equivalence.
* `isAscii`, `upperAscii` — ASCII texts, and the capital of an ASCII letter.
* `isAscii_of_sameCaseless` — equality up to case leads to no text beyond ASCII.
* `upperChar_of_ascii` — the ASCII letters are the first run of the table, and all other letters
  with a capital lie beyond ASCII.
* `upper_of_isAscii` — the capitals of an ASCII text, letter by letter.
* `upper_eq_upper_iff` — ASCII texts have the same capitals exactly when they are equal up to case.
* `lowerAscii_of_isDigit` — digits, of whatever script, have no case.
-/

namespace QueryCriteria.Text

/-! ## Equality up to case -/

theorem sameCaseless_iff {a b : String} :
    sameCaseless a b = true ↔ a.toList.map lowerAscii = b.toList.map lowerAscii := by
  unfold sameCaseless
  exact beq_iff_eq

theorem sameCaseless_refl (a : String) : sameCaseless a a = true :=
  sameCaseless_iff.2 rfl

theorem sameCaseless_right {a b : String} (h : sameCaseless a b = true) (c : String) :
    sameCaseless c a = sameCaseless c b := by
  unfold sameCaseless
  rw [sameCaseless_iff.1 h]

/-! ## ASCII texts and their capitals -/

/-- Whether a text is made of ASCII characters. -/
def isAscii (s : String) : Bool :=
  s.toList.all (·.toNat < 128)

theorem toNat_lowerAscii_all : ∀ n < 128, (lowerAscii (Char.ofNat n)).toNat < 128 := by
  decide

theorem toNat_lowerAscii_lt (c : Char) : (lowerAscii c).toNat < 128 ↔ c.toNat < 128 := by
  by_cases h : c.toNat < 128
  · have hlower := toNat_lowerAscii_all c.toNat h
    rw [Char.ofNat_toNat] at hlower
    exact iff_of_true hlower h
  · have hcapital : ¬ ('A' ≤ c ∧ c ≤ 'Z') := by
      rintro ⟨-, hc⟩
      have : c.toNat ≤ 90 := hc
      omega
    rw [lowerAscii, if_neg hcapital]

/-- Only ASCII texts are equal to an ASCII text up to case. -/
theorem isAscii_of_sameCaseless {a b : String} (h : sameCaseless a b = true)
    (ha : isAscii a = true) : isAscii b = true := by
  have hlower : ∀ s : String,
      isAscii s = (s.toList.map lowerAscii).all fun c => decide (c.toNat < 128) := by
    intro s
    rw [List.all_map]
    exact congrArg s.toList.all (funext fun c => decide_eq_decide.2 (toNat_lowerAscii_lt c).symm)
  rw [hlower, ← sameCaseless_iff.1 h, ← hlower, ha]

/-- The capital of an ASCII letter; every other character stands for itself. -/
def upperAscii (c : Char) : Char :=
  if 0x61 ≤ c.toNat ∧ c.toNat ≤ 0x7A then Char.ofNat (c.toNat - 32) else c

theorem caseExpansions_beyond_ascii : ∀ e ∈ caseExpansions, 128 ≤ e.1 := by
  decide

theorem caseRuns_head : caseRuns = ⟨0x61, 0x7A, 1, -32⟩ :: caseRuns.tail := rfl

theorem caseRuns_tail_beyond_ascii : ∀ r ∈ caseRuns.tail, 128 ≤ r.first := by
  decide +kernel

theorem upperAscii_lowerAscii_all :
    ∀ n < 128, upperAscii (lowerAscii (Char.ofNat n)) = upperAscii (Char.ofNat n) := by
  decide

theorem lowerAscii_upperAscii_all :
    ∀ n < 128, lowerAscii (upperAscii (Char.ofNat n)) = lowerAscii (Char.ofNat n) := by
  decide

section

variable {c : Char} (h : c.toNat < 128)
include h

theorem upperChar_of_ascii : upperChar c = [upperAscii c] := by
  have hexpansion : caseExpansions.lookup c.toNat = none := by
    rw [List.lookup_eq_none_iff]
    intro e he
    have := caseExpansions_beyond_ascii e he
    simp only [bne_iff_ne, ne_eq]
    omega
  have htail : caseRuns.tail.find? (·.has c.toNat) = none := by
    rw [List.find?_eq_none]
    intro r hr hhas
    have := caseRuns_tail_beyond_ascii r hr
    simp only [CaseRun.has, Bool.and_eq_true, decide_eq_true_eq] at hhas
    omega
  unfold upperChar upperAscii
  rw [hexpansion, caseRuns_head, List.find?_cons, htail]
  by_cases hletter : 0x61 ≤ c.toNat ∧ c.toNat ≤ 0x7A
  · have hcapital : ((c.toNat : Int) + -32).toNat = c.toNat - 32 := by omega
    simp [CaseRun.has, hletter, Nat.mod_one, hcapital]
  · have hnot : (⟨0x61, 0x7A, 1, -32⟩ : CaseRun).has c.toNat = false := by
      simpa [CaseRun.has, Nat.mod_one] using hletter
    simp [hnot, hletter]

theorem upperAscii_lowerAscii : upperAscii (lowerAscii c) = upperAscii c := by
  simpa only [Char.ofNat_toNat] using upperAscii_lowerAscii_all c.toNat h

theorem lowerAscii_upperAscii : lowerAscii (upperAscii c) = lowerAscii c := by
  simpa only [Char.ofNat_toNat] using lowerAscii_upperAscii_all c.toNat h

end

theorem toNat_lt_of_isAscii {s : String} (h : isAscii s = true) :
    ∀ c ∈ s.toList, c.toNat < 128 := by
  intro c hc
  simpa using List.all_eq_true.1 h c hc

theorem upper_of_isAscii {s : String} (h : isAscii s = true) :
    upper s = String.ofList (s.toList.map upperAscii) := by
  unfold upper
  congr 1
  have hchars := toNat_lt_of_isAscii h
  generalize s.toList = cs at hchars
  induction cs with
  | nil => rfl
  | cons c cs ih =>
    rw [List.flatMap_cons, List.map_cons, upperChar_of_ascii (hchars c List.mem_cons_self),
      ih fun d hd => hchars d (List.mem_cons_of_mem c hd)]
    rfl

/-- **On ASCII texts equal capitals are equality up to case.** -/
theorem upper_eq_upper_iff {a b : String} (ha : isAscii a = true) (hb : isAscii b = true) :
    upper a = upper b ↔ sameCaseless a b = true := by
  have hlower : ∀ {s : String}, isAscii s = true →
      (s.toList.map upperAscii).map lowerAscii = s.toList.map lowerAscii := by
    intro s hs
    rw [List.map_map]
    exact List.map_congr_left fun c hc => lowerAscii_upperAscii (toNat_lt_of_isAscii hs c hc)
  have hupper : ∀ {s : String}, isAscii s = true →
      (s.toList.map lowerAscii).map upperAscii = s.toList.map upperAscii := by
    intro s hs
    rw [List.map_map]
    exact List.map_congr_left fun c hc => upperAscii_lowerAscii (toNat_lt_of_isAscii hs c hc)
  rw [upper_of_isAscii ha, upper_of_isAscii hb, String.ofList_inj, sameCaseless_iff]
  constructor
  · intro h
    rw [← hlower ha, ← hlower hb, h]
  · intro h
    rw [← hupper ha, ← hupper hb, h]

/-! ## Digits -/

theorem zeros_apart_from_capitals : ∀ z ∈ zeros, z + 9 < 'A'.toNat ∨ 'Z'.toNat < z := by
  decide

/-- No digit of any script is a capital letter. -/
theorem lowerAscii_of_isDigit {c : Char} (h : isDigit c = true) : lowerAscii c = c := by
  obtain ⟨z, hz, hdigit⟩ := List.any_eq_true.1 h
  have hapart := zeros_apart_from_capitals z hz
  simp only [Bool.and_eq_true, decide_eq_true_eq] at hdigit
  have hcapital : ¬ ('A' ≤ c ∧ c ≤ 'Z') := by
    rintro ⟨hleast, hgreatest⟩
    have hleast' : 'A'.toNat ≤ c.toNat := hleast
    have hgreatest' : c.toNat ≤ 'Z'.toNat := hgreatest
    omega
  rw [lowerAscii, if_neg hcapital]

end QueryCriteria.Text
