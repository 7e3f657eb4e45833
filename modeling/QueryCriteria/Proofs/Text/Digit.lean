import QueryCriteria.Number.Power
import QueryCriteria.Proofs.Text.Blank
import QueryCriteria.Text.Digit

/-!
# Numbers written in digits

* `takeWhile_run_append`, `run_append_inj` — a run of characters of one kind is told from what follows
  it.
* `AllDigits`, `NoDigitHead` — a text of ASCII digits, and a text that does not continue one.
* `takeWhile_isDigit_append`, `dropWhile_isDigit_append` — digits are read up to where they end.
* `isDigit_of_isAsciiDigit` — ASCII digits are digits among those of all scripts.
* `natural_digits`, `natural_padded` — writing a number in digits and reading it is the identity.
* `natural_append` — digits in two parts are read from the parts.
* `length_padded` — a number that fits is written in exactly the width asked for.
* `head?_digits_ne_zero` — a positive number is written without leading zero.
-/

namespace QueryCriteria.Text

/-! ## Runs of characters -/

section Run

variable {p : Char → Bool} {run run' rest rest' : List Char}

/-- A run of characters is read up to where it ends. -/
theorem takeWhile_run_append (hrun : ∀ c ∈ run, p c = true)
    (hrest : ∀ c, rest.head? = some c → p c = false) : (run ++ rest).takeWhile p = run := by
  rw [List.takeWhile_append_of_pos hrun]
  cases rest with
  | nil => simp
  | cons c rest => simp [hrest c rfl]

/-- Where a run ends, and what follows it, is determined by the text. -/
theorem run_append_inj (hrun : ∀ c ∈ run, p c = true) (hrun' : ∀ c ∈ run', p c = true)
    (hrest : ∀ c, rest.head? = some c → p c = false)
    (hrest' : ∀ c, rest'.head? = some c → p c = false) (h : run ++ rest = run' ++ rest') :
    run = run' ∧ rest = rest' := by
  have hread : run = run' := by
    rw [← takeWhile_run_append hrun hrest, h, takeWhile_run_append hrun' hrest']
  subst hread
  exact ⟨rfl, List.append_cancel_left h⟩

end Run

/-! ## Runs of digits -/

/-- A text of ASCII digits. -/
def AllDigits (s : List Char) : Prop :=
  ∀ c ∈ s, c.isDigit = true

/-- A text that does not begin with a digit. -/
def NoDigitHead (s : List Char) : Prop :=
  ∀ c, s.head? = some c → c.isDigit = false

theorem noDigitHead_nil : NoDigitHead [] := by
  intro c hc
  cases hc

theorem noDigitHead_cons {c : Char} (h : c.isDigit = false) (s : List Char) :
    NoDigitHead (c :: s) := by
  intro d hd
  cases hd
  exact h

theorem takeWhile_isDigit_append {ds rest : List Char} (hds : AllDigits ds)
    (hrest : NoDigitHead rest) : (ds ++ rest).takeWhile Char.isDigit = ds :=
  takeWhile_run_append hds hrest

theorem dropWhile_isDigit_append {ds rest : List Char} (hds : AllDigits ds)
    (hrest : NoDigitHead rest) : (ds ++ rest).dropWhile Char.isDigit = rest := by
  rw [List.dropWhile_append_of_pos hds]
  cases rest with
  | nil => rfl
  | cons c rest => simp [hrest c rfl]

theorem AllDigits.exists_cons {ds : List Char} (hds : AllDigits ds) (hne : ds ≠ []) :
    ∃ c s, ds = c :: s ∧ c.isDigit = true := by
  cases ds with
  | nil => exact absurd rfl hne
  | cons c s => exact ⟨c, s, rfl, hds c List.mem_cons_self⟩

theorem ne_of_isDigit {c d : Char} (hc : c.isDigit = true) (hd : d.isDigit = false) : c ≠ d := by
  rintro rfl
  rw [hc] at hd
  cases hd

/-- ASCII digits are digits of a script. -/
theorem isDigit_of_isAsciiDigit {c : Char} (h : c.isDigit = true) : isDigit c = true := by
  refine List.any_eq_true.2 ⟨0x30, by decide, ?_⟩
  have hrange : '0'.toNat ≤ c.toNat ∧ c.toNat ≤ '9'.toNat := Char.isDigit_iff_toNat.1 h
  have hzero : '0'.toNat = 0x30 := rfl
  have hnine : '9'.toNat = 0x39 := rfl
  simp only [Bool.and_eq_true, decide_eq_true_eq]
  omega

/-- An ASCII digit is no blank. -/
theorem isBlank_of_isAsciiDigit {c : Char} (h : c.isDigit = true) : isBlank c = false :=
  isBlank_of_isDigit (isDigit_of_isAsciiDigit h)

/-! ## Digits of a number -/

theorem allDigits_digits (n : Nat) : AllDigits (digits n) := fun _ hc =>
  Nat.isDigit_of_mem_toDigits (by decide) (by decide) hc

theorem digits_ne_nil (n : Nat) : digits n ≠ [] :=
  Nat.toDigits_ne_nil

theorem natural_digits (n : Nat) : natural (digits n) = n :=
  Nat.ofDigitChars_ten_toDigits

/-- Digits behind others move those up by as many places. -/
theorem natural_append (s t : List Char) :
    natural (s ++ t) = natural s * tenTo t.length + natural t := by
  rw [natural, Nat.ofDigitChars_append, Nat.ofDigitChars_eq_ofDigitChars_zero, Nat.mul_comm]
  rfl

theorem isNatural_of_allDigits {s : List Char} (h : AllDigits s) (hne : s ≠ []) :
    isNatural s = true := by
  unfold isNatural
  rw [List.all_eq_true.2 h, Bool.and_true, Bool.not_eq_true', List.isEmpty_eq_false_iff]
  exact hne

theorem allDigits_of_isNatural {s : List Char} (h : isNatural s = true) : AllDigits s :=
  List.all_eq_true.1 (Bool.and_eq_true_iff.1 h).2

theorem isNatural_digits (n : Nat) : isNatural (digits n) = true :=
  isNatural_of_allDigits (allDigits_digits n) (digits_ne_nil n)

/-- A number of several digits begins as the number without its last digit does. -/
theorem head?_digits {n : Nat} (h : 10 ≤ n) : (digits n).head? = (digits (n / 10)).head? := by
  have hhead := List.head?_eq_some_head (digits_ne_nil (n / 10))
  unfold digits at hhead ⊢
  rw [Nat.toDigits_of_base_le (by decide) h, List.head?_append, hhead]
  rfl

theorem digitChar_ne_zero_all : ∀ n < 10, 0 < n → Nat.digitChar n ≠ '0' := by
  decide

/-- A positive number is written without leading zero. -/
theorem head?_digits_ne_zero {n : Nat} (h : 0 < n) : (digits n).head? ≠ some '0' := by
  induction n using Nat.strongRecOn with
  | ind n ih =>
    by_cases hn : n < 10
    · rw [digits, Nat.toDigits_of_lt_base hn, List.head?_cons, Ne, Option.some.injEq]
      exact digitChar_ne_zero_all n hn h
    · rw [head?_digits (by omega)]
      exact ih (n / 10) (by omega) (by omega)

/-! ## Digits of a given width -/

theorem allDigits_padded (width n : Nat) : AllDigits (padded width n) := by
  intro c hc
  rcases List.mem_append.1 hc with hc | hc
  · rw [List.eq_of_mem_replicate hc]
    rfl
  · exact allDigits_digits n c hc

theorem padded_ne_nil (width n : Nat) : padded width n ≠ [] :=
  List.append_ne_nil_of_right_ne_nil _ (digits_ne_nil n)

theorem natural_padded (width n : Nat) : natural (padded width n) = n := by
  rw [natural, padded, Nat.ofDigitChars_append, Nat.ofDigitChars_replicate_zero, Nat.mul_zero]
  exact natural_digits n

/-- A number that fits is written in exactly the width asked for. -/
theorem length_padded {width n : Nat} (hwidth : 0 < width) (h : n < tenTo width) :
    (padded width n).length = width := by
  have hle : (digits n).length ≤ width :=
    (Nat.length_toDigits_le_iff (by decide) hwidth).2 h
  rw [padded, List.length_append, List.length_replicate]
  omega

end QueryCriteria.Text
