import QueryCriteria.Number.Literal
import QueryCriteria.Proofs.Text.Digit

/-!
# Integer literals

The readers of 64 bits read an integer of any length first and then check its range, so what they
read is told by `integer?`.

* `int64?_eq_some_iff`, `uint64?_eq_some_iff` — a reader of 64 bits gives a number exactly where the
  literal is that number; an unsigned one takes no minus sign.
* `splitSign_minus_append` — a minus sign is told from the digits behind it.
* `exists_int64?_iff` — the integers of 64 bits are those in their range.
* `isAsciiDigit_of_integer?` — integers are read from ASCII digits only.
-/

namespace QueryCriteria.Literal

variable {s : List Char}

theorem bounded?_eq_some_iff {least greatest i : Int} :
    bounded? least greatest s = some i ↔
      ¬ (least = 0 ∧ s.head? = some '-') ∧ integer? s = some i ∧ least ≤ i ∧ i ≤ greatest := by
  unfold bounded?
  by_cases hminus : least = 0 ∧ s.head? = some '-'
  · simp [hminus]
  · have hsign : (decide (least = 0) && s.head? == some '-') = false := by
      rw [Bool.and_eq_false_iff, decide_eq_false_iff_not, beq_eq_false_iff_ne]
      exact not_and_or.1 hminus
    simp [hsign, hminus, Option.filter_eq_some_iff]

/-- **A signed integer of 64 bits is read exactly from the literals of that integer.** -/
theorem int64?_eq_some_iff {i : Int64} : int64? s = some i ↔ integer? s = some i.toInt := by
  simp only [int64?, Option.map_eq_some_iff, bounded?_eq_some_iff, leastInt64, greatestInt64]
  constructor
  · rintro ⟨n, ⟨-, hn, hleast, hgreatest⟩, rfl⟩
    rw [hn, Int64.toInt_ofInt_of_le hleast (by omega)]
  · intro h
    have hleast := Int64.le_toInt i
    have hgreatest := Int64.toInt_lt i
    exact ⟨i.toInt, ⟨by simp, h, hleast, by omega⟩, Int64.ofInt_toInt i⟩

theorem exists_int64?_iff {n : Int} :
    (∃ i, int64? s = some i ∧ i.toInt = n) ↔
      integer? s = some n ∧ leastInt64 ≤ n ∧ n ≤ greatestInt64 := by
  simp only [int64?_eq_some_iff]
  unfold leastInt64 greatestInt64
  constructor
  · rintro ⟨i, hi, rfl⟩
    have hleast := Int64.le_toInt i
    have hgreatest := Int64.toInt_lt i
    exact ⟨hi, by omega, by omega⟩
  · rintro ⟨hn, hleast, hgreatest⟩
    have hvalue : (Int64.ofInt n).toInt = n := Int64.toInt_ofInt_of_le hleast (by omega)
    exact ⟨Int64.ofInt n, by rw [hvalue, hn], hvalue⟩

theorem int64?_eq_none_iff :
    int64? s = none ↔ ∀ n, integer? s = some n → n < leastInt64 ∨ greatestInt64 < n := by
  have hnone : int64? s = none ↔ ∀ n, ¬ ∃ i, int64? s = some i ∧ i.toInt = n := by
    cases int64? s <;> simp
  simp only [hnone, exists_int64?_iff]
  refine forall_congr' fun n => ?_
  constructor
  · intro hout hn
    by_contra hin
    exact hout ⟨hn, by omega, by omega⟩
  · rintro hout ⟨hn, hleast, hgreatest⟩
    have hlimits := hout hn
    omega

/-- **An unsigned integer of 64 bits is read exactly from the literals of that integer without a
minus sign.** -/
theorem uint64?_eq_some_iff {n : UInt64} :
    uint64? s = some n ↔ s.head? ≠ some '-' ∧ integer? s = some (n.toNat : Int) := by
  simp only [uint64?, Option.map_eq_some_iff, bounded?_eq_some_iff, greatestUInt64, true_and]
  constructor
  · rintro ⟨i, ⟨hsign, hi, hleast, hgreatest⟩, rfl⟩
    have hsize : i.toNat < UInt64.size := by
      show i.toNat < 18446744073709551616
      omega
    have hvalue : ((UInt64.ofNat i.toNat).toNat : Int) = i := by
      rw [UInt64.toNat_ofNat_of_lt' hsize]
      omega
    exact ⟨hsign, by rw [hi, hvalue]⟩
  · rintro ⟨hsign, hn⟩
    have hlt := UInt64.toNat_lt n
    exact ⟨n.toNat, ⟨hsign, hn, by omega, by omega⟩, by simp⟩

/-! ## Signs and digits -/

/-- A sign before a text that begins with a digit is told from it. -/
theorem splitSign_minus_append (negative : Bool) {body : List Char}
    (hbody : ∀ c, body.head? = some c → c.isDigit = true) :
    splitSign ((if negative then ['-'] else []) ++ body) = (negative, body) := by
  cases negative with
  | true => rfl
  | false =>
    cases body with
    | nil => rfl
    | cons c rest =>
      have hdigit : c.isDigit = true := hbody c rfl
      have hminus : c ≠ '-' := Text.ne_of_isDigit hdigit rfl
      have hplus : c ≠ '+' := Text.ne_of_isDigit hdigit rfl
      simp [splitSign, hminus, hplus]

theorem integer?_eq_some_iff {i : Int} :
    integer? s = some i ↔ Text.isNatural (splitSign s).2 = true ∧
      i = if (splitSign s).1 then -(Text.natural (splitSign s).2 : Int)
        else Text.natural (splitSign s).2 := by
  simp only [integer?, Option.ite_none_right_eq_some, Option.some.injEq]
  rw [eq_comm (a := i)]

theorem mem_splitSign_of_isDigit {c : Char} (hc : c ∈ s) (hdigit : Text.isDigit c = true) :
    c ∈ (splitSign s).2 := by
  unfold splitSign
  split
  · rcases List.mem_cons.1 hc with rfl | hc
    · exact absurd hdigit (by decide)
    · exact hc
  · rcases List.mem_cons.1 hc with rfl | hc
    · exact absurd hdigit (by decide)
    · exact hc
  · exact hc

theorem isAsciiDigit_of_integer? {i : Int} (h : integer? s = some i) {c : Char} (hc : c ∈ s)
    (hdigit : Text.isDigit c = true) : c.isDigit = true := by
  have hdigits := Text.allDigits_of_isNatural (integer?_eq_some_iff.1 h).1
  exact hdigits c (mem_splitSign_of_isDigit hc hdigit)

end QueryCriteria.Literal
