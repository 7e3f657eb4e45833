import QueryCriteria.Proofs.Number.Decimal
import QueryCriteria.Proofs.Time.Instant
import QueryCriteria.Proofs.Value.Order

/-!
# The order of exact values

Values other than floating-point numbers have a rank among those of their family: a number its exact
rational, a date or a date-time its place on the line of time.  The order of values is the order of
their ranks, and values are equal where their ranks are; so both obey the laws of an order.

* `Decimal.order_eq_compare`, `DateTime.order_eq_compare` — decimals and instants in order.
* `Value.Rank`, `Value.rank` — the ranks and the rank of a value.
* `Value.Rank.order_swap`, `Value.Rank.order_eq_some_eq_iff`, `Value.Rank.order_chain` — the laws.
* `Value.order_eq_rank`, `Value.equal_iff_rank_eq` — order and equality of values by their ranks.
* `Value.exact_values_are_ordered` — the laws for values.
-/

namespace QueryCriteria

/-! ## Comparisons -/

/-- Two comparisons come out alike if their orders do, both ways round. -/
theorem compare_eq_compare {α β : Type} [LinearOrder α] [LinearOrder β] {a b : α} {c d : β}
    (hlt : a < b ↔ c < d) (hgt : b < a ↔ d < c) : compare a b = compare c d := by
  rcases lt_trichotomy a b with h | h | h
  · rw [compare_lt_iff_lt.2 h, compare_lt_iff_lt.2 (hlt.1 h)]
  · have hcd : c = d := le_antisymm (not_lt.1 fun hdc => (hgt.2 hdc).ne h.symm)
      (not_lt.1 fun hcd => (hlt.2 hcd).ne h)
    rw [compare_eq_iff_eq.2 h, compare_eq_iff_eq.2 hcd]
  · rw [compare_gt_iff_gt.2 h, compare_gt_iff_gt.2 (hgt.1 h)]

/-- From one member of an order to the next, and strictly if either step is strict. -/
theorem compare_chain {α : Type} [Ord α] [Std.TransOrd α] {a b c : α}
    (hab : (compare a b).isLE = true) (hbc : (compare b c).isLE = true) :
    (compare a c).isLE = true ∧ (compare a b = .lt ∨ compare b c = .lt → compare a c = .lt) := by
  refine ⟨Std.TransOrd.isLE_trans hab hbc, ?_⟩
  rintro (hlt | hlt)
  · exact Std.TransCmp.lt_of_lt_of_isLE hlt hbc
  · exact Std.TransCmp.lt_of_isLE_of_lt hab hlt

namespace Decimal

theorem toRat_lt_toRat_iff {a b : Decimal} :
    a.toRat < b.toRat ↔ a.signed * (tenTo b.scale : Nat) < b.signed * (tenTo a.scale : Nat) := by
  have ha : (0 : ℚ) < (tenTo a.scale : Nat) := by exact_mod_cast tenTo_pos a.scale
  have hb : (0 : ℚ) < (tenTo b.scale : Nat) := by exact_mod_cast tenTo_pos b.scale
  rw [toRat, toRat, div_lt_div_iff₀ ha hb]
  norm_cast

/-- **Decimals are ordered as the rational numbers they stand for**, whatever their scales. -/
theorem order_eq_compare (a b : Decimal) : a.order b = compare a.toRat b.toRat :=
  compare_eq_compare toRat_lt_toRat_iff.symm toRat_lt_toRat_iff.symm

theorem toRat_ofInt64 (i : Int64) : (ofInt64 i).toRat = i.toInt := by
  have hsigned : (ofInt64 i).signed = i.toInt := by
    unfold signed ofInt64
    by_cases h : i.toInt < 0
    · simp only [h, decide_true, if_true]
      omega
    · simp only [h, decide_false, Bool.false_eq_true, if_false]
      omega
  rw [toRat, hsigned]
  exact div_one _

theorem toRat_ofUInt64 (n : UInt64) : (ofUInt64 n).toRat = n.toNat :=
  div_one _

end Decimal

namespace DateTime

/-- The place of an instant on the line of time, in nanoseconds.  Every second has room for a leap
second behind it. -/
def tick (t : DateTime) : Int :=
  t.seconds * 2000000000 + t.nano

theorem order_eq_compare (a b : DateTime) : a.order b = compare a.tick b.tick := by
  have ha : a.nano < 2000000000 := a.nano_lt
  have hb : b.nano < 2000000000 := b.nano_lt
  unfold tick
  rw [order_eq]
  rcases Int.lt_trichotomy a.seconds b.seconds with h | h | h
  · rw [Int.compare_eq_lt.2 h, Int.compare_eq_lt.2 (by omega)]
    rfl
  · rw [Int.compare_eq_eq.2 h, h]
    exact compare_eq_compare (by omega) (by omega)
  · rw [Int.compare_eq_gt.2 h, Int.compare_eq_gt.2 (by omega)]
    rfl

theorem compare_number_eq (d e : Date) :
    compare d.number e.number = compare (midnight d).tick (midnight e).tick := by
  refine compare_eq_compare ?_ ?_ <;> simp only [tick, seconds, midnight] <;> omega

end DateTime

namespace Value

/-! ## Ranks -/

/-- Where a value stands among those of its family. -/
inductive Rank where
  | truth (b : Bool)
  | number (x : ℚ)
  | text (s : String)
  | code (s : String)
  | time (tick : Int)

namespace Rank

/-- The order of two ranks, which is undefined between families. -/
def order : Rank → Rank → Option Ordering
  | .truth a, .truth b => some (compare a b)
  | .number a, .number b => some (compare a b)
  | .text a, .text b => some (compare a b)
  | .code a, .code b => some (compare a b)
  | .time a, .time b => some (compare a b)
  | _, _ => none

variable {x y z : Rank}

theorem order_swap (x y : Rank) : y.order x = (x.order y).map Ordering.swap := by
  cases x <;> cases y <;>
    simp only [order, Option.map_none, Option.map_some, Option.some.injEq] <;>
    exact Std.OrientedOrd.eq_swap

theorem order_eq_some_eq_iff : x.order y = some .eq ↔ x = y := by
  cases x <;> cases y <;> simp [order]

/-- From one rank to the next, and strictly if either step is strict. -/
theorem order_chain {o₁ o₂ : Ordering} (hxy : x.order y = some o₁) (hyz : y.order z = some o₂)
    (h₁ : o₁.isLE = true) (h₂ : o₂.isLE = true) :
    ∃ o, x.order z = some o ∧ o.isLE = true ∧ (o₁ = .lt ∨ o₂ = .lt → o = .lt) := by
  cases x <;> cases y <;> cases hxy <;> cases z <;> cases hyz <;>
    exact ⟨_, rfl, compare_chain h₁ h₂⟩

end Rank

/-- The rank of a value.  A date stands where it begins. -/
def rank : Value → Option Rank
  | .bool b => some (.truth b)
  | .int i => some (.number i.toInt)
  | .uint n => some (.number n.toNat)
  | .decimal d => some (.number d.toRat)
  | .text s => some (.text s)
  | .enum code => some (.code code)
  | .date d => some (.time (DateTime.midnight d).tick)
  | .dateTime t => some (.time t.tick)
  | .null | .float _ => none

/-- Whether a value is anything but a floating-point number. -/
def Exact (v : Value) : Prop :=
  v.fieldType ≠ some .float

instance (v : Value) : Decidable v.Exact :=
  inferInstanceAs (Decidable (_ ≠ _))

variable {a b c : Value}

/-- **The order of exact values is that of their ranks.** -/
theorem order_eq_rank (ha : a.Exact) (hb : b.Exact) :
    a.order b = a.rank.bind fun x => b.rank.bind fun y => x.order y := by
  cases a with
  | float x => exact absurd rfl ha
  | int i | uint n | decimal d =>
    cases b with
    | float y => exact absurd rfl hb
    | _ =>
      simp [order, numeric, Numeric.order, rank, Rank.order, Decimal.order_eq_compare,
        Decimal.toRat_ofInt64, Decimal.toRat_ofUInt64]
  | date d | dateTime t =>
    cases b <;>
      simp [order, numeric, rank, Rank.order, DateTime.order_eq_compare,
        DateTime.compare_number_eq]
  | _ => cases b <;> rfl

theorem rank_eq_none_iff (ha : a.Exact) : a.rank = none ↔ a = .null := by
  cases a with
  | null => simp [rank]
  | float x => exact absurd rfl ha
  | _ => simp [rank]

theorem exact_of_rank {x : Rank} (h : a.rank = some x) : a.Exact := by
  cases a with
  | float y => cases h
  | _ => simp [Exact, fieldType]

theorem exists_rank_eq (ha : a.Exact) (hnull : a ≠ .null) : ∃ x, a.rank = some x :=
  Option.ne_none_iff_exists'.1 fun h => hnull ((rank_eq_none_iff ha).1 h)

/-- **Exact values are equal where their ranks are.** -/
theorem equal_iff_rank_eq (ha : a.Exact) (hb : b.Exact) : a.equal b = true ↔ a.rank = b.rank := by
  by_cases hanull : a = .null
  · rw [hanull, null_equal_iff, ← rank_eq_none_iff hb]
    exact eq_comm
  · by_cases hbnull : b = .null
    · rw [hbnull, equal_null_iff, ← rank_eq_none_iff ha]
      rfl
    · obtain ⟨x, hx⟩ := exists_rank_eq ha hanull
      obtain ⟨y, hy⟩ := exists_rank_eq hb hbnull
      have horder := order_eq_rank ha hb
      rw [hx, hy, Option.bind_some, Option.bind_some] at horder
      rw [equal_eq_order hbnull, beq_iff_eq, horder, Rank.order_eq_some_eq_iff, hx, hy,
        Option.some.injEq]

/-! ## The laws -/

theorem order_swap (ha : a.Exact) (hb : b.Exact) :
    b.order a = (a.order b).map Ordering.swap := by
  rw [order_eq_rank ha hb, order_eq_rank hb ha]
  cases a.rank with
  | none => cases b.rank <;> rfl
  | some x =>
    cases b.rank with
    | none => rfl
    | some y => exact Rank.order_swap x y

theorem order_self (ha : a.Exact) (hnull : a ≠ .null) : a.order a = some .eq := by
  obtain ⟨x, hx⟩ := exists_rank_eq ha hnull
  rw [order_eq_rank ha ha, hx]
  exact Rank.order_eq_some_eq_iff.2 rfl

theorem exists_rank_of_order (ha : a.Exact) (hb : b.Exact) {o : Ordering}
    (h : a.order b = some o) : ∃ x y, a.rank = some x ∧ b.rank = some y ∧ x.order y = some o := by
  rw [order_eq_rank ha hb] at h
  obtain ⟨x, hx, h⟩ := Option.bind_eq_some_iff.1 h
  obtain ⟨y, hy, h⟩ := Option.bind_eq_some_iff.1 h
  exact ⟨x, y, hx, hy, h⟩

theorem order_chain (ha : a.Exact) (hb : b.Exact) (hc : c.Exact) {o₁ o₂ : Ordering}
    (hab : a.order b = some o₁) (hbc : b.order c = some o₂) (h₁ : o₁ ≠ .gt) (h₂ : o₂ ≠ .gt) :
    ∃ o, a.order c = some o ∧ o ≠ .gt ∧ (o₁ = .lt ∨ o₂ = .lt → o = .lt) := by
  obtain ⟨x, y, hx, hy, hxy⟩ := exists_rank_of_order ha hb hab
  obtain ⟨y', z, hy', hz, hyz⟩ := exists_rank_of_order hb hc hbc
  rw [hy, Option.some.injEq] at hy'
  subst hy'
  obtain ⟨o, ho, hle, hlt⟩ := Rank.order_chain hxy hyz (Ordering.isLE_iff_ne_gt.2 h₁)
    (Ordering.isLE_iff_ne_gt.2 h₂)
  refine ⟨o, ?_, Ordering.isLE_iff_ne_gt.1 hle, hlt⟩
  rw [order_eq_rank ha hc, hx, hz]
  exact ho

/-- **Exact values obey the laws of an order.**  Turning a comparison round reverses it, every value
but `null` is level with itself, and comparisons that do not go down can be joined, strictly if either
is strict.  Equality is an equivalence, and equal values compare alike with every other. -/
theorem exact_values_are_ordered (ha : a.Exact) (hb : b.Exact) (hc : c.Exact) :
    b.order a = (a.order b).map Ordering.swap ∧
      (a ≠ .null → a.order a = some .eq) ∧
      (∀ o₁ o₂, a.order b = some o₁ → b.order c = some o₂ → o₁ ≠ .gt → o₂ ≠ .gt →
        ∃ o, a.order c = some o ∧ o ≠ .gt ∧ (o₁ = .lt ∨ o₂ = .lt → o = .lt)) ∧
      a.equal a = true ∧ (a.equal b = true → b.equal a = true) ∧
      (a.equal b = true → b.equal c = true → a.equal c = true) ∧
      (a.equal b = true → a.order c = b.order c) := by
  refine ⟨order_swap ha hb, order_self ha, fun o₁ o₂ => order_chain ha hb hc, ?_, ?_, ?_, ?_⟩
  · exact (equal_iff_rank_eq ha ha).2 rfl
  · rw [equal_iff_rank_eq ha hb, equal_iff_rank_eq hb ha]
    exact Eq.symm
  · rw [equal_iff_rank_eq ha hb, equal_iff_rank_eq hb hc, equal_iff_rank_eq ha hc]
    exact Eq.trans
  · intro hab
    rw [order_eq_rank ha hc, order_eq_rank hb hc, (equal_iff_rank_eq ha hb).1 hab]

/-- Ten, written as 10.0 or not, lies below the greatest unsigned number of 64 bits. -/
theorem ten_below_greatest :
    let ten : Value := .int 10
    let written : Value := .decimal ⟨false, 100, 1, by decide, by decide⟩
    let greatest : Value := .uint 18446744073709551615
    ten.Exact ∧ written.Exact ∧ greatest.Exact ∧ ten.order written = some .eq ∧
      written.order greatest = some .lt ∧ ten.order greatest = some .lt ∧
      ten.equal written = true ∧ written.equal ten = true := by
  intro ten written greatest
  have hten : ten.Exact := by decide
  have hwritten : written.Exact := by decide
  have hgreatest : greatest.Exact := by decide
  have hlevel : ten.order written = some .eq := by decide +kernel
  have hbelow : written.order greatest = some .lt := by decide +kernel
  have hequal : ten.equal written = true := by decide +kernel
  obtain ⟨-, -, hchain, -, hsymm, -⟩ := exact_values_are_ordered hten hwritten hgreatest
  obtain ⟨o, ho, -, hlt⟩ := hchain .eq .lt hlevel hbelow (by decide) (by decide)
  rw [hlt (.inr rfl)] at ho
  exact ⟨hten, hwritten, hgreatest, hlevel, hbelow, ho, hequal, hsymm hequal⟩

end Value

end QueryCriteria
