/-!
# Powers

* `twoTo`, `tenTo` — the powers of two and ten with natural exponents.
* `power` — a power with an integer exponent, as a rational.
* The limits of the integers of 64 bits.
-/

namespace QueryCriteria

/-- A power of two. -/
def twoTo (n : Nat) : Nat := Nat.pow 2 n

/-- A power of ten. -/
def tenTo (n : Nat) : Nat := Nat.pow 10 n

/-- A power with an integer exponent. -/
def power (base : Nat) (e : Int) : Rat :=
  if 0 ≤ e then (Nat.pow base e.toNat : Nat) else 1 / (Nat.pow base (-e).toNat : Nat)

/-- The least signed integer of 64 bits. -/
def leastInt64 : Int := -9223372036854775808

/-- The greatest signed integer of 64 bits. -/
def greatestInt64 : Int := 9223372036854775807

/-- The greatest unsigned integer of 64 bits. -/
def greatestUInt64 : Int := 18446744073709551615

end QueryCriteria
