import QueryCriteria.Number.Binary64
import QueryCriteria.Text.Case
import QueryCriteria.Text.Digit

/-!
# Number literals

* `int64?`, `uint64?` — integers of 64 bits: an optional sign (no minus for `uint64?`, not even
  before zero) and ASCII digits, in range.
* `bounded?` — the same for any closed range of integers.
* `float?` — a floating-point literal, rounded correctly to a binary format: an optional sign,
  then `inf`, `infinity`, `nan` in any case, or digits with at most one point and an optional
  exponent.  A literal past the largest finite number is infinite.
-/

namespace QueryCriteria.Literal

/-- A text without its leading sign, and whether that was a minus. -/
def splitSign (s : List Char) : Bool × List Char :=
  match s with
  | '-' :: rest => (true, rest)
  | '+' :: rest => (false, rest)
  | _ => (false, s)

/-- An optional sign and one or more digits, of any length. -/
def integer? (s : List Char) : Option Int :=
  let (negative, ds) := splitSign s
  if Text.isNatural ds then
    some (if negative then -(Text.natural ds : Int) else Text.natural ds)
  else none

/-- An integer literal between two bounds; a minus sign needs a range below zero. -/
def bounded? (least greatest : Int) (s : List Char) : Option Int :=
  if least = 0 && s.head? == some '-' then none
  else (integer? s).filter fun i => least ≤ i && i ≤ greatest

/-- A signed integer of 64 bits. -/
def int64? (s : List Char) : Option Int64 :=
  (bounded? leastInt64 greatestInt64 s).map Int64.ofInt

/-- An unsigned integer of 64 bits. -/
def uint64? (s : List Char) : Option UInt64 :=
  (bounded? 0 greatestUInt64 s).map fun i => UInt64.ofNat i.toNat

/-- Digits, an optional point with digits, and what follows: the coefficient, the number of
digits behind the point, and the rest.  At least one digit is needed. -/
def mantissa? (s : List Char) : Option (Nat × Nat × List Char) :=
  let whole := s.takeWhile Char.isDigit
  let (fraction, rest) := match s.dropWhile Char.isDigit with
    | '.' :: more => (more.takeWhile Char.isDigit, more.dropWhile Char.isDigit)
    | more => ([], more)
  if whole.isEmpty && fraction.isEmpty then none
  else some (Text.natural (whole ++ fraction), fraction.length, rest)

/-- The exponent that ends a literal; nothing stands for zero. -/
def exponent? : List Char → Option Int
  | [] => some 0
  | c :: rest => if c == 'e' || c == 'E' then integer? rest else none

/-- The names of the special magnitudes. -/
def special? (f : Format) (s : List Char) : Option (Option Nat) :=
  let name := s.map Text.lowerAscii
  if name = ['i', 'n', 'f'] ∨ name = ['i', 'n', 'f', 'i', 'n', 'i', 't', 'y'] then some f.infinity
  else if name = ['n', 'a', 'n'] then some none
  else none

/-- The sign and the magnitude pattern of a literal, the latter `none` for not-a-number. -/
def float? (f : Format) (s : List Char) : Option (Bool × Option Nat) :=
  let (negative, body) := splitSign s
  match special? f body with
  | some code => some (negative, code)
  | none =>
    (mantissa? body).bind fun (coefficient, places, rest) =>
      (exponent? rest).map fun e =>
        (negative, some (f.codeOfDecimal coefficient (e - (places : Int))))

/-- A literal read as a number of 64 bits. -/
def binary64? (s : List Char) : Option Binary64 :=
  (float? binary64 s).map fun
    | (_, none) => .nan
    | (negative, some code) => .ofCode negative code

/-- A literal rounded to 32 bits first. -/
def binary32? (s : List Char) : Option Binary64 :=
  (float? binary32 s).map fun
    | (_, none) => .nan
    | (negative, some code) => .ofBinary32 negative code

end QueryCriteria.Literal
