import QueryCriteria.Number.Literal
import QueryCriteria.Number.Power
import QueryCriteria.Time.Calendar
import QueryCriteria.Toml.Basic
import QueryCriteria.Toml.Quoted

/-!
# Scalars of TOML documents

* `integer?` — decimal, hexadecimal, octal and binary integers; underscores stand between digits
  only, and a decimal has no leading zero.
* `isFloat` — floating-point numbers, infinities and not-a-number.
* `ofInteger`, `ofFloat` — their documents: an integer has at most 128 bits, and a floating-point
  number written with digits is at most the greatest finite one.
* `isMoment` — dates, times and date-times with or without an offset; seconds may be left out.
* `scalar` — the document of a bare word.
-/

namespace QueryCriteria.Toml

/-- Digits of a base with single underscores between them, without the underscores. -/
def grouped? (isMember : Char → Bool) : List Char → Option (List Char)
  | [] => none
  | [c] => if isMember c then some [c] else none
  | c :: '_' :: rest =>
    if isMember c then (grouped? isMember rest).map (c :: ·) else none
  | c :: rest => if isMember c then (grouped? isMember rest).map (c :: ·) else none

/-- The digits of a decimal integer. -/
def decimal? (s : List Char) : Option (List Char) :=
  (grouped? Char.isDigit s).filter fun ds => ds.length = 1 || ds.head? != some '0'

/-- The value of digits of a base up to sixteen. -/
def radix? (base : Nat) (s : List Char) : Option Nat :=
  let isMember (c : Char) : Bool := (Json.hexValue? c).any (· < base)
  (grouped? isMember s).bind fun ds =>
    ds.foldlM (fun n c => (Json.hexValue? c).map (base * n + ·)) 0

/-- The value of an integer. -/
def integer? (s : List Char) : Option Int :=
  match s with
  | '0' :: 'x' :: rest => (radix? 16 rest).map Int.ofNat
  | '0' :: 'o' :: rest => (radix? 8 rest).map Int.ofNat
  | '0' :: 'b' :: rest => (radix? 2 rest).map Int.ofNat
  | _ =>
    let (negative, body) := Literal.splitSign s
    (decimal? body).map fun ds =>
      if negative then -(Text.natural ds : Int) else Text.natural ds

/-- The document of an integer. -/
def ofInteger (i : Int) : Toml :=
  if -(twoTo 127 : Int) ≤ i ∧ i < (twoTo 128 : Int) then .integer i else .unbounded

/-- Whether a text is an exponent, without its letter. -/
def isExponent (s : List Char) : Bool :=
  (grouped? Char.isDigit (Literal.splitSign s).2).isSome

/-- Whether a text without sign is written as a floating-point number. -/
def isFloatShaped (s : List Char) : Bool :=
  let isMark (c : Char) : Bool := c == 'e' || c == 'E'
  let mantissa := s.takeWhile (!isMark ·)
  (decimal? (mantissa.takeWhile (· != '.'))).isSome &&
    (match mantissa.dropWhile (· != '.') with
      | [] => true
      | _ :: fraction => (grouped? Char.isDigit fraction).isSome) &&
    (match s.dropWhile (!isMark ·) with
      | [] => mantissa.contains '.'
      | _ :: exponent => isExponent exponent)

/-- Whether a text without sign is the name of a floating-point number. -/
def isFloatName (s : List Char) : Bool :=
  s == ['i', 'n', 'f'] || s == ['n', 'a', 'n']

/-- Whether a text is a floating-point number. -/
def isFloat (s : List Char) : Bool :=
  let body := (Literal.splitSign s).2
  isFloatName body || isFloatShaped body

/-- The document of a text that is a floating-point number. -/
def ofFloat (s : List Char) : Toml :=
  let body := (Literal.splitSign s).2
  let number := Literal.binary64? (body.filter (· != '_'))
  if isFloatName body || number.any Binary64.isFinite then .float else .unbounded

/-! ## Dates and times -/

/-- The value of exactly some digits. -/
def fixed? (width : Nat) (s : List Char) : Option Nat :=
  if s.length = width && s.all Char.isDigit then some (Text.natural s) else none

/-- Whether a text is a date. -/
def isDate (s : List Char) : Bool :=
  match fixed? 4 (s.take 4), s.drop 4, fixed? 2 ((s.drop 5).take 2), fixed? 2 (s.drop 8) with
  | some year, _ :: _, some month, some day =>
    s[4]? == some '-' && s[7]? == some '-' && Civil.isReal ⟨year, month, day⟩
  | _, _, _, _ => false

/-- Whether a text is `hh:mm` within the day. -/
def isHourMinute (s : List Char) : Bool :=
  match s with
  | [a, b, ':', c, d] =>
    (fixed? 2 [a, b]).any (· < 24) && (fixed? 2 [c, d]).any (· < 60)
  | _ => false

/-- Whether a text is a time of day; seconds and their fraction may be left out. -/
def isTime (s : List Char) : Bool :=
  isHourMinute (s.take 5) &&
    match s.drop 5 with
    | [] => true
    | ':' :: a :: b :: rest =>
      (fixed? 2 [a, b]).any (· ≤ 60) &&
        match rest with
        | [] => true
        | '.' :: fraction => !fraction.isEmpty && fraction.all Char.isDigit
        | _ => false
    | _ => false

/-- Whether a text is a time of day with an optional offset. -/
def isZonedTime (s : List Char) : Bool :=
  let isSign (c : Char) : Bool := c == '+' || c == '-'
  match s.getLast? with
  | some 'Z' | some 'z' => isTime s.dropLast
  | _ =>
    match s.dropWhile (!isSign ·) with
    | [] => isTime s
    | _ :: offset => isTime (s.takeWhile (!isSign ·)) && isHourMinute offset

/-- Whether a text is a date, a time of day, or both. -/
def isMoment (s : List Char) : Bool :=
  isTime s || isDate s ||
    (isDate (s.take 10) &&
      match s.drop 10 with
      | c :: time => (c == 'T' || c == 't' || c == ' ') && isZonedTime time
      | [] => false)

/-- The document of a bare word. -/
def word? (s : List Char) : Option Toml :=
  if s = ['t', 'r', 'u', 'e'] then some (.boolean true)
  else if s = ['f', 'a', 'l', 's', 'e'] then some (.boolean false)
  else match integer? s with
    | some i => some (ofInteger i)
    | none => if isFloat s then some (ofFloat s) else if isMoment s then some .moment else none

/-- Whether a character may stand in a bare word. -/
def isWordChar (c : Char) : Bool :=
  c.isAlphanum || c == '_' || c == '+' || c == '-' || c == '.' || c == ':'

/-- The bare word at the start of a text; a date takes a time behind one blank with it. -/
def splitWord (s : List Char) : List Char × List Char :=
  let first := s.takeWhile isWordChar
  match s.dropWhile isWordChar with
  | ' ' :: c :: rest =>
    if isDate first && c.isDigit then
      (first ++ ' ' :: (c :: rest).takeWhile isWordChar, (c :: rest).dropWhile isWordChar)
    else (first, ' ' :: c :: rest)
  | rest => (first, rest)

/-- Reads a bare word. -/
def scalar (s : List Char) : Option (Toml × List Char) :=
  let (word, rest) := splitWord s
  (word? word).map fun v => (v, rest)

end QueryCriteria.Toml
