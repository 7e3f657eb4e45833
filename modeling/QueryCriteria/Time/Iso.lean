import QueryCriteria.Number.Power
import QueryCriteria.Text.Blank
import QueryCriteria.Text.Digit
import QueryCriteria.Time.DateTime

/-!
# Text of dates and date-times

* `Date.text` — year, month and day joined by hyphens.  A year has four digits; outside
  `0 … 9999` it has a sign and at least four.
* `DateTime.text` — the date, `T`, and the time of day.  A fraction is written with three, six
  or nine digits, the fewest that are exact, and not at all when it is zero.
* `DateTime.display` — the date and the time of day with a blank between them, to the second.
* `Date.ofText?`, `DateTime.ofText?` — reading.  Fields may have fewer digits than are written
  and blanks around them; a year of more than four digits needs its sign.
* `Date.ofDigits?` — reading of exactly the form `dddd-dd-dd`.
-/

namespace QueryCriteria

/-- The text of a year. -/
def yearText (year : Int) : List Char :=
  let ds := Text.padded 4 year.natAbs
  if 0 ≤ year ∧ year ≤ 9999 then ds else (if year < 0 then '-' else '+') :: ds

namespace Date

/-- The text of a date. -/
def text (d : Date) : List Char :=
  let c := d.civil
  yearText c.year ++ '-' :: Text.padded 2 c.month ++ '-' :: Text.padded 2 c.day

end Date

namespace DateTime

/-- The hour, minute and second of a time of day; a leap second is the sixtieth. -/
def clock (t : DateTime) : List Char :=
  let second := t.second % 60 + if t.inLeapSecond then 1 else 0
  Text.padded 2 (t.second / 3600) ++ ':' :: Text.padded 2 (t.second / 60 % 60) ++
    ':' :: Text.padded 2 second

/-- The fraction of a second, with its point. -/
def fraction (nano : Nat) : List Char :=
  if nano = 0 then []
  else if nano % 1000000 = 0 then '.' :: Text.padded 3 (nano / 1000000)
  else if nano % 1000 = 0 then '.' :: Text.padded 6 (nano / 1000)
  else '.' :: Text.padded 9 nano

/-- The text of a date-time. -/
def text (t : DateTime) : List Char :=
  t.date.text ++ 'T' :: t.clock ++ fraction (t.nano % secondNanos)

/-- The text of a date-time for readers. -/
def display (t : DateTime) : List Char :=
  t.date.text ++ ' ' :: t.clock

end DateTime

/-! ## Reading -/

/-- Reads a number of at most `width` digits. -/
def digits? (width : Nat) (s : List Char) : Option (Nat × List Char) :=
  let ds := (s.takeWhile Char.isDigit).take width
  if ds.isEmpty then none else some (Text.natural ds, s.drop ds.length)

/-- Reads a number of at most `width` digits, after blanks. -/
def field? (width : Nat) (s : List Char) : Option (Nat × List Char) :=
  digits? width (Text.trimStart s)

/-- Reads one given character, after blanks. -/
def mark? (c : Char) (s : List Char) : Option (List Char) :=
  match Text.trimStart s with
  | d :: rest => if d = c then some rest else none
  | [] => none

/-- Reads a year: any number of digits after a sign, at most four without. -/
def year? (s : List Char) : Option (Int × List Char) :=
  match Text.trimStart s with
  | '-' :: body => (digits? body.length body).map fun (n, rest) => (-(n : Int), rest)
  | '+' :: body => (digits? body.length body).map fun (n, rest) => ((n : Int), rest)
  | body => (digits? 4 body).map fun (n, rest) => ((n : Int), rest)

/-- Reads year, month and day. -/
def civil? (s : List Char) : Option (Civil × List Char) := do
  let (year, s) ← year? s
  let (month, s) ← field? 2 (← mark? '-' s)
  let (day, s) ← field? 2 (← mark? '-' s)
  pure (⟨year, month, day⟩, s)

/-- Reads an optional fraction of a second, in nanoseconds.  Digits past the ninth count for
nothing. -/
def nanos? (s : List Char) : Option (Nat × List Char) :=
  match s with
  | '.' :: body =>
    let ds := body.takeWhile Char.isDigit
    if ds.isEmpty then none
    else
      let kept := ds.take 9
      some (Text.natural kept * tenTo (9 - kept.length), body.drop ds.length)
  | _ => some (0, s)

/-- Reads a time of day: the second of the day and the nanoseconds. -/
def clock? (s : List Char) : Option (Nat × Nat × List Char) := do
  let (hour, s) ← field? 2 s
  let (minute, s) ← field? 2 (← mark? ':' s)
  let (second, s) ← field? 2 (← mark? ':' s)
  let (nano, s) ← nanos? s
  if hour < 24 ∧ minute < 60 ∧ second ≤ 60 then
    let leap := second / 60
    pure (hour * 3600 + minute * 60 + (second - leap), nano + leap * secondNanos, s)
  else none

/-- Reads a date that ends the text. -/
def Date.ofText? (s : List Char) : Option Date := do
  let (c, rest) ← civil? s
  if (Text.trimStart rest).isEmpty then ofCivil? c else none

/-- Reads a date-time that ends the text. -/
def DateTime.ofText? (s : List Char) : Option DateTime := do
  let (c, s) ← civil? s
  let (second, nano, rest) ← clock? (← mark? 'T' s)
  let date ← Date.ofCivil? c
  if h : second < daySeconds ∧ nano < 2 * secondNanos then
    if (Text.trimStart rest).isEmpty then some ⟨date, second, nano, h.1, h.2⟩ else none
  else none

/-- Reads a date of exactly the form `dddd-dd-dd`, in ASCII digits. -/
def Date.ofDigits? (s : List Char) : Option Date :=
  match s with
  | [a, b, c, d, '-', e, f, '-', g, h] =>
    if [a, b, c, d, e, f, g, h].all Char.isDigit then
      ofCivil? ⟨Text.natural [a, b, c, d], Text.natural [e, f], Text.natural [g, h]⟩
    else none
  | _ => none

end QueryCriteria
