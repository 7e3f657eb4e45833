/-!
# The calendar

* `isLeapYear`, `monthLength` — the Gregorian rules, extended to all years; there is a year 0.
* `yearStart`, `monthStart` — the days before a year (counted from 1 January of year 0) and
  before a month within its year.
* `Civil` — year, month and day of the month; `Civil.number` counts its days and `Civil.ofNumber`
  takes a count apart again.
* `Date` — a day of the supported range, held as its count; `Date.civil` and `Date.ofCivil?`
  lead to and from year, month and day.
* `Weekday` — the days of the week from Monday on; 1 January of year 0 is a Saturday.
-/

namespace QueryCriteria

/-- Whether a year has 29 February. -/
def isLeapYear (year : Int) : Bool :=
  year % 4 == 0 && (year % 100 != 0 || year % 400 == 0)

/-- The days before 1 January of a year, counted from 1 January of year 0. -/
def yearStart (year : Int) : Int :=
  365 * year + (year + 3) / 4 - (year + 99) / 100 + (year + 399) / 400

/-- The lengths of the twelve months. -/
def monthLengths (leap : Bool) : List Nat :=
  [31, if leap then 29 else 28, 31, 30, 31, 30, 31, 31, 30, 31, 30, 31]

/-- The length of a month; zero for a number that is no month. -/
def monthLength (year : Int) (month : Nat) : Nat :=
  if month = 0 then 0 else (monthLengths (isLeapYear year)).getD (month - 1) 0

/-- The days of a year before a month. -/
def monthStart (year : Int) (month : Nat) : Nat :=
  ((monthLengths (isLeapYear year)).take (month - 1)).foldl (· + ·) 0

/-- A day named by year, month and day of the month, each counted from one but the year. -/
structure Civil where
  year : Int
  month : Nat
  day : Nat
  deriving DecidableEq, Repr

namespace Civil

/-- Whether the month and the day exist. -/
def isReal (c : Civil) : Bool :=
  1 ≤ c.month && c.month ≤ 12 && 1 ≤ c.day && c.day ≤ monthLength c.year c.month

/-- The days before this one, counted from 1 January of year 0. -/
def number (c : Civil) : Int :=
  yearStart c.year + monthStart c.year c.month + c.day - 1

/-- The year that holds a day.  Four hundred years have 146097 days, so the estimate is off by
one year at most. -/
def yearOf (number : Int) : Int :=
  let estimate := 400 * number / 146097
  if number < yearStart estimate then estimate - 1
  else if yearStart (estimate + 1) ≤ number then estimate + 1
  else estimate

/-- The month, counted from `month`, and the day of the month of a zero-based day. -/
def monthAndDay : List Nat → Nat → Nat → Nat × Nat
  | [], month, day => (month, day + 1)
  | length :: rest, month, day =>
    if day < length then (month, day + 1) else monthAndDay rest (month + 1) (day - length)

/-- Year, month and day of a count of days. -/
def ofNumber (number : Int) : Civil :=
  let year := yearOf number
  let (month, day) := monthAndDay (monthLengths (isLeapYear year)) 1 (number - yearStart year).toNat
  ⟨year, month, day⟩

end Civil

/-- The first day of the supported range: 1 January of the year -262143. -/
def firstDay : Int := yearStart (-262143)

/-- The last day of the supported range: 31 December of the year 262142. -/
def lastDay : Int := yearStart 262143 - 1

/-- A day of the supported range, as a count of days since 1 January of year 0. -/
structure Date where
  number : Int
  first_le : firstDay ≤ number
  le_last : number ≤ lastDay
  deriving DecidableEq, Repr

/-- The days of the week. -/
inductive Weekday where
  | mon
  | tue
  | wed
  | thu
  | fri
  | sat
  | sun
  deriving DecidableEq, Repr

namespace Weekday

/-- The days of the week from Monday on. -/
def all : List Weekday := [.mon, .tue, .wed, .thu, .fri, .sat, .sun]

/-- The days since the last Monday. -/
def fromMonday : Weekday → Nat
  | .mon => 0
  | .tue => 1
  | .wed => 2
  | .thu => 3
  | .fri => 4
  | .sat => 5
  | .sun => 6

/-- The three-letter name. -/
def short : Weekday → String
  | .mon => "Mon"
  | .tue => "Tue"
  | .wed => "Wed"
  | .thu => "Thu"
  | .fri => "Fri"
  | .sat => "Sat"
  | .sun => "Sun"

/-- The full name. -/
def long : Weekday → String
  | .mon => "Monday"
  | .tue => "Tuesday"
  | .wed => "Wednesday"
  | .thu => "Thursday"
  | .fri => "Friday"
  | .sat => "Saturday"
  | .sun => "Sunday"

end Weekday

namespace Date

/-- The date with a count of days, if it is in range. -/
def ofNumber? (number : Int) : Option Date :=
  if h : firstDay ≤ number ∧ number ≤ lastDay then some ⟨number, h.1, h.2⟩ else none

/-- The date with a year, month and day, if there is one in range. -/
def ofCivil? (c : Civil) : Option Date :=
  if c.isReal then ofNumber? c.number else none

/-- Year, month and day. -/
def civil (d : Date) : Civil :=
  Civil.ofNumber d.number

/-- The days since the last Monday. -/
def fromMonday (d : Date) : Nat :=
  ((d.number + 5) % 7).toNat

/-- The date some days later, or earlier for a negative count. -/
def addDays? (d : Date) (days : Int) : Option Date :=
  ofNumber? (d.number + days)

end Date

end QueryCriteria
