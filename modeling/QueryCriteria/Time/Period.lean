import QueryCriteria.Number.Power
import QueryCriteria.Time.DateTime

/-!
# Periods

* `Period` — second, minute, hour, day, week, month and year, each with a one-letter code.
  Codes keep their case: `m` is the minute and `M` the month.
* `Period.truncate?` — the start of the period that holds an instant.
* `Period.add?` — an instant some periods later.  Seconds to weeks have a fixed length; months
  and years move along the calendar and cut the day to the length of the month they reach.

A shift of fixed length is refused when it is longer than `longestShift` milliseconds.  Years are
counted in months, as an integer of 64 bits; more than `greatestCount` months cannot be asked for, and
more than `mostMonths` lead nowhere.  All these limits lie far outside the calendar.
-/

namespace QueryCriteria

/-- A unit of time. -/
inductive Period where
  | second
  | minute
  | hour
  | day
  | week
  | month
  | year
  deriving DecidableEq, Repr

/-- The greatest length of a shift, in milliseconds. -/
def longestShift : Nat := 9223372036854775807

/-- The greatest number of months that can be asked for, an unsigned integer of 32 bits. -/
def greatestCount : Nat := 4294967295

/-- The greatest number of months that a date is moved by, a signed integer of 32 bits. -/
def mostMonths : Nat := 2147483647

namespace Period

/-- The periods from the finest on. -/
def all : List Period := [.second, .minute, .hour, .day, .week, .month, .year]

/-- The code of a period. -/
def code : Period → Char
  | .second => 's'
  | .minute => 'm'
  | .hour => 'h'
  | .day => 'd'
  | .week => 'w'
  | .month => 'M'
  | .year => 'y'

/-- The period with a code. -/
def ofCode? (c : Char) : Option Period :=
  all.find? (·.code == c)

/-- The name of a period. -/
def name : Period → String
  | .second => "Second"
  | .minute => "Minute"
  | .hour => "Hour"
  | .day => "Day"
  | .week => "Week"
  | .month => "Month"
  | .year => "Year"

/-- The start of the period that holds `t`; weeks begin on `weekStart`.  Only a week that begins
before the calendar has none. -/
def truncate? (p : Period) (weekStart : Weekday) (t : DateTime) : Option DateTime :=
  match p with
  | .second => some (t.floorTo 1)
  | .minute => some (t.floorTo 60)
  | .hour => some (t.floorTo 3600)
  | .day => some (.midnight t.date)
  | .week =>
    let back := (7 + t.date.fromMonday - weekStart.fromMonday) % 7
    (t.date.addDays? (-back)).map .midnight
  | .month => (Date.ofCivil? { t.date.civil with day := 1 }).map .midnight
  | .year => (Date.ofCivil? { t.date.civil with month := 1, day := 1 }).map .midnight

/-- The instant `count` times `length` seconds later. -/
def addLength? (length : Nat) (t : DateTime) (count : Int) : Option DateTime :=
  if (count * length).natAbs * 1000 ≤ longestShift then t.addSeconds? (count * length) else none

/-- The date `count` months later, its day cut to the length of the month reached. -/
def addMonthsToDate? (d : Date) (count : Int) : Option Date :=
  let c := d.civil
  let index := c.year * 12 + (c.month - 1 : Nat) + count
  let year := index / 12
  let month := (index % 12).toNat + 1
  Date.ofCivil? ⟨year, month, min c.day (monthLength year month)⟩

/-- The date moved by some months; a shift by none leaves it. -/
def moveMonths? (d : Date) (count : Int) : Option Date :=
  if count = 0 then some d
  else if count.natAbs ≤ mostMonths then addMonthsToDate? d count
  else none

/-- The instant `count` months later, at the same time of day. -/
def addMonths? (t : DateTime) (count : Int) : Option DateTime :=
  if count.natAbs ≤ greatestCount then (moveMonths? t.date count).map t.onDate else none

/-- The number of months in some years. -/
def monthsOfYears? (count : Int) : Option Int :=
  if leastInt64 ≤ count * 12 ∧ count * 12 ≤ greatestInt64 then some (count * 12) else none

/-- The instant `count` periods later, or earlier for a negative count. -/
def add? (p : Period) (t : DateTime) (count : Int) : Option DateTime :=
  match p with
  | .second => addLength? 1 t count
  | .minute => addLength? 60 t count
  | .hour => addLength? 3600 t count
  | .day => addLength? 86400 t count
  | .week => addLength? 604800 t count
  | .month => addMonths? t count
  | .year => (monthsOfYears? count).bind (addMonths? t)

end Period

end QueryCriteria
