import QueryCriteria.Time.Calendar

/-!
# Date-times

* `DateTime` — a date with a second of the day and nanoseconds.  A leap second is held as the
  second before it with a thousand million nanoseconds or more.
* `DateTime.order` — by date, second and nanosecond.
* `DateTime.addSeconds?` — whole seconds later or earlier.  A shift by zero stays inside a leap
  second; any other one leaves it first, towards the side it goes to.
-/

namespace QueryCriteria

/-- The seconds of a day. -/
def daySeconds : Nat := 86400

/-- The nanoseconds of a second. -/
def secondNanos : Nat := 1000000000

/-- A date and a time of day, without a zone. -/
structure DateTime where
  date : Date
  second : Nat
  nano : Nat
  second_lt : second < daySeconds
  nano_lt : nano < 2 * secondNanos
  deriving DecidableEq, Repr

namespace DateTime

/-- The start of a date. -/
def midnight (date : Date) : DateTime where
  date := date
  second := 0
  nano := 0
  second_lt := by decide
  nano_lt := by decide

/-- Whether the instant lies in a leap second. -/
def inLeapSecond (t : DateTime) : Bool :=
  secondNanos ≤ t.nano

/-- The instant at the last multiple of `unit` seconds into the day. -/
def floorTo (unit : Nat) (t : DateTime) : DateTime where
  date := t.date
  second := t.second - t.second % unit
  nano := 0
  second_lt := Nat.lt_of_le_of_lt (Nat.sub_le _ _) t.second_lt
  nano_lt := by decide

/-- The same time of day on another date. -/
def onDate (t : DateTime) (date : Date) : DateTime :=
  { t with date := date }

/-- The order in time. -/
def order (a b : DateTime) : Ordering :=
  (compare a.date.number b.date.number).then
    ((compare a.second b.second).then (compare a.nano b.nano))

/-- The instant with a signed second count into a date's day, carried into the neighbouring
days. -/
def ofSeconds? (date : Date) (seconds : Int) (nano : Nat) : Option DateTime :=
  (date.addDays? (seconds / daySeconds)).bind fun day =>
    let second := (seconds % daySeconds).toNat
    if h : second < daySeconds ∧ nano < 2 * secondNanos then
      some ⟨day, second, nano, h.1, h.2⟩
    else none

/-- The instant some whole seconds later, or earlier for a negative count. -/
def addSeconds? (t : DateTime) (seconds : Int) : Option DateTime :=
  if t.inLeapSecond then
    if seconds = 0 then some t
    else
      let start : Int := if seconds < 0 then t.second + 1 else t.second
      ofSeconds? t.date (start + seconds) (t.nano - secondNanos)
  else ofSeconds? t.date (t.second + seconds) t.nano

end DateTime

end QueryCriteria
