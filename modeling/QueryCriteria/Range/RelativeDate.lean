import QueryCriteria.Error
import QueryCriteria.Number.Literal
import QueryCriteria.Text.Word
import QueryCriteria.Time.Period

/-!
# Relative dates

* `Context` — the instant relative dates count from, and the day weeks begin on.
* `RelativeDate` — a token such as `boM-1d` (a day before the start of this month), `eod` (the
  start of the next day) or `ct+2h` (two hours from now).
* `RelativeDate.Shape`, `RelativeDate.shape?` — the token taken apart before its codes and its
  amount are looked at: any word character may stand where a period code is expected, and digits
  of any script where an amount is.
* `RelativeDate.parse` — reading: nothing for a text that has no such shape, an error for a token
  whose code or amount is not one.
* `RelativeDate.resolve` — the instant meant: now, cut to its period for `bo` and `eo`, one period
  on for `eo`, and then moved by the offset.
-/

namespace QueryCriteria

/-- What relative dates are resolved against. -/
structure Context where
  now : DateTime
  weekStart : Weekday
  deriving DecidableEq, Repr

/-- The end of a period that a token names; the end is the start of the next period. -/
inductive Edge where
  | start
  | finish
  deriving DecidableEq, Repr

/-- A relative date.  Without a base it counts from now. -/
structure RelativeDate where
  text : String
  base : Option (Edge × Period)
  offset : Option (Int × Period)
  deriving DecidableEq, Repr

namespace RelativeDate

/-- A token taken apart: the base with its code, and the offset's signed digits with theirs. -/
structure Shape where
  base : Option (Edge × Char)
  offset : Option (List Char × Char)
  deriving DecidableEq, Repr

/-- Takes an offset apart: a sign, digits, and one word character at the very end. -/
def offsetShape? : List Char → Option (Option (List Char × Char))
  | [] => some none
  | sign :: body =>
    match body.getLast? with
    | some code =>
      let ds := body.dropLast
      if (sign == '+' || sign == '-') && !ds.isEmpty && ds.all Text.isDigit && Text.isWord code then
        some (some (sign :: ds, code))
      else none
    | none => none

/-- Takes a token apart, if the text has the shape of one. -/
def shape? (s : List Char) : Option Shape :=
  match s with
  | 'c' :: 't' :: rest => (offsetShape? rest).map fun offset => ⟨none, offset⟩
  | 'b' :: 'o' :: code :: rest =>
    if Text.isWord code then (offsetShape? rest).map fun offset => ⟨some (.start, code), offset⟩
    else none
  | 'e' :: 'o' :: code :: rest =>
    if Text.isWord code then (offsetShape? rest).map fun offset => ⟨some (.finish, code), offset⟩
    else none
  | _ => none

/-- The period with a code, for the token `input`. -/
def periodOf (code : String) (input : String) : Except OperatorError Period :=
  match code.toList with
  | [c] =>
    match Period.ofCode? c with
    | some p => .ok p
    | none => .error (.invalidPeriod code input)
  | _ => .error (.invalidPeriod code input)

/-- The base of a token. -/
def readBase (input : String) : Option (Edge × Char) → Except OperatorError (Option (Edge × Period))
  | none => .ok none
  | some (edge, code) => (periodOf (String.singleton code) input).map fun p => some (edge, p)

/-- The offset of a token.  An amount that is no integer of 64 bits comes before a bad code. -/
def readOffset (input : String) :
    Option (List Char × Char) → Except OperatorError (Option (Int × Period))
  | none => .ok none
  | some (amount, code) =>
    match Literal.int64? amount with
    | none => .error (.offsetOutOfRange input)
    | some n => (periodOf (String.singleton code) input).map fun p => some (n.toInt, p)

/-- Reads a token. -/
def parse (text : String) : Except OperatorError (Option RelativeDate) :=
  match shape? text.toList with
  | none => .ok none
  | some shape => do
    let base ← readBase text shape.base
    let offset ← readOffset text shape.offset
    pure (some ⟨text, base, offset⟩)

/-- The instant that the base of a token means. -/
def baseInstant? (ctx : Context) : Option (Edge × Period) → Option DateTime
  | none => some ctx.now
  | some (edge, p) =>
    (p.truncate? ctx.weekStart ctx.now).bind fun t =>
      match edge with
      | .start => some t
      | .finish => p.add? t 1

/-- An instant moved by an offset. -/
def shifted? (t : DateTime) : Option (Int × Period) → Option DateTime
  | none => some t
  | some (amount, p) => p.add? t amount

/-- The instant a token means, if it lies in the calendar. -/
def resolve? (r : RelativeDate) (ctx : Context) : Option DateTime :=
  (baseInstant? ctx r.base).bind fun t => shifted? t r.offset

/-- The instant a token means. -/
def resolve (r : RelativeDate) (ctx : Context) : Except OperatorError DateTime :=
  match r.resolve? ctx with
  | some t => .ok t
  | none => .error (.offsetOutOfRange r.text)

end RelativeDate

end QueryCriteria
