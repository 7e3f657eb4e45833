import QueryCriteria.Range.Basic
import QueryCriteria.Range.RelativeDate

/-!
# Range text

A range is written as `[` or `(`, an optional lower end, a comma, an optional upper end, and `]`
or `)`, with blanks allowed around every part.  Ends are decimal numbers for numeric fields;
for temporal ones they are dates `dddd-dd-dd` or relative dates.

* `Range.Split`, `Range.split?` — the text taken apart at its brackets and its comma.
* `Range.isNumber`, `Range.isMoment` — the shapes of ends; digits of any script have the shape.
* `Range.readNumber?`, `Range.readMoment` — the value an end of that shape stands for, if any.
* `Range.parse` — reading for a field type.  A text of another shape, or one with an end that
  stands for no number or date, is no range; only a relative date that leaves the calendar is an
  error.
* `Range.resolveFor` — a range read anew for a field, so that its relative ends follow the
  context; a range put together by hand stands for itself where the field accepts its ends.
-/

namespace QueryCriteria.Range

/-- Range text taken apart; an empty end is a missing one. -/
structure Split where
  lowerClosed : Bool
  lower : List Char
  upper : List Char
  upperClosed : Bool
  deriving DecidableEq, Repr

/-- Whether an opening bracket includes the end beside it. -/
def opening? : Char → Option Bool
  | '[' => some true
  | '(' => some false
  | _ => none

/-- Whether a closing bracket includes the end beside it. -/
def closing? : Char → Option Bool
  | ']' => some true
  | ')' => some false
  | _ => none

/-- Takes range text apart at its brackets and its first comma. -/
def split? (s : List Char) : Option Split :=
  match Text.trim s with
  | [] => none
  | first :: rest =>
    match opening? first, rest.getLast?.bind closing?, rest.dropLast.dropWhile (· != ',') with
    | some lowerClosed, some upperClosed, _ :: upper =>
      some ⟨lowerClosed, Text.trim (rest.dropLast.takeWhile (· != ',')), Text.trim upper, upperClosed⟩
    | _, _, _ => none

/-! ## Ends -/

/-- Whether a text is one or more digits of any script. -/
def isDigits (s : List Char) : Bool :=
  !s.isEmpty && s.all Text.isDigit

/-- The shape of a number: an optional minus sign, digits, and optionally a point and digits. -/
def isNumber (s : List Char) : Bool :=
  let body := match s with
    | '-' :: rest => rest
    | _ => s
  isDigits (body.takeWhile Text.isDigit) &&
    match body.dropWhile Text.isDigit with
    | [] => true
    | c :: fraction => c == '.' && isDigits fraction

/-- The shape of a date. -/
def isDateShape (s : List Char) : Bool :=
  match s with
  | [a, b, c, d, '-', e, f, '-', g, h] => [a, b, c, d, e, f, g, h].all Text.isDigit
  | _ => false

/-- The shape of a relative date whose codes are period codes. -/
def isTokenShape (s : List Char) : Bool :=
  match RelativeDate.shape? s with
  | some shape =>
    shape.base.all (fun b => (Period.ofCode? b.2).isSome) &&
      shape.offset.all (fun o => (Period.ofCode? o.2).isSome)
  | none => false

/-- The shape of a point in time. -/
def isMoment (s : List Char) : Bool :=
  isDateShape s || isTokenShape s

/-- The shape of an end for a field type. -/
def isEnd (ty : FieldType) (s : List Char) : Bool :=
  if ty.isNumeric then isNumber s else isMoment s

/-- The number an end stands for.  It keeps the representation of the field where it fits, and is
a decimal otherwise. -/
def readNumber? (ty : FieldType) (s : List Char) : Option Value :=
  let own : Option Value := match ty with
    | .int => (Literal.int64? s).map .int
    | .uint => (Literal.uint64? s).map .uint
    | .float => (Literal.binary64? s).map .float
    | _ => none
  own.or ((Decimal.plain? s).map .decimal)

/-- An instant as the value of a field: its date for date fields. -/
def moment (ty : FieldType) (t : DateTime) : Value :=
  if ty = .date then .date t.date else .dateTime t

/-- The point in time an end stands for. -/
def readMoment (ty : FieldType) (ctx : Context) (s : List Char) :
    Except OperatorError (Option Value) :=
  if isDateShape s then
    .ok ((Date.ofDigits? s).map fun d => moment ty (.midnight d))
  else do
    match ← RelativeDate.parse (String.ofList s) with
    | none => pure none
    | some token => return some (moment ty (← token.resolve ctx))

/-- The value an end stands for, if it stands for one. -/
def readEnd (ty : FieldType) (ctx : Context) (s : List Char) :
    Except OperatorError (Option Value) :=
  if ty.isNumeric then .ok (readNumber? ty s) else readMoment ty ctx s

/-- One side of a range: missing, a bound, or nothing at all when it stands for no value. -/
def readSide (ty : FieldType) (ctx : Context) (closed : Bool) (s : List Char) :
    Except OperatorError (Option (Option Bound)) :=
  if s.isEmpty then .ok (some none)
  else (readEnd ty ctx s).map fun v => v.map fun v => some ⟨v, closed⟩

/-! ## Ranges -/

/-- The parts of range text for a field type, if the text has the shape of a range. -/
def shape? (ty : FieldType) (s : List Char) : Option Split :=
  if ty.takesRanges then
    (split? s).filter fun p =>
      (p.lower.isEmpty || isEnd ty p.lower) && (p.upper.isEmpty || isEnd ty p.upper)
  else none

/-- Reads range text for a field type; the lower side is read before the upper one. -/
def parse (text : String) (ty : FieldType) (ctx : Context) :
    Except OperatorError (Option Range) :=
  match shape? ty text.toList with
  | none => .ok none
  | some p => do
    match ← readSide ty ctx p.lowerClosed p.lower with
    | none => pure none
    | some lower =>
      match ← readSide ty ctx p.upperClosed p.upper with
      | none => pure none
      | some upper =>
        pure (some
          { text := String.ofList (Text.trim text.toList)
            givenName := none
            parsedFor := some ty
            lower := lower
            upper := upper })

/-- The range as it applies to a field of type `ty` under `ctx`, under the name it has. -/
def resolveFor (r : Range) (ty : FieldType) (ctx : Context) :
    Except OperatorError (Option Range) :=
  if r.parsedFor.isSome then
    (parse r.text ty ctx).map fun fresh => fresh.map fun s => { s with givenName := r.givenName }
  else if ty.takesRanges && r.bounds.all (fun b => ty.accepts b.value) then .ok (some r)
  else .ok none

end QueryCriteria.Range
