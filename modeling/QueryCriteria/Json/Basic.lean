import QueryCriteria.Json.Quoted

/-!
# JSON documents

* `Json` — the tree of a document.  Numbers and strings are kept as they are written; what they
  stand for is read from them on demand, so that a value nobody asks for only has to be well
  formed.
* `Json.render` — the compact text of a document.
* `Json.parse?` — reading of a whole text.  `value?` and its companions descend with fuel, one
  unit for each value, item and entry; the length of the text is always enough.
-/

namespace QueryCriteria

/-- A JSON document, its numbers and strings as written. -/
inductive Json where
  | null
  | bool (b : Bool)
  | number (lexeme : List Char)
  | string (raw : List Char)
  | array (items : List Json)
  | object (entries : List (List Char × Json))
  deriving Repr

namespace Json

/-- A string that stands for a text. -/
def ofString (s : String) : Json :=
  .string (escape s.toList)

/-- An object with the given keys. -/
def record (entries : List (String × Json)) : Json :=
  .object (entries.map fun (key, v) => (escape key.toList, v))

/-! ## Writing -/

/-- Texts between brackets, separated by commas. -/
def bracketed (opening closing : Char) (texts : List (List Char)) : List Char :=
  opening :: [','].intercalate texts ++ [closing]

/-- Raw characters between quotes. -/
def quoted (raw : List Char) : List Char :=
  '"' :: raw ++ ['"']

mutual

/-- The compact text of a document. -/
def render : Json → List Char
  | .null => ['n', 'u', 'l', 'l']
  | .bool b => if b then ['t', 'r', 'u', 'e'] else ['f', 'a', 'l', 's', 'e']
  | .number lexeme => lexeme
  | .string raw => quoted raw
  | .array items => bracketed '[' ']' (renderItems items)
  | .object entries => bracketed '{' '}' (renderEntries entries)

/-- The texts of some items. -/
def renderItems : List Json → List (List Char)
  | [] => []
  | v :: vs => v.render :: renderItems vs

/-- The texts of some entries. -/
def renderEntries : List (List Char × Json) → List (List Char)
  | [] => []
  | (key, v) :: rest => (quoted key ++ ':' :: v.render) :: renderEntries rest

end

/-- The compact text of a document. -/
def text (j : Json) : String :=
  String.ofList j.render

/-! ## Reading -/

/-- Whether a character may stand between the parts of a document. -/
def isSpace (c : Char) : Bool :=
  c == ' ' || c == '\t' || c == '\n' || c == '\r'

/-- The text after its leading spaces. -/
def skip (s : List Char) : List Char :=
  s.dropWhile isSpace

/-- One or more digits. -/
def digits? (s : List Char) : Option (List Char × List Char) :=
  let ds := s.takeWhile Char.isDigit
  if ds.isEmpty then none else some (ds, s.dropWhile Char.isDigit)

/-- The digits before the point; a leading zero stands alone. -/
def whole? (s : List Char) : Option (List Char × List Char) :=
  match s with
  | '0' :: rest => some (['0'], rest)
  | _ => digits? s

/-- An optional point with digits. -/
def fraction? (s : List Char) : Option (List Char × List Char) :=
  match s with
  | '.' :: rest => (digits? rest).map fun (ds, tail) => ('.' :: ds, tail)
  | _ => some ([], s)

/-- An optional exponent. -/
def exponent? (s : List Char) : Option (List Char × List Char) :=
  match s with
  | e :: rest =>
    if e == 'e' || e == 'E' then
      match rest with
      | sign :: more =>
        if sign == '+' || sign == '-' then
          (digits? more).map fun (ds, tail) => (e :: sign :: ds, tail)
        else (digits? rest).map fun (ds, tail) => (e :: ds, tail)
      | [] => none
    else some ([], s)
  | [] => some ([], s)

/-- Reads a number, as it is written. -/
def number? (s : List Char) : Option (List Char × List Char) := do
  let (sign, s) := match s with
    | '-' :: rest => (['-'], rest)
    | _ => ([], s)
  let (whole, s) ← whole? s
  let (fraction, s) ← fraction? s
  let (exponent, s) ← exponent? s
  pure (sign ++ whole ++ fraction ++ exponent, s)

mutual

/-- Reads a value. -/
def value? : Nat → List Char → Option (Json × List Char)
  | 0, _ => none
  | fuel + 1, s =>
    match skip s with
    | 'n' :: 'u' :: 'l' :: 'l' :: rest => some (.null, rest)
    | 't' :: 'r' :: 'u' :: 'e' :: rest => some (.bool true, rest)
    | 'f' :: 'a' :: 'l' :: 's' :: 'e' :: rest => some (.bool false, rest)
    | '"' :: rest => (rawString? rest).map fun (raw, tail) => (.string raw, tail)
    | '[' :: rest =>
      match skip rest with
      | ']' :: tail => some (.array [], tail)
      | _ => (items? fuel rest).map fun (items, tail) => (.array items, tail)
    | '{' :: rest =>
      match skip rest with
      | '}' :: tail => some (.object [], tail)
      | _ => (entries? fuel rest).map fun (entries, tail) => (.object entries, tail)
    | body => (number? body).map fun (lexeme, tail) => (.number lexeme, tail)

/-- Reads the items of an array up to its closing bracket. -/
def items? : Nat → List Char → Option (List Json × List Char)
  | 0, _ => none
  | fuel + 1, s =>
    (value? fuel s).bind fun (v, rest) =>
      match skip rest with
      | ']' :: tail => some ([v], tail)
      | ',' :: more => (items? fuel more).map fun (vs, tail) => (v :: vs, tail)
      | _ => none

/-- Reads the entries of an object up to its closing brace. -/
def entries? : Nat → List Char → Option (List (List Char × Json) × List Char)
  | 0, _ => none
  | fuel + 1, s =>
    match skip s with
    | '"' :: rest =>
      (rawString? rest).bind fun (key, rest) =>
        match skip rest with
        | ':' :: rest =>
          (value? fuel rest).bind fun (v, rest) =>
            match skip rest with
            | '}' :: tail => some ([(key, v)], tail)
            | ',' :: more => (entries? fuel more).map fun (es, tail) => ((key, v) :: es, tail)
            | _ => none
        | _ => none
    | _ => none

end

/-- Reads a text that is one document. -/
def parse? (text : String) : Option Json :=
  let s := text.toList
  (value? (s.length + 1) s).bind fun (j, rest) =>
    if (skip rest).isEmpty then some j else none

end Json

end QueryCriteria
