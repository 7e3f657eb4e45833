import QueryCriteria.Toml.Scalar

/-!
# Reading TOML documents

* `keyPath?` — a dotted key: bare or quoted parts between dots, on one line.
* `value?` — a value; arrays and inline tables may span lines, carry comments and end in a comma.
* `greatestDepth` — how many parts a key may have, and how deep values may lie in one another.
* `Statement`, `statement?` — a header, a header of a list, or a key with its value.
* `statements?` — the statements of a text, one to a line.
* `assemble?` — the document that the statements make.
* `Toml.parse?` — reading of a whole text.

Fuel counts the steps of a reader; twice the length of the text is always enough.
-/

namespace QueryCriteria.Toml

/-- The text after blanks of its first line. -/
def skipGap (s : List Char) : List Char :=
  s.dropWhile isGap

/-- The text after a comment, if one starts here; a control character in it is refused. -/
def skipComment? (s : List Char) : Option (List Char) :=
  match s with
  | '#' :: _ =>
    let rest := s.dropWhile isPlain
    if rest.isEmpty || (lineBreak? rest).isSome then some rest else none
  | _ => some s

/-- The text after blanks, line breaks and comments. -/
def skipLines? : Nat → List Char → Option (List Char)
  | 0, s => some s
  | fuel + 1, s =>
    (skipComment? (skipGap s)).bind fun rest =>
      match lineBreak? rest with
      | some after => skipLines? fuel after
      | none => some rest

/-! ## Keys -/

/-- Whether a character may stand in a bare key. -/
def isKeyChar (c : Char) : Bool :=
  c.isAlphanum || c == '_' || c == '-'

/-- Reads one part of a key. -/
def keyPart? (s : List Char) : Option (String × List Char) :=
  (shortString? s).or
    (let part := s.takeWhile isKeyChar
     if part.isEmpty then none else some (String.ofList part, s.dropWhile isKeyChar))

/-- The greatest number of parts of a key, and of arrays and inline tables in one another. -/
def greatestDepth : Nat := 80

/-- Reads up to some number of parts between dots, and the blanks behind them. -/
def keyParts? : Nat → List Char → Option (List String × List Char)
  | 0, _ => none
  | room + 1, s =>
    (keyPart? (skipGap s)).bind fun (part, rest) =>
      match skipGap rest with
      | '.' :: more => (keyParts? room more).map fun (parts, tail) => (part :: parts, tail)
      | tail => some ([part], tail)

/-- Reads a dotted key and the blanks behind it. -/
def keyPath? (s : List Char) : Option (List String × List Char) :=
  keyParts? greatestDepth s

/-! ## Values -/

mutual

/-- Reads a value; `room` more arrays and inline tables may open in one another. -/
def value? : Nat → Nat → List Char → Option (Toml × List Char)
  | 0, _, _ => none
  | fuel + 1, room, s =>
    match s with
    | '[' :: rest =>
      if room = 0 then none
      else (items? fuel (room - 1) rest).map fun (items, tail) => (.array items, tail)
    | '{' :: rest =>
      if room = 0 then none
      else
        (pairs? fuel (room - 1) rest).bind fun (pairs, tail) =>
          (inline? pairs).map fun table => (table, tail)
    | '"' :: _ => (string? s).map fun (text, tail) => (.string text, tail)
    | '\'' :: _ => (string? s).map fun (text, tail) => (.string text, tail)
    | _ => scalar s

/-- Reads the items of an array up to its closing bracket. -/
def items? : Nat → Nat → List Char → Option (List Toml × List Char)
  | 0, _, _ => none
  | fuel + 1, room, s =>
    match skipLines? s.length s with
    | none => none
    | some (']' :: tail) => some ([], tail)
    | some body =>
      (value? fuel room body).bind fun (v, rest) =>
        match skipLines? rest.length rest with
        | some (']' :: tail) => some ([v], tail)
        | some (',' :: more) => (items? fuel room more).map fun (vs, tail) => (v :: vs, tail)
        | _ => none

/-- Reads the pairs of an inline table up to its closing brace. -/
def pairs? : Nat → Nat → List Char → Option (List (List String × Toml) × List Char)
  | 0, _, _ => none
  | fuel + 1, room, s =>
    match skipLines? s.length s with
    | none => none
    | some ('}' :: tail) => some ([], tail)
    | some body =>
      (pair? fuel room body).bind fun (pair, rest) =>
        match skipLines? rest.length rest with
        | some ('}' :: tail) => some ([pair], tail)
        | some (',' :: more) => (pairs? fuel room more).map fun (ps, tail) => (pair :: ps, tail)
        | _ => none

/-- Reads a key with its value in an inline table, on one line or more. -/
def pair? : Nat → Nat → List Char → Option ((List String × Toml) × List Char)
  | 0, _, _ => none
  | fuel + 1, room, s =>
    (keyPath? s).bind fun (key, rest) =>
      match skipLines? rest.length rest with
      | some ('=' :: rest) =>
        (skipLines? rest.length rest).bind fun body =>
          (value? fuel room body).map fun (v, tail) => ((key, v), tail)
      | _ => none

end

/-! ## Statements -/

/-- A statement of a document. -/
inductive Statement where
  | header (path : List String)
  | item (path : List String)
  | pair (key : List String) (v : Toml)
  deriving Repr

/-- Reads a statement. -/
def statement? (s : List Char) : Option (Statement × List Char) :=
  match s with
  | '[' :: '[' :: rest =>
    (keyPath? rest).bind fun (path, rest) =>
      match rest with
      | ']' :: ']' :: tail => some (.item path, tail)
      | _ => none
  | '[' :: rest =>
    (keyPath? rest).bind fun (path, rest) =>
      match rest with
      | ']' :: tail => some (.header path, tail)
      | _ => none
  | _ =>
    (keyPath? s).bind fun (key, rest) =>
      match rest with
      | '=' :: rest =>
        (value? (2 * rest.length + 2) greatestDepth (skipGap rest)).map fun (v, tail) =>
          (.pair key v, tail)
      | _ => none

/-- Reads the statements of a text; each ends its line. -/
def statements? : Nat → List Char → Option (List Statement)
  | 0, _ => none
  | fuel + 1, s =>
    match skipLines? (s.length + 1) s with
    | none => none
    | some [] => some []
    | some body =>
      (statement? body).bind fun (statement, rest) =>
        (skipComment? (skipGap rest)).bind fun rest =>
          match rest, lineBreak? rest with
          | [], _ => some [statement]
          | _, some after => (statements? fuel after).map (statement :: ·)
          | _, none => none

/-- The document that some statements make, with the path of the latest header. -/
def assemble? : List Statement → List String → Entries → Option Entries
  | [], _, entries => some entries
  | .header path :: rest, _, entries => (openTable? path entries).bind (assemble? rest path)
  | .item path :: rest, _, entries => (openItem? path entries).bind (assemble? rest path)
  | .pair key v :: rest, path, entries =>
    (insertUnder? path key v entries).bind (assemble? rest path)

/-- Reads a text as the entries of its root table.  A byte order mark may stand first. -/
def parse? (text : String) : Option (List (String × Toml)) :=
  let s := match text.toList with
    | '\ufeff' :: rest => rest
    | s => s
  ((statements? (s.length + 1) s).bind fun statements => assemble? statements [] []).map
    finishEntries

end QueryCriteria.Toml
