import QueryCriteria.Json.Quoted

/-!
# Strings of TOML documents

* `basic?`, `literal?` — strings on one line, with and without escapes.
* `longBasic?`, `longLiteral?` — strings between triple quotes, which may span lines.  Line breaks
  in them are kept the way they are written.  Up to two quotes may stand before the closing three;
  in the first kind a backslash at the end of a line swallows the blank space behind it.
* `string?` — any of the four.

Every function reads past the opening quotes and gives the text and the rest.
-/

namespace QueryCriteria.Toml

/-- Whether a character may stand in a string or a comment as it is. -/
def isPlain (c : Char) : Bool :=
  c == '\t' || (' ' ≤ c && c != '\x7f')

/-- Whether a character is blank within a line. -/
def isGap (c : Char) : Bool :=
  c == ' ' || c == '\t'

/-- A line break at the start of a text, and what follows it. -/
def lineBreak? : List Char → Option (List Char)
  | '\n' :: rest => some rest
  | '\r' :: '\n' :: rest => some rest
  | _ => none

/-- The character with a code, if it is one. -/
def scalar? (n : Nat) : Option Char :=
  if n < 0xD800 ∨ (0xE000 ≤ n ∧ n < 0x110000) then some (Char.ofNat n) else none

/-- The escapes of one letter, with the characters they stand for. -/
def escapes : List (Char × Char) :=
  [('b', '\x08'), ('t', '\t'), ('n', '\n'), ('f', '\x0c'), ('r', '\r'), ('e', '\x1b'), ('"', '"'),
   ('\\', '\\')]

/-- The value of a string of hexadecimal digits. -/
def hexValue? (s : List Char) : Option Nat :=
  s.foldlM (fun n c => (Json.hexValue? c).map (16 * n + ·)) 0

/-- The character of an escape, after the backslash, and the rest. -/
def escaped? : List Char → Option (Char × List Char)
  | [] => none
  | e :: rest =>
    let coded (width : Nat) : Option (Char × List Char) :=
      if rest.length < width then none
      else ((hexValue? (rest.take width)).bind scalar?).map fun c => (c, rest.drop width)
    if e = 'x' then coded 2
    else if e = 'u' then coded 4
    else if e = 'U' then coded 8
    else (escapes.lookup e).map fun c => (c, rest)

/-- Reads a string with escapes up to its closing quote. -/
def basic? : Nat → List Char → Option (List Char × List Char)
  | 0, _ => none
  | _, [] => none
  | _ + 1, '"' :: rest => some ([], rest)
  | fuel + 1, '\\' :: rest =>
    (escaped? rest).bind fun (c, rest) => (basic? fuel rest).map fun (cs, tail) => (c :: cs, tail)
  | fuel + 1, c :: rest =>
    if isPlain c then (basic? fuel rest).map fun (cs, tail) => (c :: cs, tail) else none

/-- Reads a string without escapes up to its closing quote. -/
def literal? : List Char → Option (List Char × List Char)
  | [] => none
  | '\'' :: rest => some ([], rest)
  | c :: rest => if isPlain c then (literal? rest).map fun (cs, tail) => (c :: cs, tail) else none

/-- The quotes before the closing three, and what follows those: three to five quotes in a row
close a long string. -/
def closing? (quote : Char) (s : List Char) : Option (List Char × List Char) :=
  let count := (s.takeWhile (· == quote)).length
  if count < 3 then none
  else
    let kept := min (count - 3) 2
    some (List.replicate kept quote, s.drop (kept + 3))

/-- What follows a backslash at the end of a line: the text after all blank space. -/
def continuation? (s : List Char) : Option (List Char) :=
  (lineBreak? (s.dropWhile isGap)).map fun rest =>
    rest.dropWhile fun c => isGap c || c == '\n' || c == '\r'

/-- Whether a character, with what follows it, may stand in a long string as it is. -/
def isLongPlain (c : Char) (rest : List Char) : Bool :=
  isPlain c || (lineBreak? (c :: rest)).isSome

/-- Whether the blank space after a continued line has no carriage return alone. -/
def cleanGap : List Char → Bool
  | '\r' :: '\n' :: rest => cleanGap rest
  | '\r' :: _ => false
  | c :: rest => if isGap c || c == '\n' then cleanGap rest else true
  | [] => true

/-- Reads a long string with escapes up to its closing quotes. -/
def longBasic? : Nat → List Char → Option (List Char × List Char)
  | 0, _ => none
  | _, [] => none
  | fuel + 1, c :: rest =>
    if c = '"' then
      match closing? '"' (c :: rest) with
      | some done => some done
      | none => (longBasic? fuel rest).map fun (cs, tail) => ('"' :: cs, tail)
    else if c = '\\' then
      match continuation? rest with
      | some after => if cleanGap (rest.dropWhile isGap) then longBasic? fuel after else none
      | none =>
        (escaped? rest).bind fun (e, rest) =>
          (longBasic? fuel rest).map fun (cs, tail) => (e :: cs, tail)
    else if isLongPlain c rest then (longBasic? fuel rest).map fun (cs, tail) => (c :: cs, tail)
    else none

/-- Reads a long string without escapes up to its closing quotes. -/
def longLiteral? : Nat → List Char → Option (List Char × List Char)
  | 0, _ => none
  | _, [] => none
  | fuel + 1, c :: rest =>
    if c = '\'' then
      match closing? '\'' (c :: rest) with
      | some done => some done
      | none => (longLiteral? fuel rest).map fun (cs, tail) => ('\'' :: cs, tail)
    else if isLongPlain c rest then (longLiteral? fuel rest).map fun (cs, tail) => (c :: cs, tail)
    else none

/-- The text after a line break that opens a long string. -/
def afterOpening (s : List Char) : List Char :=
  (lineBreak? s).getD s

/-- Reads a string of any kind, if one starts here. -/
def string? (s : List Char) : Option (String × List Char) :=
  let found := match s with
    | '"' :: '"' :: '"' :: rest => longBasic? s.length (afterOpening rest)
    | '"' :: rest => basic? s.length rest
    | '\'' :: '\'' :: '\'' :: rest => longLiteral? s.length (afterOpening rest)
    | '\'' :: rest => literal? rest
    | _ => none
  found.map fun (cs, tail) => (String.ofList cs, tail)

/-- Reads a string of one line, if one starts here. -/
def shortString? (s : List Char) : Option (String × List Char) :=
  match s with
  | '"' :: '"' :: '"' :: _ => none
  | '\'' :: '\'' :: '\'' :: _ => none
  | _ => string? s

end QueryCriteria.Toml
