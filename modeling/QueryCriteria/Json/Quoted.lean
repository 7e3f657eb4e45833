import QueryCriteria.Text.Digit

/-!
# Quoted text

* `escape` — the characters of a text as they stand between the quotes of a JSON string.  Only
  the quote, the backslash and the control characters are escaped.
* `rawString?` — the characters up to the closing quote, kept as they are written.
* `unescape?` — the text that they stand for.  An escaped surrogate needs its partner right
  behind it; one that stands alone names no character, so the string stands for no text.
-/

namespace QueryCriteria.Json

/-- The value of a hexadecimal digit of either case. -/
def hexValue? (c : Char) : Option Nat :=
  if c.isDigit then some (c.toNat - 48)
  else if 'a' ≤ c ∧ c ≤ 'f' then some (c.toNat - 87)
  else if 'A' ≤ c ∧ c ≤ 'F' then some (c.toNat - 55)
  else none

/-- The value of four hexadecimal digits. -/
def hexUnit? (a b c d : Char) : Option Nat :=
  match hexValue? a, hexValue? b, hexValue? c, hexValue? d with
  | some a, some b, some c, some d => some (((a * 16 + b) * 16 + c) * 16 + d)
  | _, _, _, _ => none

/-- The escapes of one letter, with the characters they stand for. -/
def letterEscapes : List (Char × Char) :=
  [('"', '"'), ('\\', '\\'), ('/', '/'), ('b', '\x08'), ('t', '\t'), ('n', '\n'), ('f', '\x0c'),
   ('r', '\r')]

/-! ## Writing -/

/-- A hexadecimal digit in lower case. -/
def hexDigit (n : Nat) : Char :=
  Nat.digitChar (n % 16)

/-- One character as it is written between quotes. -/
def escapeChar (c : Char) : List Char :=
  if c = '"' then ['\\', '"']
  else if c = '\\' then ['\\', '\\']
  else if c = '\x08' then ['\\', 'b']
  else if c = '\t' then ['\\', 't']
  else if c = '\n' then ['\\', 'n']
  else if c = '\x0c' then ['\\', 'f']
  else if c = '\r' then ['\\', 'r']
  else if c < ' ' then ['\\', 'u', '0', '0', hexDigit (c.toNat / 16), hexDigit c.toNat]
  else [c]

/-- The characters of a text as they are written between quotes. -/
def escape (s : List Char) : List Char :=
  s.flatMap escapeChar

/-! ## Reading -/

/-- Reads up to the closing quote; escapes must be well formed and control characters are not
allowed. -/
def rawString? : List Char → Option (List Char × List Char)
  | '"' :: rest => some ([], rest)
  | '\\' :: 'u' :: a :: b :: c :: d :: rest =>
    if (hexUnit? a b c d).isSome then
      (rawString? rest).map fun (raw, tail) => ('\\' :: 'u' :: a :: b :: c :: d :: raw, tail)
    else none
  | '\\' :: e :: rest =>
    if (letterEscapes.lookup e).isSome then
      (rawString? rest).map fun (raw, tail) => ('\\' :: e :: raw, tail)
    else none
  | c :: rest =>
    if c < ' ' || c == '\\' then none
    else (rawString? rest).map fun (raw, tail) => (c :: raw, tail)
  | [] => none

/-- The code units of raw characters: an escape gives one unit, any other character its code
point. -/
def units? : List Char → Option (List Nat)
  | [] => some []
  | '\\' :: 'u' :: a :: b :: c :: d :: rest =>
    (hexUnit? a b c d).bind fun unit => (units? rest).map (unit :: ·)
  | '\\' :: e :: rest =>
    (letterEscapes.lookup e).bind fun c => (units? rest).map (c.toNat :: ·)
  | c :: rest => (units? rest).map (c.toNat :: ·)

/-- Whether a code unit opens a surrogate pair. -/
def isHighSurrogate (n : Nat) : Bool := 0xD800 ≤ n && n < 0xDC00

/-- Whether a code unit closes a surrogate pair. -/
def isLowSurrogate (n : Nat) : Bool := 0xDC00 ≤ n && n < 0xE000

/-- The characters of code units; every surrogate must be paired. -/
def characters? : List Nat → Option (List Char)
  | [] => some []
  | [unit] =>
    if isHighSurrogate unit || isLowSurrogate unit then none else some [Char.ofNat unit]
  | unit :: next :: rest =>
    if isHighSurrogate unit then
      if isLowSurrogate next then
        (characters? rest).map
          (Char.ofNat (0x10000 + (unit - 0xD800) * 0x400 + (next - 0xDC00)) :: ·)
      else none
    else if isLowSurrogate unit then none
    else (characters? (next :: rest)).map (Char.ofNat unit :: ·)

/-- The text that raw characters stand for. -/
def unescape? (raw : List Char) : Option String :=
  ((units? raw).bind characters?).map String.ofList

end QueryCriteria.Json
