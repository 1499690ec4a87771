import Workgraph.Script.Units

/-!
# String literals of scripts

* `quoted` writes a text as a single-quoted literal: the backslash and the quote are escaped, all
  else stands for itself;
* `readLiteral?` reads a literal up to its closing quote and gives its units. It goes through the
  characters once; `Phase` says whether an escape is under way and how far it has come.
-/

namespace Workgraph.Script

/-! ## 1. Writing -/

/-- How a character is written in a single-quoted literal. -/
def quotedChar (c : Char) : List Char :=
  if c = '\\' then ['\\', '\\'] else if c = '\'' then ['\\', '\''] else [c]

/-- The characters of a text between single quotes. -/
def quotedBody (s : String) : List Char := s.toList.flatMap quotedChar

/-- A text as a single-quoted literal. -/
def quoted (s : String) : String := "'" ++ String.ofList (quotedBody s) ++ "'"

/-! ## 2. Escapes -/

/-- How far an escape has come. -/
inductive Phase where
  /-- No escape is under way. -/
  | plain
  /-- A backslash was read. -/
  | escape
  /-- A backslash and a carriage return were read; a line feed would belong to them. -/
  | carriage
  /-- So many hexadecimal digits are missing from a number. -/
  | hex (missing value : Nat)
  /-- The first character after `\u` is next. -/
  | unicode
  /-- A number between braces has begun, and had a digit if `found`. -/
  | braced (found : Bool) (value : Nat)
  /-- So many octal digits may still follow. -/
  | octal (missing value : Nat)

/-- The value of a hexadecimal digit. -/
def hexDigit? (c : Char) : Option Nat :=
  if '0' ≤ c ∧ c ≤ '9' then some (c.toNat - '0'.toNat)
  else if 'a' ≤ c ∧ c ≤ 'f' then some (c.toNat - 'a'.toNat + 10)
  else if 'A' ≤ c ∧ c ≤ 'F' then some (c.toNat - 'A'.toNat + 10)
  else none

/-- The value of an octal digit. -/
def octalDigit? (c : Char) : Option Nat :=
  if '0' ≤ c ∧ c ≤ '7' then some (c.toNat - '0'.toNat) else none

/-- The character that a one-letter escape stands for. -/
def letterEscape (c : Char) : Char :=
  if c = 'n' then '\n'
  else if c = 't' then '\t'
  else if c = 'r' then '\r'
  else if c = 'b' then Char.ofNat 8
  else if c = 'f' then Char.ofNat 12
  else if c = 'v' then Char.ofNat 11
  else c

/-- Whether a character ends a line inside a literal, where it must not stand unescaped. -/
def breaksLiteral (c : Char) : Bool := c = '\n' || c = '\r'

/-- Whether a backslash before a character joins two lines. -/
def joinsLines (c : Char) : Bool := c = '\n' || c = '\u2028' || c = '\u2029'

/-! ## 3. Reading -/

/-- What a character does to a literal: it closes it, or goes on with the units so far. -/
inductive LiteralStep where
  | closed (units : Units)
  | next (phase : Phase) (units : Units)

/-- What a character outside an escape does. -/
def plainStep? (close : Char) (acc : Units) (c : Char) : Option LiteralStep :=
  if c = close then some (.closed acc)
  else if breaksLiteral c then none
  else if c = '\\' then some (.next .escape acc)
  else some (.next .plain (acc ++ Units.ofChar c))

/-- What the character after a backslash does. -/
def escapeStep (acc : Units) (c : Char) : LiteralStep :=
  match octalDigit? c with
  | some d => .next (.octal (if d ≤ 3 then 2 else 1) d) acc
  | none =>
    if c = 'u' then .next .unicode acc
    else if c = 'x' then .next (.hex 2 0) acc
    else if c = '\r' then .next .carriage acc
    else if joinsLines c then .next .plain acc
    else .next .plain (acc ++ Units.ofChar (letterEscape c))

/-- What a character does to a literal that `close` closes, whose units so far are `acc`. -/
def literalStep? (close : Char) (phase : Phase) (acc : Units) (c : Char) : Option LiteralStep :=
  match phase with
  | .plain => plainStep? close acc c
  | .escape => some (escapeStep acc c)
  | .carriage => if c = '\n' then some (.next .plain acc) else plainStep? close acc c
  | .hex missing value =>
    (hexDigit? c).map fun d =>
      let value := 16 * value + d
      if missing ≤ 1 then .next .plain (acc.push value.toUInt16)
      else .next (.hex (missing - 1) value) acc
  | .unicode =>
    if c = '\x7b' then some (.next (.braced false 0) acc)
    else (hexDigit? c).map fun d => .next (.hex 3 d) acc
  | .braced found value =>
    if c = '\x7d' then
      if found then some (.next .plain (acc ++ Units.ofCode value)) else none
    else (hexDigit? c).bind fun d =>
      let value := 16 * value + d
      if value < 0x110000 then some (.next (.braced true value) acc) else none
  | .octal missing value =>
    match octalDigit? c with
    | some d =>
      let value := 8 * value + d
      if missing ≤ 1 then some (.next .plain (acc.push value.toUInt16))
      else some (.next (.octal (missing - 1) value) acc)
    | none => plainStep? close (acc.push value.toUInt16) c

/-- The units of a literal up to the quote that closes it, behind those in `acc`, and the rest. -/
def readLiteral? (close : Char) : Phase → Units → List Char → Option (Units × List Char)
  | _, _, [] => none
  | phase, acc, c :: cs =>
    match literalStep? close phase acc c with
    | none => none
    | some (.closed units) => some (units, cs)
    | some (.next phase acc) => readLiteral? close phase acc cs

end Workgraph.Script
