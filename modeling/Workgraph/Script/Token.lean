import Workgraph.Script.Numeral
import Workgraph.Script.Quoted
import Workgraph.Text.NameCharacter

/-!
# Tokens of scripts

A script is split into names, numbers, string literals and marks; blanks, line ends and comments
separate them. Each token knows whether a line ended before it, because a statement may then end
there without a semicolon, and where it stands, because a function's text is what was written.

`Lexeme.ofText?` splits a whole text, or gives nothing when some part is no token.
-/

namespace Workgraph.Script

inductive Token where
  /-- A name or a word of the language; a word with an `escaped` character is always a name. -/
  | word (name : String) (escaped : Bool)
  | number (value : Float)
  | text (value : Units)
  /-- Punctuation. -/
  | mark (symbol : String)
  deriving Inhabited

structure Lexeme where
  token : Token
  /-- Whether a line ended between the token before and this one. -/
  afterLine : Bool
  /-- The text from the token on. -/
  before : List Char
  /-- The text behind the token. -/
  after : List Char
  deriving Inhabited

namespace Token

/-! ## 1. Characters -/

/-- Whether a character ends a line. -/
def endsLine (c : Char) : Bool := c = '\n' || c = '\r' || c = '\u2028' || c = '\u2029'

def startsWord (c : Char) : Bool := c = '_' || c = '$' || Text.startsName c

/-- Whether a name goes on with a character; the two joiners that have no width may stand in
it. -/
def continuesWord (c : Char) : Bool :=
  c = '$' || c = '\u200c' || c = '\u200d' || Text.continuesName c

/-! ## 2. What separates tokens -/

/-- The rest after a block comment, and whether a line ended in it. -/
def skipBlock? (line : Bool) : List Char → Option (Bool × List Char)
  | '*' :: '/' :: cs => some (line, cs)
  | c :: cs => skipBlock? (line || endsLine c) cs
  | [] => none

/-- The rest after blanks, line ends and comments, and whether a line ended. -/
def skipBlanks? : Nat → Bool → List Char → Option (Bool × List Char)
  | 0, line, cs => some (line, cs)
  | fuel + 1, line, cs =>
    match cs with
    | '/' :: '/' :: r => skipBlanks? fuel line (r.dropWhile fun c => !endsLine c)
    | '/' :: '*' :: r =>
      match skipBlock? line r with
      | some (line, r) => skipBlanks? fuel line r
      | none => none
    | c :: r =>
      if endsLine c then skipBlanks? fuel true r
      else if Units.isSpace c.toNat then skipBlanks? fuel line r
      else some (line, c :: r)
    | [] => some (line, [])

/-! ## 3. Tokens -/

/-- The marks, longer ones before their beginnings. -/
def marks : List String :=
  ["===", "!==", "&&=", "||=", "??=", "...", "==", "!=", "<=", ">=", "&&", "||", "??", "?.", "=>",
    "++", "--", "+=", "-=", "*=", "/=", "%=", "\x7b", "\x7d", "(", ")", "[", "]", ";", ",", "<",
    ">", "+", "-", "*", "/", "%", "=", "!", "?", ":", "."]

def markTable : List (List Char × String) := marks.map fun m => (m.toList, m)

/-- The mark at the beginning of a text. A question mark before a point and a digit stands alone, as
in `a?.5:1`. -/
def readMark? (cs : List Char) : Option (Token × List Char) :=
  match cs with
  | '?' :: '.' :: c :: r => if c.isDigit then some (.mark "?", '.' :: c :: r) else longest cs
  | cs => longest cs
where
  longest (cs : List Char) : Option (Token × List Char) :=
    (markTable.find? fun m => m.1.isPrefixOf cs).map fun m => (.mark m.2, cs.drop m.1.length)

/-- The number at the beginning of a text; a letter, a digit, an underscore or a dollar sign must
not follow at once. -/
def readNumber? (cs : List Char) : Option (Token × List Char) :=
  match Numeral.readLiteral? cs with
  | some (x, rest) =>
    if rest.head?.any fun c => c.isAlphanum || c = '_' || c = '$' then none
    else some (.number x, rest)
  | none => none

/-- The number of hexadecimal digits in braces, after the opening one. -/
def readBraced? (value : Nat) (found : Bool) : List Char → Option (Nat × List Char)
  | [] => none
  | c :: cs =>
    if c = '\x7d' then (if found then some (value, cs) else none)
    else match hexDigit? c with
      | some d => readBraced? (16 * value + d) true cs
      | none => none

/-- The character of an escape in a name, after the backslash. -/
def readNameEscape? (cs : List Char) : Option (Char × List Char) := do
  let (n, rest) ← match cs with
    | 'u' :: '\x7b' :: r => readBraced? 0 false r
    | 'u' :: a :: b :: c :: d :: r => do
      let ds ← [a, b, c, d].mapM hexDigit?
      pure (Numeral.exactValue 16 ds, r)
    | _ => none
  if n.isValidChar then return (Char.ofNat n, rest) else none

/-- The word at the beginning of a text, behind the characters in `acc`, with whether one of them
was escaped, and the rest. Nothing when an escape is malformed or stands for no name character. -/
def readWord? : Nat → List Char → Bool → List Char → Option (Token × List Char)
  | 0, _, _, _ => none
  | fuel + 1, acc, escaped, cs =>
    let fits (c : Char) : Bool := if acc.isEmpty then startsWord c else continuesWord c
    match cs with
    | '\\' :: r =>
      match readNameEscape? r with
      | some (c, r) => if fits c then readWord? fuel (c :: acc) true r else none
      | none => none
    | c :: r =>
      if fits c then readWord? fuel (c :: acc) escaped r
      else some (.word (String.ofList acc.reverse) escaped, cs)
    | [] => some (.word (String.ofList acc.reverse) escaped, [])

/-- The token at the beginning of a text without leading blanks, whose length is less than
`fuel`. -/
def read? (fuel : Nat) (cs : List Char) : Option (Token × List Char) :=
  match cs with
  | [] => none
  | c :: r =>
    if startsWord c || c = '\\' then readWord? fuel [] false cs
    else if c.isDigit then readNumber? cs
    else if c = '.' ∧ (r.head?.any Char.isDigit) then readNumber? cs
    else if c = '\'' ∨ c = '"' then
      (readLiteral? c .plain #[] r).map fun (u, rest) => (.text u, rest)
    else readMark? cs

end Token

/-- The tokens of a text, behind those in `acc`. -/
def Lexeme.read? : Nat → List Lexeme → List Char → Option (List Lexeme)
  | 0, _, _ => none
  | fuel + 1, acc, cs =>
    match Token.skipBlanks? (fuel + 1) false cs with
    | none => none
    | some (_, []) => some acc.reverse
    | some (afterLine, before) =>
      match Token.read? (fuel + 1) before with
      | some (token, after) => Lexeme.read? fuel ({ token, afterLine, before, after } :: acc) after
      | none => none

/-- The tokens of a text. -/
def Lexeme.ofText? (s : String) : Option (List Lexeme) :=
  let cs := s.toList
  Lexeme.read? (cs.length + 1) [] cs

/-- The text from one place to a later one. -/
def textBetween (before after : List Char) : List Char :=
  before.take (before.length - after.length)

end Workgraph.Script
