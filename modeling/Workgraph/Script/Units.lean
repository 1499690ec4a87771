import Workgraph.Text.Upper

/-!
# Texts of scripts

A text inside a script is a sequence of 16-bit code units. A character beyond `U+FFFF` is two units,
a surrogate pair; half of a pair may stand alone, so not every sequence of units is a text of
characters.

* `Units.ofString` and `Units.toString?` go between the two, `Units.decode` pairs the surrogates;
* `Units.shown` writes a lone surrogate as its escape;
* searching, cutting, trimming and comparing work unit by unit.
-/

namespace Workgraph.Script

/-- A text of 16-bit code units. -/
abbrev Units := Array UInt16

namespace Units

/-! ## 1. Characters and units -/

/-- The one or two units of a number below `0x110000`, which may be a surrogate. -/
def ofCode (n : Nat) : List UInt16 :=
  if n < 0x10000 then [n.toUInt16]
  else [(0xD800 + (n - 0x10000) / 0x400).toUInt16, (0xDC00 + (n - 0x10000) % 0x400).toUInt16]

/-- The one or two units of a character. -/
def ofChar (c : Char) : List UInt16 := ofCode c.toNat

/-- The units of a list of characters. -/
def ofChars (cs : List Char) : Units := (cs.flatMap ofChar).toArray

def ofString (s : String) : Units := ofChars s.toList

def isHigh (u : UInt16) : Bool := 0xD800 ≤ u && u < 0xDC00

def isLow (u : UInt16) : Bool := 0xDC00 ≤ u && u < 0xE000

/-- A character, or a surrogate that stands alone. -/
inductive Piece where
  | char (c : Char)
  | lone (u : UInt16)

def Piece.char? : Piece → Option Char
  | .char c => some c
  | .lone _ => none

/-- What a unit is when it is not half of a pair. -/
def single (u : UInt16) : Piece :=
  if isHigh u || isLow u then .lone u else .char (Char.ofNat u.toNat)

/-- The character of a surrogate pair. -/
def paired (high low : UInt16) : Piece :=
  .char (Char.ofNat (0x10000 + (high.toNat - 0xD800) * 0x400 + (low.toNat - 0xDC00)))

/-- The characters and lone surrogates of a sequence of units, behind those in `acc`. -/
def pieces (acc : List Piece) : List UInt16 → List Piece
  | [] => acc.reverse
  | [u] => (single u :: acc).reverse
  | u :: v :: us =>
    if isHigh u && isLow v then pieces (paired u v :: acc) us
    else pieces (single u :: acc) (v :: us)

def decode (u : Units) : List Piece := pieces [] u.toList

/-- The text of characters, if no surrogate stands alone. -/
def toString? (u : Units) : Option String := (u.decode.mapM Piece.char?).map String.ofList

private def hexDigits4 (n : Nat) : List Char :=
  let ds := (Nat.toDigits 16 n).map Char.toUpper
  List.replicate (4 - ds.length) '0' ++ ds

/-- The text of characters, a lone surrogate written as an escape. -/
def shown (u : Units) : String :=
  String.ofList (u.decode.flatMap fun
    | .char c => [c]
    | .lone v => '\\' :: 'u' :: hexDigits4 v.toNat)

/-- The characters, for a reader to which a lone surrogate is just a wrong character. -/
def chars (u : Units) : List Char :=
  u.decode.map fun
    | .char c => c
    | .lone _ => '\uFFFD'

/-! ## 2. Comparing and searching -/

/-- Whether a text comes before another, unit by unit. -/
def less (a b : Units) : Bool :=
  let rec go : List UInt16 → List UInt16 → Bool
    | _, [] => false
    | [], _ :: _ => true
    | u :: us, v :: vs => if u = v then go us vs else u < v
  go a.toList b.toList

/-- Whether `part` stands in a text at a position. -/
def hasAt (text part : Units) (i : Nat) : Bool :=
  i + part.size ≤ text.size && text.extract i (i + part.size) == part

/-- The first position from `start` on at which `part` stands. -/
def indexOf? (text part : Units) (start : Nat) : Option Nat :=
  let rec go : Nat → Nat → Option Nat
    | 0, i => if hasAt text part i then some i else none
    | left + 1, i => if hasAt text part i then some i else go left (i + 1)
  if start ≤ text.size then go (text.size - start) start else none

/-- The pieces of a text between the places where a non-empty separator stands. -/
def splitBy (text sep : Units) : List Units :=
  let rec go : Nat → Nat → List Units
    | 0, start => [text.extract start text.size]
    | fuel + 1, start =>
      match indexOf? text sep start with
      | some i => text.extract start i :: go fuel (i + sep.size)
      | none => [text.extract start text.size]
  go text.size 0

/-- The texts joined with a separator between them. -/
def joinWith (sep : Units) : List Units → Units
  | [] => #[]
  | u :: us => us.foldl (fun acc v => acc ++ sep ++ v) u

/-! ## 3. Trimming and case -/

/-- White space and line ends as scripts know them; unlike `Text.isBlank` they include the byte
order mark and leave out the next-line control. -/
def isSpace (n : Nat) : Bool :=
  (0x09 ≤ n && n ≤ 0x0D) || n == 0x20 || n == 0xA0 || n == 0x1680 || (0x2000 ≤ n && n ≤ 0x200A) ||
    n == 0x2028 || n == 0x2029 || n == 0x202F || n == 0x205F || n == 0x3000 || n == 0xFEFF

/-- A text without the white space at its two ends. -/
def trim (u : Units) : Units :=
  let us := u.toList.dropWhile fun v => isSpace v.toNat
  (us.reverse.dropWhile fun v => isSpace v.toNat).reverse.toArray

/-- A text in upper case; lone surrogates stay. -/
def upper (u : Units) : Units :=
  (u.decode.flatMap fun
    | .char c => (Text.upperChar c).flatMap ofChar
    | .lone v => [v]).toArray

end Units

end Workgraph.Script
