import Workgraph.Binary64
import Workgraph.Script.Units
import Workgraph.Width

/-!
# Numbers and their texts in scripts

All numbers of scripts are floating-point.

* `Numeral.text` writes a number with the fewest digits that read back, positionally below
  `10 ^ 21` and down to `10 ^ -6`;
* `Numeral.readLiteral?` reads a literal, decimal or in another base, with underscores between its
  digits. A decimal is rounded once, a number in another base after each digit that no longer
  fits;
* `Numeral.ofText` converts a whole text, `leadingDecimal` and `leadingInteger` read the beginning
  of one;
* `remainder`, `power`, `roundHalfUp` and the roundings to whole numbers are the operations that the
  machine's floats lack.
-/

namespace Workgraph.Script.Numeral

/-! ## 1. Writing -/

/-- Twenty-one places before the point and six after it are written out; zero has no sign. -/
def layout : Binary64.Layout :=
  { leadingZeros := 6, wholePlaces := 21, keepsPoint := false, signedZero := false }

def infinity : Float := 1.0 / 0.0

def undefinedNumber : Float := 0.0 / 0.0

/-- A number as text. -/
def text (x : Float) : String :=
  if x.isNaN then "NaN"
  else if x.isInf then (if x < 0.0 then "-Infinity" else "Infinity")
  else layout.write (.ofFloat x)

/-- A whole number as text in a base of up to thirty-six. -/
def wholeText (base : Nat) (i : Int) : String :=
  let digit (d : Nat) : Char :=
    if d < 10 then Char.ofNat (d + '0'.toNat) else Char.ofNat (d - 10 + 'a'.toNat)
  let rec digits : Nat → Nat → List Char → List Char
    | 0, _, acc => acc
    | fuel + 1, n, acc =>
      let acc := digit (n % base) :: acc
      if n / base = 0 then acc else digits fuel (n / base) acc
  let text := String.ofList (digits (i.natAbs.log2 + 1) i.natAbs [])
  if i < 0 then "-" ++ text else text

/-! ## 2. Digits -/

/-- The value of a digit in a base of up to thirty-six. -/
def digit? (base : Nat) (c : Char) : Option Nat :=
  let n :=
    if '0' ≤ c ∧ c ≤ '9' then c.toNat - '0'.toNat
    else if 'a' ≤ c ∧ c ≤ 'z' then c.toNat - 'a'.toNat + 10
    else if 'A' ≤ c ∧ c ≤ 'Z' then c.toNat - 'A'.toNat + 10
    else base
  if n < base then some n else none

/-- The leading digits in a base, by value, and the rest. -/
def readDigits (base : Nat) (acc : List Nat) : List Char → List Nat × List Char
  | [] => (acc.reverse, [])
  | c :: cs =>
    match digit? base c with
    | some d => readDigits base (d :: acc) cs
    | none => (acc.reverse, c :: cs)

/-- The number that digits denote. -/
def exactValue (base : Nat) (ds : List Nat) : Nat := ds.foldl (fun n d => base * n + d) 0

/-- The float nearest to a natural number, as a natural number again. -/
def nearest (n : Nat) : Nat :=
  if n < 9007199254740992 then n else (Binary64.ofFloat (Float.ofNat n)).truncate.toNat

/-- The number that digits denote when each further digit is taken in and rounded once. -/
def digitwise (base : Nat) (ds : List Nat) : Float :=
  Float.ofNat (ds.foldl (fun n d => nearest (base * n + d)) 0)

/-- Like `digitwise`, but the product is rounded before the digit is added. -/
def digitwiseTwice (base : Nat) (ds : List Nat) : Float :=
  Float.ofNat (ds.foldl (fun n d => nearest (nearest (base * n) + d)) 0)

/-- The number nearest to `digits * 10 ^ e`. The powers of ten around `digits` tell early when the
result is infinite or zero. -/
def scaled (digits : Nat) (e : Int) : Float :=
  if digits = 0 then 0.0
  else if e + (digits.log2 * 3 / 10 : Nat) > 400 then infinity
  else if e + (digits.log2 / 3 + 1 : Nat) < -400 then 0.0
  else Float.ofScientific digits (e < 0) e.natAbs

/-! ## 3. Literals -/

/-- Digits of a literal by value, and the rest. Underscores may stand between digits if
`separated`; `after` says that the last character was one. -/
def literalDigits? (base : Nat) (separated after : Bool) (acc : List Nat) :
    List Char → Option (List Nat × List Char)
  | [] => if after then none else some (acc.reverse, [])
  | c :: cs =>
    if c = '_' then
      if separated && !after then literalDigits? base separated true acc cs else none
    else match digit? base c with
      | some d => literalDigits? base separated false (d :: acc) cs
      | none => if after then none else some (acc.reverse, c :: cs)

/-- Whether a text begins with a digit. -/
def beginsWithDigit (base : Nat) (cs : List Char) : Bool :=
  cs.head?.any fun c => (digit? base c).isSome

/-- The digits after the point of a literal, if there is one. -/
def literalFraction? : List Char → Option (List Nat × List Char)
  | '.' :: '_' :: _ => none
  | '.' :: cs => literalDigits? 10 true false [] cs
  | cs => some ([], cs)

/-- The exponent of a literal, zero if there is no `e`. -/
def literalExponent? (cs : List Char) : Option (Int × List Char) :=
  match cs with
  | 'e' :: cs | 'E' :: cs =>
    let (down, cs) := match cs with
      | '-' :: cs => (true, cs)
      | '+' :: cs => (false, cs)
      | cs => (false, cs)
    if beginsWithDigit 10 cs then
      (literalDigits? 10 true false [] cs).map fun (ds, rest) =>
        let e : Int := exactValue 10 ds
        (if down then -e else e, rest)
    else none
  | cs => some (0, cs)

/-- The number of a decimal literal and the rest. -/
def decimalLiteral? (separated : Bool) (cs : List Char) : Option (Float × List Char) := do
  let (whole, cs) ← literalDigits? 10 separated false [] cs
  let (places, cs) ← literalFraction? cs
  let (e, cs) ← literalExponent? cs
  return (scaled (exactValue 10 (whole ++ places)) (e - places.length), cs)

/-- The base that a letter after a leading zero asks for. -/
def prefixBase? (c : Char) : Option Nat :=
  if c = 'x' ∨ c = 'X' then some 16
  else if c = 'o' ∨ c = 'O' then some 8
  else if c = 'b' ∨ c = 'B' then some 2
  else none

/-- The number of a literal, which begins with a digit or with a point and a digit, and the rest. A
zero before an octal digit begins an octal literal; after any leading zero no underscore may
stand. -/
def readLiteral? : List Char → Option (Float × List Char)
  | '0' :: c :: cs =>
    match prefixBase? c with
    | some base =>
      if beginsWithDigit base cs then
        (literalDigits? base true false [] cs).map fun (ds, rest) => (digitwise base ds, rest)
      else none
    | none =>
      if (digit? 8 c).isSome then
        (literalDigits? 8 false false [] (c :: cs)).map fun (ds, rest) => (digitwise 8 ds, rest)
      else decimalLiteral? false ('0' :: c :: cs)
  | cs => decimalLiteral? true cs

/-! ## 4. Numbers in texts -/

/-- The exponent at the beginning of a text, or zero when there is none. -/
def readExponent (cs : List Char) : Int × List Char :=
  match cs with
  | 'e' :: rest | 'E' :: rest =>
    let (down, ds) : Bool × List Char := match rest with
      | '-' :: ds => (true, ds)
      | '+' :: ds => (false, ds)
      | ds => (false, ds)
    match readDigits 10 [] ds with
    | ([], _) => (0, cs)
    | (ds, after) =>
      let e : Int := exactValue 10 ds
      (if down then -e else e, after)
  | _ => (0, cs)

/-- The longest decimal number without a sign at the beginning of a text, and the rest. -/
def readDecimal? (cs : List Char) : Option (Float × List Char) :=
  let (whole, rest) := readDigits 10 [] cs
  let (places, rest) : List Nat × List Char := match rest with
    | '.' :: ds =>
      let (places, after) := readDigits 10 [] ds
      if whole.isEmpty && places.isEmpty then ([], rest) else (places, after)
    | _ => ([], rest)
  if whole.isEmpty && places.isEmpty then none
  else
    let (e, rest) := readExponent rest
    some (scaled (exactValue 10 (whole ++ places)) (e - places.length), rest)

private def trimStart (cs : List Char) : List Char := cs.dropWhile fun c => Units.isSpace c.toNat

private def trimBoth (cs : List Char) : List Char := (trimStart (trimStart cs).reverse).reverse

/-- The sign at the beginning of a text and the rest. -/
def readSign : List Char → Bool × List Char
  | '-' :: cs => (true, cs)
  | '+' :: cs => (false, cs)
  | cs => (false, cs)

def signed (negative : Bool) (x : Float) : Float := if negative then -x else x

private def lowered (cs : List Char) : List Char := cs.map Char.toLower

private def infinityWord : List Char := "Infinity".toList

/-- Whether a text is the word for infinity, in full or its first three letters, in any case. -/
private def saysInfinity (cs : List Char) : Bool :=
  lowered cs == lowered infinityWord || lowered cs == "inf".toList

/-- The number that the digits after a base's letter denote. A plus sign may stand before a number
of 32 bits. -/
def ofPrefixed (base : Nat) (cs : List Char) : Float :=
  let (plus, ds) := match cs with
    | '+' :: ds => (true, ds)
    | ds => (false, ds)
  match readDigits base [] ds with
  | ([], _) => undefinedNumber
  | (ds, []) =>
    if plus && Width.natural32 < exactValue base ds then undefinedNumber else digitwise base ds
  | _ => undefinedNumber

/-- The number that a whole text denotes; a blank text denotes zero, any other text that is no
number denotes none. The word for infinity is known in any case after a sign. -/
def ofText (u : Units) : Float :=
  let cs := trimBoth u.chars
  let based := match cs with
    | '0' :: c :: _ => prefixBase? c
    | _ => none
  match based with
  | some base => ofPrefixed base (cs.drop 2)
  | none =>
    let (negative, ds) := readSign cs
    if cs.isEmpty then 0.0
    else if cs == infinityWord || (cs.length ≠ ds.length && saysInfinity ds) then
      signed negative infinity
    else match readDecimal? ds with
      | some (x, []) => signed negative x
      | _ => undefinedNumber

/-- The decimal number at the beginning of a text. -/
def leadingDecimal (u : Units) : Float :=
  let (negative, cs) := readSign (trimStart u.chars)
  if infinityWord.isPrefixOf cs then signed negative infinity
  else match readDecimal? cs with
    | some (x, _) => signed negative x
    | none => undefinedNumber

/-- The integer at the beginning of a text, in a base where zero stands for ten, or for sixteen
after `0x`. A number of 64 bits is rounded once, a greater one digit by digit. -/
def leadingInteger (u : Units) (base : Int) : Float :=
  let (negative, cs) := readSign (trimStart u.chars)
  let hex : Option (List Char) := match cs with
    | '0' :: 'x' :: ds | '0' :: 'X' :: ds => some ds
    | _ => none
  if base ≠ 0 ∧ (base < 2 ∨ 36 < base) then undefinedNumber
  else
    let (base, cs) : Nat × List Char := match hex with
      | some ds => if base = 0 ∨ base = 16 then (16, ds) else (base.toNat, cs)
      | none => (if base = 0 then 10 else base.toNat, cs)
    match readDigits base [] cs with
    | ([], _) => undefinedNumber
    | (ds, _) =>
      let n := exactValue base ds
      signed negative (if n ≤ Width.natural64 then Float.ofNat n else digitwiseTwice base ds)

/-! ## 5. Operations -/

/-- The remainder of a division whose quotient is rounded towards zero; it has the sign of the
dividend. -/
def remainder (x y : Float) : Float :=
  if x.isNaN || y.isNaN || x.isInf || y == 0.0 then undefinedNumber
  else if y.isInf || x == 0.0 then x
  else
    let (m, p) := (Binary64.ofFloat x).magnitude
    let (n, q) := (Binary64.ofFloat y).magnitude
    let low := min p q
    let r := m * Nat.pow 2 (p - low).toNat % (n * Nat.pow 2 (q - low).toNat)
    signed (Binary64.ofFloat x).isNegative ((Float.ofNat r).scaleB low)

/-- A power; one and minus one to an infinite power are undefined. -/
def power (x y : Float) : Float :=
  if x.abs == 1.0 && y.isInf then undefinedNumber else Float.pow x y

/-- The nearest whole number, a half going up. -/
def roundHalfUp (x : Float) : Float :=
  let low := x.floor
  if x - low ≥ 0.5 then x.ceil else low

/-- The whole number towards zero, where what is undefined counts as zero and an infinity stays. -/
def toInteger (x : Float) : Float :=
  if x.isNaN then 0.0 else if x < 0.0 then x.ceil else x.floor

/-- A whole number modulo the number of naturals of 32 bits; what is not finite counts as zero. -/
def toUnsigned (x : Float) : Nat :=
  if x.isFinite then ((Binary64.ofFloat x).truncate.emod (Width.natural32 + 1)).toNat else 0

/-- Like `toUnsigned`, but the upper half of the numbers stands for the negative ones. -/
def toSigned (x : Float) : Int :=
  let n : Int := toUnsigned x
  if n < 2147483648 then n else n - (Width.natural32 + 1)

end Workgraph.Script.Numeral
