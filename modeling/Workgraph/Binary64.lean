/-!
# Binary floating-point numbers, by their bits

A number of the 64-bit IEEE 754 format, kept as its bit pattern, so that equality is decidable and
zero and minus zero differ. Arithmetic goes through the machine's own floats.

* `ofInt` rounds an integer to the nearest number;
* `magnitude` reads the bits as `m * 2 ^ q`;
* `shortest` gives the fewest decimal digits that read back as the same number, and of those the
  nearest to it: the interval of reals that round to the number is taken exactly (its ends belong
  to it when `m` is even), and the grids of 1, 2, … 17 digits are tried in turn;
* `Layout.write` writes such digits as text; where positional writing ends, whether a whole
  number keeps a point and how an exponent is signed are the fields of `Layout`.
-/

namespace Workgraph

/-- A 64-bit floating-point number. -/
structure Binary64 where
  bits : UInt64
  deriving DecidableEq, Inhabited

namespace Binary64

/-! ## 1. Reading the bits -/

def ofFloat (x : Float) : Binary64 := ⟨x.toBits⟩

def toFloat (x : Binary64) : Float := Float.ofBits x.bits

/-- The bits of an infinity. -/
def infiniteBits : Nat := 0x7FF0000000000000

/-- The bits of the number nearest to a natural number; of two equally near ones the one with an
even significand counts. The exponent stands above the significand without its leading one, so a
significand that is rounded up to a power of two carries into the exponent. -/
def bitsOfNat (n : Nat) : Nat :=
  let e := n.log2
  if n = 0 then 0
  else if e ≤ 52 then (e + 1022) * Nat.pow 2 52 + n * Nat.pow 2 (52 - e)
  else
    let step := Nat.pow 2 (e - 52)
    let m := n / step
    let rest := n % step
    let up : Bool := step < 2 * rest || (step = 2 * rest && m % 2 = 1)
    min ((e + 1022) * Nat.pow 2 52 + (if up then m + 1 else m)) infiniteBits

/-- The number nearest to an integer. -/
def ofInt (i : Int) : Binary64 :=
  let bits := bitsOfNat i.natAbs
  ⟨(if i < 0 then bits + Nat.pow 2 63 else bits).toUInt64⟩

/-- Whether the sign bit is set. -/
def isNegative (x : Binary64) : Bool := x.bits >>> 63 == 1

/-- The eleven exponent bits. -/
def exponentBits (x : Binary64) : Nat := ((x.bits >>> 52) &&& 0x7FF).toNat

/-- The fifty-two bits after the leading one. -/
def fractionBits (x : Binary64) : Nat := (x.bits &&& 0xFFFFFFFFFFFFF).toNat

/-- Whether the number is neither an infinity nor undefined. -/
def isFinite (x : Binary64) : Bool := x.exponentBits != 0x7FF

/-- Whether the number is plus or minus zero. -/
def isZero (x : Binary64) : Bool := x.bits <<< 1 == 0

/-- The absolute value of a finite number as `m * 2 ^ q`. -/
def magnitude (x : Binary64) : Nat × Int :=
  if x.exponentBits = 0 then (x.fractionBits, -1074)
  else (x.fractionBits + Nat.pow 2 52, (x.exponentBits : Int) - 1075)

/-- Whether the number is finite and has no fraction. -/
def isWhole (x : Binary64) : Bool :=
  x.isFinite &&
    let (m, q) := x.magnitude
    if 0 ≤ q then true else m % Nat.pow 2 q.natAbs == 0

/-- The integer towards zero from a finite number. -/
def truncate (x : Binary64) : Int :=
  let (m, q) := x.magnitude
  let n : Nat := if 0 ≤ q then m * Nat.pow 2 q.toNat else m / Nat.pow 2 q.natAbs
  if x.isNegative then -n else n

/-! ## 2. The shortest decimal digits -/

/-- The reals that round to a positive number: all `r` with `low ≤ r * den ≤ high`, the ends left
out unless `closed`, and the number itself, `value / den`. -/
structure Rounding where
  low : Nat
  value : Nat
  high : Nat
  den : Nat
  closed : Bool

/-- The reals that round to a positive finite number. The gap below a power of two is half the gap
above it. -/
def rounding (x : Binary64) : Rounding :=
  let (m, q) := x.magnitude
  let below : Nat := if x.fractionBits = 0 ∧ 1 < x.exponentBits then 1 else 2
  let scale : Nat := if 0 ≤ q then Nat.pow 2 q.toNat else 1
  { low := (4 * m - below) * scale
    value := 4 * m * scale
    high := (4 * m + 2) * scale
    den := 4 * (if 0 ≤ q then 1 else Nat.pow 2 q.natAbs)
    closed := m % 2 = 0 }

/-- Whether the decimal `d * num / den10` lies in the interval. -/
def Rounding.holds (r : Rounding) (d num den10 : Nat) : Bool :=
  let p := d * num * r.den
  if r.closed then r.low * den10 ≤ p && p ≤ r.high * den10
  else r.low * den10 < p && p < r.high * den10

/-- The decimal of the grid of step `10 ^ k` that lies in the interval and is nearest to the
number; of two equally near ones the even one. -/
def Rounding.onGrid? (r : Rounding) (k : Int) : Option Nat :=
  let num : Nat := if 0 ≤ k then Nat.pow 10 k.toNat else 1
  let den10 : Nat := if 0 ≤ k then 1 else Nat.pow 10 k.natAbs
  let d := r.value * den10 / (num * r.den)
  let below := r.value * den10 - d * num * r.den
  let above := (d + 1) * num * r.den - r.value * den10
  match r.holds d num den10, r.holds (d + 1) num den10 with
  | false, false => none
  | true, false => some d
  | false, true => some (d + 1)
  | true, true =>
    if below < above then some d
    else if above < below then some (d + 1)
    else if d % 2 = 0 then some d else some (d + 1)

/-- The greatest `e` such that `10 ^ e` is at most `a / b`, found between two bounds. -/
def log10 (a b : Nat) : Int :=
  let digits (n : Nat) : Int := ((Nat.toDigits 10 n).length : Int)
  let e := digits a - digits b
  let atLeast (e : Int) : Bool :=
    if 0 ≤ e then b * Nat.pow 10 e.toNat ≤ a else b ≤ a * Nat.pow 10 e.natAbs
  if atLeast e then e else e - 1

/-- A decimal without trailing zeros: the digits and the exponent of ten. -/
def stripZeros : Nat → Nat → Int → Nat × Int
  | 0, d, k => (d, k)
  | fuel + 1, d, k => if d ≠ 0 ∧ d % 10 = 0 then stripZeros fuel (d / 10) (k + 1) else (d, k)

/-- The fewest digits that read back as a positive finite number, with the exponent of ten of the
last of them: the grids of 1, 2, … digits in turn. -/
def shortest (x : Binary64) : Nat × Int :=
  let r := x.rounding
  let top := log10 r.value r.den
  let rec search : Nat → Nat → Nat × Int
    | 0, _ => let (m, q) := x.magnitude; (m * Nat.pow 2 q.toNat, 0)
    | left + 1, n =>
      match r.onGrid? (top - n) with
      | some d => stripZeros 20 d (top - n)
      | none => search left (n + 1)
  search 18 0

/-! ## 3. Layout -/

/-- How the digits of a number are laid out: a number below one is written positionally when its
first digit stands within `leadingZeros` places after the point, a number of more than `wholePlaces`
digits before the point is written with an exponent, `keepsPoint` writes a whole number as `1.0`,
and `signedZero` keeps the sign of minus zero. -/
structure Layout where
  leadingZeros : Nat
  wholePlaces : Nat
  keepsPoint : Bool
  signedZero : Bool

/-- The text of an exponent, always with its sign. -/
private def exponentText (e : Int) : String :=
  if e < 0 then "e-" ++ toString e.natAbs else "e+" ++ toString e.natAbs

private def zeros (n : Nat) : List Char := List.replicate n '0'

/-- The text of a finite number. -/
def Layout.write (f : Layout) (x : Binary64) : String :=
  if x.isZero then
    (if x.isNegative && f.signedZero then "-0" else "0") ++ (if f.keepsPoint then ".0" else "")
  else
    let (d, k) := x.shortest
    let ds := Nat.toDigits 10 d
    let n : Int := ds.length
    let point := n + k
    let body : String :=
      if 0 ≤ k ∧ point ≤ f.wholePlaces then
        String.ofList (ds ++ zeros k.toNat) ++ (if f.keepsPoint then ".0" else "")
      else if 0 < point ∧ point ≤ f.wholePlaces then
        String.ofList (ds.take point.toNat ++ '.' :: ds.drop point.toNat)
      else if -(f.leadingZeros : Int) < point ∧ point ≤ 0 then
        String.ofList ('0' :: '.' :: (zeros point.natAbs ++ ds))
      else
        match ds with
        | [c] => String.singleton c ++ exponentText (point - 1)
        | c :: rest => String.ofList (c :: '.' :: rest) ++ exponentText (point - 1)
        | [] => ""
    if x.isNegative then "-" ++ body else body

end Binary64

end Workgraph
