import Workgraph.Binary64
import Workgraph.Width

/-!
# JSON numbers

A number is an integer of 64 bits, signed or unsigned, or a floating-point number. Which of the two
a literal denotes is fixed by how it is written:

* a literal without fraction and exponent whose value lies between `-2 ^ 63` and `2 ^ 64 - 1` is an
  integer, except `-0`;
* every other literal is floating-point: its digits are collected into a significand in 64 bits,
  digits that no longer fit are dropped, and the significand is scaled by a power of ten
  (`scale?`); a literal too large for the format denotes nothing.

`Number.text` writes a number back: a floating-point number keeps a point or an exponent, so the
kind survives.
-/

namespace Workgraph.Json

inductive Number where
  /-- An integer of 64 bits, with or without a sign. -/
  | integer (value : Int)
  /-- A finite floating-point number. -/
  | real (value : Binary64)
  deriving DecidableEq, Inhabited

namespace Number

/-! ## 1. Scaling a significand -/

/-- Ten to the power `k`, for `k` up to 308, as a float. -/
def tenTo (k : Nat) : Float := Float.ofScientific 1 false k

/-- A float times ten to the power `e`, in steps of at most 308; nothing when a step up would be
greater. A zero stays zero whatever the exponent. -/
def scale? (x : Float) (e : Int) : Option Float :=
  if 0 ≤ e then
    if e ≤ 308 then some (x * tenTo e.toNat)
    else if x == 0.0 then some x else none
  else
    let rec shrink : Nat → Float → Nat → Float
      | 0, x, _ => x
      | fuel + 1, x, k =>
        if k ≤ 308 then x / tenTo k
        else if x == 0.0 then x
        else shrink fuel (x / tenTo 308) (k - 308)
    some (shrink 4 x e.natAbs)

/-! ## 2. Literals -/

/-- The parts of a number literal: its digits before and after the point, and the exponent. A part
that is not written is `none`. -/
structure Literal where
  negative : Bool
  whole : List Char
  fraction : Option (List Char)
  exponent : Option (Bool × List Char)
  deriving DecidableEq

private def digitValue (c : Char) : Nat := c.toNat - '0'.toNat

/-- The digits before the point: those that fit in 64 bits, and how many were dropped. -/
def collectWhole (significand : Nat) : List Char → Nat × Nat
  | [] => (significand, 0)
  | c :: cs =>
    let next := 10 * significand + digitValue c
    if next ≤ Width.natural64 then collectWhole next cs else (significand, (c :: cs).length)

/-- The digits after the point: those that fit in 64 bits, and how many they were. -/
def collectFraction (significand taken : Nat) : List Char → Nat × Nat
  | [] => (significand, taken)
  | c :: cs =>
    let next := 10 * significand + digitValue c
    if next ≤ Width.natural64 then collectFraction next (taken + 1) cs else (significand, taken)

/-- The absolute value of a literal as a float, infinite or nothing when it is too large. -/
def Literal.float? (l : Literal) : Option Float :=
  let (s₁, dropped) := collectWhole 0 l.whole
  let (s, taken) := collectFraction s₁ 0 (l.fraction.getD [])
  let base : Int := dropped - taken
  match l.exponent with
  | none => scale? s.toUInt64.toFloat base
  | some (down, ds) =>
    let e := ds.foldl (fun n c => 10 * n + digitValue c) 0
    if e ≤ Width.greatest32 then
      scale? s.toUInt64.toFloat (if down then base - e else base + e)
    else if s ≠ 0 ∧ ¬ down then none
    else some 0.0

/-- The floating-point number of a literal, or nothing when it is too large. -/
def Literal.real? (l : Literal) : Option Binary64 :=
  let signed (x : Float) : Binary64 := .ofFloat (if l.negative then -x else x)
  (l.float?.map signed).filter Binary64.isFinite

/-- The number that a literal denotes, or nothing when it is too large. -/
def Literal.number? (l : Literal) : Option Number :=
  match l.fraction, l.exponent with
  | none, none =>
    let (s, dropped) := collectWhole 0 l.whole
    if dropped = 0 ∧ ¬ l.negative then some (.integer s)
    else if dropped = 0 ∧ s ≠ 0 ∧ Width.least64 ≤ -s then some (.integer (-s))
    else l.real?.map .real
  | _, _ => l.real?.map .real

/-! ## 3. Text -/

/-- Floating-point numbers keep a point; sixteen places before it and five after it are written
out. -/
def realLayout : Binary64.Layout :=
  { leadingZeros := 5, wholePlaces := 16, keepsPoint := true, signedZero := true }

/-- A number as text; what is not finite has no number and is written `null`. -/
def text : Number → String
  | .integer i => toString i
  | .real x => if x.isFinite then realLayout.write x else "null"

/-- The nearest floating-point number. -/
def toFloat : Number → Float
  | .integer i => Float.ofInt i
  | .real x => x.toFloat

end Number

end Workgraph.Json
