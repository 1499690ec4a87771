/-!
# Integers written in a text

A signed decimal integer: an optional sign, then one or more of the digits 0 to 9, and nothing
else. Leading zeros and a plus sign are allowed; blanks, separators and a fraction are not.

* `natural?` reads a number without a minus sign;
* `integer?` reads one with either sign;
* both give nothing for a number beyond the largest they are told to hold.
-/

namespace Workgraph.Text

/-- The number that a list of decimal digits writes, or nothing when a character is no digit. -/
def digits? (cs : List Char) : Option Nat :=
  cs.foldl (fun acc c => acc.bind fun n =>
    if c.isDigit then some (10 * n + (c.toNat - '0'.toNat)) else none) (some 0)

/-- The number that a non-empty list of decimal digits writes. -/
def digits1? : List Char → Option Nat
  | [] => none
  | cs => digits? cs

/-- A number from 0 to `max` with an optional plus sign. -/
def natural? (max : Nat) (s : String) : Option Nat :=
  let read (cs : List Char) : Option Nat := (digits1? cs).filter (· ≤ max)
  match s.toList with
  | '+' :: cs => read cs
  | cs => read cs

/-- A number from `min` to `max` with an optional sign. -/
def integer? (min max : Int) (s : String) : Option Int :=
  let fits (i : Int) : Option Int := if min ≤ i ∧ i ≤ max then some i else none
  match s.toList with
  | '+' :: cs => (digits1? cs).bind fun n => fits n
  | '-' :: cs => (digits1? cs).bind fun n => fits (-n)
  | cs => (digits1? cs).bind fun n => fits n

example : natural? 20 "+020" = some 20 ∧ natural? 20 "21" = none := by decide
example : integer? (-8) 7 "-8" = some (-8) ∧ integer? (-8) 7 "- 8" = none := by decide

end Workgraph.Text
