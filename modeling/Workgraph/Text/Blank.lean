/-!
# Blank characters

Ids, paths, labels and script sources are trimmed before they are looked at. What counts as blank
is the Unicode property `White_Space`:

* `isBlank` is membership in that property, given by its code points;
* `trim` takes the blank characters off both ends of a text, `trimStart` and `trimEnd` off one;
* `isAllBlank` says that trimming leaves nothing.
-/

namespace Workgraph.Text

/-- Whether a character has the Unicode property `White_Space`. -/
def isBlank (c : Char) : Bool :=
  let n := c.toNat
  (0x09 ≤ n && n ≤ 0x0D) || n == 0x20 || n == 0x85 || n == 0xA0 || n == 0x1680 ||
    (0x2000 ≤ n && n ≤ 0x200A) || n == 0x2028 || n == 0x2029 || n == 0x202F || n == 0x205F ||
    n == 0x3000

/-! ## 1. Taking characters off the ends of a list -/

/-- The characters without the leading ones that satisfy `p`. -/
def dropStart (p : Char → Bool) (cs : List Char) : List Char := cs.dropWhile p

/-- The characters without the trailing ones that satisfy `p`. -/
def dropEnd (p : Char → Bool) (cs : List Char) : List Char := (cs.reverse.dropWhile p).reverse

/-! ## 2. Trimming texts -/

/-- A text without its leading blank characters. -/
def trimStart (s : String) : String := String.ofList (dropStart isBlank s.toList)

/-- A text without its trailing blank characters. -/
def trimEnd (s : String) : String := String.ofList (dropEnd isBlank s.toList)

/-- A text without the blank characters at its two ends. -/
def trim (s : String) : String :=
  String.ofList (dropEnd isBlank (dropStart isBlank s.toList))

/-- Whether a text holds blank characters only. -/
def isAllBlank (s : String) : Bool := s.toList.all isBlank

/-- A text without the trailing characters equal to `c`. -/
def trimEndOf (c : Char) (s : String) : String := String.ofList (dropEnd (· == c) s.toList)

end Workgraph.Text
