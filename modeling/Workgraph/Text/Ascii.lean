/-!
# Letters without regard to case, within ASCII

Labels and gate words are compared without regard to the case of the letters A to Z. Every other
character, accented letters included, stands for itself.
-/

namespace Workgraph.Text

/-- A text with the letters A to Z replaced by a to z. -/
def lowerAscii (s : String) : String := s.map Char.toLower

/-- Whether two texts differ at most in the case of the letters A to Z. -/
def sameIgnoringAsciiCase (s t : String) : Bool := lowerAscii s == lowerAscii t

/-- The rest of a text after a given beginning, or nothing when it begins otherwise. -/
def after? (start s : String) : Option String :=
  let n := start.toList.length
  if s.toList.take n = start.toList then some (String.ofList (s.toList.drop n)) else none

/-- Whether `part` occurs somewhere in a list of characters, and what stands before it. -/
def before? (part : List Char) : List Char → Option (List Char)
  | [] => if part.isEmpty then some [] else none
  | c :: cs =>
    if part.isPrefixOf (c :: cs) then some [] else (before? part cs).map (c :: ·)

end Workgraph.Text
