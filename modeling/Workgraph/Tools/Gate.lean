import Workgraph.Json
import Workgraph.Text.Ascii
import Workgraph.Text.Blank

/-!
# Gates

A value wired into the `enable` port of a tool provider turns it on or off. `isEnabled` says which:
null and zero are off, a few words of a text are off, everything else is on.
-/

namespace Workgraph.Tools

/-- The texts that turn a provider on. -/
def onWords : List String := ["true", "1", "yes", "on"]

/-- The texts that turn a provider off. -/
def offWords : List String := ["false", "0", "no", "off", ""]

/-- Whether a text turns a provider on. Blanks around it do not count, nor the case of letters. -/
def isEnabledText (s : String) : Bool :=
  let word := Text.lowerAscii (Text.trim s)
  if word ∈ onWords then true
  else if word ∈ offWords then false
  else !s.isEmpty

/-- Whether a value turns a provider on. -/
def isEnabled : Json → Bool
  | .null => false
  | .bool b => b
  | .number (.integer i) => i != 0
  | .number (.real x) => !x.isZero
  | .string s => isEnabledText s
  | .array _ | .object _ => true

end Workgraph.Tools
