import Workgraph.Script.Conversion

/-!
# Methods of texts

A method works on the text of any value but undefined and null (`Texts.apply`). Positions count
units; one beyond an end stands for that end, and only `slice` counts negative ones from the back.
-/

namespace Workgraph.Script.Texts

open Machine Conversion

/-- A position argument, brought between zero and the size, with what it stands for when it is
missing. -/
def place (call : Caller) (u : Units) (v : Value) (missing : Nat) : Action Nat :=
  match v with
  | .undefined => return missing
  | v => return clamp u.size (← integer call v)

/-- The greatest size of a text. -/
def maxSize : Float := 4294967295.0

def repeated (u : Units) (n : Nat) : Units := (List.replicate n u).foldl (· ++ ·) #[]

/-- A text a number of times over. -/
def times (call : Caller) (u : Units) (count : Value) : Action Value := do
  let n ← integer call count
  if n < 0.0 || n.isInf || maxSize < n * Float.ofNat u.size then
    raiseError .range ("repeat count must be a positive finite number that doesn't overflow the " ++
      "maximum string length (2^32 - 1)")
  else return .text (if u.isEmpty then #[] else repeated u n.toUInt64.toNat)

/-- The pieces of a text between the places where a separator stands, at most as many as the limit
says. -/
def split (call : Caller) (u : Units) (sep limit : Value) : Action Value := do
  let limit ← match limit with
    | .undefined => pure Width.natural32
    | v => do pure (Numeral.toUnsigned (← number call v))
  let part ← text call sep
  let pieces :=
    if sep matches .undefined then [u]
    else if part.isEmpty then u.toList.map fun v => #[v]
    else if u.isEmpty then [u]
    else Units.splitBy u part
  makeList ((pieces.take limit).map Value.text).toArray

/-- A method on a text. -/
def run (call : Caller) (m : TextMethod) (u : Units) (args : List Value) : Action Value := do
  let first := args.getD 0 .undefined
  let second := args.getD 1 .undefined
  match m with
  | .upper => return .text (Units.upper u)
  | .trim => return .text (Units.trim u)
  | .slice =>
    let start ← position call u.size first 0
    let stop ← position call u.size second u.size
    return .text (u.extract start stop)
  | .split => split call u first second
  | .indexOf =>
    let part ← text call first
    let start ← place call u second 0
    return ((Units.indexOf? u part start).map Value.ofNat).getD (.number (-1.0))
  | .includes =>
    let part ← text call first
    let start ← place call u second 0
    return .bool (Units.indexOf? u part start).isSome
  | .startsWith =>
    let part ← text call first
    let start ← place call u second 0
    return .bool (Units.hasAt u part start)
  | .endsWith =>
    let part ← text call first
    let stop ← place call u second u.size
    return .bool (part.size ≤ stop && Units.hasAt u part (stop - part.size))
  | .times => times call u first

/-- A method on a receiver. -/
def apply (call : Caller) (m : TextMethod) (receiver : Value) (args : List Value) :
    Action Value := do
  if receiver.isAbsent then throwAbsent else run call m (← text call receiver) args

end Workgraph.Script.Texts
